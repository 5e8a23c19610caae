import ShaderVariants.Text.Bytes
/-!
# Slash-separated paths

Paths are byte texts whose elements are separated by `/`; a path that starts with `/` is
absolute. `Path.clean` gives the shortest path that names the same file by purely textual
rules: empty and `.` elements go, each `..` takes away the element before it (or stays, at the
start of a relative path; or vanishes, at the root of an absolute one), and an empty result is
`.`. `Path.join`, `Path.dir`, `Path.base` and `Path.ext` are built on it.
-/

namespace ShaderVariants

namespace Path

/-- The byte `/`. -/
def sep : UInt8 := 47

/-- The byte `.`. -/
def dot : UInt8 := 46

/-- Whether the path is absolute. -/
def isAbs (p : Bytes) : Bool := p.head? == some sep

/-- Applies the elements of a path to a stack of kept elements (innermost first). -/
def fold (rooted : Bool) : List Bytes → List Bytes → List Bytes
  | acc, [] => acc
  | acc, e :: es =>
    if e.isEmpty || e == [dot] then fold rooted acc es
    else if e == [dot, dot] then
      match acc with
      | top :: rest => if top == [dot, dot] then fold rooted (e :: acc) es else fold rooted rest es
      | [] => if rooted then fold rooted [] es else fold rooted [e] es
    else fold rooted (e :: acc) es

/-- The shortest path naming the same file by textual rules. -/
def clean (p : Bytes) : Bytes :=
  if p.isEmpty then [dot]
  else
    let rooted := isAbs p
    let kept := (fold rooted [] (Bytes.splitOn sep p)).reverse
    let body := Bytes.intercalate [sep] kept
    if rooted then sep :: body
    else if body.isEmpty then [dot] else body

/-- Two paths joined by `/` and cleaned; an empty side is left out, and two empty sides give an
empty path. -/
def join (a b : Bytes) : Bytes :=
  if a.isEmpty then (if b.isEmpty then [] else clean b)
  else if b.isEmpty then clean a
  else clean (a ++ sep :: b)

/-- Everything up to the last `/`, cleaned: the directory that holds the path's last element. -/
def dir (p : Bytes) : Bytes :=
  clean (p.reverse.dropWhile (· != sep)).reverse

/-- The last element of a path, trailing slashes ignored; `.` for the empty path and `/` for a
path of slashes only. -/
def base (p : Bytes) : Bytes :=
  if p.isEmpty then [dot]
  else
    let trimmed := (p.reverse.dropWhile (· == sep)).reverse
    if trimmed.isEmpty then [sep]
    else (trimmed.reverse.takeWhile (· != sep)).reverse

/-- The extension of the last element: from its last `.` on, or empty if it has none. -/
def ext (p : Bytes) : Bytes :=
  let last := p.reverse.takeWhile (· != sep)
  match last.findIdx? (· == dot) with
  | some i => (last.take (i + 1)).reverse
  | none => []

/-- The file that `path`, written in the file `base`, names: an absolute path as it is (cleaned),
a relative one read from the directory of `base`. -/
def resolve (path base : Bytes) : Bytes :=
  if isAbs path then clean path else join (dir base) path

end Path

end ShaderVariants
