import ShaderVariants.Path
import ShaderVariants.Table
/-!
# Sources and loaders

A loader reads the text of a source file by path, or says why it cannot. Three loaders model
the three places sources come from:

* a memory table (`Loader.ofTable`), keyed by cleaned paths;
* a file tree (`Loader.ofTree`), where a path is cleaned, loses a leading `/`, and names a file
  or a directory of the tree;
* a disk directory (`Loader.ofDisk`), where a path is walked element by element from the
  working directory, as an operating system does.

The reasons a read fails are data (`LoadFailure`), and each has the wording its source gives it.
-/

namespace ShaderVariants

/-- Why a file-system request failed. -/
inductive Refusal where
  /-- No file of the name exists (file tree wording). -/
  | notExist
  /-- No file of the name exists (disk wording). -/
  | noEntry
  /-- The name is a directory where a file was wanted. -/
  | isDirectory
  /-- A file stands where a directory was wanted. -/
  | notDirectory
  /-- The request cannot be made of this object. -/
  | invalid
  deriving DecidableEq, Repr

/-- The file-system request that failed. -/
inductive Access where
  | opening
  | reading
  deriving DecidableEq, Repr

/-- Why a loader could not read a source. -/
inductive LoadFailure where
  /-- The memory table has no entry for the path. -/
  | missing (path : Bytes)
  /-- A file-system request on `path` was refused. -/
  | refused (access : Access) (path : Bytes) (why : Refusal)
  deriving DecidableEq, Repr

namespace Refusal

/-- The wording of a refusal. -/
def message : Refusal → Bytes
  | notExist => Bytes.ofString "file does not exist"
  | noEntry => Bytes.ofString "no such file or directory"
  | isDirectory => Bytes.ofString "is a directory"
  | notDirectory => Bytes.ofString "not a directory"
  | invalid => Bytes.ofString "invalid argument"

end Refusal

namespace LoadFailure

/-- The wording of a load failure. -/
def message : LoadFailure → Bytes
  | missing p => Bytes.ofString "file not found: " ++ p
  | refused a p why =>
    let verb := match a with
      | .opening => Bytes.ofString "open "
      | .reading => Bytes.ofString "read "
    verb ++ p ++ Bytes.ofString ": " ++ why.message

end LoadFailure

/-- Reads the text of a source by path. -/
abbrev Loader := Bytes → Except LoadFailure Bytes

namespace Loader

/-- The memory loader: the entry of the cleaned path, the path as given named in a miss. -/
def ofTable (files : Table Bytes) : Loader := fun path =>
  match files.get? (Path.clean path) with
  | some s => .ok s
  | none => .error (.missing path)

/-- Whether `name` is a valid name inside a file tree: elements separated by single slashes,
none of them empty, `.` or `..`, or the name `.` alone. -/
def validTreeName (name : Bytes) : Bool :=
  name == [Path.dot] ||
    (Bytes.splitOn Path.sep name).all fun e => !e.isEmpty && e != [Path.dot] && e != [Path.dot, Path.dot]

/-- The file-tree loader. A name that is a file of the tree reads as its content; a name that
only prefixes files of the tree is a directory, which cannot be read; any other name, or a name
that is not valid in a tree, does not exist. -/
def ofTree (files : Table Bytes) : Loader := fun path =>
  let c := Path.clean path
  let name := if c.head? == some Path.sep then c.tail else c
  if !validTreeName name then .error (.refused .opening name .notExist)
  else match files.get? name with
    | some s => .ok s
    | none =>
      if name == [Path.dot] || files.any (fun e => (name ++ [Path.sep]).isPrefixOf e.1) then
        .error (.refused .reading name .invalid)
      else .error (.refused .opening name .notExist)

/-- What a disk path names: a file with its content, a directory, or nothing. -/
inductive Entry where
  | file (content : Bytes)
  | directory
  | absent

/-- What the directory path `dir` (a list of elements, relative to the working directory) holds
under the element `e`, in a disk whose files are `files` (paths relative to the working
directory). -/
def Entry.lookup (files : Table Bytes) (dir : List Bytes) (e : Bytes) : Entry :=
  let full := Bytes.intercalate [Path.sep] (dir ++ [e])
  match files.get? full with
  | some s => .file s
  | none =>
    if files.any (fun f => (full ++ [Path.sep]).isPrefixOf f.1) then .directory else .absent

/-- Walks the elements of a relative disk path from the directory `dir`; `outside` counts how
far the walk went above the working directory, where only directories are known to exist. A
walk that ends on a directory cannot read it. -/
def walk (files : Table Bytes) (path : Bytes) :
    List Bytes → Nat → List Bytes → Except LoadFailure Bytes
  | _, _, [] => .error (.refused .reading path .isDirectory)
  | dir, outside, e :: es =>
    if e.isEmpty || e == [Path.dot] then walk files path dir outside es
    else if e == [Path.dot, Path.dot] then
      match dir with
      | _ :: _ => walk files path dir.dropLast outside es
      | [] => walk files path [] (outside + 1) es
    else if outside > 0 then .error (.refused .opening path .noEntry)
    else match Entry.lookup files dir e with
      | .file s =>
        if es.isEmpty then .ok s else .error (.refused .opening path .notDirectory)
      | .directory => walk files path (dir ++ [e]) outside es
      | .absent => .error (.refused .opening path .noEntry)

/-- The disk loader over a working directory that holds `files` (relative paths). Absolute
paths lie outside it and name nothing. -/
def ofDisk (files : Table Bytes) : Loader := fun path =>
  if path.isEmpty then .error (.refused .opening path .noEntry)
  else if Path.isAbs path then .error (.refused .opening path .noEntry)
  else walk files path [] 0 (Bytes.splitOn Path.sep path)

end Loader

end ShaderVariants
