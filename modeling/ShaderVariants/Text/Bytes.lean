/-!
# Byte texts

Shader sources, file names, flag names and values are byte strings: nothing forces them to be
well-formed UTF-8, and every operation of the library has to keep stray bytes as they are. A
`Bytes` is a plain list of octets, so that cutting, joining and searching are list operations
with the list library's lemmas behind them.

The operations here are the handful every later module needs: the byte spelling of a literal,
splitting at a separator byte, replacing CR LF line ends, and searching for a factor.
-/

namespace ShaderVariants

/-- A byte string: the text of a source, a path, a name or a value. -/
abbrev Bytes := List UInt8

namespace Bytes

/-- The UTF-8 spelling of a literal. -/
def ofString (s : String) : Bytes := s.toUTF8.toList

/-- The byte of the line feed, which ends every line. -/
def lf : UInt8 := 10

/-- The byte of the carriage return. -/
def cr : UInt8 := 13

/-- The pieces between the occurrences of `sep`, in order. There is always at least one piece:
a text without `sep` is its own only piece, and `sep` at either end gives an empty piece there. -/
def splitOn (sep : UInt8) : Bytes → List Bytes
  | [] => [[]]
  | b :: r =>
    if b = sep then [] :: splitOn sep r
    else match splitOn sep r with
      | [] => [[b]]
      | p :: ps => (b :: p) :: ps

/-- Every CR LF pair becomes a single LF; a CR that no LF follows stays. -/
def normalizeLineEnds : Bytes → Bytes
  | [] => []
  | 13 :: 10 :: r => 10 :: normalizeLineEnds r
  | b :: r => b :: normalizeLineEnds r

/-- The text without one final LF, if it ends in one. -/
def dropFinalLf (s : Bytes) : Bytes :=
  if s.getLast? = some lf then s.dropLast else s

/-- Whether `p` occurs in `s` as a contiguous factor. -/
def contains (s p : Bytes) : Bool :=
  match s with
  | [] => p.isEmpty
  | b :: r => p.isPrefixOf (b :: r) || contains r p

/-- The position of the first occurrence of `p` in `s`, if there is one. -/
def indexOf? (s p : Bytes) : Option Nat :=
  match s with
  | [] => if p.isEmpty then some 0 else none
  | b :: r =>
    if p.isPrefixOf (b :: r) then some 0 else (indexOf? r p).map (· + 1)

/-- The text after the prefix `p`, if `s` starts with `p`. -/
def dropPrefix? (p s : Bytes) : Option Bytes :=
  if p.isPrefixOf s then some (s.drop p.length) else none

/-- The pieces joined with `sep` between each two. -/
def intercalate (sep : Bytes) : List Bytes → Bytes
  | [] => []
  | [p] => p
  | p :: ps => p ++ sep ++ intercalate sep ps

/-- The decimal spelling of a natural number, most significant digit first. -/
def ofNat (n : Nat) : Bytes := (Nat.toDigits 10 n).map fun c => c.toNat.toUInt8

/-- The decimal spelling of an integer, with a leading minus sign when it is negative. -/
def ofInt (n : Int) : Bytes :=
  match n with
  | .ofNat k => ofNat k
  | .negSucc k => 45 :: ofNat (k + 1)

/-- Byte-wise order, the order in which sorted name lists are written. -/
def lt : Bytes → Bytes → Bool
  | [], [] => false
  | [], _ :: _ => true
  | _ :: _, [] => false
  | a :: r, b :: s => a < b || (a == b && lt r s)

/-- Sorted in byte order, each text once. -/
def sortDedup (xs : List Bytes) : List Bytes :=
  (xs.mergeSort fun a b => !lt b a).eraseDups

@[simp] theorem splitOn_nil (sep : UInt8) : splitOn sep [] = [[]] := rfl

@[simp] theorem normalizeLineEnds_nil : normalizeLineEnds [] = [] := rfl

end Bytes

end ShaderVariants
