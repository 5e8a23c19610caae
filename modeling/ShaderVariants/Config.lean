import ShaderVariants.Validation
import ShaderVariants.Path
import ShaderVariants.Text.Case
/-!
# Build configurations

A build configuration gives the base flags and values, the shaders to build, the permutations
to build them in (each a name with flags and values laid over the base ones), where outputs go,
which compiler to use, how many jobs to run and where to cache programs. Relative paths are read
from the configuration's root, the directory of its file.

A configuration with no permutations is built in one implicit permutation, `default`. A shader
may restrict itself to some permutations, named in its entry; it is then built in those, in the
configuration's order.
-/

namespace ShaderVariants

/-- A shader to build: its name, its path (without `.vert`/`.frag`), and the permutations it is
restricted to (none: all of them). -/
structure ShaderEntry where
  name : Bytes := []
  path : Bytes := []
  permutations : List Bytes := []
  deriving DecidableEq, Repr

/-- A named set of flags and values laid over the base ones. -/
structure Permutation where
  name : Bytes := []
  flags : Flags := []
  values : Values := []
  deriving DecidableEq, Repr

/-- A build configuration. -/
structure Config where
  flags : Flags := []
  values : Values := []
  shaders : List ShaderEntry := []
  permutations : List Permutation := []
  outputDir : Bytes := []
  compiler : Bytes := []
  jobs : Int := 0
  cacheDir : Bytes := []
  root : Bytes := []
  deriving DecidableEq, Repr

/-- The name of the permutation built when a configuration declares none. -/
def defaultPermutationName : Bytes := Bytes.ofString "default"

/-- The compilers a configuration can name: none given, `none`, or `naga`. -/
def knownCompilers : List Bytes := [[], Bytes.ofString "none", Bytes.ofString "naga"]

namespace Permutation

/-- The base flags and values with the permutation's laid over them. -/
def merge (p : Permutation) (flags : Flags) (values : Values) : Flags × Table Bytes :=
  (flags.setAll p.flags, values.setAll p.values)

/-- The rules of a permutation: a name, flag names and value names. -/
def validate (p : Permutation) : Check :=
  Check.all [Check.notEmpty p.name (Bytes.ofString "permutation name"),
    Check.keys p.flags Check.flagName (Bytes.ofString "flag"),
    Check.keys p.values Check.identifier (Bytes.ofString "value")]

end Permutation

/-- The rules of a shader entry: a path, a name, and no permutation named twice. -/
def ShaderEntry.validate (s : ShaderEntry) : Check :=
  Check.all [Check.notEmpty s.path (Bytes.ofString "shader path"),
    Check.notEmpty s.name (Bytes.ofString "shader name"),
    Check.noDuplicates s.permutations (Bytes.ofString "shader permutations")]

namespace Config

/-- The declared permutations, or the single empty `default` one when none is declared. -/
def allPermutations (c : Config) : List Permutation :=
  if c.permutations.isEmpty then [{ name := defaultPermutationName }] else c.permutations

/-- The permutation of a name, among all permutations. -/
def permutation? (c : Config) (name : Bytes) : Option Permutation :=
  c.allPermutations.find? (·.name == name)

/-- The permutations a shader is built in, in declaration order. -/
def permutationsFor (c : Config) (s : ShaderEntry) : List Permutation :=
  if s.permutations.isEmpty then c.allPermutations
  else c.allPermutations.filter fun p => s.permutations.contains p.name

/-- A path read from the root: empty and absolute paths, and any path when there is no root,
stay as they are. -/
def resolve (c : Config) (path : Bytes) : Bytes :=
  if path.isEmpty || Path.isAbs path || c.root.isEmpty then path else Path.join c.root path

/-- The first permutation name of a shader entry that the configuration does not have. -/
def unknownPermutation? (c : Config) : Option (Bytes × Bytes) :=
  c.shaders.findSome? fun s =>
    (s.permutations.find? fun n => (c.permutation? n).isNone).map fun n => (s.name, n)

/-- The rules of a configuration, checked in this order: flag names, value names, each shader
entry, each permutation, jobs, compiler, unique shader names, unique permutation names, and
known permutations in every shader entry. -/
def validate (c : Config) : Check :=
  Check.all [Check.keys c.flags Check.flagName (Bytes.ofString "flag"),
    Check.keys c.values Check.identifier (Bytes.ofString "value"),
    Check.each c.shaders ShaderEntry.validate (Bytes.ofString "shaders"),
    Check.each c.permutations Permutation.validate (Bytes.ofString "permutations"),
    Check.notNegative c.jobs (Bytes.ofString "jobs"),
    Check.matchesAllowed c.compiler knownCompilers (Bytes.ofString "compiler"),
    Check.noDuplicates (c.shaders.map (·.name)) (Bytes.ofString "shader names"),
    Check.noDuplicates (c.permutations.map (·.name)) (Bytes.ofString "permutation names"),
    match c.unknownPermutation? with
    | some (s, p) => .error (.unknownPermutation s p)
    | none => .ok ()]

end Config

/-- `1 << n` on 64-bit signed integers: `2^n` while the bit stays below the sign bit, the least
integer when it reaches the sign bit, and zero once it is shifted out. -/
def shiftOne64 (n : Nat) : Int :=
  if n < 63 then Nat.pow 2 n else if n = 63 then -(Nat.pow 2 63 : Int) else 0

theorem shiftOne64_of_lt {n : Nat} (h : n < 63) : shiftOne64 n = Nat.pow 2 n := by
  simp [shiftOne64, h]

theorem shiftOne64_of_le {n : Nat} (h : 64 ≤ n) : shiftOne64 n = 0 := by
  simp only [shiftOne64]
  rw [if_neg (by omega), if_neg (by omega)]

/-- A shifted one never counts more than the power of two. -/
theorem toNat_shiftOne64_le (n : Nat) : (shiftOne64 n).toNat ≤ Nat.pow 2 n := by
  unfold shiftOne64
  split
  · simp
  · split <;> simp

/-- The assignments of the named flags that the loop lists: assignment `i` turns on the name at
position `j` exactly when bit `j` of `i` is set, so the first has all flags off and the last all
on. A name given twice takes the bit of its later position.

The loop runs while the mask is below `1 << n` for `n` names, a 64-bit shift (`shiftOne64`): it
lists `2^n` assignments up to 62 names, and none at 63 names, where the bound is negative, nor
from 64 names on, where the bit is shifted out. Room for the list is made before the loop runs,
and that can stop the run (`makeCombinations`). -/
def combinations (names : List Bytes) : List Flags :=
  (List.range (shiftOne64 names.length).toNat).map fun mask =>
    let bits := names.zipIdx.map fun (n, j) => (n, mask / Nat.pow 2 j % 2 == 1)
    -- the later position of a repeated name wins, and each name is listed once, in first order
    (names.eraseDups).map fun n => (n, ((bits.reverse.find? (·.1 == n)).map (·.2)).getD false)

/-- The largest room the run time makes for one list, in bytes. -/
def maxAlloc : Nat := Nat.pow 2 48

/-- What the run stops with when room for a list is asked for out of range. -/
def capOutOfRange : Bytes := Bytes.ofString "runtime error: makeslice: cap out of range"

/-- Making room for `count` items of `size` bytes each: the run stops when the count is negative
or the room is more than the largest allocation. -/
def reserve (size : Nat) (count : Int) : Except Bytes Unit :=
  if 0 ≤ count ∧ size * count.toNat ≤ maxAlloc then .ok () else .error capOutOfRange

theorem reserve_ok {size : Nat} {count : Int} (h : 0 ≤ count ∧ size * count.toNat ≤ maxAlloc) :
    reserve size count = .ok () := if_pos h

theorem reserve_error {size : Nat} {count : Int}
    (h : ¬(0 ≤ count ∧ size * count.toNat ≤ maxAlloc)) :
    reserve size count = .error capOutOfRange := if_neg h

/-- Every assignment of the named flags, as a call returns them: room for `1 << n` assignments,
8 bytes each, is made first, then the loop lists them (`combinations`). The room is out of range
from 46 names to 63 (at 63 the count is negative), and the run stops there; from 64 names on the
count is zero and the list is empty. -/
def makeCombinations (names : List Bytes) : Except Bytes (List Flags) := do
  reserve 8 (shiftOne64 names.length)
  return combinations names

/-- The name of a permutation after the flags it turns on: sorted, joined by `_`, lower-cased;
`none` when it turns on none. -/
def permutationName (enabled : List Bytes) : Bytes :=
  if enabled.isEmpty then Bytes.ofString "none"
  else Bytes.toLower (Bytes.intercalate [95] (enabled.mergeSort fun a b => !Bytes.lt b a))

end ShaderVariants
