import ShaderVariants.Token
import ShaderVariants.Table
import ShaderVariants.Text.Quoted
/-!
# Validation of names and settings

The rules a build configuration's names and settings must follow, each a check that passes or
names the first violation. Flag names are what can stand after `#if` as a flag: one word, not a
negation, not a directive, with no value reference in it. Value names are what can stand inside
`#{...}`: ASCII letters, digits and underscores, at least one.
-/

namespace ShaderVariants

/-- Why a name cannot be a flag name. -/
inductive NameFlaw where
  | blank
  | negation
  | directive
  | valueReference
  deriving DecidableEq, Repr

/-- The explanation of a flaw, as the message gives it. -/
def NameFlaw.reason : NameFlaw → Bytes
  | blank => Bytes.ofString "it contains whitespace"
  | negation => Bytes.ofString "it reads as a negation"
  | directive => Bytes.ofString "it is a directive"
  | valueReference => Bytes.ofString "it contains a value reference"

/-- A violated rule. `what` describes the checked setting. -/
inductive Violation where
  | empty (what : Bytes)
  | duplicate (what : Bytes) (item : Bytes)
  | notAllowed (what : Bytes) (allowed : List Bytes) (got : Bytes)
  | negative (what : Bytes) (n : Int)
  | notIdentifier (what : Bytes) (name : Bytes)
  | unnamedFlag (what : Bytes)
  | badFlagName (what : Bytes) (name : Bytes) (flaw : NameFlaw)
  /-- A violation inside item `index` of a list. -/
  | inItem (what : Bytes) (index : Nat) (inner : Violation)
  | unknownPermutation (shader : Bytes) (permutation : Bytes)
  deriving DecidableEq, Repr

namespace Violation

private def lit (s : String) : Bytes := Bytes.ofString s

/-- The message of a violation. -/
def message : Violation → Bytes
  | empty w => w ++ lit " must not be empty"
  | duplicate w x => w ++ lit " contains duplicate value: " ++ x
  | notAllowed w xs x =>
    w ++ lit " must be one of [" ++ Bytes.intercalate [32] xs ++ lit "], got " ++ x
  | negative w n => w ++ lit " must not be negative, got " ++ Bytes.ofInt n
  | notIdentifier w n =>
    w ++ lit " " ++ n.quote ++ lit " is not a valid name (letters, digits and underscores only)"
  | unnamedFlag w => w ++ lit " name must not be empty"
  | badFlagName w n f => w ++ lit " " ++ n.quote ++ lit " is not a valid name (" ++ f.reason ++ lit ")"
  | inItem w i v => w ++ lit "[" ++ Bytes.ofNat i ++ lit "]: " ++ v.message
  | unknownPermutation s p =>
    lit "shader " ++ s.quote ++ lit " uses unknown permutation " ++ p.quote

end Violation

/-- A check: passes, or names the violation. -/
abbrev Check := Except Violation Unit

namespace Check

/-- The first failing check of a list. -/
def all : List Check → Check
  | [] => .ok ()
  | c :: cs => match c with
    | .error v => .error v
    | .ok () => all cs

/-- A text setting must not be empty. -/
def notEmpty (field what : Bytes) : Check :=
  if field.isEmpty then .error (.empty what) else .ok ()

/-- The first item of a list that an earlier item equals, if any. -/
def firstRepeat : List Bytes → List Bytes → Option Bytes
  | _, [] => none
  | seen, x :: xs => if seen.contains x then some x else firstRepeat (x :: seen) xs

/-- No item of a list may repeat an earlier one. -/
def noDuplicates (xs : List Bytes) (what : Bytes) : Check :=
  match firstRepeat [] xs with
  | some x => .error (.duplicate what x)
  | none => .ok ()

/-- A setting must be one of the allowed texts. -/
def matchesAllowed (field : Bytes) (allowed : List Bytes) (what : Bytes) : Check :=
  if allowed.contains field then .ok () else .error (.notAllowed what allowed field)

/-- A number must not be negative. -/
def notNegative (n : Int) (what : Bytes) : Check :=
  if n < 0 then .error (.negative what n) else .ok ()

/-- Whether a name is a value name: one or more ASCII letters, digits and underscores. -/
def isIdentifier (name : Bytes) : Bool := !name.isEmpty && name.all Token.isNameByte

/-- A value name. -/
def identifier (name what : Bytes) : Check :=
  if isIdentifier name then .ok () else .error (.notIdentifier what name)

/-- Whether a value reference `#{name}` occurs anywhere in a text. -/
def hasReference : Bytes → Bool
  | [] => false
  | b :: r => (Token.referenceAt? (b :: r)).isSome || hasReference r

/-- The directive keywords. -/
def directives : List Bytes :=
  ["#if", "#elseif", "#else", "#endif", "#include"].map Bytes.ofString

/-- What makes a name unfit as a flag name, the first rule broken in this order: a blank, a
negation (`not`, or a leading `!`), a directive, a value reference. -/
def flagNameFlaw? (name : Bytes) : Option NameFlaw :=
  if (Glyph.decode name).any Glyph.blank then some .blank
  else if name == Bytes.ofString "not" || name.head? == some 33 then some .negation
  else if directives.contains name then some .directive
  else if hasReference name then some .valueReference
  else none

/-- A flag name: not empty, and without a flaw. -/
def flagName (name what : Bytes) : Check :=
  if name.isEmpty then .error (.unnamedFlag what)
  else match flagNameFlaw? name with
    | some f => .error (.badFlagName what name f)
    | none => .ok ()

/-- Every name of a table passes `check`, the names taken in byte order. -/
def keys {α : Type} (t : Table α) (check : Bytes → Bytes → Check) (what : Bytes) : Check :=
  all (t.names.map fun k => check k what)

/-- Every item passes `check`; the first failure is reported with its index. -/
def each {α : Type} (items : List α) (check : α → Check) (what : Bytes) : Check :=
  all ((items.zipIdx).map fun (x, i) =>
    match check x with
    | .error v => .error (.inItem what i v)
    | .ok () => .ok ())

end Check

end ShaderVariants
