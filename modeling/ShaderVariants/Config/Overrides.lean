import ShaderVariants.Config
/-!
# Command-line overrides

Flags and values can be set on the command line: a flag as `NAME`, `NAME=true` or `NAME=false`
(any of the boolean spellings `1 t T TRUE true True` and `0 f F FALSE false False`), a value as
`NAME=TEXT`. The name is everything before the first `=`, so a flag name set this way cannot
contain one. Later settings of a name win, and all settings are laid over the configuration's.
-/

namespace ShaderVariants

/-- Why a command-line setting was refused. -/
inductive ArgumentFault where
  | invalid (v : Violation)
  | notBoolean (name : Bytes) (text : Bytes)
  | noAssignment (arg : Bytes)
  deriving DecidableEq, Repr

/-- The message of a refused setting. -/
def ArgumentFault.message : ArgumentFault → Bytes
  | invalid v => v.message
  | notBoolean n t => Bytes.ofString "flag " ++ n ++ Bytes.ofString ": " ++ t.quote ++
      Bytes.ofString " is not a boolean"
  | noAssignment a => Bytes.ofString "value " ++ a.quote ++ Bytes.ofString ": expected NAME=TEXT"

namespace Overrides

/-- The text before the first `=`, and the text after it if there is one. -/
def cut (arg : Bytes) : Bytes × Option Bytes :=
  match arg.idxOf? 61 with
  | some i => (arg.take i, some (arg.drop (i + 1)))
  | none => (arg, none)

/-- The truth value a boolean spelling stands for. -/
def truth? (s : Bytes) : Option Bool :=
  if ["1", "t", "T", "TRUE", "true", "True"].any (Bytes.ofString · == s) then some true
  else if ["0", "f", "F", "FALSE", "false", "False"].any (Bytes.ofString · == s) then some false
  else none

/-- A flag setting: `NAME` turns the flag on, `NAME=B` sets it to the boolean `B`. -/
def parseFlag (arg : Bytes) : Except ArgumentFault (Bytes × Bool) :=
  let (name, raw) := cut arg
  match Check.flagName name (Bytes.ofString "flag") with
  | .error v => .error (.invalid v)
  | .ok () =>
    match raw with
    | none => .ok (name, true)
    | some t =>
      match truth? t with
      | some b => .ok (name, b)
      | none => .error (.notBoolean name t)

/-- A value setting `NAME=TEXT`; the text may be empty. -/
def parseValue (arg : Bytes) : Except ArgumentFault (Bytes × Bytes) :=
  match cut arg with
  | (_, none) => .error (.noAssignment arg)
  | (name, some t) =>
    match Check.identifier name (Bytes.ofString "value") with
    | .error v => .error (.invalid v)
    | .ok () => .ok (name, t)

/-- All settings of a list, or the first refused one. -/
def parseAll {α : Type} (parse : Bytes → Except ArgumentFault (Bytes × α)) :
    List Bytes → Except ArgumentFault (Table α)
  | [] => .ok []
  | a :: as =>
    match parse a with
    | .error e => .error e
    | .ok (n, v) =>
      match parseAll parse as with
      | .error e => .error e
      | .ok t => .ok ((n, v) :: t)

end Overrides

/-- The flags and values with the command-line settings laid over them, flag settings checked
first. -/
def applyOverrides (flags : Flags) (values : Values) (flagArgs valueArgs : List Bytes) :
    Except ArgumentFault (Flags × Values) :=
  match Overrides.parseAll Overrides.parseFlag flagArgs with
  | .error e => .error e
  | .ok fs =>
    match Overrides.parseAll Overrides.parseValue valueArgs with
    | .error e => .error e
    | .ok vs => .ok (Permutation.merge ⟨[], fs, vs⟩ flags values)

end ShaderVariants
