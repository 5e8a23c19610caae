import ShaderVariants.Starlark.Operator
import ShaderVariants.Starlark.Scope
/-!
# Arguments of built-in functions

A call passes positional arguments, then named ones. A built-in function declares its
parameters in order, each required or optional, and receives one slot per parameter. Binding
follows one rule for all built-ins (`Args.bind`): positional arguments fill the first slots,
each named argument the slot of its name; too many positional arguments, an unknown name, a
slot filled twice and a required slot left empty are errors, each message beginning with the
function's name. Some built-ins take positional arguments only (`Args.positional`).

Each slot may also require a kind of value (`Want`); a value of another type is refused with
`got TYPE, want KIND`, naming the parameter by position or, for a named argument, by its
quoted name.
-/

namespace ShaderVariants.Starlark

/-- The arguments of a call. -/
structure Args where
  positional : List Value := []
  named : List (Bytes × Value) := []
  deriving Inhabited

/-- The kind of value a parameter requires. -/
inductive Want where
  | any
  | text
  | int
  | bool
  | list
  | dict
  | iterable
  | callable
  deriving DecidableEq, Repr

/-- Check a value against the kind a parameter requires; the message of a mismatch. -/
def Want.check (m : Machine) (w : Want) (v : Value) : Except Bytes Unit :=
  let got (kind : String) : Except Bytes Unit :=
    .error (Bytes.ofString ("got " ++ v.typeName ++ ", want " ++ kind))
  match w, v with
  | .any, _ => .ok ()
  | .text, .str _ => .ok ()
  | .text, _ => got "string"
  | .int, _ => (RunM.asInt32 v).map fun _ => ()
  | .bool, .bool _ => .ok ()
  | .bool, _ => got "bool"
  | .list, .list _ => .ok ()
  | .list, _ => got "list"
  | .dict, .dict _ => .ok ()
  | .dict, _ => got "dict"
  | .iterable, _ => if (v.items? m).isSome then .ok () else got "iterable"
  | .callable, .function _ | .callable, .builtin _ | .callable, .method .. => .ok ()
  | .callable, _ => got "callable"

/-- A parameter of a built-in function: its name, whether it may be left out, and the kind of
value it requires. -/
structure Slot where
  name : String
  optional : Bool := false
  want : Want := .any

namespace Args

/-- Bind arguments to parameters by position and by name. -/
def bind (m : Machine) (fname : String) (slots : List Slot) (a : Args) :
    Except Bytes (Array (Option Value)) := do
  let n := slots.length
  let pre := fname ++ ": "
  if a.positional.length > n then
    throw (Bytes.ofString (pre ++ "got " ++ toString a.positional.length ++
      " arguments, want at most " ++ toString n))
  let mut filled : Array (Option Value) := Array.replicate n none
  for (v, i) in a.positional.zipIdx do
    match slots[i]? with
    | some s =>
      match s.want.check m v with
      | .ok () => filled := filled.set! i (some v)
      | .error e => throw (Bytes.ofString (pre ++ "for parameter " ++ s.name ++ ": ") ++ e)
    | none => pure ()
  for (k, v) in a.named do
    match slots.findIdx? (fun s => Bytes.ofString s.name == k) with
    | some i =>
      if (filled[i]?.getD none).isSome then
        throw (Bytes.ofString (pre ++ "got multiple values for keyword argument ") ++
          Bytes.quote k)
      let want : Want := (slots[i]?.map Slot.want).getD Want.any
      match want.check m v with
      | .ok () => filled := filled.set! i (some v)
      | .error e =>
        throw (Bytes.ofString (pre ++ "for parameter ") ++ Bytes.quote k ++
          Bytes.ofString ": " ++ e)
    | none =>
      let names := ((List.range n).filter (· % 2 == 0)).filterMap fun i =>
        slots[i / 2]?.map fun s => Bytes.ofString s.name
      let hint := match nearestName k names with
        | some h => Bytes.ofString " (did you mean " ++ h ++ Bytes.ofString "?)"
        | none => []
      throw (Bytes.ofString (pre ++ "unexpected keyword argument ") ++ Bytes.quote k ++ hint)
  for (s, i) in slots.zipIdx do
    if s.optional then break
    if i < a.positional.length then continue
    if (filled[i]?.getD none).isNone then
      throw (Bytes.ofString (pre ++ "missing argument for " ++ s.name))
  return filled

/-- Bind positional arguments only: at least `min`, at most one per parameter. -/
def positionalOnly (m : Machine) (fname : String) (min : Nat) (wants : List Want) (a : Args) :
    Except Bytes (Array Value) := do
  let pre := fname ++ ": "
  if !a.named.isEmpty then throw (Bytes.ofString (pre ++ "unexpected keyword arguments"))
  let max := wants.length
  let count := a.positional.length
  if count < min then
    throw (Bytes.ofString (pre ++ "got " ++ toString count ++ " arguments, want " ++
      (if min < max then "at least " else "") ++ toString min))
  if count > max then
    throw (Bytes.ofString (pre ++ "got " ++ toString count ++ " arguments, want " ++
      (if max > min then "at most " else "") ++ toString max))
  for (v, i) in a.positional.zipIdx do
    match (wants[i]?.getD .any).check m v with
    | .ok () => pure ()
    | .error e =>
      throw (Bytes.ofString (pre ++ "for parameter " ++ toString (i + 1) ++ ": ") ++ e)
  return a.positional.toArray

end Args

end ShaderVariants.Starlark
