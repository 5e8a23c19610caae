import ShaderVariants.Table
import ShaderVariants.Text.Quoted
import ShaderVariants.Text.Base64
import ShaderVariants.Yaml.Scalar
/-!
# A YAML document as a table of settings

The first document of a YAML text, read as a table with text keys whose values are any
values. A text without documents is the empty table, and so is a document that is null.

Inside, a mapping whose keys all resolve to text is a table with text keys, and any other
mapping a table with keys of any kind. At the top, keys are taken by their text whatever they
resolve to (`1: x` has the key `1`), a null key is dropped, and a collection as key is a
mismatch.

A key may not stand twice in one mapping. Such repeats, and a document that is not a mapping,
are *mismatches*: they are all collected, with their lines, and reported together. A merge key
`<<` adds the pairs of a mapping, or of a sequence of mappings, for keys not yet present.
-/

namespace ShaderVariants.Yaml

/-- Why a YAML text is not a table of settings. -/
inductive Rejection where
  /-- The text is not YAML, or a tag does not fit its scalar. -/
  | malformed (fault : Fault)
  /-- The document does not have the shape of a table: one line per problem. -/
  | mismatched (problems : List Bytes)
  deriving Inhabited, Repr

/-- The text of a rejection. -/
def Rejection.message : Rejection → Bytes
  | .malformed f => f.message
  | .mismatched ps =>
    Bytes.ofString "yaml: unmarshal errors:\n  " ++ Bytes.intercalate (Bytes.ofString "\n  ") ps

/-- A step of decoding: mismatches are collected, faults stop. -/
abbrev DecodeM := StateT (List Bytes) (Except Fault)

namespace DecodeM

/-- Record a mismatch at a line. -/
def note (line : Nat) (problem : Bytes) : DecodeM Unit :=
  modify (· ++ [Bytes.ofString "line " ++ Bytes.ofNat line ++ Bytes.ofString ": " ++ problem])

/-- The name of the table type the top of a document is read into. -/
def topType : Bytes := Bytes.ofString "map[string]interface \x7b\x7d"

/-- A mismatch between a node and a type. -/
def mismatch (n : Node) (target : Bytes) : DecodeM Unit :=
  let tag := n.kindTag
  let shown := match n with
    | .scalar text _ _ _ =>
      if tag == seqTag || tag == mapTag then []
      else if text.length > 10 then Bytes.ofString " `" ++ text.take 7 ++ Bytes.ofString "...`"
      else Bytes.ofString " `" ++ text ++ Bytes.ofString "`"
    | _ => []
  note n.line (Bytes.ofString "cannot unmarshal " ++ tag ++ shown ++ Bytes.ofString " into " ++
    target)

/-- How a key is compared for repeats: its kind and its text. -/
def keyIdentity : Node → Nat × Bytes
  | .scalar text _ _ _ => (0, text)
  | .sequence _ _ _ => (1, [])
  | .mapping _ _ _ => (2, [])

/-- Record every key that repeats an earlier one; whether there was none. -/
def checkRepeats (entries : List (Node × Node)) : DecodeM Bool := do
  let keys := entries.map (·.1)
  let mut clean := true
  for (ki, i) in keys.zipIdx do
    for kj in keys.drop (i + 1) do
      if keyIdentity ki == keyIdentity kj then
        clean := false
        let text := (keyIdentity kj).2
        note kj.line (Bytes.ofString "mapping key " ++ Bytes.quote text ++
          Bytes.ofString " already defined at line " ++ Bytes.ofNat ki.line)
  return clean

/-- Whether a key is the merge key `<<`. -/
def isMergeKey (k : Node) : Bool :=
  match k with
  | .scalar text .plain _ _ => text == Bytes.ofString "<<" && k.kindTag == mergeTag
  | _ => false

/-- The mappings a merge key's value brings in, or the fault of a value that is not a mapping
or a sequence of mappings. -/
def mergeSources (v : Node) : DecodeM (List (List (Node × Node))) :=
  let wrong : Fault := Fault.general
    (Bytes.ofString "map merge requires map or sequence of maps as the value")
  match v with
  | .mapping es _ _ => return [es]
  | .sequence items _ _ =>
    items.mapM fun
      | .mapping es _ _ => pure es
      | _ => throw wrong
  | _ => throw wrong

/-- Pairs after merging: own pairs first, then merged pairs whose keys are new under `same`. -/
def withMerged {κ : Type} (same : κ → κ → Bool) (own merged : List (κ × Value)) :
    List (κ × Value) :=
  merged.foldl (fun acc (k, v) => if acc.any (fun p => same p.1 k) then acc else acc ++ [(k, v)])
    own

/-- Whether two scalar keys are the same key: the same kind and the same value. -/
def sameKey : Value → Value → Bool
  | .null, .null => true
  | .bool a, .bool b => a == b
  | .str a, .str b => a == b
  | .int a, .int b => a == b
  | .int64 a, .int64 b => a == b
  | .uint64 a, .uint64 b => a == b
  | .float a, .float b => a == b
  | _, _ => false

mutual

/-- A node read as a value of any kind. -/
def value : Nat → Node → DecodeM Value
  | 0, _ => throw (Fault.general (Bytes.ofString "document nests too deeply"))
  | _ + 1, n@(.scalar text _ _ _) =>
    if n.isText then return .str text
    else do
      let (tag, v) ← match resolve n.kindTag text with
        | .ok r => pure r
        | .error f => throw f
      -- a date read without an explicit tag is kept as its text
      if tag == timestampTag && n.explicitTag?.isNone then return .str text
      if tag == binaryTag then
        match Base64.decode? text with
        | some b => return .str b
        | none =>
          throw (Fault.general (Bytes.ofString "!!binary value contains invalid base64 data"))
      return v
  | fuel + 1, .sequence items _ _ => return .list (← values fuel items)
  | fuel + 1, .mapping entries _ _ => do
    if !(← checkRepeats entries) then return .null
    if entries.all (fun (k, _) => k.kindTag == strTag || k.kindTag == mergeTag) then
      let own ← textPairs fuel (entries.filter (fun (k, _) => !isMergeKey k))
      let merged ← mergedText fuel entries
      return .table (withMerged (· == ·) own merged)
    else
      let own ← anyPairs fuel (entries.filter (fun (k, _) => !isMergeKey k))
      let merged ← mergedAny fuel entries
      return .mixedTable (withMerged sameKey own merged)

/-- Several nodes read as values. -/
def values : Nat → List Node → DecodeM (List Value)
  | 0, _ => return []
  | _, [] => return []
  | fuel + 1, n :: rest => return (← value fuel n) :: (← values fuel rest)

/-- Pairs of a mapping whose keys are all text. -/
def textPairs : Nat → List (Node × Node) → DecodeM (List (Bytes × Value))
  | 0, _ => return []
  | _, [] => return []
  | fuel + 1, (k, v) :: rest => do
    let text := match k with
      | .scalar t _ _ _ => t
      | _ => []
    let x ← value fuel v
    return (text, x) :: (← textPairs fuel rest)

/-- Pairs of a mapping with keys of any kind. -/
def anyPairs : Nat → List (Node × Node) → DecodeM (List (Value × Value))
  | 0, _ => return []
  | _, [] => return []
  | fuel + 1, (k, v) :: rest => do
    let key ← value fuel k
    match key with
    | .list _ | .table _ | .mixedTable _ =>
      throw (Fault.general (Bytes.ofString "invalid map key: " ++ key.literal))
    | _ => pure ()
    let x ← value fuel v
    return (key, x) :: (← anyPairs fuel rest)

/-- The pairs that the last merge key of a text-keyed mapping brings in. -/
def mergedText : Nat → List (Node × Node) → DecodeM (List (Bytes × Value))
  | 0, _ => return []
  | fuel + 1, entries =>
    match (entries.filter (fun (k, _) => isMergeKey k)).getLast? with
    | none => return []
    | some (_, v) => do
      let sources ← mergeSources v
      let mut acc : List (Bytes × Value) := []
      for es in sources do
        acc := withMerged (· == ·) acc (← textPairs fuel es)
      return acc

/-- The pairs that the last merge key of a mapping with keys of any kind brings in. -/
def mergedAny : Nat → List (Node × Node) → DecodeM (List (Value × Value))
  | 0, _ => return []
  | fuel + 1, entries =>
    match (entries.filter (fun (k, _) => isMergeKey k)).getLast? with
    | none => return []
    | some (_, v) => do
      let sources ← mergeSources v
      let mut acc : List (Value × Value) := []
      for es in sources do
        acc := withMerged sameKey acc (← anyPairs fuel es)
      return acc

end

/-- The pairs of the top mapping: keys by their text, null keys dropped, collections as keys
recorded as mismatches. -/
def topPairs (fuel : Nat) (entries : List (Node × Node)) : DecodeM (List (Bytes × Value)) := do
  let mut acc : List (Bytes × Value) := []
  for (k, v) in entries do
    match k with
    | .scalar text _ _ _ =>
      let isNull ← if k.isText then pure false
        else match resolve k.kindTag text with
          | .ok (_, .null) => pure true
          | .ok _ => pure false
          | .error f => throw f
      if !isNull then acc := acc ++ [(text, ← value fuel v)]
    | _ => mismatch k (Bytes.ofString "string")
  return acc

/-- The top of a document as a table of settings. -/
def top (fuel : Nat) (root : Node) : DecodeM (Table Value) := do
  match root with
  | .scalar text _ _ _ =>
    if !root.isText then
      match resolve root.kindTag text with
      | .ok (_, .null) => return []
      | .ok _ => pure ()
      | .error f => throw f
    mismatch root topType
    return []
  | .sequence _ _ _ =>
    mismatch root topType
    return []
  | .mapping entries _ _ =>
    if !(← checkRepeats entries) then return []
    let own ← topPairs fuel (entries.filter (fun (k, _) => !isMergeKey k))
    let merged ← mergedText fuel entries
    return withMerged (· == ·) own merged

end DecodeM

/-- The first document of a YAML text as a table of settings. -/
def readTable (text : Bytes) : Except Rejection (Table Value) :=
  match Node.ofBytes? text with
  | .error f => .error (.malformed f)
  | .ok none => .ok []
  | .ok (some root) =>
    match (DecodeM.top (4 * text.length + 16) root).run [] with
    | .error f => .error (.malformed f)
    | .ok (t, []) => .ok t
    | .ok (_, problems) => .error (.mismatched problems)

end ShaderVariants.Yaml
