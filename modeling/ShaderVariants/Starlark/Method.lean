import ShaderVariants.Starlark.Args
import ShaderVariants.Text.Case
import ShaderVariants.Text.Digit
import ShaderVariants.Text.Blank
import ShaderVariants.Text.Letter
/-!
# Methods of texts, lists and dicts

`x.name` on a text, list or dict gives the method of that name bound to `x`; other values have
no attributes. A missing attribute is reported with the nearest method name, if one is close.

Text methods treat a text as bytes for positions (`find`, `index`, slices) and as characters for
case and classes (`upper`, `isalpha`, `strip`). List and dict methods change the container in
place; a container that a loop is walking cannot be changed.
-/

namespace ShaderVariants.Starlark

/-! ## Method names -/

/-- The methods of texts. -/
def textMethods : List String :=
  ["capitalize", "codepoint_ords", "codepoints", "count", "elem_ords", "elems", "endswith",
    "find", "format", "index", "isalnum", "isalpha", "isdigit", "islower", "isspace", "istitle",
    "isupper", "join", "lower", "lstrip", "partition", "removeprefix", "removesuffix", "replace",
    "rfind", "rindex", "rpartition", "rsplit", "rstrip", "split", "splitlines", "startswith",
    "strip", "title", "upper"]

/-- The methods of lists. -/
def listMethods : List String :=
  ["append", "clear", "extend", "index", "insert", "pop", "remove"]

/-- The methods of dicts. -/
def dictMethods : List String :=
  ["clear", "get", "items", "keys", "pop", "popitem", "setdefault", "update", "values"]

/-- The method names of a value. -/
def Value.attrNames : Value → List String
  | .str _ => textMethods
  | .bytes _ => ["elems"]
  | .list _ => listMethods
  | .dict _ => dictMethods
  | _ => []

/-- `x.name`: the method bound to `x`, or the error of a missing attribute. -/
def RunM.getAttr (x : Value) (name : Bytes) : RunM Value := do
  let names := x.attrNames
  if names.any (fun n => Bytes.ofString n == name) then return .method x name
  let msg := Bytes.ofString x.typeName ++ Bytes.ofString " has no ." ++ name ++
    Bytes.ofString " field or method"
  match x with
  | .str _ | .bytes _ | .list _ | .dict _ =>
    match nearestName name (names.map Bytes.ofString) with
    | some n => throw (msg ++ Bytes.ofString " (did you mean ." ++ n ++ Bytes.ofString "?)")
    | none => throw msg
  | _ => throw msg

/-! ## Characters -/

/-- The characters of a text; a stray byte reads as U+FFFD. -/
def chars (s : Bytes) : List Nat := (Glyph.decode s).map Glyph.code

/-- A text from characters. -/
def ofChars (cs : List Nat) : Bytes := cs.flatMap Glyph.encode

/-! ## Text helpers -/

/-- The first position of `sub` in `s`. -/
def findFirst (s sub : Bytes) : Option Nat := Bytes.indexOf? s sub

/-- The last position of `sub` in `s`. -/
def findLast (s sub : Bytes) : Option Nat :=
  ((List.range (s.length + 1)).reverse.find? fun i => sub.isPrefixOf (s.drop i)).filter
    fun i => i + sub.length ≤ s.length

/-- The non-overlapping occurrences of `sub` in `s`; an empty `sub` occurs between every two
characters and at both ends. -/
def countOf (s sub : Bytes) : Nat :=
  if sub.isEmpty then (chars s).length + 1
  else go s (s.length + 1)
where
  go (s : Bytes) : Nat → Nat
    | 0 => 0
    | fuel + 1 =>
      match findFirst s sub with
      | some i => 1 + go (s.drop (i + sub.length)) fuel
      | none => 0

/-- Split at every occurrence of a non-empty separator, at most `limit` pieces when given. -/
def splitText (s sep : Bytes) (limit : Option Nat) : List Bytes :=
  go s limit (s.length + 1)
where
  go (s : Bytes) (limit : Option Nat) : Nat → List Bytes
    | 0 => [s]
    | fuel + 1 =>
      if limit == some 1 then [s]
      else match findFirst s sep with
        | some i => s.take i :: go (s.drop (i + sep.length)) (limit.map (· - 1)) fuel
        | none => [s]

/-- Split from the right at most `splits` times at a non-empty separator. -/
def rsplitText (s sep : Bytes) (splits : Nat) : List Bytes :=
  go s splits [] (s.length + 1)
where
  go (s : Bytes) (splits : Nat) (acc : List Bytes) : Nat → List Bytes
    | 0 => s :: acc
    | fuel + 1 =>
      if splits == 0 then s :: acc
      else match findLast s sep with
        | some i => go (s.take i) (splits - 1) (s.drop (i + sep.length) :: acc) fuel
        | none => s :: acc

/-- Replace the first `limit` occurrences (all when none) of `old` by `new`. -/
def replaceText (s old new : Bytes) (limit : Option Nat) : Bytes :=
  if limit == some 0 then s
  else if old.isEmpty then
    let pieces := (Glyph.decode s).map Glyph.bytes
    let n := min (limit.getD (pieces.length + 1)) (pieces.length + 1)
    if n == 0 then s
    else new ++ (pieces.take (n - 1)).flatMap (· ++ new) ++ (pieces.drop (n - 1)).flatten
  else go s limit (s.length + 1)
where
  go (s : Bytes) (limit : Option Nat) : Nat → Bytes
    | 0 => s
    | fuel + 1 =>
      if limit == some 0 then s
      else match findFirst s old with
        | some i => s.take i ++ new ++ go (s.drop (i + old.length)) (limit.map (· - 1)) fuel
        | none => s

/-- Whether a character is blank, as text methods count blanks. -/
def isSpaceChar (c : Nat) : Bool := isBlank c

/-- Split at runs of blanks, dropping blanks at both ends; at most `splits` splits from the
left when given, the rest kept whole with its leading blanks dropped. -/
def splitBlank (s : Bytes) (splits : Option Nat) : List Bytes :=
  go (Glyph.decode s) splits [] (s.length + 1)
where
  go (gs : List Glyph) (splits : Option Nat) (acc : List Bytes) : Nat → List Bytes
    | 0 => acc.reverse
    | fuel + 1 =>
      let gs := gs.dropWhile Glyph.blank
      if gs.isEmpty then acc.reverse
      else if splits == some 0 then (((gs.map Glyph.bytes).flatten) :: acc).reverse
      else
        let word := gs.takeWhile (!·.blank)
        go (gs.drop word.length) (splits.map (· - 1)) ((word.map Glyph.bytes).flatten :: acc)
          fuel

/-- Split at runs of blanks from the right, at most `splits` times. -/
def rsplitBlank (s : Bytes) (splits : Nat) : List Bytes :=
  let rev := (Glyph.decode s).reverse
  go rev splits [] (s.length + 1)
where
  go (gs : List Glyph) (splits : Nat) (acc : List Bytes) : Nat → List Bytes
    | 0 => acc
    | fuel + 1 =>
      let gs := gs.dropWhile Glyph.blank
      if gs.isEmpty then acc
      else if splits == 0 then ((gs.reverse.map Glyph.bytes).flatten) :: acc
      else
        let word := gs.takeWhile (!·.blank)
        go (gs.drop word.length) (splits - 1) ((word.reverse.map Glyph.bytes).flatten :: acc)
          fuel

/-- Strip characters from the ends: those in `set` when given, blanks otherwise. -/
def stripText (s : Bytes) (set : Option Bytes) (left right : Bool) : Bytes :=
  let strip (g : Glyph) : Bool := match set with
    | some cs => (chars cs).contains g.code
    | none => g.blank
  let gs := Glyph.decode s
  let gs := if left then gs.dropWhile strip else gs
  let gs := if right then (gs.reverse.dropWhile strip).reverse else gs
  (gs.map Glyph.bytes).flatten

/-- Slice bounds for text methods: defaults, negative positions from the end, clamped. -/
def textBounds (n : Nat) (lo hi : Option Value) : Except Bytes (Nat × Nat) := do
  let bound (v : Option Value) (dflt : Int) (which : String) : Except Bytes Int :=
    match v with
    | none | some .none => .ok dflt
    | some b =>
      match RunM.asInt32 b with
      | .ok i => .ok (if i < 0 then i + n else i)
      | .error e => .error (Bytes.ofString ("invalid " ++ which ++ " index: ") ++ e)
  let a ← bound lo 0 "start"
  let b ← bound hi n "end"
  let clamp (i : Int) : Nat := (max 0 (min i n)).toNat
  return (clamp a, clamp b)

/-- Fill the replacement fields of a format text: `\x7b\x7d` takes the next positional argument,
`\x7bN\x7d` the N-th, `\x7bname\x7d` a named one; `!r` writes a value's written form, `!s` (the
default) its text. Doubled braces stand for themselves. -/
def formatText (m : Machine) (format : Bytes) (a : Args) : Except Bytes Bytes := do
  let mut out : Bytes := []
  let mut rest := format
  let mut auto := false
  let mut manual := false
  let mut index := 0
  for _ in [0:format.length + 1] do
    let open? := rest.findIdx? (· == 123)
    let mut lit := match open? with
      | some i => rest.take i
      | none => rest
    for _ in [0:lit.length + 1] do
      match lit.findIdx? (· == 125) with
      | none =>
        out := out ++ lit
        break
      | some j =>
        if lit[j + 1]? != some 125 then
          throw (Bytes.ofString "format: single '\x7d' in format")
        out := out ++ lit.take (j + 1)
        lit := lit.drop (j + 2)
    match open? with
    | none => break
    | some i =>
      if rest[i + 1]? == some 123 then
        out := out ++ [123]
        rest := rest.drop (i + 2)
        continue
      rest := rest.drop (i + 1)
      match rest.findIdx? (· == 125) with
      | none => throw (Bytes.ofString "format: unmatched '\x7b' in format")
      | some j =>
        let field := rest.take j
        rest := rest.drop (j + 1)
        let (name, conv, spec) : Bytes × Bytes × Bytes := match field.findIdx? (· == 33) with
          | none =>
            match field.findIdx? (· == 58) with
            | none => (field, [115], [])
            | some k => (field.take k, [115], field.drop (k + 1))
          | some k =>
            let after := field.drop (k + 1)
            match after.findIdx? (· == 58) with
            | none => (field.take k, after, [])
            | some l => (field.take k, after.take l, after.drop (l + 1))
        let arg ← if name.isEmpty then do
            if manual then
              throw (Bytes.ofString ("format: cannot switch from manual field specification " ++
                "to automatic field numbering"))
            auto := true
            match a.positional[index]? with
            | some v =>
              index := index + 1
              pure v
            | none => throw (Bytes.ofString "format: tuple index out of range")
          else if name.all (fun b => 48 ≤ b && b ≤ 57) then do
            if auto then
              throw (Bytes.ofString ("format: cannot switch from automatic field numbering " ++
                "to manual field specification"))
            manual := true
            let k := name.foldl (fun (n : Nat) (b : UInt8) => n * 10 + (b.toNat - 48)) 0
            match a.positional[k]? with
            | some v => pure v
            | none => throw (Bytes.ofString "format: tuple index out of range")
          else
            match a.named.find? (fun (e : Bytes × Value) => e.1 == name) with
            | some (_, v) => pure v
            | none =>
              if name.elem 46 then
                throw (Bytes.ofString ("format: attribute syntax x.y is not supported in " ++
                  "replacement fields: ") ++ name)
              else if name.elem 91 then
                throw (Bytes.ofString ("format: element syntax a[i] is not supported in " ++
                  "replacement fields: ") ++ name)
              else if name.elem 123 then
                throw (Bytes.ofString "format: nested replacement fields not supported")
              else throw (Bytes.ofString "format: keyword " ++ name ++
                Bytes.ofString " not found")
        if !spec.isEmpty then
          throw (Bytes.ofString "format spec features not supported in replacement fields: " ++
            spec)
        if conv == [115] then out := out ++ arg.text m
        else if conv == [114] then out := out ++ arg.show m
        else throw (Bytes.ofString "format: unknown conversion " ++ Bytes.quote conv)
  return out

/-! ## Changing containers -/

namespace RunM

/-- Refuse to change a list, dict or set that a loop is walking. -/
def checkMutable (r : Nat) (verb kind : String) : RunM Unit := do
  match (← get).obj? r with
  | some (.list _ w) | some (.dict _ w) | some (.set _ w) =>
    if w > 0 then fail ("cannot " ++ verb ++ " " ++ kind ++ " during iteration")
  | _ => pure ()

/-- Replace a list's items. -/
def setListItems (r : Nat) (items : Array Value) : RunM Unit := do
  match (← get).obj? r with
  | some (.list _ w) => store r (.list items w)
  | _ => pure ()

/-- Replace a dict's entries. -/
def setDictEntries (r : Nat) (entries : Array (Value × Value)) : RunM Unit := do
  match (← get).obj? r with
  | some (.dict _ w) => store r (.dict entries w)
  | _ => pure ()

/-- Set a key of a dict: a new key goes last, a present one keeps its place. A dict that a
loop is walking cannot be set, not even at a present key. -/
def dictSet (r : Nat) (k v : Value) : RunM Unit := do
  checkMutable r "insert into" "hash table"
  let m ← get
  let entries := m.dictEntries r
  match ← lift (keyIndex m entries k) with
  | some i => setDictEntries r (entries.set! i (k, v))
  | none => setDictEntries r (entries.push (k, v))

/-- Count a loop walking a container, or its end. -/
def walk (v : Value) (delta : Int) : RunM Unit := do
  match v.walkRef? with
  | some r =>
    match (← get).obj? r with
    | some (.list items w) => store r (.list items (w + delta).toNat)
    | some (.dict es w) => store r (.dict es (w + delta).toNat)
    | some (.set items w) => store r (.set items (w + delta).toNat)
    | _ => pure ()
  | none => pure ()

/-- A new dict from entries in order, later keys replacing earlier ones in place. -/
def newDict (entries : List (Value × Value)) : RunM Value := do
  let r ← alloc (.dict #[] 0)
  for (k, v) in entries do dictSet r k v
  return .dict r

/-- Add the pairs of a dict, or of a sequence of pairs, and then named arguments, to a dict. -/
def updateDict (r : Nat) (updates : List Value) (named : List (Bytes × Value)) :
    RunM Unit := do
  let m ← get
  match updates with
  | [.dict d] => for (k, v) in (m.dictEntries d).toList do dictSet r k v
  | [u] =>
    match u.items? m with
    | none => fail ("got " ++ u.typeName ++ ", want iterable")
    | some pairs =>
      for (pair, i) in pairs.zipIdx do
        let m ← get
        match pair.items? m with
        | none =>
          fail ("dictionary update sequence element #" ++ toString i ++ " is not iterable (" ++
            pair.typeName ++ ")")
        | some kv =>
          match kv with
          | [k, v] => dictSet r k v
          | _ =>
            fail ("dictionary update sequence element #" ++ toString i ++ " has length " ++
              toString kv.length ++ ", want 2")
  | _ => pure ()
  let before := ((← get).dictEntries r).size
  for (k, v) in named do dictSet r (.str k) v
  if ((← get).dictEntries r).size < before + named.length then
    let mut seen : List Bytes := []
    for (k, _) in named do
      if seen.contains k then
        throw (Bytes.ofString "duplicate keyword arg: " ++ Bytes.quote k)
      seen := k :: seen

/-! ## Method calls -/

/-- Positional arguments of a method, checked. -/
def posArgs (name : String) (min : Nat) (wants : List Want) (a : Args) : RunM (Array Value) := do
  lift (Args.positionalOnly (← get) name min wants a)

/-- The argument at a position, if given. -/
def argAt (xs : Array Value) (i : Nat) : Option Value := xs[i]?

/-- The value bound to a slot, if any. -/
def slotAt (xs : Array (Option Value)) (i : Nat) : Option Value := (xs[i]?).getD none

/-- A text argument. -/
def textArg (v : Option Value) : Bytes :=
  match v with
  | some (.str s) => s
  | _ => []

/-- An integer argument. -/
def intArg (v : Option Value) (dflt : Int) : Int :=
  match v with
  | some (.int n) => n
  | _ => dflt

/-- Call a method of a byte string: `elems` is its only one. -/
def bytesMethod (s : Bytes) (name : String) (a : Args) : RunM Value := do
  discard (posArgs name 0 [] a)
  return .view .byteElems s

/-- Call a method of a text. -/
def textMethod (s : Bytes) (name : String) (a : Args) : RunM Value := do
  let m ← get
  let nameErr {α : Type} (msg : String) : RunM α := fail (name ++ ": " ++ msg)
  match name with
  | "capitalize" =>
    discard (posArgs name 0 [] a)
    match chars s with
    | [] => return .str []
    | c :: rest => return .str (ofChars (titleScalar c :: rest.map lowerScalar))
  | "count" =>
    let xs ← posArgs name 1 [.text, .any, .any] a
    let (lo, hi) ← match textBounds s.length (argAt xs 1) (argAt xs 2) with
      | .ok b => pure b
      | .error e => throw (Bytes.ofString (name ++ ": ") ++ e)
    let part := if lo < hi then (s.drop lo).take (hi - lo) else []
    return .int (countOf part (textArg (argAt xs 0)))
  | "elems" =>
    discard (posArgs name 0 [] a)
    return .view .elems s
  | "elem_ords" =>
    discard (posArgs name 0 [] a)
    return .view .elemOrds s
  | "codepoints" =>
    discard (posArgs name 0 [] a)
    return .view .codepoints s
  | "codepoint_ords" =>
    discard (posArgs name 0 [] a)
    return .view .codepointOrds s
  | "endswith" | "startswith" =>
    let xs ← posArgs name 1 [.any, .any, .any] a
    let (lo, hi) ← match textBounds s.length (argAt xs 1) (argAt xs 2) with
      | .ok b => pure b
      | .error e => throw (Bytes.ofString (name ++ ": ") ++ e)
    let part := (s.drop lo).take (max lo hi - lo)
    let test (p : Bytes) : Bool :=
      if name == "startswith" then p.isPrefixOf part else p.reverse.isPrefixOf part.reverse
    match (argAt xs 0) with
    | some (.str p) => return .bool (test p)
    | some (.tuple items) =>
      for (x, i) in items.zipIdx do
        match x with
        | .str p => if test p then return .bool true
        | _ =>
          fail (name ++ ": want string, got " ++ x.typeName ++ ", for element " ++ toString i)
      return .bool false
    | some x => fail (name ++ ": got " ++ x.typeName ++ ", want string or tuple of strings")
    | none => return .bool false
  | "find" | "rfind" | "index" | "rindex" =>
    let xs ← posArgs name 1 [.text, .any, .any] a
    let (lo, hi) ← match textBounds s.length (argAt xs 1) (argAt xs 2) with
      | .ok b => pure b
      | .error e => throw (Bytes.ofString (name ++ ": ") ++ e)
    let part := if lo < hi then (s.drop lo).take (hi - lo) else []
    let sub := textArg (argAt xs 0)
    let found := if name.startsWith "r" then findLast part sub else findFirst part sub
    match found with
    | some i => return .int (i + lo)
    | none =>
      if name == "find" || name == "rfind" then return .int (-1)
      else nameErr "substring not found"
  | "isalnum" =>
    discard (posArgs name 0 [] a)
    return .bool (!s.isEmpty && (chars s).all fun c => isLetter c || isDecimalDigit c)
  | "isalpha" =>
    discard (posArgs name 0 [] a)
    return .bool (!s.isEmpty && (chars s).all isLetter)
  | "isdigit" =>
    discard (posArgs name 0 [] a)
    return .bool (!s.isEmpty && (chars s).all isDecimalDigit)
  | "islower" =>
    discard (posArgs name 0 [] a)
    return .bool ((chars s).any isCased && Bytes.toLower s == s)
  | "isupper" =>
    discard (posArgs name 0 [] a)
    return .bool ((chars s).any isCased && Bytes.toUpper s == s)
  | "isspace" =>
    discard (posArgs name 0 [] a)
    return .bool (!s.isEmpty && (chars s).all isSpaceChar)
  | "istitle" =>
    discard (posArgs name 0 [] a)
    let mut cased := false
    let mut prevCased := false
    -- an ASCII capital or a title-case letter must start a word, a lower-case letter must
    -- follow a cased one, and no other capital may stand anywhere
    for c in chars s do
      if (65 ≤ c && c ≤ 90) || isTitleLetter c then
        if prevCased then return .bool false
        prevCased := true
        cased := true
      else if isLowerLetter c then
        if !prevCased then return .bool false
        prevCased := true
      else if isUpperLetter c then return .bool false
      else prevCased := false
    return .bool cased
  | "join" =>
    let xs ← posArgs name 1 [.iterable] a
    let items := (((argAt xs 0).getD .none).items? m).getD []
    let mut out : List Bytes := []
    for x in items do
      match x with
      | .str t => out := out ++ [t]
      | _ => fail ("join: in list, want string, got " ++ x.typeName)
    return .str (Bytes.intercalate s out)
  | "lower" =>
    discard (posArgs name 0 [] a)
    return .str (Bytes.toLower s)
  | "upper" =>
    discard (posArgs name 0 [] a)
    return .str (Bytes.toUpper s)
  | "strip" | "lstrip" | "rstrip" =>
    let xs ← posArgs name 0 [.text] a
    let set := match (argAt xs 0) with
      | some (.str cs) => if cs.isEmpty then none else some cs
      | _ => none
    return .str (stripText s set (name != "rstrip") (name != "lstrip"))
  | "partition" | "rpartition" =>
    let xs ← posArgs name 1 [.text] a
    let sep := textArg (argAt xs 0)
    if sep.isEmpty then nameErr "empty separator"
    let found := if name == "partition" then findFirst s sep else findLast s sep
    match found with
    | some i => return .tuple [.str (s.take i), .str sep, .str (s.drop (i + sep.length))]
    | none =>
      if name == "partition" then return .tuple [.str s, .str [], .str []]
      else return .tuple [.str [], .str [], .str s]
  | "removeprefix" =>
    let xs ← posArgs name 1 [.text] a
    let p := textArg (argAt xs 0)
    return .str (if p.isPrefixOf s then s.drop p.length else s)
  | "removesuffix" =>
    let xs ← posArgs name 1 [.text] a
    let p := textArg (argAt xs 0)
    return .str (if p.reverse.isPrefixOf s.reverse then s.take (s.length - p.length) else s)
  | "replace" =>
    let xs ← posArgs name 2 [.text, .text, .int] a
    let count := intArg (argAt xs 2) (-1)
    return .str (replaceText s (textArg (argAt xs 0)) (textArg (argAt xs 1))
      (if count < 0 then none else some count.toNat))
  | "split" | "rsplit" =>
    let xs ← lift (Args.bind m name [⟨"sep", true, .any⟩, ⟨"maxsplit", true, .int⟩] a)
    let maxsplit := intArg (slotAt xs 1) (-1)
    let parts ← match slotAt xs 0 with
      | none | some .none =>
        if maxsplit < 0 then pure (splitBlank s none)
        else if name == "split" then pure (splitBlank s (some maxsplit.toNat))
        else pure (rsplitBlank s maxsplit.toNat)
      | some (.str sep) =>
        if sep.isEmpty then fail (name ++ ": empty separator")
        if maxsplit < 0 then pure (splitText s sep none)
        else if name == "split" then pure (splitText s sep (some (maxsplit.toNat + 1)))
        else pure (rsplitText s sep maxsplit.toNat)
      | some x => fail (name ++ ": got " ++ x.typeName ++ " for separator, want string")
    newList (parts.map .str)
  | "splitlines" =>
    let xs ← posArgs name 0 [.bool] a
    let keep := match (argAt xs 0) with
      | some (.bool b) => b
      | _ => false
    if s.isEmpty then return ← newList []
    let pieces := Bytes.splitOn 10 s
    let lines := if keep then
        (pieces.zipIdx.map fun (p, i) => if i + 1 < pieces.length then p ++ [10] else p)
      else pieces
    let lines := if s.getLast? == some 10 then lines.dropLast else lines
    newList (lines.map .str)
  | "format" => return .str (← lift (formatText m s a))
  | "title" =>
    discard (posArgs name 0 [] a)
    let mut prevCased := false
    let mut out : List Nat := []
    for c in chars s do
      let c' := if prevCased then lowerScalar c else titleScalar c
      prevCased := isCased c'
      out := out ++ [c']
    return .str (ofChars out)
  | _ => fail ("string has no ." ++ name ++ " field or method")

/-- Call a method of a list. -/
def listMethod (recv : Value) (r : Nat) (name : String) (a : Args) : RunM Value := do
  let nameErr {α : Type} (msg : String) : RunM α := fail (name ++ ": " ++ msg)
  let items := (← get).listItems r
  match name with
  | "append" =>
    let xs ← posArgs name 1 [.any] a
    checkMutable r "append to" "list"
    setListItems r (items.push ((argAt xs 0).getD .none))
    return .none
  | "clear" =>
    discard (posArgs name 0 [] a)
    checkMutable r "clear" "list"
    setListItems r #[]
    return .none
  | "extend" =>
    let xs ← posArgs name 1 [.iterable] a
    checkMutable r "extend" "list"
    let more := (((argAt xs 0).getD .none).items? (← get)).getD []
    setListItems r (items ++ more.toArray)
    return .none
  | "index" =>
    let xs ← posArgs name 1 [.any, .any, .any] a
    let (lo, hi) ← match textBounds items.size (argAt xs 1) (argAt xs 2) with
      | .ok b => pure b
      | .error e => throw (Bytes.ofString (name ++ ": ") ++ e)
    let m ← get
    for i in List.range items.size do
      if lo ≤ i && i < hi then
        if ← lift (compare m compareDepth .eq (items[i]?.getD .none) ((argAt xs 0).getD .none)) then
          return .int i
    nameErr "value not in list"
  | "insert" =>
    let xs ← posArgs name 2 [.int, .any] a
    checkMutable r "insert into" "list"
    let n := items.size
    let i := intArg (argAt xs 0) 0
    let i := if i < 0 then max 0 (i + n) else min i n
    let l := items.toList
    setListItems r (l.take i.toNat ++ [(argAt xs 1).getD .none] ++ l.drop i.toNat).toArray
    return .none
  | "pop" =>
    let n := items.size
    let xs ← posArgs name 0 [.int] a
    let i := intArg (argAt xs 0) ((n : Int) - 1)
    let j := if i < 0 then i + n else i
    if j < 0 || j ≥ n then
      let msg := if n == 0 then "index " ++ toString i ++ " out of range: empty list"
        else "list index " ++ toString i ++ " out of range [" ++ toString (-(n : Int)) ++ ":" ++
          toString ((n : Int) - 1) ++ "]"
      nameErr msg
    checkMutable r "pop from" "list"
    let l := items.toList
    setListItems r (l.take j.toNat ++ l.drop (j.toNat + 1)).toArray
    return (l[j.toNat]?).getD .none
  | "remove" =>
    let xs ← posArgs name 1 [.any] a
    checkMutable r "remove from" "list"
    let m ← get
    let l := items.toList
    for (x, i) in l.zipIdx do
      if ← lift (compare m compareDepth .eq x ((argAt xs 0).getD .none)) then
        setListItems r (l.take i ++ l.drop (i + 1)).toArray
        return .none
    nameErr "element not found"
  | _ => fail (recv.typeName ++ " has no ." ++ name ++ " field or method")

/-- Call a method of a dict. -/
def dictMethod (recv : Value) (r : Nat) (name : String) (a : Args) : RunM Value := do
  let nameErr {α : Type} (msg : Bytes) : RunM α := throw (Bytes.ofString (name ++ ": ") ++ msg)
  let entries := (← get).dictEntries r
  let m ← get
  match name with
  | "clear" =>
    discard (posArgs name 0 [] a)
    if !entries.isEmpty then checkMutable r "clear" "hash table"
    setDictEntries r #[]
    return .none
  | "get" =>
    let xs ← posArgs name 1 [.any, .any] a
    match keyIndex m entries ((argAt xs 0).getD .none) with
    | .error e => nameErr e
    | .ok (some i) => return ((entries[i]?.map (·.2)).getD .none)
    | .ok none => return (argAt xs 1).getD .none
  | "items" =>
    discard (posArgs name 0 [] a)
    newList (entries.toList.map fun (k, v) => .tuple [k, v])
  | "keys" =>
    discard (posArgs name 0 [] a)
    newList (entries.toList.map (·.1))
  | "values" =>
    discard (posArgs name 0 [] a)
    newList (entries.toList.map (·.2))
  | "pop" =>
    let xs ← posArgs name 1 [.any, .any] a
    if let .error e := (checkMutable r "delete from" "hash table").run m then nameErr e
    match keyIndex m entries ((argAt xs 0).getD .none) with
    | .error e => nameErr e
    | .ok (some i) =>
      let l := entries.toList
      setDictEntries r (l.take i ++ l.drop (i + 1)).toArray
      return ((entries[i]?.map (·.2)).getD .none)
    | .ok none =>
      match (argAt xs 1) with
      | some d => return d
      | none => nameErr (Bytes.ofString "missing key")
  | "popitem" =>
    discard (posArgs name 0 [] a)
    match entries.toList with
    | [] => nameErr (Bytes.ofString "empty dict")
    | (k, v) :: rest =>
      if let .error e := (checkMutable r "delete from" "hash table").run m then nameErr e
      setDictEntries r rest.toArray
      return .tuple [k, v]
  | "setdefault" =>
    let xs ← posArgs name 1 [.any, .any] a
    let k := (argAt xs 0).getD .none
    match keyIndex m entries k with
    | .error e => nameErr e
    | .ok (some i) => return ((entries[i]?.map (·.2)).getD .none)
    | .ok none =>
      let d := (argAt xs 1).getD .none
      match (dictSet r k d).run m with
      | .ok (_, m') => set m'; return d
      | .error e => nameErr e
  | "update" =>
    if a.positional.length > 1 then
      fail ("update: got " ++ toString a.positional.length ++ " arguments, want at most 1")
    match (updateDict r a.positional a.named).run m with
    | .ok (_, m') => set m'; return .none
    | .error e => throw (Bytes.ofString "update: " ++ e)
  | _ => fail (recv.typeName ++ " has no ." ++ name ++ " field or method")

end RunM

end ShaderVariants.Starlark
