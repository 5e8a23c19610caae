import ShaderVariants.Document.Parser
/-!
# Reading a document in one sweep

`Document.parse` reads a token stream by recursive descent into a tree, and a tree says what is
live only through its regions' selected branches. This module reads the same stream a second
way: one left-to-right sweep (`Token.sweep`) that keeps the open regions on a stack and decides
at every token whether it is live. A token inside a region is live when the region is and the
token lies in the region's first branch whose condition holds; the tokens a directive takes
(its keyword, the negation, the flag, the blanks and the line end after it, an include's path)
yield nothing themselves.

The main statement, `parse_map_items`, is that the two readings agree on every token stream:
the parse fails exactly when the sweep does, with the same problem, and otherwise the live
items of the tree, in order, are what the sweep yields.
-/

namespace ShaderVariants

/-- What a live position of a token stream gives to the output: a segment of text, or an
include. -/
inductive Item where
  | segment (s : Segment)
  | include (path : Bytes) (place : Place)
  deriving DecidableEq, Repr

/-! ## The live items of a tree -/

mutual
/-- The live items of a node: a text run's segments, an include, or the live items of the body
of a region's selected branch. -/
def Node.items : Node → List Item
  | .text segs => segs.map Item.segment
  | .include path place => [.include path place]
  | .region _ bs sel => Branch.selectedItems 0 sel bs

/-- The live items of the selected branch among `bs`, the first of which has index `i`. -/
def Branch.selectedItems (i : Nat) (sel : Option Nat) : List Branch → List Item
  | [] => []
  | ⟨_, _, _, body⟩ :: bs =>
    if sel == some i then Node.itemsAll body else Branch.selectedItems (i + 1) sel bs

/-- The live items of a list of nodes, in order. -/
def Node.itemsAll : List Node → List Item
  | [] => []
  | n :: ns => n.items ++ Node.itemsAll ns
end

@[simp] theorem Node.itemsAll_nil : Node.itemsAll [] = [] := rfl

@[simp] theorem Node.itemsAll_cons (n : Node) (ns : List Node) :
    Node.itemsAll (n :: ns) = n.items ++ Node.itemsAll ns := rfl

/-- The live items of the first branch whose condition holds, if any does. -/
def Branch.firstItems : List Branch → List Item
  | [] => []
  | b :: bs => if b.cond then Node.itemsAll b.body else Branch.firstItems bs

/-- Whether a condition among the branches holds. -/
def Branch.anyHeld (bs : List Branch) : Bool := bs.any (·.cond)

@[simp] theorem Branch.anyHeld_append_singleton (bs : List Branch) (b : Branch) :
    Branch.anyHeld (bs ++ [b]) = (Branch.anyHeld bs || b.cond) := by
  simp [Branch.anyHeld]

@[simp] theorem Node.itemsAll_consSegment (s : Segment) (ns : List Node) :
    Node.itemsAll (Document.consSegment s ns) = .segment s :: Node.itemsAll ns := by
  unfold Document.consSegment
  split <;> simp [Node.itemsAll, Node.items]

theorem Branch.selectedItems_findIdx (bs : List Branch) (i : Nat) :
    Branch.selectedItems i ((bs.findIdx? (·.cond)).map (· + i)) bs = Branch.firstItems bs := by
  induction bs generalizing i with
  | nil => rfl
  | cons b bs ih =>
    obtain ⟨g, c, l, body⟩ := b
    cases c
    · have hshift : ((· + i) ∘ (· + 1) : Nat → Nat) = (· + (i + 1)) := by
        funext x; simp only [Function.comp]; omega
      have hne : ((bs.findIdx? (·.cond)).map (· + (i + 1)) == some i) = false := by
        cases bs.findIdx? (·.cond) <;> simp; omega
      simp only [List.findIdx?_cons, Bool.false_eq_true, if_false, Option.map_map, hshift]
      rw [Branch.selectedItems, Branch.firstItems]
      simp only [hne, Bool.false_eq_true, if_false]
      exact ih (i + 1)
    · simp [List.findIdx?_cons, Branch.selectedItems, Branch.firstItems]

/-- The region a parse builds yields the live items of its first branch that holds. -/
@[simp] theorem Node.items_region (p : Place) (bs : List Branch) :
    (Node.region p bs (Document.selectedIndex bs)).items = Branch.firstItems bs := by
  have h := Branch.selectedItems_findIdx bs 0
  simp only [Nat.add_zero, Option.map_id'] at h
  simpa [Node.items, Document.selectedIndex] using h

/-! ## The sweep -/

/-- An open region as the sweep keeps it: where its `#if` stands (an unclosed region is reported
there), whether the region itself is live, whether one of its branches so far held, and whether
its `#else` has begun. -/
structure Frame where
  opener : Place
  outer : Bool
  taken : Bool
  inElse : Bool

/-- The items `xs` when the position is live, nothing otherwise. -/
def keepIf (live : Bool) (xs : List Item) : List Item := if live then xs else []

@[simp] theorem keepIf_true (xs : List Item) : keepIf true xs = xs := rfl

@[simp] theorem keepIf_false (xs : List Item) : keepIf false xs = [] := rfl

@[simp] theorem keepIf_nil (live : Bool) : keepIf live [] = [] := by cases live <;> rfl

@[simp] theorem keepIf_append (live : Bool) (xs ys : List Item) :
    keepIf live xs ++ keepIf live ys = keepIf live (xs ++ ys) := by
  cases live <;> rfl

@[simp] theorem except_map_id {α : Type} (x : Except Problem α) : x.map (fun y => y) = x := by
  cases x <;> rfl

theorem except_map_eq_ok {ε α β : Type} {x : Except ε α} {f : α → β} {y : β}
    (h : x.map f = .ok y) : ∃ a, x = .ok a ∧ f a = y := by
  cases x with
  | error e => cases h
  | ok a => exact ⟨a, rfl, by simpa [Except.map] using h⟩

@[simp] theorem except_map_append_map (x : Except Problem (List Item)) (a b : List Item) :
    (x.map (a ++ ·)).map (b ++ ·) = x.map ((b ++ a) ++ ·) := by
  cases x <;> simp [Except.map]

/-- The live items of a token stream, read in one left-to-right sweep. `live` says whether the
position is live and `frames` holds the open regions, innermost first. A conditional directive
reads its condition and the rest of its line as the parser does (`Document.condition`,
`Document.closeLine`); an `#elseif` branch is live when its region is, no earlier branch held and
its own condition holds, and an `#else` branch when its region is and no earlier branch held. -/
def Token.sweep (flags : Flags) (live : Bool) (frames : List Frame) :
    List Token → Except Problem (List Item)
  | [] =>
    match frames with
    | [] => .ok []
    | fr :: _ => .error (.unclosed fr.opener)
  | t :: r =>
    match t.kind with
    | .text | .negation =>
      (Token.sweep flags live frames r).map (keepIf live [.segment (.literal t.text t.place)] ++ ·)
    | .reference =>
      (Token.sweep flags live frames r).map (keepIf live [.segment (.reference t.text t.place)] ++ ·)
    | .include =>
      match Document.includeNode t r with
      | .ok (n, ⟨r', _⟩) => (Token.sweep flags live frames r').map (keepIf live n.items ++ ·)
      | .error e => .error e
    | .openIf =>
      match Document.condition flags t r with
      | .ok (b, ⟨r', _⟩) =>
        Token.sweep flags (live && b.cond) (⟨t.place, live, b.cond, false⟩ :: frames) r'
      | .error e => .error e
    | .elseIf =>
      match frames with
      | [] => .error (.unmatched t.place t.text)
      | fr :: up =>
        if fr.inElse then .error (.elseIfAfterElse t.place)
        else match Document.condition flags t r with
          | .ok (b, ⟨r', _⟩) =>
            Token.sweep flags (fr.outer && !fr.taken && b.cond)
              ({ fr with taken := fr.taken || b.cond } :: up) r'
          | .error e => .error e
    | .otherwise =>
      match frames with
      | [] => .error (.unmatched t.place t.text)
      | fr :: up =>
        if fr.inElse then .error (.duplicateElse t.place)
        else match Document.closeLine t r with
          | .ok ⟨r', _⟩ =>
            Token.sweep flags (fr.outer && !fr.taken) ({ fr with taken := true, inElse := true } :: up) r'
          | .error e => .error e
    | .endIf =>
      match frames with
      | [] => .error (.unmatched t.place t.text)
      | fr :: up =>
        match Document.closeLine t r with
        | .ok ⟨r', _⟩ => Token.sweep flags fr.outer up r'
        | .error e => .error e
termination_by ts => ts.length
decreasing_by all_goals simp only [List.length_cons]; omega

/-- Whether a token of this kind ends a branch's body: `#elseif`, `#else` or `#endif`. -/
def TokenKind.endsBody : TokenKind → Bool
  | .elseIf | .otherwise | .endIf => true
  | _ => false

variable {flags : Flags} {live : Bool} {frames : List Frame} {t : Token} {r : List Token}

theorem sweep_literal (ht : t.kind = .text ∨ t.kind = .negation) :
    Token.sweep flags live frames (t :: r) =
      (Token.sweep flags live frames r).map (keepIf live [.segment (.literal t.text t.place)] ++ ·) := by
  rw [Token.sweep.eq_def]
  rcases ht with ht | ht <;> simp only [ht]

theorem sweep_reference (ht : t.kind = .reference) :
    Token.sweep flags live frames (t :: r) =
      (Token.sweep flags live frames r).map (keepIf live [.segment (.reference t.text t.place)] ++ ·) := by
  rw [Token.sweep.eq_def]; simp only [ht]

theorem sweep_include {n : Node} {r' : List Token} {h : r'.length < r.length}
    (ht : t.kind = .include) (hn : Document.includeNode t r = .ok (n, ⟨r', h⟩)) :
    Token.sweep flags live frames (t :: r) =
      (Token.sweep flags live frames r').map (keepIf live n.items ++ ·) := by
  rw [Token.sweep.eq_def]; simp only [ht, hn]

theorem sweep_include_error {e : Problem} (ht : t.kind = .include)
    (hn : Document.includeNode t r = .error e) : Token.sweep flags live frames (t :: r) = .error e := by
  rw [Token.sweep.eq_def]; simp only [ht, hn]

theorem sweep_openIf {b : Branch} {r' : List Token} {h : r'.length ≤ r.length}
    (ht : t.kind = .openIf) (hc : Document.condition flags t r = .ok (b, ⟨r', h⟩)) :
    Token.sweep flags live frames (t :: r) =
      Token.sweep flags (live && b.cond) (⟨t.place, live, b.cond, false⟩ :: frames) r' := by
  rw [Token.sweep.eq_def]; simp only [ht, hc]

theorem sweep_openIf_error {e : Problem} (ht : t.kind = .openIf)
    (hc : Document.condition flags t r = .error e) : Token.sweep flags live frames (t :: r) = .error e := by
  rw [Token.sweep.eq_def]; simp only [ht, hc]

/-- A token that ends a body, met with no region open, is unmatched. -/
theorem sweep_unmatched (ht : t.kind.endsBody) :
    Token.sweep flags live [] (t :: r) = .error (.unmatched t.place t.text) := by
  rw [Token.sweep.eq_def]
  cases hk : t.kind <;> simp [hk, TokenKind.endsBody] at ht ⊢

theorem sweep_unclosed (fr : Frame) (up : List Frame) :
    Token.sweep flags live (fr :: up) [] = .error (.unclosed fr.opener) := by
  rw [Token.sweep.eq_def]

section Branches

variable {fr : Frame} {up : List Frame}

theorem sweep_elseIf_inElse (ht : t.kind = .elseIf) (hin : fr.inElse = true) :
    Token.sweep flags live (fr :: up) (t :: r) = .error (.elseIfAfterElse t.place) := by
  rw [Token.sweep.eq_def]; simp only [ht, hin, if_true]

theorem sweep_elseIf {b : Branch} {r' : List Token} {h : r'.length ≤ r.length}
    (ht : t.kind = .elseIf) (hin : fr.inElse = false)
    (hc : Document.condition flags t r = .ok (b, ⟨r', h⟩)) :
    Token.sweep flags live (fr :: up) (t :: r) =
      Token.sweep flags (fr.outer && !fr.taken && b.cond)
        ({ fr with taken := fr.taken || b.cond } :: up) r' := by
  rw [Token.sweep.eq_def]; simp only [ht, hin, hc, Bool.false_eq_true, if_false]

theorem sweep_elseIf_error {e : Problem} (ht : t.kind = .elseIf) (hin : fr.inElse = false)
    (hc : Document.condition flags t r = .error e) :
    Token.sweep flags live (fr :: up) (t :: r) = .error e := by
  rw [Token.sweep.eq_def]; simp only [ht, hin, hc, Bool.false_eq_true, if_false]

theorem sweep_otherwise_inElse (ht : t.kind = .otherwise) (hin : fr.inElse = true) :
    Token.sweep flags live (fr :: up) (t :: r) = .error (.duplicateElse t.place) := by
  rw [Token.sweep.eq_def]; simp only [ht, hin, if_true]

theorem sweep_otherwise {r' : List Token} {h : r'.length ≤ r.length}
    (ht : t.kind = .otherwise) (hin : fr.inElse = false)
    (hc : Document.closeLine t r = .ok ⟨r', h⟩) :
    Token.sweep flags live (fr :: up) (t :: r) =
      Token.sweep flags (fr.outer && !fr.taken) ({ fr with taken := true, inElse := true } :: up) r' := by
  rw [Token.sweep.eq_def]; simp only [ht, hin, hc, Bool.false_eq_true, if_false]

theorem sweep_otherwise_error {e : Problem} (ht : t.kind = .otherwise) (hin : fr.inElse = false)
    (hc : Document.closeLine t r = .error e) :
    Token.sweep flags live (fr :: up) (t :: r) = .error e := by
  rw [Token.sweep.eq_def]; simp only [ht, hin, hc, Bool.false_eq_true, if_false]

theorem sweep_endIf {r' : List Token} {h : r'.length ≤ r.length}
    (ht : t.kind = .endIf) (hc : Document.closeLine t r = .ok ⟨r', h⟩) :
    Token.sweep flags live (fr :: up) (t :: r) = Token.sweep flags fr.outer up r' := by
  rw [Token.sweep.eq_def]; simp only [ht, hc]

theorem sweep_endIf_error {e : Problem} (ht : t.kind = .endIf)
    (hc : Document.closeLine t r = .error e) :
    Token.sweep flags live (fr :: up) (t :: r) = .error e := by
  rw [Token.sweep.eq_def]; simp only [ht, hc]

end Branches

/-! ## What a sweep that succeeds read at a directive

Each directive sends a succeeding sweep down one path of its definition: the lemmas below say
which, so that a proof about succeeding sweeps need not dismiss the failing paths again. -/

section Succeeds

variable {ys : List Item}

theorem sweep_nil_eq_ok : Token.sweep flags live frames [] = .ok ys ↔ frames = [] ∧ ys = [] := by
  cases frames with
  | nil => rw [Token.sweep.eq_def]; simp [eq_comm]
  | cons fr up => simp [sweep_unclosed]

/-- An `#include` is followed by its path, and the sweep goes on after it. -/
theorem sweep_include_eq_ok (ht : t.kind = .include) :
    Token.sweep flags live frames (t :: r) = .ok ys ↔
      ∃ (n : Node) (r' : List Token) (hr : r'.length < r.length) (ys' : List Item), Document.includeNode t r = .ok (n, ⟨r', hr⟩) ∧
        Token.sweep flags live frames r' = .ok ys' ∧ ys = keepIf live n.items ++ ys' := by
  constructor
  · intro h
    cases hn : Document.includeNode t r with
    | error e => rw [sweep_include_error ht hn] at h; cases h
    | ok p =>
      obtain ⟨n, r', hr⟩ := p
      rw [sweep_include ht hn] at h
      obtain ⟨ys', h', rfl⟩ := except_map_eq_ok h
      exact ⟨n, r', hr, ys', rfl, h', rfl⟩
  · rintro ⟨n, r', hr, ys', hn, h, rfl⟩
    rw [sweep_include ht hn, h]
    rfl

/-- An `#if` has a condition, and the sweep goes on inside the region it opens. -/
theorem sweep_openIf_eq_ok (ht : t.kind = .openIf) :
    Token.sweep flags live frames (t :: r) = .ok ys ↔
      ∃ (b : Branch) (r' : List Token) (hr : r'.length ≤ r.length), Document.condition flags t r = .ok (b, ⟨r', hr⟩) ∧
        Token.sweep flags (live && b.cond) (⟨t.place, live, b.cond, false⟩ :: frames) r' = .ok ys := by
  constructor
  · intro h
    cases hc : Document.condition flags t r with
    | error e => rw [sweep_openIf_error ht hc] at h; cases h
    | ok p =>
      obtain ⟨b, r', hr⟩ := p
      rw [sweep_openIf ht hc] at h
      exact ⟨b, r', hr, rfl, h⟩
  · rintro ⟨b, r', hr, hc, h⟩
    rw [sweep_openIf ht hc, h]

/-- An `#elseif` stands in an open region whose `#else` has not begun, and has a condition. -/
theorem sweep_elseIf_eq_ok (ht : t.kind = .elseIf) :
    Token.sweep flags live frames (t :: r) = .ok ys ↔
      ∃ fr up, frames = fr :: up ∧ fr.inElse = false ∧
        ∃ (b : Branch) (r' : List Token) (hr : r'.length ≤ r.length), Document.condition flags t r = .ok (b, ⟨r', hr⟩) ∧
          Token.sweep flags (fr.outer && !fr.taken && b.cond)
            ({ fr with taken := fr.taken || b.cond } :: up) r' = .ok ys := by
  constructor
  · intro h
    cases frames with
    | nil => rw [sweep_unmatched (by simp [ht, TokenKind.endsBody])] at h; cases h
    | cons fr up =>
      cases hin : fr.inElse with
      | true => rw [sweep_elseIf_inElse ht hin] at h; cases h
      | false =>
        cases hc : Document.condition flags t r with
        | error e => rw [sweep_elseIf_error ht hin hc] at h; cases h
        | ok p =>
          obtain ⟨b, r', hr⟩ := p
          rw [sweep_elseIf ht hin hc] at h
          exact ⟨fr, up, rfl, hin, b, r', hr, rfl, h⟩
  · rintro ⟨fr, up, rfl, hin, b, r', hr, hc, h⟩
    rw [sweep_elseIf ht hin hc, h]

/-- An `#else` stands in an open region whose `#else` has not begun, and takes its line. -/
theorem sweep_otherwise_eq_ok (ht : t.kind = .otherwise) :
    Token.sweep flags live frames (t :: r) = .ok ys ↔
      ∃ fr up, frames = fr :: up ∧ fr.inElse = false ∧
        ∃ (r' : List Token) (hr : r'.length ≤ r.length), Document.closeLine t r = .ok ⟨r', hr⟩ ∧
          Token.sweep flags (fr.outer && !fr.taken)
            ({ fr with taken := true, inElse := true } :: up) r' = .ok ys := by
  constructor
  · intro h
    cases frames with
    | nil => rw [sweep_unmatched (by simp [ht, TokenKind.endsBody])] at h; cases h
    | cons fr up =>
      cases hin : fr.inElse with
      | true => rw [sweep_otherwise_inElse ht hin] at h; cases h
      | false =>
        cases hc : Document.closeLine t r with
        | error e => rw [sweep_otherwise_error ht hin hc] at h; cases h
        | ok p =>
          obtain ⟨r', hr⟩ := p
          rw [sweep_otherwise ht hin hc] at h
          exact ⟨fr, up, rfl, hin, r', hr, rfl, h⟩
  · rintro ⟨fr, up, rfl, hin, r', hr, hc, h⟩
    rw [sweep_otherwise ht hin hc, h]

/-- An `#endif` stands in an open region, takes its line, and the sweep goes on outside. -/
theorem sweep_endIf_eq_ok (ht : t.kind = .endIf) :
    Token.sweep flags live frames (t :: r) = .ok ys ↔
      ∃ fr up, frames = fr :: up ∧
        ∃ (r' : List Token) (hr : r'.length ≤ r.length), Document.closeLine t r = .ok ⟨r', hr⟩ ∧
          Token.sweep flags fr.outer up r' = .ok ys := by
  constructor
  · intro h
    cases frames with
    | nil => rw [sweep_unmatched (by simp [ht, TokenKind.endsBody])] at h; cases h
    | cons fr up =>
      cases hc : Document.closeLine t r with
      | error e => rw [sweep_endIf_error ht hc] at h; cases h
      | ok p =>
        obtain ⟨r', hr⟩ := p
        rw [sweep_endIf ht hc] at h
        exact ⟨fr, up, rfl, r', hr, rfl, h⟩
  · rintro ⟨fr, up, rfl, r', hr, hc, h⟩
    rw [sweep_endIf ht hc, h]

end Succeeds

/-! ## The sweep follows the parse -/

/-- What the sweep does over a body that the parser reads: where the parse fails the sweep fails
with the same problem; where it reads the nodes `ns` and stops at `rest`, `rest` is empty or
starts with a token that ends a body, and the sweep yields the nodes' live items and goes on
at `rest` in the same state. -/
def BodyAgrees (flags : Flags) (ts : List Token) : Prop :=
  match Document.body flags ts with
  | .error e => ∀ live frames, Token.sweep flags live frames ts = .error e
  | .ok (ns, ⟨rest, _⟩) =>
    (∀ stop r, rest = stop :: r → stop.kind.endsBody) ∧
      ∀ live frames, Token.sweep flags live frames ts =
        (Token.sweep flags live frames rest).map (keepIf live (Node.itemsAll ns) ++ ·)

/-- What the sweep does from an `#if` whose region the parser reads. -/
def RegionAgrees (flags : Flags) (opener : Token) (ts : List Token) : Prop :=
  opener.kind = .openIf →
    match Document.region flags opener ts with
    | .error e => ∀ live frames, Token.sweep flags live frames (opener :: ts) = .error e
    | .ok (n, ⟨rest, _⟩) => ∀ live frames, Token.sweep flags live frames (opener :: ts) =
        (Token.sweep flags live frames rest).map (keepIf live n.items ++ ·)

/-- What the sweep does over the branches of a region from `cur` on, the branches `done`
coming before it: the parsed region has `done` in front of the branches read from here, and
the sweep yields the live items of the first of these that holds, when the region is live and
none of `done` held. -/
def ArmsAgree (flags : Flags) (opener : Token) (done : List Branch) (cur : Branch)
    (ts : List Token) : Prop :=
  match Document.arms flags opener done cur ts with
  | .error e => ∀ live frames,
      Token.sweep flags (live && !Branch.anyHeld done && cur.cond)
        (⟨opener.place, live, Branch.anyHeld done || cur.cond, cur.isElse⟩ :: frames) ts = .error e
  | .ok (n, ⟨rest, _⟩) => ∃ later,
      n = .region opener.place (done ++ later) (Document.selectedIndex (done ++ later)) ∧
        ∀ live frames,
          Token.sweep flags (live && !Branch.anyHeld done && cur.cond)
            (⟨opener.place, live, Branch.anyHeld done || cur.cond, cur.isElse⟩ :: frames) ts =
          (Token.sweep flags live frames rest).map
            (keepIf (live && !Branch.anyHeld done) (Branch.firstItems later) ++ ·)

@[simp] theorem Branch.isElse_withBody (b : Branch) (ns : List Node) :
    (Branch.mk b.guard b.cond b.line ns).isElse = b.isElse := rfl

@[simp] theorem Branch.anyHeld_nil : Branch.anyHeld [] = false := rfl

/-- The live items from one branch on: those of the branch when it holds, else those of the
branches after it, all when the region is live and no earlier branch held. -/
theorem keepIf_firstItems_cons (live held c : Bool) (g : Option Guard) (l : Int)
    (body : List Node) (later : List Branch) :
    keepIf (live && !held && c) (Node.itemsAll body) ++
        keepIf (live && !(held || c)) (Branch.firstItems later) =
      keepIf (live && !held) (Branch.firstItems (⟨g, c, l, body⟩ :: later)) := by
  cases live <;> cases held <;> cases c <;> simp [Branch.firstItems]

/-- **What a condition that reads is made of**: an optional negation on the directive's line,
then a flag token that the flags define, then the end of the line. The branch it opens is
guarded by the flag and its negation, holds when the flag's value differs from the negation, and
has an empty body. -/
theorem Document.condition_eq_ok {dir : Token} {ts r : List Token} {b : Branch}
    {hr : r.length ≤ ts.length} :
    Document.condition flags dir ts = .ok (b, ⟨r, hr⟩) ↔
      ∃ (negated : Bool) (f : Token) (after : List Token) (v : Bool),
        (ts = f :: after ∧ negated = false ∨
          ∃ n, ts = n :: f :: after ∧ n.kind = .negation ∧ n.line = dir.line ∧ negated = true) ∧
        Document.isArgument dir f = true ∧ flags.get? f.text = some v ∧
        (∃ hr' : r.length ≤ after.length, Document.closeLine dir after = .ok ⟨r, hr'⟩) ∧
        b = ⟨some ⟨f.text, negated⟩, v != negated, dir.line, []⟩ := by
  constructor
  · intro h
    unfold Document.condition at h
    split at h
    rename_i negated after heq
    split at h
    · rename_i f rest _
      split at h
      · rename_i harg
        split at h
        · cases h
        · rename_i v hv
          split at h
          · rename_i r2 hr2 hcl
            simp only [Except.ok.injEq, Prod.mk.injEq, Subtype.mk.injEq] at h
            obtain ⟨rfl, rfl⟩ := h
            refine ⟨negated, f, rest, v, ?_, harg, hv, ⟨hr2, hcl⟩, rfl⟩
            -- the flag is the first token, or the token after a negation on the line
            cases ts with
            | nil => simp at heq
            | cons t ts =>
              dsimp only at heq
              split at heq
              · rename_i hneg
                simp only [Prod.mk.injEq, Subtype.mk.injEq] at heq
                obtain ⟨rfl, rfl⟩ := heq
                simp only [Bool.and_eq_true, beq_iff_eq] at hneg
                exact .inr ⟨t, rfl, hneg.1, hneg.2, rfl⟩
              · simp only [Prod.mk.injEq, Subtype.mk.injEq] at heq
                obtain ⟨rfl, heq⟩ := heq
                exact .inl ⟨heq, rfl⟩
          · cases h
      · cases h
    · cases h
  · rintro ⟨negated, f, after, v, hts, harg, hv, ⟨hr', hcl⟩, rfl⟩
    have hk : f.kind = .text := by
      simp only [Document.isArgument, Bool.and_eq_true, beq_iff_eq] at harg
      exact harg.1.1.1
    rcases hts with ⟨rfl, rfl⟩ | ⟨n, rfl, hn, hline, rfl⟩
    · simp [Document.condition, hk, harg, hv, hcl]
    · simp [Document.condition, hn, hline, harg, hv, hcl]

/-- A branch that a condition opens is not an `#else` branch. -/
theorem condition_isElse {dir : Token} {ts : List Token} {b : Branch} {r : List Token}
    {h : r.length ≤ ts.length} (hc : Document.condition flags dir ts = .ok (b, ⟨r, h⟩)) :
    b.isElse = false := by
  obtain ⟨_, _, _, _, -, -, -, -, rfl⟩ := Document.condition_eq_ok.1 hc
  rfl

/-- A body ends, with nothing read, at a token that ends it. -/
theorem Document.body_stop {ts : List Token} (ht : t.kind.endsBody) :
    Document.body flags (t :: ts) = .ok ([], ⟨t :: ts, Nat.le_refl _⟩) := by
  rw [Document.body.eq_def]
  cases hk : t.kind <;> simp_all [TokenKind.endsBody]

/-- A body ends, with nothing read, at a token that ends it; the sweep goes on from there. -/
theorem bodyAgrees_stop {ts : List Token} (ht : t.kind.endsBody) : BodyAgrees flags (t :: ts) := by
  unfold BodyAgrees
  rw [Document.body_stop ht]
  exact ⟨fun stop r h => by simp_all, fun live frames => by simp⟩

theorem sweep_agrees (flags : Flags) :
    (∀ ts, BodyAgrees flags ts) ∧ (∀ opener ts, RegionAgrees flags opener ts) ∧
      (∀ opener done cur ts, ArmsAgree flags opener done cur ts) := by
  apply Document.body.mutual_induct flags (BodyAgrees flags) (RegionAgrees flags) (ArmsAgree flags)
  · -- the end of the tokens
    simp [BodyAgrees, Document.body]
  · -- a text token
    intro t ts ht ns rest h hb ih
    unfold BodyAgrees at ih ⊢
    rw [Document.body]
    simp only [ht, hb] at ih ⊢
    refine ⟨ih.1, fun live frames => ?_⟩
    rw [sweep_literal (.inl ht), ih.2]
    simp
  · intro t ts ht e hb ih
    unfold BodyAgrees at ih ⊢
    rw [Document.body]
    simp only [ht, hb] at ih ⊢
    intro live frames
    rw [sweep_literal (.inl ht), ih]
    rfl
  · -- a negation standing as text
    intro t ts ht ns rest h hb ih
    unfold BodyAgrees at ih ⊢
    rw [Document.body]
    simp only [ht, hb] at ih ⊢
    refine ⟨ih.1, fun live frames => ?_⟩
    rw [sweep_literal (.inr ht), ih.2]
    simp
  · intro t ts ht e hb ih
    unfold BodyAgrees at ih ⊢
    rw [Document.body]
    simp only [ht, hb] at ih ⊢
    intro live frames
    rw [sweep_literal (.inr ht), ih]
    rfl
  · -- a value reference
    intro t ts ht ns rest h hb ih
    unfold BodyAgrees at ih ⊢
    rw [Document.body]
    simp only [ht, hb] at ih ⊢
    refine ⟨ih.1, fun live frames => ?_⟩
    rw [sweep_reference ht, ih.2]
    simp
  · intro t ts ht e hb ih
    unfold BodyAgrees at ih ⊢
    rw [Document.body]
    simp only [ht, hb] at ih ⊢
    intro live frames
    rw [sweep_reference ht, ih]
    rfl
  · -- an include and its path
    intro t ts ht n r1 h1 hn ns rest h hb ih
    unfold BodyAgrees at ih ⊢
    rw [Document.body]
    simp only [ht, hn, hb] at ih ⊢
    refine ⟨ih.1, fun live frames => ?_⟩
    rw [sweep_include ht hn, ih.2]
    simp
  · intro t ts ht n r1 h1 hn e hb ih
    unfold BodyAgrees at ih ⊢
    rw [Document.body]
    simp only [ht, hn, hb] at ih ⊢
    intro live frames
    rw [sweep_include ht hn, ih]
    rfl
  · intro t ts ht e hn
    unfold BodyAgrees
    rw [Document.body]
    simp only [ht, hn]
    intro live frames
    exact sweep_include_error ht hn
  · -- a region
    intro t ts ht n r1 h1 hr ns rest h hb ihr ih
    have hreg := ihr ht
    unfold BodyAgrees at ih ⊢
    rw [Document.body]
    simp only [hr] at hreg
    simp only [ht, hr, hb] at ih ⊢
    refine ⟨ih.1, fun live frames => ?_⟩
    rw [hreg, ih.2]
    simp
  · intro t ts ht n r1 h1 hr e hb ihr ih
    have hreg := ihr ht
    unfold BodyAgrees at ih ⊢
    rw [Document.body]
    simp only [hr] at hreg
    simp only [ht, hr, hb] at ih ⊢
    intro live frames
    rw [hreg, ih]
    rfl
  · intro t ts ht e hr ihr
    have hreg := ihr ht
    unfold BodyAgrees
    rw [Document.body]
    simp only [hr] at hreg
    simp only [ht, hr]
    exact hreg
  · intro t ts ht; exact bodyAgrees_stop (by simp [ht, TokenKind.endsBody])
  · intro t ts ht; exact bodyAgrees_stop (by simp [ht, TokenKind.endsBody])
  · intro t ts ht; exact bodyAgrees_stop (by simp [ht, TokenKind.endsBody])
  · -- a region: its condition, then its branches
    intro opener ts b r1 h1 hc n r2 h2 ha ih
    unfold ArmsAgree at ih
    simp only [ha] at ih
    obtain ⟨later, rfl, hsw⟩ := ih
    unfold RegionAgrees
    intro hk
    rw [Document.region]
    simp only [hc, ha]
    intro live frames
    rw [sweep_openIf hk hc]
    simpa [condition_isElse hc] using hsw live frames
  · intro opener ts b r1 h1 hc e ha ih
    unfold ArmsAgree at ih
    simp only [ha] at ih
    unfold RegionAgrees
    intro hk
    rw [Document.region]
    simp only [hc, ha]
    intro live frames
    rw [sweep_openIf hk hc]
    simpa [condition_isElse hc] using ih live frames
  · intro opener ts e hc
    unfold RegionAgrees
    intro hk
    rw [Document.region]
    simp only [hc]
    intro live frames
    exact sweep_openIf_error hk hc
  · -- the branch's body fails
    intro opener done cur ts e hb ih
    unfold BodyAgrees at ih
    simp only [hb] at ih
    unfold ArmsAgree
    rw [Document.arms]
    simp only [hb]
    intro live frames
    exact ih _ _
  · -- the tokens end inside the region
    intro opener done cur ts ns hlen h hb ih
    unfold BodyAgrees at ih
    simp only [hb] at ih
    unfold ArmsAgree
    rw [Document.arms]
    simp only [hb]
    intro live frames
    rw [ih.2, sweep_unclosed]
    rfl
  · -- an `#elseif` after the `#else`
    intro opener done cur ts ns br stop r hlen hk hel h hb ih
    unfold BodyAgrees at ih
    simp only [hb] at ih
    unfold ArmsAgree
    rw [Document.arms]
    have hcur : cur.isElse = true := hel
    simp only [hb, hk, Branch.isElse_withBody, hcur, if_true]
    intro live frames
    rw [ih.2, sweep_elseIf_inElse hk rfl]
    rfl
  · -- an `#elseif` opens the next branch
    intro opener done cur ts ns br all stop r hlen hk hel b r2 h2 hc n r3 h3 ha h hb ih iha
    have hcur : cur.isElse = false := by simpa using (show ¬cur.isElse = true from hel)
    simp only [all, br] at ha iha
    unfold BodyAgrees at ih
    simp only [hb] at ih
    unfold ArmsAgree at iha
    simp only [ha] at iha
    obtain ⟨later, rfl, hsw⟩ := iha
    unfold ArmsAgree
    rw [Document.arms]
    simp only [hb, hk, Branch.isElse_withBody, hcur, hc, ha, Bool.false_eq_true, if_false]
    refine ⟨⟨cur.guard, cur.cond, cur.line, ns⟩ :: later, by simp, fun live frames => ?_⟩
    have hstep := hsw live frames
    simp only [Branch.anyHeld_append_singleton, condition_isElse hc] at hstep
    rw [ih.2, sweep_elseIf hk rfl hc]
    rw [hstep, except_map_append_map, ← keepIf_firstItems_cons]
  · intro opener done cur ts ns br all stop r hlen hk hel b r2 h2 hc e ha h hb ih iha
    have hcur : cur.isElse = false := by simpa using (show ¬cur.isElse = true from hel)
    simp only [all, br] at ha iha
    unfold BodyAgrees at ih
    simp only [hb] at ih
    unfold ArmsAgree at iha
    simp only [ha] at iha
    unfold ArmsAgree
    rw [Document.arms]
    simp only [hb, hk, Branch.isElse_withBody, hcur, hc, ha, Bool.false_eq_true, if_false]
    intro live frames
    have hstep := iha live frames
    simp only [Branch.anyHeld_append_singleton, condition_isElse hc] at hstep
    rw [ih.2, sweep_elseIf hk rfl hc, hstep]
    rfl
  · intro opener done cur ts ns br stop r hlen hk hel e hc h hb ih
    have hcur : cur.isElse = false := by simpa using (show ¬cur.isElse = true from hel)
    unfold BodyAgrees at ih
    simp only [hb] at ih
    unfold ArmsAgree
    rw [Document.arms]
    simp only [hb, hk, Branch.isElse_withBody, hcur, hc, Bool.false_eq_true, if_false]
    intro live frames
    rw [ih.2, sweep_elseIf_error hk rfl hc]
    rfl
  · -- a second `#else`
    intro opener done cur ts ns br stop r hlen hk hel h hb ih
    unfold BodyAgrees at ih
    simp only [hb] at ih
    unfold ArmsAgree
    rw [Document.arms]
    have hcur : cur.isElse = true := hel
    simp only [hb, hk, Branch.isElse_withBody, hcur, if_true]
    intro live frames
    rw [ih.2, sweep_otherwise_inElse hk rfl]
    rfl
  · -- the `#else` opens the last branch
    intro opener done cur ts ns br all stop r hlen hk hel r2 h2 hcl n r3 h3 ha h hb ih iha
    have hcur : cur.isElse = false := by simpa using (show ¬cur.isElse = true from hel)
    simp only [all, br] at ha iha
    unfold BodyAgrees at ih
    simp only [hb] at ih
    unfold ArmsAgree at iha
    simp only [ha] at iha
    obtain ⟨later, rfl, hsw⟩ := iha
    unfold ArmsAgree
    rw [Document.arms]
    simp only [hb, hk, Branch.isElse_withBody, hcur, hcl, ha, Bool.false_eq_true, if_false]
    refine ⟨⟨cur.guard, cur.cond, cur.line, ns⟩ :: later, by simp, fun live frames => ?_⟩
    have hstep := hsw live frames
    simp only [Branch.anyHeld_append_singleton, Bool.and_true, Bool.or_true, Branch.isElse,
      Option.isNone_none] at hstep
    rw [ih.2, sweep_otherwise hk rfl hcl]
    dsimp only
    rw [hstep, except_map_append_map, ← keepIf_firstItems_cons]
  · intro opener done cur ts ns br all stop r hlen hk hel r2 h2 hcl e ha h hb ih iha
    have hcur : cur.isElse = false := by simpa using (show ¬cur.isElse = true from hel)
    simp only [all, br] at ha iha
    unfold BodyAgrees at ih
    simp only [hb] at ih
    unfold ArmsAgree at iha
    simp only [ha] at iha
    unfold ArmsAgree
    rw [Document.arms]
    simp only [hb, hk, Branch.isElse_withBody, hcur, hcl, ha, Bool.false_eq_true, if_false]
    intro live frames
    have hstep := iha live frames
    simp only [Branch.anyHeld_append_singleton, Bool.and_true, Bool.or_true, Branch.isElse,
      Option.isNone_none] at hstep
    rw [ih.2, sweep_otherwise hk rfl hcl]
    dsimp only
    rw [hstep]
    rfl
  · intro opener done cur ts ns br stop r hlen hk hel e hcl h hb ih
    have hcur : cur.isElse = false := by simpa using (show ¬cur.isElse = true from hel)
    unfold BodyAgrees at ih
    simp only [hb] at ih
    unfold ArmsAgree
    rw [Document.arms]
    simp only [hb, hk, Branch.isElse_withBody, hcur, hcl, Bool.false_eq_true, if_false]
    intro live frames
    rw [ih.2, sweep_otherwise_error hk rfl hcl]
    rfl
  · -- the `#endif` closes the region
    intro opener done cur ts ns stop r hlen r2 h2 hcl hne1 hne2 h hb ih
    unfold BodyAgrees at ih
    simp only [hb] at ih
    have hend : stop.kind = .endIf := by
      have hs := ih.1 stop r rfl
      cases hk : stop.kind <;> simp_all [TokenKind.endsBody]
    unfold ArmsAgree
    rw [Document.arms]
    simp only [hb, hend, hcl]
    refine ⟨[⟨cur.guard, cur.cond, cur.line, ns⟩], rfl, fun live frames => ?_⟩
    rw [ih.2, sweep_endIf hend hcl, ← keepIf_firstItems_cons]
    simp [Branch.firstItems]
  · intro opener done cur ts ns stop r hlen e hcl hne1 hne2 h hb ih
    unfold BodyAgrees at ih
    simp only [hb] at ih
    have hend : stop.kind = .endIf := by
      have hs := ih.1 stop r rfl
      cases hk : stop.kind <;> simp_all [TokenKind.endsBody]
    unfold ArmsAgree
    rw [Document.arms]
    simp only [hb, hend, hcl]
    intro live frames
    rw [ih.2, sweep_endIf_error hend hcl]
    rfl

/-- **The sweep reads what the parse reads.** On every token stream the parse fails exactly
when the sweep does, with the same problem, and otherwise the live items of the document are
the items the sweep yields. -/
theorem parse_map_items (flags : Flags) (file : Bytes) (ts : List Token) :
    (Document.parse flags file ts).map (fun d => Node.itemsAll d.nodes) =
      Token.sweep flags true [] ts := by
  have hb := (sweep_agrees flags).1 ts
  unfold BodyAgrees at hb
  unfold Document.parse
  cases hbody : Document.body flags ts with
  | error e =>
    rw [hbody] at hb
    exact (hb true []).symm
  | ok p =>
    obtain ⟨ns, rest, h⟩ := p
    rw [hbody] at hb
    obtain ⟨hstop, hsweep⟩ := hb
    rw [hsweep]
    cases rest with
    | nil => simp [Token.sweep.eq_def, Except.map]
    | cons stop r => rw [sweep_unmatched (hstop stop r rfl)]; rfl

end ShaderVariants
