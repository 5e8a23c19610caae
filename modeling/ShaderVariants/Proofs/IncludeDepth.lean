import Mathlib
import ShaderVariants.Proofs.IncludeTree
import ShaderVariants.Proofs.ParseErrors
/-!
# How deep includes go

The renderer counts the includes it has followed, and an include met at the depth limit
(`Session.limit`: the session's maximum when positive, 64 otherwise) fails with
`Problem.tooDeep` before the loader is asked for its file. The count grows by one with every
include followed and no include is followed at the limit, so every expansion stops, whatever the
loader gives, cyclic includes too: the renderer is a total function, by recursion on the limit
less the depth.

`Session.Reaches` lists the documents that an expansion enters before it meets any problem,
with the depth each is rendered at: the source's own document at depth 0, and the document of
the file that a live include names, when the live items in front of the include render, the
include is below the limit and its file reads and parses. `expand_include_depth` states:

* a successful expansion follows no chain of more than `limit` live includes;
* the first include reached at the limit, the (limit + 1)-th of its chain, is where the expansion
  fails, with `tooDeep`, at the place of its `#include` keyword in the including file, and an
  expansion fails with `tooDeep` nowhere else;
* a reached cycle of includes, the same document entered again deeper down, always ends so.

The cycle argument rests on `renderLive_deeper`: rendering deeper down gives the same result or
fails sooner with `tooDeep`, so the includes of a cycle are entered again on every round until the
limit stops them.
-/

namespace ShaderVariants

/-! ## Where includes stand -/

namespace Document

/-- The line a directive closes is a front part of the tokens: what is left is a suffix. -/
theorem closeLine_suffix {dir : Token} :
    ∀ {ts r : List Token} {h : r.length ≤ ts.length}, closeLine dir ts = .ok ⟨r, h⟩ → r <:+ ts
  | [], r, _, hc => by
    simp only [closeLine, Except.ok.injEq, Subtype.mk.injEq] at hc
    subst hc
    exact List.suffix_refl _
  | t :: ts, r, _, hc => by
    rw [closeLine] at hc
    split at hc
    · simp only [Except.ok.injEq, Subtype.mk.injEq] at hc
      subst hc
      exact List.suffix_refl _
    · split at hc
      · simp only [Except.ok.injEq, Subtype.mk.injEq] at hc
        subst hc
        exact List.suffix_cons _ _
      · split at hc
        · split at hc
          · rename_i hrest
            simp only [Except.ok.injEq, Subtype.mk.injEq] at hc
            subst hc
            exact (closeLine_suffix hrest).trans (List.suffix_cons _ _)
          · cases hc
        · split at hc <;> cases hc

/-- A condition reads a front part of the tokens: what is left is a suffix. -/
theorem condition_suffix {flags : Flags} {dir : Token} {ts r : List Token} {b : Branch}
    {h : r.length ≤ ts.length} (hc : condition flags dir ts = .ok (b, ⟨r, h⟩)) : r <:+ ts := by
  obtain ⟨_, f, after, _, hts, -, -, ⟨_, hcl⟩, -⟩ := condition_eq_ok.1 hc
  -- what follows the flag is a suffix, with or without a negation in front
  have hafter : after <:+ ts := by
    rcases hts with ⟨rfl, -⟩ | ⟨n, rfl, -⟩
    · exact List.suffix_cons f after
    · exact (List.suffix_cons f after).trans (List.suffix_cons n _)
  exact (closeLine_suffix hcl).trans hafter

/-- A parse fails only with a problem of the grammar, never one of include depth. -/
theorem ofSource_error_kind {flags : Flags} {file src : Bytes} {e : Problem}
    (h : ofSource flags file src = .error e) : e.kind ≠ .includeDepth := by
  have hsweep : Token.sweep flags true [] (Token.ofSource src file) = .error e := by
    rw [← parse_map_items]
    unfold ofSource at h
    rw [h]
    rfl
  rcases Token.failsAt_of_sweep flags true [] _ e (Token.lined_ofSource src file) hsweep with
    ⟨done, part, rs, v, post, -, -, hb⟩ | ⟨r, rs, -, rfl⟩
  · cases hb <;> simp [Problem.kind]
  · simp [Problem.kind]

/-- A parsed document is the document of the file it was parsed as. -/
theorem parse_file {flags : Flags} {file : Bytes} {ts : List Token} {d : Document}
    (h : parse flags file ts = .ok d) : d.file = file := by
  unfold parse at h
  split at h
  · cases h
  · split at h
    · cases h
    · cases h
      rfl

end Document

/-- Every token of a source of `file` stands in `file`. -/
theorem Token.file_of_mem_ofSource {src file : Bytes} {t : Token} (ht : t ∈ Token.ofSource src file) :
    t.file = file := by
  simp only [Token.ofSource, List.mem_flatMap, Token.ofLine_eq, List.mem_map] at ht
  obtain ⟨_, _, p, _, rfl⟩ := ht
  rfl

/-- **A live include stands at an `#include` keyword.** An include that a sweep yields is an
include token of the stream, and its place is the token's. -/
theorem Token.sweep_include_mem {flags : Flags} :
    ∀ {live : Bool} {frames : List Frame} {ts : List Token} {items : List Item} {path : Bytes}
      {place : Place}, Token.sweep flags live frames ts = .ok items → Item.include path place ∈ items →
      ∃ t ∈ ts, t.kind = .include ∧ t.place = place
  | _, _, [], items, _, _, h, hmem => by
    obtain ⟨-, rfl⟩ := sweep_nil_eq_ok.1 h
    cases hmem
  | live, frames, t :: r, items, path, place, h, hmem => by
    -- what the rest of the stream yields stands in the rest of the stream
    have later : ∀ {live' frames' r' items'}, r' <:+ r →
        Token.sweep flags live' frames' r' = .ok items' → Item.include path place ∈ items' →
        ∃ t' ∈ t :: r, t'.kind = .include ∧ t'.place = place := fun hsuf h' hmem' => by
      obtain ⟨t', ht', hk, hp⟩ := Token.sweep_include_mem h' hmem'
      exact ⟨t', List.mem_cons_of_mem _ (hsuf.subset ht'), hk, hp⟩
    -- a text or reference in front yields a segment only
    have segment : ∀ {sg : Segment} {items'}, Token.sweep flags live frames r = .ok items' →
        items = keepIf live [.segment sg] ++ items' →
        ∃ t' ∈ t :: r, t'.kind = .include ∧ t'.place = place := fun h' hitems => by
      rw [hitems] at hmem
      cases live <;> simp at hmem <;> exact later (List.suffix_refl _) h' hmem
    cases hk : t.kind with
    | text | negation =>
      rw [sweep_literal (by simp [hk])] at h
      obtain ⟨items', h', rfl⟩ := except_map_eq_ok h
      exact segment h' rfl
    | reference =>
      rw [sweep_reference hk] at h
      obtain ⟨items', h', rfl⟩ := except_map_eq_ok h
      exact segment h' rfl
    | «include» =>
      obtain ⟨n, r', hr', items', hn, h', rfl⟩ := (sweep_include_eq_ok hk).1 h
      obtain ⟨arg, rfl, harg⟩ := Token.path_of_includeNode hn
      have hn' : n = .include arg.text t.place := by
        simp only [Document.includeNode, harg, if_true, Except.ok.injEq, Prod.mk.injEq] at hn
        exact hn.1.symm
      subst hn'
      rcases List.mem_append.1 hmem with hmem | hmem
      · -- the include this keyword opens
        cases live <;> simp [Node.items] at hmem
        exact ⟨t, List.mem_cons_self, hk, hmem.2.symm⟩
      · exact later (List.suffix_cons _ _) h' hmem
    | openIf =>
      obtain ⟨b, r', hr', hc, h⟩ := (sweep_openIf_eq_ok hk).1 h
      exact later (Document.condition_suffix hc) h hmem
    | elseIf =>
      obtain ⟨fr, up, rfl, -, b, r', hr', hc, h⟩ := (sweep_elseIf_eq_ok hk).1 h
      exact later (Document.condition_suffix hc) h hmem
    | otherwise =>
      obtain ⟨fr, up, rfl, -, r', hr', hc, h⟩ := (sweep_otherwise_eq_ok hk).1 h
      exact later (Document.closeLine_suffix hc) h hmem
    | endIf =>
      obtain ⟨fr, up, rfl, r', hr', hc, h⟩ := (sweep_endIf_eq_ok hk).1 h
      exact later (Document.closeLine_suffix hc) h hmem
termination_by _ _ ts => ts.length
decreasing_by exact Nat.lt_succ_of_le hsuf.length_le

/-- Every live include of a parsed document stands at an `#include` keyword of its source, in
the document's file. -/
theorem Document.include_at_keyword {flags : Flags} {file src : Bytes} {d : Document}
    (h : Document.ofSource flags file src = .ok d) {path : Bytes} {place : Place}
    (hmem : Item.include path place ∈ Node.itemsAll d.nodes) :
    ∃ t ∈ Token.ofSource src file, t.kind = .include ∧ t.place = place := by
  have hsweep := parse_map_items flags file (Token.ofSource src file)
  unfold Document.ofSource at h
  rw [h] at hsweep
  exact Token.sweep_include_mem hsweep.symm hmem

/-- A source whose sweep succeeds parses, into a document with the sweep's live items. -/
theorem Session.parse_of_sweep (s : Session) {src file : Bytes} {items : List Item}
    (h : (Token.sweep s.flags true [] (Token.ofSource src file)).toOption = some items) :
    ∃ d, s.parse src file = .ok d ∧ Node.itemsAll d.nodes = items := by
  have hmap := parse_map_items s.flags file (Token.ofSource src file)
  cases hp : s.parse src file with
  | error e =>
    simp only [Session.parse, Document.ofSource] at hp
    rw [← hmap, hp] at h
    cases h
  | ok d =>
    simp only [Session.parse, Document.ofSource] at hp
    rw [← hmap, hp] at h
    simp only [Except.map, Except.toOption, Option.some.injEq] at h
    exact ⟨d, rfl, h⟩

/-! ## Rendering one include -/

namespace Session

variable (s : Session) {depth : Nat} {path : Bytes} {place : Place}

/-- At the depth limit an include fails before its file is read. -/
theorem renderNode_include_of_le (h : s.limit ≤ depth) :
    s.renderNode depth (.include path place) = .error (.tooDeep place path s.limit) := by
  rw [renderNode, dif_neg (by omega)]

/-- Below the depth limit, an include whose file the loader cannot read fails with the loader's
failure. -/
theorem renderNode_include_unreadable (hlt : depth < s.limit) {c : LoadFailure}
    (hl : s.loader (Path.resolve path place.file) = .error c) :
    s.renderNode depth (.include path place) =
      .error (.unreadable place (Path.resolve path place.file) c) := by
  rw [renderNode, dif_pos hlt]
  simp only [hl]

/-- Below the depth limit, an include whose file does not parse fails with the parse's problem. -/
theorem renderNode_include_unparsed (hlt : depth < s.limit) {src' : Bytes} {e : Problem}
    (hl : s.loader (Path.resolve path place.file) = .ok src')
    (hp : s.parse src' (Path.resolve path place.file) = .error e) :
    s.renderNode depth (.include path place) = .error e := by
  rw [renderNode, dif_pos hlt]
  simp only [parse] at hp
  simp only [hl, hp]

/-- Below the depth limit, an include whose file reads and parses renders as that file's
document one include deeper, with the flags the document names in front. -/
theorem renderNode_include_of_lt (hlt : depth < s.limit) {src' : Bytes} {d : Document}
    (hl : s.loader (Path.resolve path place.file) = .ok src')
    (hp : s.parse src' (Path.resolve path place.file) = .ok d) :
    s.renderNode depth (.include path place) =
      (s.renderNodes (depth + 1) d.nodes).map fun r => (r.1, Node.flagsNamedAll d.nodes ++ r.2) := by
  rw [renderNode, dif_pos hlt]
  simp only [parse] at hp
  simp only [hl, hp]
  cases s.renderNodes (depth + 1) d.nodes <;> rfl

/-- An item that fails after live items that render makes the whole list fail with its
problem. -/
theorem renderLive_error_at {pre post : List Item} {it : Item} {r : List Piece × List Bytes}
    {e : Problem} (hpre : s.renderLive depth pre = .ok r) (hit : s.renderLiveItem depth it = .error e) :
    s.renderLive depth (pre ++ it :: post) = .error e := by
  rw [renderLive_append, hpre, renderLive_cons, hit]
  rfl

end Session

/-! ## The documents an expansion enters -/

/-- A document the renderer enters: the include depth it renders at, the source it was read
from and its tree, whose file is the document's file. -/
structure Visit where
  depth : Nat
  src : Bytes
  doc : Document

/-- The same document, `m` includes deeper. -/
def Visit.deeper (v : Visit) (m : Nat) : Visit := { v with depth := v.depth + m }

namespace Visit

@[simp] theorem deeper_depth (v : Visit) (m : Nat) : (v.deeper m).depth = v.depth + m := rfl

@[simp] theorem deeper_src (v : Visit) (m : Nat) : (v.deeper m).src = v.src := rfl

@[simp] theorem deeper_doc (v : Visit) (m : Nat) : (v.deeper m).doc = v.doc := rfl

@[simp] theorem deeper_zero (v : Visit) : v.deeper 0 = v := rfl

theorem deeper_deeper (v : Visit) (a b : Nat) : (v.deeper a).deeper b = v.deeper (a + b) := by
  simp [deeper, Nat.add_assoc]

end Visit

namespace Session

/-- The renderer, rendering the document of `v`, enters the document of `w`: the live items of
`v` in front of one of its includes render, the include is below the depth limit, and the file
it names reads through the loader and parses into the document of `w`, one include deeper. -/
inductive Enters (s : Session) (v : Visit) : Visit → Prop
  | mk {pre post : List Item} {path : Bytes} {place : Place} {r : List Piece × List Bytes}
      {src' : Bytes} {d' : Document} :
      Node.itemsAll v.doc.nodes = pre ++ .include path place :: post →
      s.renderLive v.depth pre = .ok r → v.depth < s.limit →
      s.loader (Path.resolve path place.file) = .ok src' →
      s.parse src' (Path.resolve path place.file) = .ok d' →
      Enters s v ⟨v.depth + 1, src', d'⟩

/-- The documents that expanding the source `src` of `file` enters before it meets a problem:
the source's own document at depth 0, and each document that one of them enters. -/
inductive Reaches (s : Session) (src file : Bytes) : Visit → Prop
  | root {d : Document} : s.parse src file = .ok d → Reaches s src file ⟨0, src, d⟩
  | enter {v w : Visit} : Reaches s src file v → s.Enters v w → Reaches s src file w

variable {s : Session} {src file : Bytes} {v w : Visit}

theorem Enters.depth_lt (h : s.Enters v w) : v.depth < s.limit := by
  cases h
  assumption

theorem Enters.depth_eq (h : s.Enters v w) : w.depth = v.depth + 1 := by
  cases h
  rfl

/-- Entering document after document goes deeper. -/
theorem Enters.depth_lt_of_transGen (h : Relation.TransGen s.Enters v w) : v.depth < w.depth := by
  induction h with
  | single h => rw [h.depth_eq]; omega
  | tail _ h ih => rw [h.depth_eq]; omega

/-- **No document is entered past the depth limit.** -/
theorem Reaches.depth_le (h : s.Reaches src file v) : v.depth ≤ s.limit := by
  induction h with
  | root _ => exact Nat.zero_le _
  | enter _ hvw _ => rw [hvw.depth_eq]; exact hvw.depth_lt

/-- An entered document is the parse of its source as its file. -/
theorem Reaches.parsed (h : s.Reaches src file v) : s.parse v.src v.doc.file = .ok v.doc := by
  cases h with
  | root hp => rw [Document.parse_file hp]; exact hp
  | enter _ hvw =>
    obtain ⟨-, -, -, -, hp⟩ := hvw
    rw [Document.parse_file hp]
    exact hp

/-- A document that the expansion enters and then renders with a problem makes the expansion
fail with that problem. -/
theorem Reaches.expand_error (hv : s.Reaches src file v) {e : Problem}
    (he : s.renderNodes v.depth v.doc.nodes = .error e) : s.expand src file = .error e := by
  induction hv with
  | root hp =>
    rw [expand, hp]
    simp only [render]
    rw [he]
  | enter _ hvw ih =>
    obtain ⟨hsplit, hpre, hlt, hl, hp⟩ := hvw
    apply ih
    -- the include that entered the document fails with it
    rw [renderNodes_eq_live, hsplit]
    apply renderLive_error_at s hpre
    rw [renderLiveItem, renderNode_include_of_lt s hlt hl hp, he]
    rfl

/-- **The include at the depth limit.** When the expansion enters a document at the depth
limit and the live items in front of one of its includes render, the expansion fails at that
include with `tooDeep`. -/
theorem Reaches.expand_tooDeep (hv : s.Reaches src file v) {pre post : List Item}
    {path : Bytes} {place : Place} {r : List Piece × List Bytes}
    (hsplit : Node.itemsAll v.doc.nodes = pre ++ .include path place :: post)
    (hpre : s.renderLive v.depth pre = .ok r) (hdeep : s.limit ≤ v.depth) :
    s.expand src file = .error (.tooDeep place path s.limit) := by
  apply hv.expand_error
  rw [renderNodes_eq_live, hsplit]
  exact renderLive_error_at s hpre (renderNode_include_of_le s hdeep)

/-- **A successful expansion follows at most `limit` includes in a row**: a document that it
reads after `k` includes has a live include only when `k + 1 ≤ limit`. -/
theorem Reads.succ_le_limit {e : Expansion} (he : s.expand src file = .ok e) {k : Nat}
    {d : Document} (hd : s.Reads src file k d) {path : Bytes} {place : Place}
    (hmem : Item.include path place ∈ Node.itemsAll d.nodes) : k + 1 ≤ s.limit := by
  obtain ⟨ps, fs, hr, -⟩ := hd.rendered he
  rw [renderNodes_eq_live] at hr
  obtain ⟨ps₁, fs₁, h₁, -⟩ := renderLive_include_ok s k hr hmem
  exact ((renderNode_include_eq_ok s k).1 h₁).1

/-! ## Where a problem of depth comes from -/

/-- The expansion enters a document at the depth limit and reaches, after live items that
render, an include of `path` at `place`: the (limit + 1)-th include of a chain, which the limit
stops. -/
def ReachesLimit (s : Session) (src file : Bytes) (place : Place) (path : Bytes) : Prop :=
  ∃ (v : Visit) (pre post : List Item) (r : List Piece × List Bytes), s.Reaches src file v ∧
    v.depth = s.limit ∧ Node.itemsAll v.doc.nodes = pre ++ .include path place :: post ∧
    s.renderLive v.depth pre = .ok r

/-- Rendering the live items `rest` of an entered document, after the items `pre` that render,
fails with `tooDeep` only at an include that the expansion reaches at the depth limit. -/
theorem Reaches.locate_tooDeep {v : Visit} (hv : s.Reaches src file v) {pre rest : List Item}
    {r : List Piece × List Bytes} (hsplit : Node.itemsAll v.doc.nodes = pre ++ rest)
    (hpre : s.renderLive v.depth pre = .ok r) {path : Bytes} {place : Place} {n : Nat}
    (h : s.renderLive v.depth rest = .error (.tooDeep place path n)) :
    n = s.limit ∧ s.ReachesLimit src file place path := by
  induction rest generalizing pre r with
  | nil => cases h
  | cons it rest ih =>
    rw [renderLive_cons] at h
    cases hit : s.renderLiveItem v.depth it with
    | ok p =>
      -- the item renders: read on with it among the items in front
      obtain ⟨ps, fs⟩ := p
      obtain ⟨qs, gs⟩ := r
      rw [hit] at h
      have hrest : s.renderLive v.depth rest = .error (.tooDeep place path n) := by
        cases hr : s.renderLive v.depth rest <;> simp_all [joinRendered]
      have hpre' : s.renderLive v.depth (pre ++ [it]) = .ok (qs ++ ps, gs ++ fs) := by
        rw [renderLive_append, hpre, renderLive_cons, hit, renderLive_nil, joinRendered_nil_right]
        rfl
      exact ih (by simp [hsplit]) hpre' hrest
    | error e =>
      rw [hit] at h
      cases h
      cases it with
      | segment sg =>
        -- a segment fails only for a value it does not find
        cases sg with
        | literal t p => simp [renderLiveItem, segment, Except.map] at hit
        | reference nm p =>
          cases hval : s.values.get? nm <;> simp [renderLiveItem, segment, hval, Except.map] at hit
      | «include» path' place' =>
        by_cases hlt : v.depth < s.limit
        · cases hl : s.loader (Path.resolve path' place'.file) with
          | error c =>
            rw [renderLiveItem, renderNode_include_unreadable s hlt hl] at hit
            cases hit
          | ok src' =>
            cases hp : s.parse src' (Path.resolve path' place'.file) with
            | error e' =>
              rw [renderLiveItem, renderNode_include_unparsed s hlt hl hp] at hit
              cases hit
              exact absurd rfl (Document.ofSource_error_kind hp)
            | ok d' =>
              -- the included document fails with the same problem, one include deeper
              rw [renderLiveItem, renderNode_include_of_lt s hlt hl hp] at hit
              have hdeeper : s.renderLive (v.depth + 1) (Node.itemsAll d'.nodes) =
                  .error (.tooDeep place path n) := by
                rw [← renderNodes_eq_live]
                cases hr : s.renderNodes (v.depth + 1) d'.nodes <;> simp_all [Except.map]
              have hw : s.Reaches src file ⟨v.depth + 1, src', d'⟩ :=
                .enter hv (.mk hsplit hpre hlt hl hp)
              exact hw.locate_tooDeep (List.nil_append _).symm rfl hdeeper
        · rw [renderLiveItem, renderNode_include_of_le s (by omega)] at hit
          cases hit
          exact ⟨rfl, v, pre, rest, r, hv, le_antisymm hv.depth_le (by omega), hsplit, hpre⟩
termination_by s.limit - v.depth

/-- **An expansion fails with `tooDeep` exactly at an include reached at the depth limit**, and
the limit it reports is the session's. -/
theorem expand_eq_tooDeep {place : Place} {path : Bytes} {n : Nat} :
    s.expand src file = .error (.tooDeep place path n) ↔
      n = s.limit ∧ s.ReachesLimit src file place path := by
  constructor
  · intro h
    cases hp : s.parse src file with
    | error e =>
      rw [expand, hp] at h
      cases h
      exact absurd rfl (Document.ofSource_error_kind hp)
    | ok d =>
      have hr : s.renderLive 0 (Node.itemsAll d.nodes) = .error (.tooDeep place path n) := by
        rw [expand, hp] at h
        rw [← renderNodes_eq_live]
        cases hr : s.renderNodes 0 d.nodes <;> simp_all [render]
      exact (Reaches.root hp).locate_tooDeep (List.nil_append _).symm rfl hr
  · rintro ⟨rfl, v, pre, post, r, hv, hdepth, hsplit, hpre⟩
    exact hv.expand_tooDeep hsplit hpre hdepth.ge

/-- An include of an entered document stands at an `#include` keyword of its source, in its
file. -/
theorem Reaches.include_at_keyword (hv : s.Reaches src file v) {path : Bytes} {place : Place}
    (hmem : Item.include path place ∈ Node.itemsAll v.doc.nodes) :
    place.file = v.doc.file ∧
      ∃ t ∈ Token.ofSource v.src v.doc.file, t.kind = .include ∧ t.place = place := by
  obtain ⟨t, ht, hk, rfl⟩ := Document.include_at_keyword hv.parsed hmem
  exact ⟨Token.file_of_mem_ofSource ht, t, ht, hk, rfl⟩

/-! ## Rendering deeper down -/

/-- What a rendering becomes deeper down: the same, or a failure with `tooDeep`. -/
def SameOrTooDeep (s : Session) (r r' : Rendered) : Prop :=
  r' = r ∨ ∃ place path, r' = .error (.tooDeep place path s.limit)

theorem SameOrTooDeep.join {r₁ r₁' r₂ r₂' : Rendered} (h₁ : s.SameOrTooDeep r₁ r₁')
    (h₂ : s.SameOrTooDeep r₂ r₂') : s.SameOrTooDeep (joinRendered r₁ r₂) (joinRendered r₁' r₂') := by
  rcases h₁ with h₁ | ⟨pl, pa, rfl⟩
  · rw [h₁]
    rcases h₂ with h₂ | ⟨pl, pa, rfl⟩
    · rw [h₂]
      exact .inl rfl
    · -- the second part fails deeper down: the join does, unless the first part failed already
      rcases r₁ with e | ⟨ps, fs⟩
      · exact .inl rfl
      · exact .inr ⟨pl, pa, rfl⟩
  · exact .inr ⟨pl, pa, rfl⟩

theorem SameOrTooDeep.map {r r' : Rendered} (h : s.SameOrTooDeep r r')
    (f : List Piece × List Bytes → List Piece × List Bytes) : s.SameOrTooDeep (r.map f) (r'.map f) := by
  rcases h with rfl | ⟨pl, pa, rfl⟩
  · exact .inl rfl
  · exact .inr ⟨pl, pa, rfl⟩

variable (s) in
mutual
/-- **Rendering deeper down gives the same or fails sooner**: live items rendered at a greater
include depth render as they did, or fail with `tooDeep`. -/
theorem renderLive_deeper {j k : Nat} (hjk : j ≤ k) (items : List Item) :
    s.SameOrTooDeep (s.renderLive j items) (s.renderLive k items) := by
  induction items with
  | nil => exact .inl rfl
  | cons it its ih =>
    rw [renderLive_cons, renderLive_cons]
    refine SameOrTooDeep.join ?_ ih
    cases it with
    | segment sg => exact .inl rfl
    | «include» path place => exact renderNode_include_deeper hjk
termination_by (s.limit - j, 1)

/-- An include rendered deeper down renders as it did, or fails with `tooDeep`. -/
theorem renderNode_include_deeper {j k : Nat} (hjk : j ≤ k) {path : Bytes} {place : Place} :
    s.SameOrTooDeep (s.renderNode j (.include path place)) (s.renderNode k (.include path place)) := by
  by_cases hk : k < s.limit
  · have hj : j < s.limit := by omega
    cases hl : s.loader (Path.resolve path place.file) with
    | error c =>
      rw [renderNode_include_unreadable s hj hl, renderNode_include_unreadable s hk hl]
      exact .inl rfl
    | ok src' =>
      cases hp : s.parse src' (Path.resolve path place.file) with
      | error e =>
        rw [renderNode_include_unparsed s hj hl hp, renderNode_include_unparsed s hk hl hp]
        exact .inl rfl
      | ok d =>
        rw [renderNode_include_of_lt s hj hl hp, renderNode_include_of_lt s hk hl hp,
          renderNodes_eq_live, renderNodes_eq_live]
        exact (renderLive_deeper (Nat.succ_le_succ hjk) _).map _
  · have hdeep : s.renderNode k (.include path place) = .error (.tooDeep place path s.limit) :=
      renderNode_include_of_le s (by omega)
    exact .inr ⟨place, path, hdeep⟩
termination_by (s.limit - j, 0)
end

/-- **An entered include is entered again deeper down**: from the same document `m` includes
deeper the same include is entered, unless the document fails there with `tooDeep`. -/
theorem Enters.deeper (h : s.Enters v w) (m : Nat) :
    s.Enters (v.deeper m) (w.deeper m) ∨
      ∃ place path, s.renderNodes (v.depth + m) v.doc.nodes = .error (.tooDeep place path s.limit) := by
  obtain ⟨hsplit, hpre, hlt, hl, hp⟩ := h
  rename_i pre post path place r src' d'
  rcases renderLive_deeper s (Nat.le_add_right v.depth m) pre with hpre' | ⟨pl, pa, hpre'⟩
  · rw [hpre] at hpre'
    by_cases hlt' : v.depth + m < s.limit
    · left
      have hw : Visit.deeper ⟨v.depth + 1, src', d'⟩ m = ⟨(v.deeper m).depth + 1, src', d'⟩ := by
        simp only [Visit.deeper, Nat.add_right_comm]
      rw [hw]
      exact .mk hsplit hpre' hlt' hl hp
    · right
      refine ⟨place, path, ?_⟩
      rw [renderNodes_eq_live, hsplit]
      exact renderLive_error_at s hpre' (renderNode_include_of_le s (by omega))
  · right
    refine ⟨pl, pa, ?_⟩
    rw [renderNodes_eq_live, hsplit, renderLive_append, hpre']
    rfl

/-- A chain of entered documents, replayed `m` includes deeper from a document the expansion
enters, leads to its end `m` includes deeper, unless the expansion fails with `tooDeep` on the
way. -/
theorem Reaches.replay (hc : Relation.ReflTransGen s.Enters v w) (m : Nat)
    (hv : s.Reaches src file (v.deeper m)) :
    s.Reaches src file (w.deeper m) ∨
      ∃ place path, s.expand src file = .error (.tooDeep place path s.limit) := by
  induction hc with
  | refl => exact .inl hv
  | tail _ huw ih =>
    rcases ih with hu | hfail
    · rcases huw.deeper m with h | ⟨pl, pa, h⟩
      · exact .inl (.enter hu h)
      · exact .inr ⟨pl, pa, hu.expand_error h⟩
    · exact .inr hfail

/-- **A reached cycle of includes fails with `tooDeep`**: when the expansion enters a document
and, going on from it, enters the same document read from the same source again, every round
of the cycle is entered again one cycle deeper, until the depth limit stops it. -/
theorem Reaches.cycle_tooDeep (hv : s.Reaches src file v) (hc : Relation.TransGen s.Enters v w)
    (hsrc : w.src = v.src) (hdoc : w.doc = v.doc) :
    ∃ place path, s.expand src file = .error (.tooDeep place path s.limit) := by
  -- the cycle takes `c ≥ 1` includes: `w` is `v`, `c` includes deeper
  have hlt := Enters.depth_lt_of_transGen hc
  obtain ⟨c, hc_pos, hw⟩ : ∃ c, 0 < c ∧ w = v.deeper c := by
    refine ⟨w.depth - v.depth, by omega, ?_⟩
    obtain ⟨dv, sv, docv⟩ := v
    obtain ⟨dw, sw, docw⟩ := w
    dsimp only at hsrc hdoc hlt
    subst hsrc hdoc
    simp only [Visit.deeper, Visit.mk.injEq, and_true]
    omega
  subst hw
  -- after `n` rounds the expansion has entered `v`, `n` cycles deeper, or failed with `tooDeep`
  have hround : ∀ n : Nat, s.Reaches src file (v.deeper (n * c)) ∨
      ∃ place path, s.expand src file = .error (.tooDeep place path s.limit) := by
    intro n
    induction n with
    | zero => exact .inl (by simpa using hv)
    | succ n ih =>
      rcases ih with hn | hfail
      · rcases Reaches.replay hc.to_reflTransGen (n * c) hn with h | hfail
        · left
          rwa [Visit.deeper_deeper, Nat.add_comm, ← Nat.succ_mul] at h
        · exact .inr hfail
      · exact .inr hfail
  rcases hround (s.limit + 1) with h | hfail
  · -- the limit is passed after `limit + 1` rounds, and no document is entered past it
    have hdeep : v.depth + (s.limit + 1) * c ≤ s.limit := h.depth_le
    have hmul : s.limit + 1 ≤ (s.limit + 1) * c := Nat.le_mul_of_pos_right _ hc_pos
    exact absurd (hmul.trans ((Nat.le_add_left _ _).trans hdeep)) (Nat.not_succ_le_self _)
  · exact hfail

end Session

/-! ## Includes always end -/

/-- **Includes always end.** Whatever the loader gives, cyclic includes too, and with `limit`
the session's maximum depth when positive and 64 otherwise:

* a successful expansion follows no chain of more than `limit` live includes;
* when the expansion reaches, before any other problem, the (limit + 1)-th include of a chain, it
  fails there with `tooDeep`, at the place of that include's `#include` keyword in the including
  file;
* it fails with `tooDeep` nowhere else;
* a reached cycle of includes, the same document entered again deeper down, ends so. -/
theorem Session.expand_include_depth (s : Session) (src file : Bytes) :
    (∀ e, s.expand src file = .ok e → ∀ k d path place, s.Reads src file k d →
      Item.include path place ∈ Node.itemsAll d.nodes → k + 1 ≤ s.limit) ∧
    (∀ (v : Visit) (pre post : List Item) (path : Bytes) (place : Place)
      (r : List Piece × List Bytes), s.Reaches src file v →
      Node.itemsAll v.doc.nodes = pre ++ .include path place :: post →
      s.renderLive v.depth pre = .ok r → s.limit ≤ v.depth →
      s.expand src file = .error (.tooDeep place path s.limit) ∧ place.file = v.doc.file ∧
        ∃ t ∈ Token.ofSource v.src v.doc.file, t.kind = .include ∧ t.place = place) ∧
    (∀ place path n, s.expand src file = .error (.tooDeep place path n) →
      n = s.limit ∧ s.ReachesLimit src file place path) ∧
    (∀ v w, s.Reaches src file v → Relation.TransGen s.Enters v w → w.src = v.src →
      w.doc = v.doc → ∃ place path, s.expand src file = .error (.tooDeep place path s.limit) ∧
        s.ReachesLimit src file place path) := by
  refine ⟨?_, ?_, ?_, ?_⟩
  · intro e he k d path place hd hmem
    exact hd.succ_le_limit he hmem
  · intro v pre post path place r hv hsplit hpre hdeep
    have hmem : Item.include path place ∈ Node.itemsAll v.doc.nodes := by simp [hsplit]
    exact ⟨hv.expand_tooDeep hsplit hpre hdeep, hv.include_at_keyword hmem⟩
  · intro place path n h
    exact Session.expand_eq_tooDeep.1 h
  · intro v w hv hc hsrc hdoc
    obtain ⟨place, path, h⟩ := hv.cycle_tooDeep hc hsrc hdoc
    exact ⟨place, path, h, (Session.expand_eq_tooDeep.1 h).2⟩

/-- A file that includes itself, expanded with the depth limit 1: the expansion enters the file
once more through its include, a cycle, and fails at the include there, on line 1. -/
theorem Session.expand_include_depth_self :
    let s : Session :=
      ⟨[], [], Loader.ofTable [(Bytes.ofString "a", Bytes.ofString "#include a\n")], 1⟩
    ∃ d, s.Reaches (Bytes.ofString "#include a\n") (Bytes.ofString "a")
        ⟨0, Bytes.ofString "#include a\n", d⟩ ∧
      s.Enters ⟨0, Bytes.ofString "#include a\n", d⟩ ⟨1, Bytes.ofString "#include a\n", d⟩ ∧
      s.expand (Bytes.ofString "#include a\n") (Bytes.ofString "a") =
        .error (.tooDeep ⟨Bytes.ofString "a", 1⟩ (Bytes.ofString "a") 1) := by
  intro s
  have hsweep : (Token.sweep [] true []
      (Token.ofSource (Bytes.ofString "#include a\n") (Bytes.ofString "a"))).toOption =
      some [.include (Bytes.ofString "a") ⟨Bytes.ofString "a", 1⟩,
        .segment (.literal [Bytes.lf] ⟨Bytes.ofString "a", 1⟩)] := by
    cbv
  obtain ⟨d, hp, hitems⟩ := s.parse_of_sweep hsweep
  have hsplit : Node.itemsAll d.nodes = [] ++ .include (Bytes.ofString "a") ⟨Bytes.ofString "a", 1⟩ ::
      [.segment (.literal [Bytes.lf] ⟨Bytes.ofString "a", 1⟩)] := hitems
  have hresolve : Path.resolve (Bytes.ofString "a") (Bytes.ofString "a") = Bytes.ofString "a" := by
    cbv
  have hget : Table.get? [(Bytes.ofString "a", Bytes.ofString "#include a\n")]
      (Path.clean (Bytes.ofString "a")) = some (Bytes.ofString "#include a\n") := by
    cbv
  have hl : s.loader (Path.resolve (Bytes.ofString "a") (Bytes.ofString "a")) =
      .ok (Bytes.ofString "#include a\n") := by
    simp only [s, hresolve, Loader.ofTable, hget]
  have hp' : s.parse (Bytes.ofString "#include a\n")
      (Path.resolve (Bytes.ofString "a") (Bytes.ofString "a")) = .ok d := by
    rw [hresolve]
    exact hp
  have hlimit : s.limit = 1 := by decide
  have henter : s.Enters ⟨0, Bytes.ofString "#include a\n", d⟩
      ⟨1, Bytes.ofString "#include a\n", d⟩ :=
    .mk hsplit rfl (by rw [hlimit]; exact Nat.zero_lt_one) hl hp'
  have hv : s.Reaches (Bytes.ofString "#include a\n") (Bytes.ofString "a")
      ⟨1, Bytes.ofString "#include a\n", d⟩ := .enter (.root hp) henter
  refine ⟨d, .root hp, henter, ?_⟩
  have hfail := ((Session.expand_include_depth s _ _).2.1 _ [] _ _ _ _ hv hsplit rfl
    hlimit.le).1
  rwa [hlimit] at hfail

end ShaderVariants
