import ShaderVariants.Proofs.IncludeDepth
/-!
# The files an expansion reads

The renderer reads an included file through the session's loader when it renders the include,
and only then. To say which files it asks for, and in what order, the renderer is written once
more over any monad, with the loader a parameter (`Session.renderNodeWith`): with the identity
monad and the session's loader it is the renderer itself (`renderNodesWith_pure`), and with a
loader that writes down every path it is asked for (`Session.recordingLoader`) it gives the
same expansion and the list of the paths asked for.

That list is `Session.liveLoads`: going through the live items in order, an include below the
depth limit contributes its target and then the files read for the live items of the target's
document, and the walk stops after the first item that fails. A file is asked for exactly when
it is the target of a live include that the expansion reaches before any problem, below the
limit (`mem_loadsOf_iff`); an include in a dead branch, or in a file never included, is never
read. When the loader fails for such an include, the expansion fails with `unreadable` at the
include, wrapping the loader's failure (`Reaches.expand_unreadable`).
-/

namespace ShaderVariants

namespace Session

/-! ## The renderer over a monad -/

section Monadic

variable {m : Type → Type} [Monad m]

mutual
/-- Renders a node at include depth `depth` in the monad `m`, reading included files through
`load`. -/
def renderNodeWith (s : Session) (load : Bytes → m (Except LoadFailure Bytes)) (depth : Nat) :
    Node → m Rendered
  | .text segs =>
    pure (match segs.mapM s.segment with
      | .ok ps => .ok (ps, [])
      | .error e => .error e)
  | .include path place =>
    if _h : depth < s.limit then do
      match ← load (Path.resolve path place.file) with
      | .error c => pure (.error (.unreadable place (Path.resolve path place.file) c))
      | .ok src =>
        match Document.ofSource s.flags (Path.resolve path place.file) src with
        | .error e => pure (.error e)
        | .ok doc => do
          let r ← renderNodesWith s load (depth + 1) doc.nodes
          pure (r.map fun r => (r.1, Node.flagsNamedAll doc.nodes ++ r.2))
    else pure (.error (.tooDeep place path s.limit))
  | .region _ bs sel => renderBranchesWith s load depth 0 sel bs
termination_by n => (s.limit - depth, sizeOf n)
decreasing_by
  · exact Prod.Lex.left _ _ (by omega)
  · exact Prod.Lex.right _ (by simp; omega)

/-- Renders the selected branch among `bs`, the first of which has index `i`, in the monad
`m`. -/
def renderBranchesWith (s : Session) (load : Bytes → m (Except LoadFailure Bytes)) (depth : Nat)
    (i : Nat) (sel : Option Nat) : List Branch → m Rendered
  | [] => pure (.ok ([], []))
  | ⟨_, _, _, body⟩ :: bs =>
    if sel == some i then renderNodesWith s load depth body
    else renderBranchesWith s load depth (i + 1) sel bs
termination_by bs => (s.limit - depth, sizeOf bs)

/-- Renders a list of nodes in order in the monad `m`, stopping at the first that fails. -/
def renderNodesWith (s : Session) (load : Bytes → m (Except LoadFailure Bytes)) (depth : Nat) :
    List Node → m Rendered
  | [] => pure (.ok ([], []))
  | n :: ns => do
    match ← renderNodeWith s load depth n with
    | .error e => pure (.error e)
    | .ok p => do
      let r ← renderNodesWith s load depth ns
      pure (joinRendered (.ok p) r)
termination_by ns => (s.limit - depth, sizeOf ns)
end

/-- Expands a source of `file` in the monad `m`, reading included files through `load`. -/
def expandWith (s : Session) (load : Bytes → m (Except LoadFailure Bytes)) (src file : Bytes) :
    m (Except Problem Expansion) :=
  match s.parse src file with
  | .error e => pure (.error e)
  | .ok doc => do
    let r ← s.renderNodesWith load 0 doc.nodes
    pure (r.map fun r => Expansion.ofPieces r.1 (Node.flagsNamedAll doc.nodes ++ r.2))

end Monadic

/-! ## The renderer at the identity monad -/

variable (s : Session)

mutual
/-- **The monadic renderer at the identity monad is the renderer**, reading included files
through the session's loader. -/
theorem renderNodeWith_pure (depth : Nat) : ∀ n : Node,
    @renderNodeWith Id _ s (fun p => pure (s.loader p)) depth n = s.renderNode depth n
  | .text segs => by
    rw [renderNodeWith, renderNode]
    rfl
  | .include path place => by
    by_cases hlt : depth < s.limit
    · cases hl : s.loader (Path.resolve path place.file) with
      | error c =>
        rw [renderNode_include_unreadable s hlt hl, renderNodeWith, dif_pos hlt]
        simp only [hl, pure_bind]
        rfl
      | ok src =>
        cases hp : s.parse src (Path.resolve path place.file) with
        | error e =>
          rw [renderNode_include_unparsed s hlt hl hp, renderNodeWith, dif_pos hlt]
          simp only [parse] at hp
          simp only [hl, hp, pure_bind]
          rfl
        | ok d =>
          rw [renderNode_include_of_lt s hlt hl hp, renderNodeWith, dif_pos hlt,
            ← renderNodesWith_pure (depth + 1) d.nodes]
          simp only [parse] at hp
          simp only [hl, hp, pure_bind]
          rfl
    · rw [renderNode_include_of_le s (by omega), renderNodeWith, dif_neg hlt]
      rfl
  | .region p bs sel => by
    rw [renderNodeWith, renderNode, renderBranchesWith_pure depth 0 sel bs]
termination_by n => (s.limit - depth, sizeOf n)

theorem renderBranchesWith_pure (depth i : Nat) (sel : Option Nat) : ∀ bs : List Branch,
    @renderBranchesWith Id _ s (fun p => pure (s.loader p)) depth i sel bs =
      s.renderBranches depth i sel bs
  | [] => by rw [renderBranchesWith, renderBranches]; rfl
  | ⟨g, c, l, body⟩ :: bs => by
    rw [renderBranchesWith, renderBranches, renderNodesWith_pure depth body,
      renderBranchesWith_pure depth (i + 1) sel bs]
termination_by bs => (s.limit - depth, sizeOf bs)

theorem renderNodesWith_pure (depth : Nat) : ∀ ns : List Node,
    @renderNodesWith Id _ s (fun p => pure (s.loader p)) depth ns = s.renderNodes depth ns
  | [] => by rw [renderNodesWith, renderNodes]; rfl
  | n :: ns => by
    rw [renderNodesWith, renderNodes, ← renderNodeWith_pure depth n,
      ← renderNodesWith_pure depth ns]
    simp only [bind_pure_comp]
    rcases @renderNodeWith Id _ s (fun p => pure (s.loader p)) depth n with e | ⟨ps, fs⟩
    · rfl
    · rcases @renderNodesWith Id _ s (fun p => pure (s.loader p)) depth ns with e | ⟨ps', fs'⟩ <;> rfl
termination_by ns => (s.limit - depth, sizeOf ns)
end

theorem expandWith_pure (src file : Bytes) :
    @expandWith Id _ s (fun p => pure (s.loader p)) src file = s.expand src file := by
  rw [expandWith, expand]
  cases s.parse src file with
  | error e => rfl
  | ok d =>
    simp only [render, renderNodesWith_pure]
    cases s.renderNodes 0 d.nodes <;> rfl

/-! ## The files asked for -/

/-- The session's loader, writing down every path it is asked for. -/
def recordingLoader (path : Bytes) : StateM (List Bytes) (Except LoadFailure Bytes) :=
  modifyGet fun log => (s.loader path, log ++ [path])

mutual
/-- The files read for one live item at include depth `depth`: none for a segment; for an
include below the depth limit, its target, then, when the target reads and parses, the files
read for the live items of its document one include deeper. -/
def itemLoads (depth : Nat) : Item → List Bytes
  | .segment _ => []
  | .include path place =>
    if _h : depth < s.limit then
      Path.resolve path place.file ::
        match s.loader (Path.resolve path place.file) with
        | .ok src =>
          match s.parse src (Path.resolve path place.file) with
          | .ok d => liveLoads (depth + 1) (Node.itemsAll d.nodes)
          | .error _ => []
        | .error _ => []
    else []
termination_by it => (s.limit - depth, sizeOf it)

/-- **The files read for live items**, in order: each item's, and after an item that fails
none. -/
def liveLoads (depth : Nat) : List Item → List Bytes
  | [] => []
  | it :: its => itemLoads depth it ++ if (s.renderLiveItem depth it).isOk then liveLoads depth its else []
termination_by its => (s.limit - depth, sizeOf its)
end

/-- The paths that expanding the source `src` of `file` asks the loader for: none when the
source does not parse, and otherwise those its live items ask for from include depth 0. -/
def loadsOf (src file : Bytes) : List Bytes :=
  match s.parse src file with
  | .error _ => []
  | .ok d => s.liveLoads 0 (Node.itemsAll d.nodes)

variable {s} {depth : Nat}

@[simp] theorem liveLoads_nil : s.liveLoads depth [] = [] := by rw [liveLoads]

theorem liveLoads_cons (it : Item) (its : List Item) :
    s.liveLoads depth (it :: its) =
      s.itemLoads depth it ++ if (s.renderLiveItem depth it).isOk then s.liveLoads depth its else [] := by
  rw [liveLoads]

@[simp] theorem liveLoads_singleton (it : Item) : s.liveLoads depth [it] = s.itemLoads depth it := by
  simp [liveLoads_cons]

@[simp] theorem itemLoads_segment (sg : Segment) : s.itemLoads depth (.segment sg) = [] := by
  rw [itemLoads]

theorem itemLoads_include_of_le {path : Bytes} {place : Place} (h : s.limit ≤ depth) :
    s.itemLoads depth (.include path place) = [] := by
  rw [itemLoads, dif_neg (by omega)]

/-- An include below the depth limit asks for its target, and then for what its document asks
for when the target reads and parses. -/
theorem itemLoads_include_of_lt {path : Bytes} {place : Place} (h : depth < s.limit) :
    s.itemLoads depth (.include path place) = Path.resolve path place.file ::
      match s.loader (Path.resolve path place.file) with
      | .ok src =>
        match s.parse src (Path.resolve path place.file) with
        | .ok d => s.liveLoads (depth + 1) (Node.itemsAll d.nodes)
        | .error _ => []
      | .error _ => [] := by
  rw [itemLoads, dif_pos h]

theorem joinRendered_isOk (r₁ r₂ : Rendered) :
    (joinRendered r₁ r₂).isOk = (r₁.isOk && r₂.isOk) := by
  rcases r₁ with e | ⟨ps, fs⟩ <;> rcases r₂ with e' | ⟨ps', fs'⟩ <;> rfl

/-- The files read for two runs of live items: the first run's, and the second's when the first
renders. -/
theorem liveLoads_append (xs ys : List Item) :
    s.liveLoads depth (xs ++ ys) =
      s.liveLoads depth xs ++ if (s.renderLive depth xs).isOk then s.liveLoads depth ys else [] := by
  induction xs with
  | nil => simp [Except.isOk, Except.toBool]
  | cons x xs ih =>
    rw [List.cons_append, liveLoads_cons, liveLoads_cons, ih, renderLive_cons, joinRendered_isOk]
    cases (s.renderLiveItem depth x).isOk <;> simp

/-- Segments ask for no file. -/
theorem liveLoads_segments (segs : List Segment) : s.liveLoads depth (segs.map Item.segment) = [] := by
  induction segs with
  | nil => simp
  | cons sg segs ih =>
    rw [List.map_cons, liveLoads_cons, itemLoads_segment, ih]
    simp

theorem renderNodes_cons (n : Node) (ns : List Node) :
    s.renderNodes depth (n :: ns) = joinRendered (s.renderNode depth n) (s.renderNodes depth ns) := by
  rw [renderNodes_eq_live, Node.itemsAll_cons, renderLive_append, ← renderNode_eq_live,
    ← renderNodes_eq_live]

theorem recordingLoader_run (path : Bytes) (log : List Bytes) :
    (s.recordingLoader path).run log = pure (s.loader path, log ++ [path]) := rfl

/-! ## What the recording loader writes down -/

variable (s)

mutual
/-- **Rendering with the recording loader renders as the renderer does and asks for the files of
the live items**, in order, up to the first item that fails. -/
theorem renderNodeWith_recording (depth : Nat) : ∀ (n : Node) (log : List Bytes),
    (s.renderNodeWith s.recordingLoader depth n).run log =
      pure (s.renderNode depth n, log ++ s.liveLoads depth n.items)
  | .text segs, log => by
    rw [renderNodeWith, Node.items, liveLoads_segments, List.append_nil, renderNode]
    rfl
  | .include path place, log => by
    simp only [Node.items, liveLoads_singleton]
    by_cases hlt : depth < s.limit
    · rw [itemLoads_include_of_lt hlt, renderNodeWith, dif_pos hlt]
      simp only [StateT.run_bind, recordingLoader_run, pure_bind]
      cases hl : s.loader (Path.resolve path place.file) with
      | error c =>
        rw [renderNode_include_unreadable s hlt hl]
        rfl
      | ok src =>
        cases hp : s.parse src (Path.resolve path place.file) with
        | error e =>
          have hp' := hp
          simp only [parse] at hp'
          rw [renderNode_include_unparsed s hlt hl hp]
          simp only [hp, hp', StateT.run_pure]
        | ok d =>
          have hp' := hp
          simp only [parse] at hp'
          rw [renderNode_include_of_lt s hlt hl hp]
          simp only [hp, hp', StateT.run_bind, renderNodesWith_recording (depth + 1) d.nodes,
            pure_bind, StateT.run_pure, List.append_assoc, List.singleton_append]
    · rw [itemLoads_include_of_le (by omega), renderNodeWith, dif_neg hlt,
        renderNode_include_of_le s (by omega)]
      simp only [StateT.run_pure, List.append_nil]
  | .region p bs sel, log => by
    rw [renderNodeWith, renderNode, Node.items, renderBranchesWith_recording depth 0 sel bs log]
termination_by n => (s.limit - depth, sizeOf n)

theorem renderBranchesWith_recording (depth i : Nat) (sel : Option Nat) :
    ∀ (bs : List Branch) (log : List Bytes),
      (s.renderBranchesWith s.recordingLoader depth i sel bs).run log =
        pure (s.renderBranches depth i sel bs, log ++ s.liveLoads depth (Branch.selectedItems i sel bs))
  | [], log => by
    rw [renderBranchesWith, renderBranches, Branch.selectedItems]
    simp only [StateT.run_pure, liveLoads_nil, List.append_nil]
  | ⟨g, c, l, body⟩ :: bs, log => by
    rw [renderBranchesWith, renderBranches, Branch.selectedItems]
    split
    · exact renderNodesWith_recording depth body log
    · exact renderBranchesWith_recording depth (i + 1) sel bs log
termination_by bs => (s.limit - depth, sizeOf bs)

theorem renderNodesWith_recording (depth : Nat) : ∀ (ns : List Node) (log : List Bytes),
    (s.renderNodesWith s.recordingLoader depth ns).run log =
      pure (s.renderNodes depth ns, log ++ s.liveLoads depth (Node.itemsAll ns))
  | [], log => by
    rw [renderNodesWith, renderNodes]
    simp only [StateT.run_pure, Node.itemsAll_nil, liveLoads_nil, List.append_nil]
  | n :: ns, log => by
    rw [renderNodesWith, renderNodes_cons, Node.itemsAll_cons, liveLoads_append,
      ← renderNode_eq_live]
    simp only [StateT.run_bind, renderNodeWith_recording depth n log, pure_bind]
    rcases s.renderNode depth n with e | p
    · simp [Except.isOk, Except.toBool]
    · simp only [StateT.run_bind, renderNodesWith_recording depth ns, pure_bind, StateT.run_pure]
      simp [Except.isOk, Except.toBool]
termination_by ns => (s.limit - depth, sizeOf ns)
end

/-- **Expanding with the recording loader gives the expansion and the paths it asks for.** -/
theorem expandWith_recording (src file : Bytes) :
    (s.expandWith s.recordingLoader src file).run [] = (s.expand src file, s.loadsOf src file) := by
  rw [expandWith, expand, loadsOf]
  cases s.parse src file with
  | error e => rfl
  | ok d =>
    simp only [StateT.run_bind, renderNodesWith_recording s 0 d.nodes [], pure_bind,
      StateT.run_pure, List.nil_append, render]
    cases s.renderNodes 0 d.nodes <;> rfl

/-! ## Which files are asked for -/

/-- The expansion of the source `src` of `file` reaches, before any problem and below the depth
limit, a live include whose target is `target`. -/
def AsksFor (src file target : Bytes) : Prop :=
  ∃ (v : Visit) (pre post : List Item) (path : Bytes) (place : Place)
    (r : List Piece × List Bytes), s.Reaches src file v ∧
    Node.itemsAll v.doc.nodes = pre ++ .include path place :: post ∧
    s.renderLive v.depth pre = .ok r ∧ v.depth < s.limit ∧ target = Path.resolve path place.file

variable {s} {src file : Bytes}

/-- What the live items of an entered document ask for, after items that render, is the target
of an include the expansion reaches. -/
theorem Reaches.asksFor_of_mem {v : Visit} (hv : s.Reaches src file v) {pre rest : List Item}
    {r : List Piece × List Bytes} (hsplit : Node.itemsAll v.doc.nodes = pre ++ rest)
    (hpre : s.renderLive v.depth pre = .ok r) {target : Bytes}
    (h : target ∈ s.liveLoads v.depth rest) : s.AsksFor src file target := by
  induction rest generalizing pre r with
  | nil => simp at h
  | cons it rest ih =>
    rw [liveLoads_cons, List.mem_append] at h
    rcases h with h | h
    · -- asked for by the item itself: an include below the limit, or what its document asks for
      cases it with
      | segment sg => simp at h
      | «include» path place =>
        by_cases hlt : v.depth < s.limit
        · rw [itemLoads_include_of_lt hlt, List.mem_cons] at h
          rcases h with rfl | h
          · exact ⟨v, pre, rest, path, place, r, hv, hsplit, hpre, hlt, rfl⟩
          · cases hl : s.loader (Path.resolve path place.file) with
            | error c => simp [hl] at h
            | ok src' =>
              cases hp : s.parse src' (Path.resolve path place.file) with
              | error e => simp [hl, hp] at h
              | ok d' =>
                simp only [hl, hp] at h
                have hw : s.Reaches src file ⟨v.depth + 1, src', d'⟩ :=
                  .enter hv (.mk hsplit hpre hlt hl hp)
                exact hw.asksFor_of_mem (List.nil_append _).symm rfl h
        · rw [itemLoads_include_of_le (by omega)] at h
          cases h
    · -- asked for after the item, which renders
      cases hit : s.renderLiveItem v.depth it with
      | error e => simp [hit, Except.isOk, Except.toBool] at h
      | ok p =>
        simp only [hit, Except.isOk, Except.toBool, if_true] at h
        obtain ⟨qs, gs⟩ := r
        obtain ⟨ps, fs⟩ := p
        have hpre' : s.renderLive v.depth (pre ++ [it]) = .ok (qs ++ ps, gs ++ fs) := by
          rw [renderLive_append, hpre, renderLive_cons, hit, renderLive_nil, joinRendered_nil_right]
          rfl
        exact ih (by simp [hsplit]) hpre' h
termination_by s.limit - v.depth

/-- An include below the depth limit, after live items that render, asks for its target. -/
theorem target_mem_liveLoads {depth : Nat} {pre post : List Item} {path : Bytes} {place : Place}
    {r : List Piece × List Bytes} (hpre : s.renderLive depth pre = .ok r) (hlt : depth < s.limit) :
    Path.resolve path place.file ∈ s.liveLoads depth (pre ++ .include path place :: post) := by
  rw [liveLoads_append, hpre, liveLoads_cons, itemLoads_include_of_lt hlt]
  simp [Except.isOk, Except.toBool]

/-- What an entered document asks for, the expansion asks for. -/
theorem Reaches.mem_loadsOf {v : Visit} (hv : s.Reaches src file v) {target : Bytes}
    (h : target ∈ s.liveLoads v.depth (Node.itemsAll v.doc.nodes)) : target ∈ s.loadsOf src file := by
  induction hv with
  | root hp =>
    rw [loadsOf, hp]
    exact h
  | enter _ hvw ih =>
    obtain ⟨hsplit, hpre, hlt, hl, hp⟩ := hvw
    apply ih
    -- the include that entered the document asks for what the document asks for
    rw [hsplit, liveLoads_append, hpre, liveLoads_cons, itemLoads_include_of_lt hlt]
    simp only [hl, hp]
    simp [Except.isOk, Except.toBool, h]

/-- **A file is asked for exactly when it is the target of a live include that the expansion
reaches before any problem, below the depth limit.** -/
theorem mem_loadsOf_iff {target : Bytes} : target ∈ s.loadsOf src file ↔ s.AsksFor src file target := by
  constructor
  · intro h
    unfold loadsOf at h
    cases hp : s.parse src file with
    | error e =>
      rw [hp] at h
      cases h
    | ok d =>
      rw [hp] at h
      exact (Reaches.root hp).asksFor_of_mem (List.nil_append _).symm rfl h
  · rintro ⟨v, pre, post, path, place, r, hv, hsplit, hpre, hlt, rfl⟩
    apply hv.mem_loadsOf
    rw [hsplit]
    exact target_mem_liveLoads hpre hlt

/-- **A file that does not read fails the expansion at its include**: an include that the
expansion reaches, below the depth limit, whose target the loader fails on makes the expansion
fail with `unreadable` at the include, wrapping the loader's failure. -/
theorem Reaches.expand_unreadable {v : Visit} (hv : s.Reaches src file v) {pre post : List Item}
    {path : Bytes} {place : Place} {r : List Piece × List Bytes}
    (hsplit : Node.itemsAll v.doc.nodes = pre ++ .include path place :: post)
    (hpre : s.renderLive v.depth pre = .ok r) (hlt : v.depth < s.limit) {c : LoadFailure}
    (hl : s.loader (Path.resolve path place.file) = .error c) :
    s.expand src file = .error (.unreadable place (Path.resolve path place.file) c) := by
  apply hv.expand_error
  rw [renderNodes_eq_live, hsplit]
  exact renderLive_error_at s hpre (renderNode_include_unreadable s hlt hl)

end Session

/-! ## The loader is asked for the live includes -/

/-- **The loader is asked for the files of the live includes, in order.** Expanding with a
loader that writes down the paths it is asked for gives the expansion, the renderer being the
monadic renderer with the session's loader, and writes down `loadsOf`: the targets of the live
includes below the depth limit, depth first in document order, up to the first item that fails.
A file is asked for exactly when it is the target of a live include that the expansion reaches
before any problem, so no include in a dead branch, or in a file never included, is read. When
the loader fails on such an include, the expansion fails with `unreadable` at its `#include`
keyword in the including file, wrapping the loader's failure. -/
theorem Session.expand_loads_live_includes (s : Session) (src file : Bytes) :
    (s.expandWith s.recordingLoader src file).run [] = (s.expand src file, s.loadsOf src file) ∧
    @Session.expandWith Id _ s (fun p => pure (s.loader p)) src file = s.expand src file ∧
    (∀ target, target ∈ s.loadsOf src file ↔ s.AsksFor src file target) ∧
    (∀ (v : Visit) (pre post : List Item) (path : Bytes) (place : Place)
      (r : List Piece × List Bytes) (c : LoadFailure), s.Reaches src file v →
      Node.itemsAll v.doc.nodes = pre ++ .include path place :: post →
      s.renderLive v.depth pre = .ok r → v.depth < s.limit →
      s.loader (Path.resolve path place.file) = .error c →
      s.expand src file = .error (.unreadable place (Path.resolve path place.file) c) ∧
        place.file = v.doc.file ∧
        ∃ t ∈ Token.ofSource v.src v.doc.file, t.kind = .include ∧ t.place = place) := by
  refine ⟨s.expandWith_recording src file, s.expandWith_pure src file, fun target => ?_, ?_⟩
  · exact Session.mem_loadsOf_iff
  · intro v pre post path place r c hv hsplit hpre hlt hl
    have hmem : Item.include path place ∈ Node.itemsAll v.doc.nodes := by simp [hsplit]
    exact ⟨hv.expand_unreadable hsplit hpre hlt hl, hv.include_at_keyword hmem⟩

/-- An include in a dead branch and a live include of a missing file: the expansion asks the
loader for the missing file only, and fails at its include, on line 4. -/
theorem Session.expand_loads_live_includes_sample :
    let s : Session :=
      ⟨[(Bytes.ofString "A", false)], [], Loader.ofTable [(Bytes.ofString "x", Bytes.ofString "x\n")], 0⟩
    (s.expandWith s.recordingLoader (Bytes.ofString "#if A\n#include x\n#endif\n#include y\n")
        (Bytes.ofString "r")).run [] =
      (.error (.unreadable ⟨Bytes.ofString "r", 4⟩ (Bytes.ofString "y") (.missing (Bytes.ofString "y"))),
        [Bytes.ofString "y"]) := by
  intro s
  have hsweep : (Token.sweep [(Bytes.ofString "A", false)] true []
      (Token.ofSource (Bytes.ofString "#if A\n#include x\n#endif\n#include y\n")
        (Bytes.ofString "r"))).toOption =
      some [.include (Bytes.ofString "y") ⟨Bytes.ofString "r", 4⟩,
        .segment (.literal [Bytes.lf] ⟨Bytes.ofString "r", 4⟩)] := by
    cbv
  obtain ⟨d, hp, hitems⟩ := s.parse_of_sweep hsweep
  have hsplit : Node.itemsAll d.nodes = [] ++ .include (Bytes.ofString "y") ⟨Bytes.ofString "r", 4⟩ ::
      [.segment (.literal [Bytes.lf] ⟨Bytes.ofString "r", 4⟩)] := hitems
  have hresolve : Path.resolve (Bytes.ofString "y") (Bytes.ofString "r") = Bytes.ofString "y" := by
    cbv
  have hget : Table.get? [(Bytes.ofString "x", Bytes.ofString "x\n")]
      (Path.clean (Bytes.ofString "y")) = none := by
    cbv
  have hl : s.loader (Path.resolve (Bytes.ofString "y") (Bytes.ofString "r")) =
      .error (.missing (Bytes.ofString "y")) := by
    simp only [s, hresolve, Loader.ofTable, hget]
  have hlt : (0 : Nat) < s.limit := by decide
  obtain ⟨hrun, -, -, hfail⟩ := Session.expand_loads_live_includes s
    (Bytes.ofString "#if A\n#include x\n#endif\n#include y\n") (Bytes.ofString "r")
  have hexpand := (hfail _ [] _ _ _ _ _ (.root hp) hsplit rfl hlt hl).1
  -- the include of the missing file asks for it and fails, so nothing after it is asked for
  have hloads : s.loadsOf (Bytes.ofString "#if A\n#include x\n#endif\n#include y\n")
      (Bytes.ofString "r") = [Bytes.ofString "y"] := by
    have hitem : s.renderLiveItem 0 (.include (Bytes.ofString "y") ⟨Bytes.ofString "r", 4⟩) =
        .error (.unreadable ⟨Bytes.ofString "r", 4⟩ (Path.resolve (Bytes.ofString "y") (Bytes.ofString "r"))
          (.missing (Bytes.ofString "y"))) :=
      renderNode_include_unreadable s hlt hl
    have hl' : s.loader (Bytes.ofString "y") = .error (.missing (Bytes.ofString "y")) := by
      rw [← hl, hresolve]
    rw [Session.loadsOf, hp]
    simp only [hitems, Session.liveLoads_cons, Session.itemLoads_include_of_lt hlt, hitem,
      Except.isOk, Except.toBool, Bool.false_eq_true, if_false, List.append_nil, hresolve, hl']
  rw [hrun, hexpand, hloads, hresolve]

end ShaderVariants
