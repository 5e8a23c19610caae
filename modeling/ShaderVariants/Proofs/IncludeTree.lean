import ShaderVariants.Proofs.LiveExpansion
import ShaderVariants.Proofs.FlagReads
/-!
# The documents an expansion reads

The renderer walks a document's tree, but what it does depends only on the tree's live items
(`Node.itemsAll`): the segments and includes of the branches that its regions select.
`renderNodes_eq_live` states that rendering a list of nodes is rendering their live items one
after the other (`Session.renderLive`), a segment as its piece and an include as the renderer
writes it, stopping at the first item that fails.

Expanding a source reads a tree of documents: the source's own, and below each document read
the documents of the files its live includes name, read through the loader and parsed with the
session's flags. `Session.Reads` lists them with the number of includes that lead to each. In a
successful expansion every document read is rendered at the include depth of its count, below
the depth limit when it has a live include, and the flags its conditions name are among the
expansion's flags (`Reads.rendered`).
-/

namespace ShaderVariants

/-- A text is among the sorted texts exactly when it is among the texts. -/
@[simp] theorem Bytes.mem_sortDedup {x : Bytes} {xs : List Bytes} :
    x ∈ Bytes.sortDedup xs ↔ x ∈ xs := by
  simp [Bytes.sortDedup, List.mem_eraseDups, List.mem_mergeSort]

namespace Session

/-! ## Rendering the live items -/

/-- Two renderings one after the other: pieces and flags joined, the first failure kept. -/
def joinRendered (r₁ r₂ : Rendered) : Rendered :=
  match r₁ with
  | .error e => .error e
  | .ok (ps, fs) =>
    match r₂ with
    | .ok (ps', fs') => .ok (ps ++ ps', fs ++ fs')
    | .error e => .error e

/-- What the renderer writes for one live item: a segment its piece, an include what it writes
for the include. -/
def renderLiveItem (s : Session) (depth : Nat) : Item → Rendered
  | .segment sg => (s.segment sg).map fun p => ([p], [])
  | .include path place => s.renderNode depth (.include path place)

/-- The live items rendered one after the other. -/
def renderLive (s : Session) (depth : Nat) : List Item → Rendered
  | [] => .ok ([], [])
  | it :: its => joinRendered (s.renderLiveItem depth it) (s.renderLive depth its)

@[simp] theorem joinRendered_error (e : Problem) (r : Rendered) :
    joinRendered (.error e) r = .error e := rfl

@[simp] theorem joinRendered_nil_left (r : Rendered) : joinRendered (.ok ([], [])) r = r := by
  cases r <;> rfl

@[simp] theorem joinRendered_nil_right (r : Rendered) : joinRendered r (.ok ([], [])) = r := by
  rcases r with e | ⟨ps, fs⟩ <;> simp [joinRendered]

theorem joinRendered_assoc (r₁ r₂ r₃ : Rendered) :
    joinRendered (joinRendered r₁ r₂) r₃ = joinRendered r₁ (joinRendered r₂ r₃) := by
  rcases r₁ with e | ⟨ps, fs⟩ <;> rcases r₂ with e | ⟨ps', fs'⟩ <;>
    rcases r₃ with e | ⟨ps'', fs''⟩ <;> simp [joinRendered]

/-- Two renderings joined succeed exactly when both do. -/
theorem joinRendered_eq_ok {r₁ r₂ : Rendered} {ps : List Piece} {fs : List Bytes} :
    joinRendered r₁ r₂ = .ok (ps, fs) ↔
      ∃ ps₁ fs₁ ps₂ fs₂, r₁ = .ok (ps₁, fs₁) ∧ r₂ = .ok (ps₂, fs₂) ∧
        ps = ps₁ ++ ps₂ ∧ fs = fs₁ ++ fs₂ := by
  constructor
  · intro h
    rcases r₁ with e | ⟨ps₁, fs₁⟩
    · cases h
    · rcases r₂ with e | ⟨ps₂, fs₂⟩
      · cases h
      · simp only [joinRendered, Except.ok.injEq, Prod.mk.injEq] at h
        exact ⟨ps₁, fs₁, ps₂, fs₂, rfl, rfl, h.1.symm, h.2.symm⟩
  · rintro ⟨ps₁, fs₁, ps₂, fs₂, rfl, rfl, rfl, rfl⟩
    rfl

variable (s : Session) (depth : Nat)

@[simp] theorem renderLive_nil : s.renderLive depth [] = .ok ([], []) := rfl

@[simp] theorem renderLive_cons (it : Item) (its : List Item) :
    s.renderLive depth (it :: its) = joinRendered (s.renderLiveItem depth it) (s.renderLive depth its) :=
  rfl

theorem renderLive_append (xs ys : List Item) :
    s.renderLive depth (xs ++ ys) = joinRendered (s.renderLive depth xs) (s.renderLive depth ys) := by
  induction xs with
  | nil => simp
  | cons x xs ih => simp [ih, joinRendered_assoc]

theorem renderLive_segments (segs : List Segment) :
    s.renderLive depth (segs.map Item.segment) = s.renderNode depth (.text segs) := by
  induction segs with
  | nil => rw [renderNode]; rfl
  | cons sg segs ih =>
    simp only [List.map_cons, renderLive_cons, ih, renderNode, List.mapM_cons, renderLiveItem]
    cases s.segment sg <;> cases segs.mapM s.segment <;> rfl

mutual
/-- A node renders as its live items. -/
theorem renderNode_eq_live : ∀ n : Node, s.renderNode depth n = s.renderLive depth n.items
  | .text segs => by rw [Node.items, renderLive_segments]
  | .include path place => by simp [Node.items, renderLiveItem]
  | .region p bs sel => by
    rw [renderNode, Node.items]
    exact renderBranches_eq_live 0 sel bs

theorem renderBranches_eq_live : ∀ (i : Nat) (sel : Option Nat) (bs : List Branch),
    s.renderBranches depth i sel bs = s.renderLive depth (Branch.selectedItems i sel bs)
  | i, sel, [] => by rw [renderBranches, Branch.selectedItems]; rfl
  | i, sel, ⟨g, c, l, body⟩ :: bs => by
    rw [renderBranches, Branch.selectedItems]
    split
    · exact renderNodes_eq_live body
    · exact renderBranches_eq_live (i + 1) sel bs

/-- **Rendering is rendering the live items.** -/
theorem renderNodes_eq_live : ∀ ns : List Node,
    s.renderNodes depth ns = s.renderLive depth (Node.itemsAll ns)
  | [] => by rw [renderNodes]; rfl
  | n :: ns => by
    rw [renderNodes, Node.itemsAll_cons, renderLive_append, ← renderNode_eq_live n,
      ← renderNodes_eq_live ns]
    rfl
end

/-- What the renderer writes for an include: below the depth limit, the file the include names,
read through the loader, parsed with the session's flags and rendered one include deeper, with
the flags its conditions name in front of those the deeper rendering collects. -/
theorem renderNode_include_eq_ok {path : Bytes} {place : Place} {ps : List Piece}
    {fs : List Bytes} :
    s.renderNode depth (.include path place) = .ok (ps, fs) ↔
      depth < s.limit ∧ ∃ src d fs', s.loader (Path.resolve path place.file) = .ok src ∧
        s.parse src (Path.resolve path place.file) = .ok d ∧
        s.renderNodes (depth + 1) d.nodes = .ok (ps, fs') ∧ fs = Node.flagsNamedAll d.nodes ++ fs' := by
  rw [renderNode]
  split
  · rename_i hlt
    dsimp only
    simp only [hlt, true_and, parse]
    cases hl : s.loader (Path.resolve path place.file) with
    | error c => simp
    | ok src =>
      cases hp : Document.ofSource s.flags (Path.resolve path place.file) src with
      | error e => simp [hp]
      | ok d =>
        cases hr : s.renderNodes (depth + 1) d.nodes with
        | error e => simp [hp, hr]
        | ok p =>
          obtain ⟨ps', fs'⟩ := p
          constructor
          · intro h
            simp only [hp, hr, Except.ok.injEq, Prod.mk.injEq] at h
            obtain ⟨rfl, rfl⟩ := h
            exact ⟨src, d, fs', rfl, hp, hr, rfl⟩
          · rintro ⟨src', d', fs'', hsrc, hd, hr', rfl⟩
            cases hsrc
            rw [hp] at hd
            cases hd
            rw [hr] at hr'
            cases hr'
            simp [hp, hr]
  · rename_i hlt
    simp [hlt]

/-- In a successful rendering of live items, every include among them renders, with flags that
the whole rendering collects. -/
theorem renderLive_include_ok {items : List Item} {ps : List Piece} {fs : List Bytes}
    (h : s.renderLive depth items = .ok (ps, fs)) {path : Bytes} {place : Place}
    (hmem : Item.include path place ∈ items) :
    ∃ ps₁ fs₁, s.renderNode depth (.include path place) = .ok (ps₁, fs₁) ∧ ∀ x ∈ fs₁, x ∈ fs := by
  induction items generalizing ps fs with
  | nil => cases hmem
  | cons it its ih =>
    obtain ⟨ps₁, fs₁, ps₂, fs₂, h₁, h₂, -, rfl⟩ := joinRendered_eq_ok.1 h
    rcases List.mem_cons.1 hmem with rfl | hmem
    · exact ⟨ps₁, fs₁, h₁, fun x hx => List.mem_append_left _ hx⟩
    · obtain ⟨ps', fs', h', hsub⟩ := ih h₂ hmem
      exact ⟨ps', fs', h', fun x hx => List.mem_append_right _ (hsub x hx)⟩

/-- Every flag a rendering of live items collects comes from one of its includes. -/
theorem renderLive_flags_mem {items : List Item} {ps : List Piece} {fs : List Bytes}
    (h : s.renderLive depth items = .ok (ps, fs)) {x : Bytes} (hx : x ∈ fs) :
    ∃ path place ps₁ fs₁, Item.include path place ∈ items ∧
      s.renderNode depth (.include path place) = .ok (ps₁, fs₁) ∧ x ∈ fs₁ := by
  induction items generalizing ps fs with
  | nil => simp at h; obtain ⟨-, rfl⟩ := h; cases hx
  | cons it its ih =>
    obtain ⟨ps₁, fs₁, ps₂, fs₂, h₁, h₂, -, rfl⟩ := joinRendered_eq_ok.1 h
    rcases List.mem_append.1 hx with hx | hx
    · -- a segment collects no flag, so the item is an include
      cases it with
      | segment sg =>
        simp only [renderLiveItem] at h₁
        cases hsg : s.segment sg <;> simp [hsg, Except.map] at h₁
        obtain ⟨-, rfl⟩ := h₁
        cases hx
      | «include» path place => exact ⟨path, place, ps₁, fs₁, by simp, h₁, hx⟩
    · obtain ⟨path, place, ps', fs', hmem, h', hx'⟩ := ih h₂ hx
      exact ⟨path, place, ps', fs', List.mem_cons_of_mem _ hmem, h', hx'⟩

end Session

/-! ## The documents read -/

/-- The documents that expanding the source `src` of `file` reads, with the number of includes
that lead to each: the source's own document, and the document of every file that a live
include of a document read names, read through the loader and parsed with the session's
flags. -/
inductive Session.Reads (s : Session) (src file : Bytes) : Nat → Document → Prop
  | root {d : Document} : s.parse src file = .ok d → s.Reads src file 0 d
  | included {k : Nat} {d d' : Document} {path : Bytes} {place : Place} {src' : Bytes} :
      s.Reads src file k d → Item.include path place ∈ Node.itemsAll d.nodes →
      s.loader (Path.resolve path place.file) = .ok src' →
      s.parse src' (Path.resolve path place.file) = .ok d' → s.Reads src file (k + 1) d'

namespace Session

variable {s : Session} {src file : Bytes}

/-- A successful expansion parses the source and renders its document from include depth 0; its
flags are those the document's conditions name and those the rendering collects. -/
theorem expand_eq_ok {e : Expansion} :
    s.expand src file = .ok e ↔ ∃ d ps fs, s.parse src file = .ok d ∧
      s.renderNodes 0 d.nodes = .ok (ps, fs) ∧
      e = Expansion.ofPieces ps (Node.flagsNamedAll d.nodes ++ fs) := by
  rw [expand]
  cases hp : s.parse src file with
  | error e' => simp
  | ok d =>
    simp only [render, Except.ok.injEq, exists_and_left, exists_eq_left']
    cases hr : s.renderNodes 0 d.nodes with
    | error e' => simp
    | ok p =>
      obtain ⟨ps, fs⟩ := p
      simp only [Except.ok.injEq, Prod.mk.injEq]
      constructor
      · intro h
        exact ⟨ps, fs, ⟨rfl, rfl⟩, h.symm⟩
      · rintro ⟨_, _, ⟨rfl, rfl⟩, h⟩
        exact h.symm

/-- **Every document a successful expansion reads is rendered**, at the include depth of its
count, and the flags its conditions name are among the expansion's flags, with those the
rendering below it collects. -/
theorem Reads.rendered {e : Expansion} (he : s.expand src file = .ok e) {k : Nat} {d : Document}
    (hd : s.Reads src file k d) :
    ∃ ps fs, s.renderNodes k d.nodes = .ok (ps, fs) ∧
      ∀ x ∈ Node.flagsNamedAll d.nodes ++ fs, x ∈ e.flags := by
  induction hd with
  | root hp =>
    obtain ⟨d', ps, fs, hp', hr, rfl⟩ := expand_eq_ok.1 he
    rw [hp] at hp'
    cases hp'
    exact ⟨ps, fs, hr, fun x hx => by simpa [Expansion.ofPieces, Bytes.mem_sortDedup] using hx⟩
  | @included k d d' path place src' _ hmem hl hp ih =>
    obtain ⟨ps, fs, hr, hsub⟩ := ih
    rw [renderNodes_eq_live] at hr
    obtain ⟨ps₁, fs₁, h₁, hsub₁⟩ := renderLive_include_ok s k hr hmem
    obtain ⟨-, src'', d'', fs', hl', hp', hr', rfl⟩ := (renderNode_include_eq_ok s k).1 h₁
    rw [hl] at hl'
    cases hl'
    rw [hp] at hp'
    cases hp'
    exact ⟨ps₁, fs', hr', fun x hx => hsub x (List.mem_append_right _ (hsub₁ x hx))⟩

end Session

end ShaderVariants
