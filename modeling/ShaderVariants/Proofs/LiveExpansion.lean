import ShaderVariants.Expansion
import ShaderVariants.Proofs.Sweep
/-!
# Expansion as the contributions of the live tokens

`Session.expand` parses a source into a tree and renders the tree, reading each included file
when its node is rendered. `Session.expandLive` says the same thing without the tree: sweep the
tokens of the source (`Token.sweep`), and give each live item in order its contribution, a text
its text, a value reference its value as it stands, and an include the live expansion of the
file it names, read through the same loader with the same flags and values, one include level
deeper.

`expand_text_eq_live` states that the expanded text is the concatenation of these
contributions, and that the expansion fails exactly when the live expansion does, with the same
problem.
-/

namespace ShaderVariants

namespace Session

/-- The live expansion of a source of `file` at include depth `depth`: the pieces that the live
items of its tokens contribute, in order. -/
def expandLive (s : Session) (depth : Nat) (src file : Bytes) : Except Problem (List Piece) :=
  match Token.sweep s.flags true [] (Token.ofSource src file) with
  | .error e => .error e
  | .ok items => items.flatMapM fun
    | .segment sg => (s.segment sg).map ([·])
    | .include path place =>
      if _h : depth < s.limit then
        let target := Path.resolve path place.file
        match s.loader target with
        | .error c => .error (.unreadable place target c)
        | .ok src' => s.expandLive (depth + 1) src' target
      else .error (.tooDeep place path s.limit)
termination_by s.limit - depth

/-- The pieces a renderer at include depth `depth` writes for one item. -/
def renderItem (s : Session) (depth : Nat) : Item → Except Problem (List Piece)
  | .segment sg => (s.segment sg).map ([·])
  | .include path place => (s.renderNode depth (.include path place)).map Prod.fst

section Rendering

variable (s : Session) (depth : Nat)

theorem flatMapM_segments (segs : List Segment) :
    (segs.map Item.segment).flatMapM (s.renderItem depth) = segs.mapM s.segment := by
  induction segs with
  | nil => rfl
  | cons sg segs ih =>
    simp only [List.map_cons, List.flatMapM_cons, List.mapM_cons, ih, renderItem]
    cases s.segment sg <;> rfl

theorem flatMapM_items_append (xs ys : List Item) :
    (xs ++ ys).flatMapM (s.renderItem depth) =
      (do let ps ← xs.flatMapM (s.renderItem depth)
          let qs ← ys.flatMapM (s.renderItem depth)
          pure (ps ++ qs)) := by
  induction xs with
  | nil => simp
  | cons x xs ih =>
    simp only [List.cons_append, List.flatMapM_cons, ih, bind_assoc, pure_bind, List.append_assoc]

mutual
/-- A node renders to the pieces of its live items. -/
theorem renderNode_items : ∀ n : Node,
    (s.renderNode depth n).map Prod.fst = n.items.flatMapM (s.renderItem depth)
  | .text segs => by
    rw [renderNode, Node.items, flatMapM_segments]
    cases segs.mapM s.segment <;> rfl
  | .include path place => by
    simp [Node.items, renderItem]
  | .region p bs sel => by
    rw [renderNode, Node.items]
    exact renderBranches_items 0 sel bs

theorem renderBranches_items : ∀ (i : Nat) (sel : Option Nat) (bs : List Branch),
    (s.renderBranches depth i sel bs).map Prod.fst =
      (Branch.selectedItems i sel bs).flatMapM (s.renderItem depth)
  | i, sel, [] => by rw [renderBranches, Branch.selectedItems]; rfl
  | i, sel, ⟨g, c, l, body⟩ :: bs => by
    rw [renderBranches, Branch.selectedItems]
    split
    · exact renderNodes_items body
    · exact renderBranches_items (i + 1) sel bs

theorem renderNodes_items : ∀ ns : List Node,
    (s.renderNodes depth ns).map Prod.fst = (Node.itemsAll ns).flatMapM (s.renderItem depth)
  | [] => by rw [renderNodes]; rfl
  | n :: ns => by
    rw [renderNodes, Node.itemsAll_cons, flatMapM_items_append, ← renderNode_items n,
      ← renderNodes_items ns]
    cases s.renderNode depth n <;> cases s.renderNodes depth ns <;> rfl
end

/-- The pieces of a source as the renderer writes them at include depth `depth`. -/
def renderSource (src file : Bytes) : Except Problem (List Piece) :=
  match s.parse src file with
  | .error e => .error e
  | .ok doc => (s.renderNodes depth doc.nodes).map Prod.fst

/-- An include renders, below the depth limit, as the file it names, read through the loader. -/
theorem renderItem_include (path : Bytes) (place : Place) :
    s.renderItem depth (.include path place) =
      if depth < s.limit then
        match s.loader (Path.resolve path place.file) with
        | .error c => .error (.unreadable place (Path.resolve path place.file) c)
        | .ok src => s.renderSource (depth + 1) src (Path.resolve path place.file)
      else .error (.tooDeep place path s.limit) := by
  rw [renderItem, renderNode]
  split
  · dsimp only
    cases s.loader (Path.resolve path place.file) with
    | error c => rfl
    | ok src =>
      simp only [renderSource, parse]
      cases Document.ofSource s.flags (Path.resolve path place.file) src with
      | error e => rfl
      | ok doc =>
        dsimp only
        cases s.renderNodes (depth + 1) doc.nodes <;> rfl
  · rfl

end Rendering

/-- The renderer writes the live expansion: by induction on how far the include depth is from
its limit, each include being the same statement one level deeper. -/
theorem renderSource_eq_expandLive (s : Session) (depth : Nat) (src file : Bytes) :
    s.renderSource depth src file = s.expandLive depth src file := by
  have hsweep := parse_map_items s.flags file (Token.ofSource src file)
  rw [renderSource, expandLive]
  cases hp : s.parse src file with
  | error e =>
    simp only [parse, Document.ofSource] at hp
    rw [hp] at hsweep
    rw [← hsweep]
    rfl
  | ok doc =>
    simp only [parse, Document.ofSource] at hp
    rw [hp] at hsweep
    rw [← hsweep]
    change (s.renderNodes depth doc.nodes).map Prod.fst = List.flatMapM _ (Node.itemsAll doc.nodes)
    rw [renderNodes_items]
    congr 1
    funext x
    rcases x with sg | ⟨path, place⟩
    · rfl
    · rw [renderItem_include]
      split
      · dsimp only
        cases s.loader (Path.resolve path place.file) with
        | error c => rfl
        | ok src' => exact renderSource_eq_expandLive s (depth + 1) src' _
      · rfl
termination_by s.limit - depth

/-- The expansion's text and source map are those of the live expansion's pieces. -/
theorem expand_map_pieces (s : Session) (src file : Bytes) :
    (s.expand src file).map (fun e => (e.text, e.origins)) =
      (s.expandLive 0 src file).map (fun ps => (ps.flatMap Piece.text, Expansion.lineOrigins ps)) := by
  rw [← renderSource_eq_expandLive, expand, renderSource]
  cases s.parse src file with
  | error e => rfl
  | ok doc =>
    simp only [render]
    cases s.renderNodes 0 doc.nodes <;> rfl

/-- **Expansion is the concatenation of the live contributions.** The expanded text of a source
is, in order, the texts of its live tokens, the values of its live value references as they
stand, and the expansions of the files its live includes name; the expansion fails exactly when
this does, with the same problem. -/
theorem expand_text_eq_live (s : Session) (src file : Bytes) :
    (s.expand src file).map Expansion.text =
      (s.expandLive 0 src file).map (·.flatMap Piece.text) := by
  have h := congrArg (Except.map Prod.fst) (expand_map_pieces s src file)
  cases he : s.expand src file <;> cases hl : s.expandLive 0 src file <;>
    simp_all [Except.map]

end Session

end ShaderVariants
