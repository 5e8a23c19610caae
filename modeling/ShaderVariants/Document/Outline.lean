import ShaderVariants.Document
import ShaderVariants.Text.Quoted
/-!
# Looking at a document

`Document.flagsNamed` lists the flags that a document's conditions name, in every branch, taken
or not, sorted and each once. `Document.outline` draws the tree, one node or branch per line,
children indented by two spaces: text runs and include paths quoted, each branch with its
guard, its resolved condition, and a star when it is the region's selected branch.
-/

namespace ShaderVariants

mutual
/-- The flags named by the conditions inside a node. -/
def Node.flagsNamed : Node → List Bytes
  | .text _ => []
  | .include _ _ => []
  | .region _ bs _ => Branch.flagsNamedAll bs

/-- The flags named by a list of branches and their bodies. -/
def Branch.flagsNamedAll : List Branch → List Bytes
  | [] => []
  | ⟨g, _, _, body⟩ :: bs => (g.map Guard.flag).toList ++ Node.flagsNamedAll body ++ Branch.flagsNamedAll bs

/-- The flags named inside a list of nodes. -/
def Node.flagsNamedAll : List Node → List Bytes
  | [] => []
  | n :: ns => n.flagsNamed ++ Node.flagsNamedAll ns
end

/-- The flags a document's conditions name, sorted and each once. -/
def Document.flagsNamed (d : Document) : List Bytes := Bytes.sortDedup (Node.flagsNamedAll d.nodes)

namespace Outline

/-- `n` spaces. -/
def pad (n : Nat) : Bytes := List.replicate n 32

/-- The spelling of a truth value. -/
def truth (b : Bool) : Bytes := Bytes.ofString (if b then "true" else "false")

/-- The line of a branch: `If(...)` for the first, `Else` for an `#else`, `ElseIf(...)` for the
rest. -/
def branchLine (first : Bool) (b : Branch) (selected : Bool) : Bytes :=
  let mark := if selected then Bytes.ofString " *" else []
  let cond (word : String) (g : Guard) :=
    Bytes.ofString word ++ Bytes.ofString "(" ++ (if g.negated then Bytes.ofString "!" else []) ++
      g.flag ++ Bytes.ofString " = " ++ truth b.cond ++ Bytes.ofString ")"
  match b.guard with
  | some g => cond (if first then "If" else "ElseIf") g ++ mark
  | none =>
    if first then cond "If" ⟨[], false⟩ ++ mark else Bytes.ofString "Else" ++ mark

end Outline

mutual
/-- The outline lines of a node at indentation `ind`. -/
def Node.outline (ind : Nat) : Node → Bytes
  | .text segs =>
    Outline.pad ind ++ Bytes.ofString "Text(" ++ Bytes.quote (segs.flatMap Segment.raw) ++
      Bytes.ofString ")\n"
  | .include path _ =>
    Outline.pad ind ++ Bytes.ofString "Include(" ++ path.quote ++ Bytes.ofString ")\n"
  | .region _ bs sel => Branch.outlineAll ind 0 sel bs

/-- The outline lines of the branches of a region, the first of them having index `i`. -/
def Branch.outlineAll (ind : Nat) (i : Nat) (sel : Option Nat) : List Branch → Bytes
  | [] => []
  | ⟨g, c, l, body⟩ :: bs =>
    Outline.pad ind ++ Outline.branchLine (i == 0) ⟨g, c, l, body⟩ (sel == some i) ++
      Bytes.ofString "\n" ++ Node.outlineAll (ind + 2) body ++ Branch.outlineAll ind (i + 1) sel bs

/-- The outline lines of a list of nodes. -/
def Node.outlineAll (ind : Nat) : List Node → Bytes
  | [] => []
  | n :: ns => n.outline ind ++ Node.outlineAll ind ns
end

/-- The outline of a document: its file, then its nodes indented by two. -/
def Document.outline (d : Document) : Bytes :=
  Bytes.ofString "Document(" ++ d.file ++ Bytes.ofString ")\n" ++ Node.outlineAll 2 d.nodes

end ShaderVariants
