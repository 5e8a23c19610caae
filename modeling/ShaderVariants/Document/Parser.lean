import ShaderVariants.Document
import ShaderVariants.Problem
import ShaderVariants.Table
/-!
# Reading a document from tokens

`Document.parse` reads the tokens of one file into a document, resolving every condition
against the flags as it goes, in dead branches too, so a flag the flags do not define fails the
parse wherever it is named. Includes are only recorded.

The grammar, over the tokens:

* a body is a sequence of items, ended by the end of the tokens or by an `#elseif`, `#else` or
  `#endif` at its own level;
* an item is a text, negation or reference token (these gather into text runs), an `#include`
  followed on its line by a text token that is neither blank nor the line end (the path), or a
  region;
* a region is `#if` with a condition, a body, any number of `#elseif` with a condition and a
  body, at most one `#else` and a body, and `#endif`;
* a condition is an optional negation and a flag, a text token that is neither blank nor the
  line end, on the directive's line; after it, and after `#else` and `#endif`, only blanks may
  stand up to the line end, which the directive takes.

The first violation met from the left is the problem reported; a region left open at the end of
the tokens is reported at its `#if`.
-/

namespace ShaderVariants

namespace Document

/-- What follows a directive on its line: blanks, which are taken along with the line end, and
nothing else. The tokens after the directive's line are what is left. -/
def closeLine (dir : Token) :
    (ts : List Token) → Except Problem {r : List Token // r.length ≤ ts.length}
  | [] => .ok ⟨[], by simp⟩
  | t :: ts =>
    if t.line != dir.line then .ok ⟨t :: ts, by simp⟩
    else if t.isLineEnd then .ok ⟨ts, by simp⟩
    else if t.isBlank then
      match closeLine dir ts with
      | .ok ⟨r, h⟩ => .ok ⟨r, by simp; omega⟩
      | .error e => .error e
    else if t.kind == .reference then .error (.trailingReference t.place t.text dir.text)
    else .error (.trailingText t.place t.text dir.text)

/-- Whether a token can be a flag or a path: text on the directive's line, neither blank nor
the line end. -/
def isArgument (dir t : Token) : Bool :=
  t.kind == .text && t.line == dir.line && !t.isLineEnd && !t.isBlank

/-- The condition after `#if` or `#elseif`: an optional negation, then a flag that the flags
define, then the end of the line. The branch comes back with an empty body. -/
def condition (flags : Flags) (dir : Token) (ts : List Token) :
    Except Problem (Branch × {r : List Token // r.length ≤ ts.length}) :=
  let (negated, after) : Bool × {r : List Token // r.length ≤ ts.length} :=
    match ts with
    | t :: r => if t.kind == .negation && t.line == dir.line then (true, ⟨r, by simp⟩)
      else (false, ⟨t :: r, Nat.le_refl _⟩)
    | [] => (false, ⟨[], Nat.le_refl _⟩)
  match after with
  | ⟨t :: r, h⟩ =>
    if isArgument dir t then
      match flags.get? t.text with
      | none => .error (.undefinedFlag t.place t.text)
      | some v =>
        match closeLine dir r with
        | .ok ⟨rest, hr⟩ =>
          .ok (⟨some ⟨t.text, negated⟩, v != negated, dir.line, []⟩,
            ⟨rest, by simp at h; omega⟩)
        | .error e => .error e
    else .error (.missingFlag dir.place dir.text)
  | ⟨[], _⟩ => .error (.missingFlag dir.place dir.text)

/-- The include that `dir` opens, with the tokens after its path. -/
def includeNode (dir : Token) :
    (ts : List Token) → Except Problem (Node × {r : List Token // r.length < ts.length})
  | t :: r =>
    if isArgument dir t then .ok (.include t.text dir.place, ⟨r, by simp⟩)
    else .error (.missingPath dir.place)
  | [] => .error (.missingPath dir.place)

/-- A segment put in front of a node list: it joins the text run that the list starts with, or
starts one. -/
def consSegment (s : Segment) : List Node → List Node
  | .text segs :: ns => .text (s :: segs) :: ns
  | ns => .text [s] :: ns

/-- The index of the first branch whose condition holds. -/
def selectedIndex (bs : List Branch) : Option Nat := bs.findIdx? (·.cond)

/-- A body of items, the tokens where it stopped, and the region parser it calls. -/
abbrev Parsed (α : Type) (ts : List Token) := Except Problem (α × {r : List Token // r.length ≤ ts.length})

mutual

/-- The items of a body, up to the end of the tokens or up to a `#elseif`, `#else` or `#endif`
of this level, which is left at the front of what remains. -/
def body (flags : Flags) (ts : List Token) : Parsed (List Node) ts :=
  match ts with
  | [] => .ok ([], ⟨[], Nat.le_refl _⟩)
  | t :: r =>
    match t.kind with
    | .text | .negation =>
      match body flags r with
      | .ok (ns, ⟨rest, h⟩) => .ok (consSegment (.literal t.text t.place) ns, ⟨rest, by simp; omega⟩)
      | .error e => .error e
    | .reference =>
      match body flags r with
      | .ok (ns, ⟨rest, h⟩) => .ok (consSegment (.reference t.text t.place) ns, ⟨rest, by simp; omega⟩)
      | .error e => .error e
    | .include =>
      match includeNode t r with
      | .ok (n, ⟨r1, h1⟩) =>
        match body flags r1 with
        | .ok (ns, ⟨rest, h⟩) => .ok (n :: ns, ⟨rest, by simp; omega⟩)
        | .error e => .error e
      | .error e => .error e
    | .openIf =>
      match region flags t r with
      | .ok (n, ⟨r1, h1⟩) =>
        match body flags r1 with
        | .ok (ns, ⟨rest, h⟩) => .ok (n :: ns, ⟨rest, by simp; omega⟩)
        | .error e => .error e
      | .error e => .error e
    | .elseIf | .otherwise | .endIf => .ok ([], ⟨t :: r, Nat.le_refl _⟩)
termination_by (ts.length, 0)

/-- The region that `opener` starts, with the tokens after its `#endif` line. -/
def region (flags : Flags) (opener : Token) (ts : List Token) : Parsed Node ts :=
  match condition flags opener ts with
  | .ok (b, ⟨r1, h1⟩) =>
    match arms flags opener [] b r1 with
    | .ok (n, ⟨rest, h⟩) => .ok (n, ⟨rest, by omega⟩)
    | .error e => .error e
  | .error e => .error e
termination_by (ts.length, 2)
decreasing_by
  rcases Nat.lt_or_eq_of_le h1 with h | h
  · exact Prod.Lex.left _ _ h
  · exact h ▸ Prod.Lex.right _ (by decide)

/-- The branches of a region from the branch `cur` on, whose body starts at `ts`; `done` holds
the branches before it. -/
def arms (flags : Flags) (opener : Token) (done : List Branch) (cur : Branch) (ts : List Token) :
    Parsed Node ts :=
  match body flags ts with
  | .error e => .error e
  | .ok (ns, ⟨rest, h⟩) =>
    let br := { cur with body := ns }
    let all := done ++ [br]
    match rest, h with
    | [], _ => .error (.unclosed opener.place)
    | stop :: r, h =>
      match stop.kind with
      | .elseIf =>
        if br.isElse then .error (.elseIfAfterElse stop.place)
        else match condition flags stop r with
          | .ok (b, ⟨r2, h2⟩) =>
            match arms flags opener all b r2 with
            | .ok (n, ⟨rest', h'⟩) => .ok (n, ⟨rest', by simp at h; omega⟩)
            | .error e => .error e
          | .error e => .error e
      | .otherwise =>
        if br.isElse then .error (.duplicateElse stop.place)
        else match closeLine stop r with
          | .ok ⟨r2, h2⟩ =>
            match arms flags opener all ⟨none, true, stop.line, []⟩ r2 with
            | .ok (n, ⟨rest', h'⟩) => .ok (n, ⟨rest', by simp at h; omega⟩)
            | .error e => .error e
          | .error e => .error e
      | _ =>
        match closeLine stop r with
        | .ok ⟨r2, h2⟩ =>
          .ok (.region opener.place all (selectedIndex all), ⟨r2, by simp at h; omega⟩)
        | .error e => .error e
termination_by (ts.length, 1)
decreasing_by
  · exact Prod.Lex.right _ (by decide)
  · exact Prod.Lex.left _ _ (by simp at h; omega)
  · exact Prod.Lex.left _ _ (by simp at h; omega)

end

end Document

/-- Reads the tokens of `file` into a document, resolving conditions against `flags`. -/
def Document.parse (flags : Flags) (file : Bytes) (ts : List Token) : Except Problem Document :=
  match Document.body flags ts with
  | .error e => .error e
  | .ok (ns, ⟨rest, _⟩) =>
    match rest with
    | stop :: _ => .error (.unmatched stop.place stop.text)
    | [] => .ok ⟨file, ns⟩

/-- Reads a source text of `file` into a document. -/
def Document.ofSource (flags : Flags) (file : Bytes) (src : Bytes) : Except Problem Document :=
  Document.parse flags file (Token.ofSource src file)

end ShaderVariants
