import ShaderVariants.Proofs.IncludeDepth
import ShaderVariants.Proofs.LineSpelling
import ShaderVariants.Proofs.SourceMap
/-!
# The shape of a parsed document

A parsed document keeps, at every depth and in dead branches too, the form its renderer relies
on. A text run holds at least one segment, none of them empty, and never follows another text
run. A region has at least one branch; every branch but the last is guarded by a flag, and a last
branch without a guard is the `#else`, which always holds. A guarded branch names a flag that
the flags define and holds exactly when the flag's value differs from its negation. The selected
index is the first branch that holds, if any, so it always points at a branch.

`Node.WellFormed` says this of a node and `Node.WellFormedList` of a node list. The three
functions of the parser build only such nodes from tokens none of which is empty
(`parse_shaped`, by their joint induction), and the tokenizer makes no empty token
(`Token.filled_ofSource`); so every document a session parses is well formed
(`Session.parse_wellFormed`).
-/

namespace ShaderVariants

/-! ## Well-formed documents -/

/-- What a segment holds: its literal text, or the name of the value it refers to. -/
def Segment.content : Segment → Bytes
  | .literal t _ => t
  | .reference n _ => n

/-- Whether a node is a text run. -/
def Node.isText : Node → Bool
  | .text _ => true
  | _ => false

/-- A branch resolved against `flags`: a guarded branch names a flag that `flags` define, and
holds exactly when the flag's value differs from its negation; the `#else` branch holds. -/
def Branch.Resolved (flags : Flags) (b : Branch) : Prop :=
  match b.guard with
  | some g => g.flag ≠ [] ∧ ∃ v, flags.get? g.flag = some v ∧ b.cond = (v != g.negated)
  | none => b.cond = true

/-- The branches of a region resolved against `flags`, with `sel` selected: there is at least
one, all but the last are guarded, each is resolved, and `sel` is the first branch that holds,
or none when none holds. -/
structure Branch.Shaped (flags : Flags) (bs : List Branch) (sel : Option Nat) : Prop where
  ne_nil : bs ≠ []
  guarded : ∀ i b, bs[i]? = some b → i + 1 < bs.length → b.guard.isSome
  resolved : ∀ b ∈ bs, b.Resolved flags
  selected : ∀ i, sel = some i →
    ∃ b, bs[i]? = some b ∧ b.cond = true ∧ ∀ j < i, ∀ b', bs[j]? = some b' → b'.cond = false
  unselected : sel = none → ∀ b ∈ bs, b.cond = false

mutual

/-- A node as the parser builds it under `flags`: a text run of one or more segments, none of
them empty; an include; or a region whose branches are shaped and whose bodies are well
formed. -/
inductive Node.WellFormed (flags : Flags) : Node → Prop
  | text {segs : List Segment} : segs ≠ [] → (∀ s ∈ segs, s.content ≠ []) →
      Node.WellFormed flags (.text segs)
  | include {path : Bytes} {place : Place} : Node.WellFormed flags (.include path place)
  | region {place : Place} {bs : List Branch} {sel : Option Nat} : Branch.Shaped flags bs sel →
      (∀ b ∈ bs, Node.WellFormedList flags b.body) → Node.WellFormed flags (.region place bs sel)

/-- A node list as the parser builds it under `flags`: well-formed nodes, and no text run right
after another. -/
inductive Node.WellFormedList (flags : Flags) : List Node → Prop
  | nil : Node.WellFormedList flags []
  | cons {n : Node} {ns : List Node} : Node.WellFormed flags n →
      (n.isText = true → ∀ m ∈ ns.head?, m.isText = false) → Node.WellFormedList flags ns →
      Node.WellFormedList flags (n :: ns)

end

/-- A document whose nodes are well formed under `flags`. -/
def Document.WellFormed (flags : Flags) (d : Document) : Prop := Node.WellFormedList flags d.nodes

section Build

variable {flags : Flags}

/-- A text run of one non-empty segment, in front of a list that starts with no text run. -/
theorem Node.WellFormedList.startRun {s : Segment} {ns : List Node} (hs : s.content ≠ [])
    (h : Node.WellFormedList flags ns) (hhead : ∀ m ∈ ns.head?, m.isText = false) :
    Node.WellFormedList flags (.text [s] :: ns) :=
  .cons (.text (List.cons_ne_nil s []) (by simpa using hs)) (fun _ => hhead) h

/-- A non-empty segment put in front of a well-formed list joins its leading text run, or
starts one, and the list stays well formed. -/
theorem Node.WellFormedList.consSegment {s : Segment} {ns : List Node} (hs : s.content ≠ [])
    (h : Node.WellFormedList flags ns) : Node.WellFormedList flags (Document.consSegment s ns) := by
  cases ns with
  | nil => exact startRun hs h (by simp)
  | cons n ns =>
    cases n with
    | text segs =>
      cases h with
      | cons hn hhead hrest =>
        cases hn with
        | text hne hsegs =>
          exact .cons (.text (List.cons_ne_nil s segs) (List.forall_mem_cons.2 ⟨hs, hsegs⟩))
            hhead hrest
    | «include» path place => exact startRun hs h (by simp [Node.isText])
    | region place bs sel => exact startRun hs h (by simp [Node.isText])

/-- The selected index is the first branch that holds. -/
theorem Document.selectedIndex_eq_some {bs : List Branch} {i : Nat}
    (h : Document.selectedIndex bs = some i) :
    ∃ b, bs[i]? = some b ∧ b.cond = true ∧ ∀ j < i, ∀ b', bs[j]? = some b' → b'.cond = false := by
  obtain ⟨hi, hcond, hfirst⟩ := List.findIdx?_eq_some_iff_getElem.1 h
  refine ⟨bs[i], List.getElem?_eq_getElem hi, hcond, fun j hj b' hb' => ?_⟩
  obtain ⟨hj', rfl⟩ := List.getElem?_eq_some_iff.1 hb'
  simpa using hfirst j hj

/-- A branch closed before the current one: guarded, resolved, with a well-formed body. -/
def Branch.Closed (flags : Flags) (b : Branch) : Prop :=
  b.guard.isSome ∧ b.Resolved flags ∧ Node.WellFormedList flags b.body

/-- Closed branches, then a resolved branch with a well-formed body, make a well-formed region
that selects the first branch that holds. -/
theorem Node.WellFormed.region_push {place : Place} {done : List Branch} {br : Branch}
    (hdone : ∀ b ∈ done, b.Closed flags) (hbr : br.Resolved flags)
    (hbody : Node.WellFormedList flags br.body) :
    (Node.region place (done ++ [br]) (Document.selectedIndex (done ++ [br]))).WellFormed flags := by
  refine .region ⟨by simp, ?_, ?_, fun _ h => Document.selectedIndex_eq_some h,
    fun h => List.findIdx?_eq_none_iff.1 h⟩ ?_
  · -- only the last branch may lack a guard
    intro i b hb hi
    have hlt : i < done.length := by simpa using hi
    rw [List.getElem?_append_left hlt] at hb
    exact (hdone b (List.mem_of_getElem? hb)).1
  · intro b hb
    rcases List.mem_append.1 hb with hb | hb
    · exact (hdone b hb).2.1
    · rw [List.mem_singleton.1 hb]
      exact hbr
  · intro b hb
    rcases List.mem_append.1 hb with hb | hb
    · exact (hdone b hb).2.2
    · rw [List.mem_singleton.1 hb]
      exact hbody

/-- A guarded, resolved branch closed with a well-formed body joins the closed branches. -/
theorem Branch.closed_push {done : List Branch} {cur : Branch} {ns : List Node}
    (hdone : ∀ b ∈ done, b.Closed flags) (hguard : cur.isElse = false)
    (hcur : cur.Resolved flags) (hns : Node.WellFormedList flags ns) :
    ∀ b ∈ done ++ [{ cur with body := ns }], b.Closed flags := by
  intro b hb
  rcases List.mem_append.1 hb with hb | hb
  · exact hdone b hb
  · rw [List.mem_singleton.1 hb]
    exact ⟨by simpa [Branch.isElse] using hguard, hcur, hns⟩

end Build

/-! ## Tokens that are never empty -/

/-- Tokens none of which is empty, as the tokenizer makes them. -/
def Token.Filled (ts : List Token) : Prop := ∀ t ∈ ts, t.text ≠ []

theorem Token.Filled.suffix {ts r : List Token} (h : Token.Filled ts) (hr : r <:+ ts) :
    Token.Filled r :=
  fun t ht => h t (hr.subset ht)

/-- The tokenizer makes no empty token. -/
theorem Token.filled_ofSource (src file : Bytes) : Token.Filled (Token.ofSource src file) := by
  intro t ht
  obtain ⟨p, -, ht⟩ := List.mem_flatMap.1 ht
  rw [Token.ofLine_eq] at ht
  obtain ⟨q, hq, rfl⟩ := List.mem_map.1 ht
  exact (Token.scan_line_spelled (Token.words p.1) (Token.words_alternate p.1)
    (Token.words_sound p.1)).1 q hq

/-! ## The parser builds well-formed nodes -/

section Parse

variable {flags : Flags}

/-- A condition read from filled tokens gives a guarded branch resolved against the flags. -/
theorem condition_resolved {dir : Token} {ts r : List Token} {b : Branch}
    {hr : r.length ≤ ts.length} (h : Document.condition flags dir ts = .ok (b, ⟨r, hr⟩))
    (hts : Token.Filled ts) : b.Resolved flags := by
  obtain ⟨negated, f, after, v, hsplit, -, hv, -, rfl⟩ := Document.condition_eq_ok.1 h
  -- the flag is a token of the stream, so it is not empty
  have hf : f ∈ ts := by
    rcases hsplit with ⟨rfl, -⟩ | ⟨n, rfl, -⟩ <;> simp
  exact ⟨hts f hf, v, hv, rfl⟩

/-- An include takes its path, a front part of the tokens, and is no text run. -/
theorem includeNode_shaped {dir : Token} {ts r : List Token} {n : Node}
    {hr : r.length < ts.length} (h : Document.includeNode dir ts = .ok (n, ⟨r, hr⟩)) :
    r <:+ ts ∧ n.WellFormed flags ∧ n.isText = false := by
  obtain ⟨path, rfl, harg⟩ := Token.path_of_includeNode h
  simp only [Document.includeNode, harg, if_true, Except.ok.injEq, Prod.mk.injEq] at h
  obtain ⟨rfl, -⟩ := h
  exact ⟨List.suffix_cons path r, .include, rfl⟩

/-- What a body read from filled tokens gives: it stops at a suffix of the tokens, and its nodes
are well formed. -/
def BodyShaped (flags : Flags) (ts : List Token) : Prop :=
  ∀ ns rest h, Document.body flags ts = .ok (ns, ⟨rest, h⟩) → Token.Filled ts →
    rest <:+ ts ∧ Node.WellFormedList flags ns

/-- What a region read from filled tokens gives: it stops at a suffix of the tokens, and it is a
well-formed node, no text run. -/
def RegionShaped (flags : Flags) (opener : Token) (ts : List Token) : Prop :=
  ∀ n rest h, Document.region flags opener ts = .ok (n, ⟨rest, h⟩) → Token.Filled ts →
    rest <:+ ts ∧ n.WellFormed flags ∧ n.isText = false

/-- What the branches of a region read from `cur` on give, from filled tokens, when `cur` is
resolved and the branches before it closed: the same as a region. -/
def ArmsShaped (flags : Flags) (opener : Token) (done : List Branch) (cur : Branch)
    (ts : List Token) : Prop :=
  ∀ n rest h, Document.arms flags opener done cur ts = .ok (n, ⟨rest, h⟩) → Token.Filled ts →
    cur.Resolved flags → (∀ b ∈ done, b.Closed flags) →
    rest <:+ ts ∧ n.WellFormed flags ∧ n.isText = false

/-- A segment read from a token in front of a well-formed body. -/
theorem segment_shaped {t : Token} {ts rest : List Token} {ns : List Node} {s : Segment}
    (hs : s.content = t.text) (hfill : Token.Filled (t :: ts))
    (hbody : rest <:+ ts ∧ Node.WellFormedList flags ns) :
    rest <:+ t :: ts ∧ Node.WellFormedList flags (Document.consSegment s ns) :=
  ⟨hbody.1.trans (List.suffix_cons t ts),
    hbody.2.consSegment (hs ▸ hfill t List.mem_cons_self)⟩

/-- A node that is no text run, read after a token, in front of a well-formed body. -/
theorem node_shaped {t : Token} {ts r rest : List Token} {n : Node} {ns : List Node}
    (hn : r <:+ ts ∧ n.WellFormed flags ∧ n.isText = false)
    (hbody : rest <:+ r ∧ Node.WellFormedList flags ns) :
    rest <:+ t :: ts ∧ Node.WellFormedList flags (n :: ns) :=
  ⟨hbody.1.trans (hn.1.trans (List.suffix_cons t ts)), .cons hn.2.1 (by simp [hn.2.2]) hbody.2⟩

/-- **The parser builds well-formed nodes**, by the joint induction over successful readings:
the branches closed so far and the current branch's resolution are carried through `arms`, and
every reading stops at a suffix of its tokens, so the tokens read later stay filled. -/
theorem parse_shaped (flags : Flags) :
    (∀ ts, BodyShaped flags ts) ∧ (∀ opener ts, RegionShaped flags opener ts) ∧
      (∀ opener done cur ts, ArmsShaped flags opener done cur ts) := by
  apply Document.ok_induction
  · -- the end of the tokens
    intro h _
    exact ⟨List.suffix_refl _, .nil⟩
  · -- a text or negation token joins the text run after it
    intro t ts ns rest h h' _ _ ih hfill
    exact segment_shaped rfl hfill (ih (hfill.suffix (List.suffix_cons t ts)))
  · -- a value reference joins the text run after it
    intro t ts ns rest h h' _ _ ih hfill
    exact segment_shaped rfl hfill (ih (hfill.suffix (List.suffix_cons t ts)))
  · -- an include and its path
    intro t ts n r1 h1 ns rest h h' _ hn _ ih hfill
    have hinc : r1 <:+ ts ∧ n.WellFormed flags ∧ n.isText = false := includeNode_shaped hn
    have hfill' : Token.Filled r1 := hfill.suffix (hinc.1.trans (List.suffix_cons t ts))
    exact node_shaped hinc (ih hfill')
  · -- a region, then the rest of the body
    intro t ts n r1 h1 ns rest h h' _ _ ihr _ ih hfill
    have hregion := ihr (hfill.suffix (List.suffix_cons t ts))
    have hfill' : Token.Filled r1 := hfill.suffix (hregion.1.trans (List.suffix_cons t ts))
    exact node_shaped hregion (ih hfill')
  · -- a token that ends the body
    intro t ts h _ _
    exact ⟨List.suffix_refl _, .nil⟩
  · -- a region: its condition, then its branches, with none closed yet
    intro opener ts b r1 h1 n rest h h' hc _ ih hfill
    have hr1 := Document.condition_suffix hc
    have hres := condition_resolved hc hfill
    obtain ⟨hsuf, hn, hnt⟩ := ih (hfill.suffix hr1) hres (by simp)
    exact ⟨hsuf.trans hr1, hn, hnt⟩
  · -- an `#elseif` closes a guarded branch and opens the next
    intro opener done cur ts ns stop r h b r2 h2 n rest h3 h' _ ih _ hguard hc _ iha hfill hcur
      hdone
    obtain ⟨hsuf, hns⟩ := ih hfill
    have hr : r <:+ ts := (List.suffix_cons stop r).trans hsuf
    have hr2 := Document.condition_suffix hc
    have hres := condition_resolved hc (hfill.suffix hr)
    obtain ⟨hsuf', hn, hnt⟩ := iha (hfill.suffix (hr2.trans hr)) hres
      (Branch.closed_push hdone hguard hcur hns)
    exact ⟨hsuf'.trans (hr2.trans hr), hn, hnt⟩
  · -- the `#else` closes a guarded branch and opens the last, which holds
    intro opener done cur ts ns stop r h r2 h2 n rest h3 h' _ ih _ hguard hcl _ iha hfill hcur hdone
    obtain ⟨hsuf, hns⟩ := ih hfill
    have hr : r <:+ ts := (List.suffix_cons stop r).trans hsuf
    have hr2 := Document.closeLine_suffix hcl
    obtain ⟨hsuf', hn, hnt⟩ := iha (hfill.suffix (hr2.trans hr)) rfl
      (Branch.closed_push hdone hguard hcur hns)
    exact ⟨hsuf'.trans (hr2.trans hr), hn, hnt⟩
  · -- the `#endif` closes the last branch and the region
    intro opener done cur ts ns stop r h r2 h2 h' _ ih _ _ hcl hfill hcur hdone
    obtain ⟨hsuf, hns⟩ := ih hfill
    have hr2 := Document.closeLine_suffix hcl
    exact ⟨hr2.trans ((List.suffix_cons stop r).trans hsuf),
      Node.WellFormed.region_push hdone hcur hns, rfl⟩

end Parse

/-- A document parsed from filled tokens is well formed. -/
theorem Document.wellFormed_of_parse {flags : Flags} {file : Bytes} {ts : List Token}
    {d : Document} (h : Document.parse flags file ts = .ok d) (hts : Token.Filled ts) :
    d.WellFormed flags := by
  unfold Document.parse at h
  cases hb : Document.body flags ts with
  | error e => rw [hb] at h; cases h
  | ok p =>
    obtain ⟨ns, rest, hr⟩ := p
    rw [hb] at h
    cases rest with
    | cons stop r => cases h
    | nil =>
      cases h
      exact ((parse_shaped flags).1 ts ns [] hr hb hts).2

/-- **Every parsed document is well formed**, at every depth and in dead branches too: text
runs are never empty and never adjacent; every region has a branch, all its branches but the
last are guarded, each guarded branch names a defined flag and holds exactly when the flag's
value differs from its negation, a last unguarded branch is an `#else` that holds, and the
selected index is the first branch that holds, if any. -/
theorem Session.parse_wellFormed {s : Session} {src file : Bytes} {d : Document}
    (h : s.parse src file = .ok d) : d.WellFormed s.flags :=
  Document.wellFormed_of_parse h (Token.filled_ofSource src file)

/-- A region with a negated `#elseif` holding a reference and an `#else`, read with `A` off and
`B` on: the source parses, to a well-formed document. -/
theorem Session.parse_wellFormed_sample :
    let s : Session :=
      ⟨[(Bytes.ofString "A", false), (Bytes.ofString "B", true)], [], Loader.ofTable [], 0⟩
    let src := Bytes.ofString "#if A\na\n#elseif not B\nb #\x7bv\x7d\n#else\nc\n#endif\n"
    ∃ d, s.parse src (Bytes.ofString "f") = .ok d ∧ d.WellFormed s.flags := by
  intro s src
  have hok : (s.parse src (Bytes.ofString "f")).isOk = true := by
    rw [Session.parse_isOk]
    decide +kernel
  cases hd : s.parse src (Bytes.ofString "f") with
  | error e =>
    rw [hd] at hok
    cases hok
  | ok d => exact ⟨d, rfl, Session.parse_wellFormed hd⟩

/-! ## The `#else` branch is the branch that names no flag

A branch's flag can also be read as one text, empty when the branch tests none
(`Branch.flagName`), and the empty text then marks the `#else`. The two readings agree on every
resolved branch, since a guard never names the empty flag: on every branch the parser opens, which
`parse_shaped` carries as resolved, and on every branch of a parsed document, at any depth
(`Session.parse_isElse_iff`). -/

/-- The flag a branch tests as one text, empty when it tests none. -/
def Branch.flagName (b : Branch) : Bytes := b.flag?.getD []

mutual
/-- The branches of the regions inside a node, at every depth, taken or not. -/
def Node.branches : Node → List Branch
  | .text _ => []
  | .include _ _ => []
  | .region _ bs _ => Branch.branchesAll bs

/-- Each branch of a list, followed by the branches of the regions inside its body. -/
def Branch.branchesAll : List Branch → List Branch
  | [] => []
  | ⟨g, c, l, body⟩ :: bs => ⟨g, c, l, body⟩ :: (Node.branchesAll body ++ Branch.branchesAll bs)

/-- The branches of the regions inside a list of nodes, at every depth. -/
def Node.branchesAll : List Node → List Branch
  | [] => []
  | n :: ns => n.branches ++ Node.branchesAll ns
end

/-- On a resolved branch, being the `#else` and naming the empty flag are one test. -/
theorem Branch.Resolved.isElse_iff {flags : Flags} {b : Branch} (h : b.Resolved flags) :
    b.isElse = true ↔ b.flagName = [] := by
  unfold Branch.Resolved at h
  cases hg : b.guard with
  | none => simp [Branch.isElse, Branch.flagName, Branch.flag?, hg]
  | some g =>
    rw [hg] at h
    simp [Branch.isElse, Branch.flagName, Branch.flag?, hg, h.1]

section Branches

variable {flags : Flags}

mutual
/-- Every branch inside a well-formed node is resolved. -/
theorem Node.WellFormed.branches_resolved :
    ∀ n : Node, n.WellFormed flags → ∀ b ∈ n.branches, b.Resolved flags
  | .text _, _ => by simp [Node.branches]
  | .include _ _, _ => by simp [Node.branches]
  | .region _ bs _, h => by
    cases h with
    | region hshaped hbodies =>
      rw [Node.branches]
      exact Branch.branchesAll_resolved bs hshaped.resolved hbodies

/-- Resolved branches with well-formed bodies hold only resolved branches, at every depth. -/
theorem Branch.branchesAll_resolved :
    ∀ bs : List Branch, (∀ b ∈ bs, b.Resolved flags) →
      (∀ b ∈ bs, Node.WellFormedList flags b.body) →
      ∀ b ∈ Branch.branchesAll bs, b.Resolved flags
  | [], _, _ => by simp [Branch.branchesAll]
  | ⟨g, c, l, body⟩ :: bs, hres, hbodies => by
    intro b hb
    rw [Branch.branchesAll, List.mem_cons, List.mem_append] at hb
    rcases hb with rfl | hb | hb
    · exact hres _ List.mem_cons_self
    · exact Node.WellFormedList.branches_resolved body (hbodies _ List.mem_cons_self) b hb
    · exact Branch.branchesAll_resolved bs (fun b' h => hres b' (List.mem_cons_of_mem _ h))
        (fun b' h => hbodies b' (List.mem_cons_of_mem _ h)) b hb

/-- Every branch inside a well-formed node list is resolved. -/
theorem Node.WellFormedList.branches_resolved :
    ∀ ns : List Node, Node.WellFormedList flags ns →
      ∀ b ∈ Node.branchesAll ns, b.Resolved flags
  | [], _ => by simp [Node.branchesAll]
  | n :: ns, h => by
    cases h with
    | cons hn _ hns =>
      intro b hb
      rw [Node.branchesAll, List.mem_append] at hb
      rcases hb with hb | hb
      · exact Node.WellFormed.branches_resolved n hn b hb
      · exact Node.WellFormedList.branches_resolved ns hns b hb
end

end Branches

/-- **In a parsed document the `#else` branches are the branches that name no flag**, at every
depth and in dead branches too. -/
theorem Session.parse_isElse_iff {s : Session} {src file : Bytes} {d : Document}
    (h : s.parse src file = .ok d) :
    ∀ b ∈ Node.branchesAll d.nodes, b.isElse = true ↔ b.flagName = [] := by
  have hwf : d.WellFormed s.flags := Document.wellFormed_of_parse h (Token.filled_ofSource src file)
  intro b hb
  exact (Node.WellFormedList.branches_resolved d.nodes hwf b hb).isElse_iff

end ShaderVariants
