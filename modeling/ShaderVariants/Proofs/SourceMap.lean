import ShaderVariants.Proofs.LineTokens
import ShaderVariants.Proofs.LiveExpansion
/-!
# The source map of a line-oriented source

A source is line-oriented when no word of it is `#include` and the conditional keywords `#if`,
`#elseif`, `#else`, `#endif` stand only as the first word of a line. Such a source is a sequence
of directive lines, whose first word is a conditional keyword, and content lines. Which content
lines are live is decided line by line (`Token.liveLines`): a directive line opens a region,
starts its next branch or closes it, and a content line is live when every region around it
selects the branch that holds it.

The main statement, `Session.expand_source_map`, says that a line-oriented source that parses
expands, when every value its live content lines refer to is set, to its live content lines in
order, each with its value references replaced and ended by a line feed; and that, when no such
value holds a line feed, the origin of each output line is the content line that wrote it.

The proof reads the sweep of `Proofs/Sweep` line by line (`sweep_lines`). The tokens of a content
line are text and references, read as its segments; a directive takes exactly the rest of its
line (`Document.closeLine_append`, `Document.condition_append`), so the sweep's frames follow the
line machine's regions. What the live segments write is then counted per line: the line's text
with its references replaced (`Token.text_lines`), as one output line placed at the line
(`Token.lineOrigins_lines`).
-/

namespace ShaderVariants

/-! ## Lines and their words -/

namespace Bytes

/-- No piece of a text cut at a byte holds that byte. -/
theorem not_mem_of_mem_splitOn (sep : UInt8) (s : Bytes) : ∀ p ∈ splitOn sep s, sep ∉ p := by
  induction s with
  | nil => simp [splitOn]
  | cons b r ih =>
    intro p hp
    unfold splitOn at hp
    split at hp
    · rcases List.mem_cons.1 hp with rfl | hp
      · simp
      · exact ih p hp
    · next hb =>
      split at hp
      · simp only [List.mem_singleton] at hp
        subst hp
        simpa using Ne.symm hb
      · next q qs heq =>
        rcases List.mem_cons.1 hp with rfl | hp
        · have := ih q (by simp [heq])
          simp only [List.mem_cons, not_or]
          exact ⟨Ne.symm hb, this⟩
        · exact ih p (by simp [heq, hp])

end Bytes

namespace Token

/-- No line of a source holds a line feed. -/
theorem lf_not_mem_of_mem_lines {src l : Bytes} (h : l ∈ lines src) : Bytes.lf ∉ l := by
  rw [lines] at h
  split at h
  · simp at h
  · exact Bytes.not_mem_of_mem_splitOn _ _ l h

/-- The words of a line, blank runs left out. -/
def lineWords (l : Bytes) : List Bytes := ((words l).filter (!·.blank)).map Word.text

/-- Whether a word is one of the conditional keywords `#if`, `#elseif`, `#else`, `#endif`. -/
def isConditionalWord (w : Bytes) : Bool :=
  match keyword? w with
  | some k => k.conditional
  | none => false

/-- The conditional directive a line states: the keyword of its first word, when that word is
`#if`, `#elseif`, `#else` or `#endif`. -/
def lineDirective (l : Bytes) : Option TokenKind :=
  match lineWords l with
  | w :: _ => (keyword? w).filter TokenKind.conditional
  | [] => none

/-- A line of a line-oriented source: no line feed in it, no word of it is `#include`, and a
conditional keyword stands only as its first word. -/
structure PlainLine (l : Bytes) : Prop where
  no_lf : Bytes.lf ∉ l
  no_include : Bytes.ofString "#include" ∉ lineWords l
  directive_first : ∀ w ∈ (lineWords l).tail, isConditionalWord w = false

/-- The only keyword that is not conditional is `#include`. -/
theorem eq_include_of_keyword? {w : Bytes} {k : TokenKind} (h : keyword? w = some k)
    (hk : k.conditional = false) : w = Bytes.ofString "#include" := by
  -- the four conditional keywords are ruled out by `hk`
  have hinc : k = .include := by
    rcases keyword?_cases h with rfl | rfl | rfl | rfl | rfl <;> simp [TokenKind.conditional] at hk ⊢
  subst hinc
  unfold keyword? at h
  split_ifs at h with h1 h2 h3 h4 h5 <;> cases h
  exact h5

theorem keyword?_eq_none {w : Bytes} (hc : isConditionalWord w = false)
    (hi : w ≠ Bytes.ofString "#include") : keyword? w = none := by
  unfold isConditionalWord at hc
  cases hk : keyword? w with
  | none => rfl
  | some k =>
    rw [hk] at hc
    exact absurd (eq_include_of_keyword? hk hc) hi

/-- **No word of a content line is a keyword.** -/
theorem keyword?_of_content {l : Bytes} (hl : PlainLine l) (hd : lineDirective l = none) :
    ∀ w ∈ words l, w.blank = false → keyword? w.text = none := by
  intro w hw hb
  have hmem : w.text ∈ lineWords l :=
    List.mem_map.2 ⟨w, List.mem_filter.2 ⟨hw, by simp [hb]⟩, rfl⟩
  have hne : w.text ≠ Bytes.ofString "#include" := fun h => hl.no_include (h ▸ hmem)
  have hcond := hl.directive_first
  unfold lineDirective at hd
  rcases hwords : lineWords l with _ | ⟨x, xs⟩
  · simp [hwords] at hmem
  · rw [hwords] at hd hmem hcond
    rcases List.mem_cons.1 hmem with heq | htail
    · -- the first word: no conditional keyword, since the line states no directive
      refine keyword?_eq_none ?_ hne
      simp only at hd
      rw [← heq] at hd
      unfold isConditionalWord
      cases hk : keyword? w.text with
      | none => rfl
      | some k => simpa [hk] using hd
    · exact keyword?_eq_none (hcond _ htail) hne

theorem lineDirective_conditional {l : Bytes} {k : TokenKind} (h : lineDirective l = some k) :
    k.conditional = true := by
  unfold lineDirective at h
  split at h
  · exact (Option.filter_eq_some_iff.1 h).2
  · cases h

/-! ## The tokens of a line -/

/-- A byte of a word of a line is a byte of the line. -/
theorem mem_of_mem_words {l : Bytes} {w : Word} {b : UInt8} (hw : w ∈ words l)
    (hb : b ∈ w.text) : b ∈ l := by
  rw [← words_join l]
  exact List.mem_flatten.2 ⟨w.text, List.mem_map.2 ⟨w, hw, rfl⟩, hb⟩

/-- The token a scanned pair becomes on line `n` of `file`. -/
def atLine (n : Int) (file : Bytes) (p : TokenKind × Bytes) : Token := ⟨p.1, p.2, n, file⟩

theorem ofLine_eq (l : Bytes) (n : Int) (file : Bytes) :
    ofLine l n file = (scan {} (words l)).map (atLine n file) := rfl

/-- **The tokens of a content line**: a text token for each blank run, the text and reference
tokens of each other word, and the line end. -/
theorem ofLine_content {l : Bytes} (n : Int) (file : Bytes) (hl : PlainLine l)
    (hd : lineDirective l = none) :
    ofLine l n file =
      ((words l).flatMap Word.tokens ++ [(TokenKind.text, [Bytes.lf])]).map (atLine n file) := by
  rw [ofLine_eq, scan_content _ (keyword?_of_content hl hd) (words_sound l) (words_alternate l)]

/-- The tokens of a content line are text and references. -/
theorem ofLine_content_kind {l : Bytes} (n : Int) (file : Bytes) (hl : PlainLine l)
    (hd : lineDirective l = none) :
    ∀ t ∈ ofLine l n file, t.kind = .text ∨ t.kind = .reference := by
  rw [ofLine_content n file hl hd]
  intro t ht
  obtain ⟨p, hp, rfl⟩ := List.mem_map.1 ht
  rcases List.mem_append.1 hp with hp | hp
  · exact tokens_kind _ p hp
  · simp only [List.mem_singleton] at hp
    exact .inl (by rw [hp]; rfl)

/-- The tokens that follow a directive's keyword on its line: all on that line, the last the line
end, and no other a line end. -/
inductive LineTail (line : Int) : List Token → Prop
  | last (e : Token) : e.isLineEnd = true → e.line = line → LineTail line [e]
  | cons (t : Token) {ts : List Token} : t.isLineEnd = false → t.line = line → LineTail line ts →
      LineTail line (t :: ts)

theorem LineTail.of_scan (n : Int) (file : Bytes) :
    ∀ xs : List (TokenKind × Bytes), (∀ p ∈ xs, Bytes.lf ∉ p.2) →
      LineTail n ((xs ++ [(TokenKind.text, [Bytes.lf])]).map (atLine n file))
  | [], _ => .last _ rfl rfl
  | p :: xs, h => by
    refine .cons _ ?_ rfl (of_scan n file xs fun q hq => h q (by simp [hq]))
    have hp := h p (by simp)
    simp only [atLine, isLineEnd, Bool.and_eq_false_iff, beq_eq_false_iff_ne, ne_eq]
    exact .inr fun heq => hp (by simp [heq])

/-- **The tokens of a directive line**: the keyword first, then the rest of the line, which ends
with the line end. -/
theorem ofLine_directive {l : Bytes} (n : Int) (file : Bytes) {k : TokenKind}
    (hd : lineDirective l = some k) (hlf : Bytes.lf ∉ l) :
    ∃ kw tail, ofLine l n file = ⟨k, kw, n, file⟩ :: tail ∧ LineTail n tail := by
  unfold lineDirective at hd
  rcases hl : lineWords l with _ | ⟨x, xs⟩
  · simp [hl] at hd
  · rw [hl] at hd
    simp only [Option.filter_eq_some_iff] at hd
    obtain ⟨hk, hc⟩ := hd
    -- the first word that is not blank is the keyword; only blank runs stand before it
    obtain ⟨w, rest, hfilter, hwx, -⟩ := List.map_eq_cons_iff.1 hl
    obtain ⟨pre, post, hwords, hpre, hw, -⟩ := List.filter_eq_cons_iff.1 hfilter
    have hpre' : ∀ b ∈ pre, b.blank = true := fun b hb => by simpa using hpre b hb
    have hw' : w.blank = false := by simpa using hw
    rw [← hwx] at hk
    obtain ⟨xs', hscan, hbytes⟩ := scan_lineEnd post (LineState.afterKeyword k)
    refine ⟨w.text, (xs' ++ [(TokenKind.text, [Bytes.lf])]).map (atLine n file), ?_,
      LineTail.of_scan n file xs' fun p hp hmem => ?_⟩
    · rw [ofLine_eq, hwords, scan_directive pre {} post rfl rfl hpre' hw' hk hc, hscan]
      rfl
    · -- every byte after the keyword is a byte of the line, so none is a line feed
      rcases hbytes p hp _ hmem with h | ⟨w', hw'', h⟩
      · simp [LineState.afterKeyword] at h
      · exact hlf (mem_of_mem_words (by rw [hwords]; simp [hw'']) h)

end Token

/-! ## The rest of a directive's line -/

namespace Document

/-- `closeLine` reads no further than the line end. -/
theorem closeLine_append {dir : Token} {ts : List Token} (h : Token.LineTail dir.line ts)
    (more : List Token) :
    (closeLine dir (ts ++ more)).map Subtype.val = (closeLine dir ts).map fun _ => more := by
  induction h with
  | last e he hl =>
    rw [List.singleton_append, closeLine, closeLine]
    simp [hl, he, Except.map]
  | cons t ht hl htail ih =>
    rw [List.cons_append, closeLine, closeLine]
    simp only [hl, bne_self_eq_false, ht, Bool.false_eq_true, ↓reduceIte]
    split
    · revert ih
      cases closeLine dir (_ ++ more) <;> cases closeLine dir _ <;> simp [Except.map]
    · split <;> rfl

/-- A condition reads no further than the line end: the same branch, or the same problem,
whatever follows the line. -/
theorem condition_append (flags : Flags) {dir : Token} {ts : List Token}
    (h : Token.LineTail dir.line ts) (more : List Token) :
    (condition flags dir (ts ++ more)).map (fun p => (p.1, p.2.val)) =
      (condition flags dir ts).map fun p => (p.1, more) := by
  cases h with
  | last e he hl =>
    have hk : e.kind = .text := by
      simp only [Token.isLineEnd, Bool.and_eq_true, beq_iff_eq] at he
      exact he.1
    have harg : isArgument dir e = false := by simp [isArgument, he]
    simp [condition, hk, harg, Except.map]
  | cons t ht hl htail =>
    unfold condition
    simp only [List.cons_append]
    by_cases hneg : (t.kind == .negation && t.line == dir.line) = true
    · -- a negation, then the flag: the flag is the next token of the line
      simp only [hneg, ↓reduceIte]
      cases htail with
      | last e he _ =>
        have harg : isArgument dir e = false := by simp [isArgument, he]
        simp [harg, Except.map]
      | cons a _ _ hus =>
        simp only [List.cons_append]
        split
        · cases flags.get? a.text with
          | none => rfl
          | some v =>
            have := closeLine_append hus more
            revert this
            cases closeLine dir (_ ++ more) <;> cases closeLine dir _ <;> simp [Except.map]
        · rfl
    · -- no negation: the flag is this token
      simp only [hneg, Bool.false_eq_true, ↓reduceIte]
      split
      · cases flags.get? t.text with
        | none => rfl
        | some v =>
          have := closeLine_append htail more
          revert this
          cases closeLine dir (_ ++ more) <;> cases closeLine dir _ <;> simp [Except.map]
      · rfl

/-- After a directive's line, the rest of the line is all that `closeLine` takes. -/
theorem closeLine_rest {dir : Token} {ts more r : List Token} {h : r.length ≤ (ts ++ more).length}
    (hts : Token.LineTail dir.line ts) (hc : closeLine dir (ts ++ more) = .ok ⟨r, h⟩) :
    r = more := by
  have := closeLine_append hts more
  rw [hc] at this
  cases hc' : closeLine dir ts <;> simp_all [Except.map]

end Document

namespace Token

/-- Whether the condition a directive line states holds, as the parser reads it; a line whose
condition cannot be read holds nothing. -/
def lineHolds (flags : Flags) : List Token → Bool
  | t :: r =>
    match Document.condition flags t r with
    | .ok (b, _) => b.cond
    | .error _ => false
  | [] => false

/-- After a directive's line, the condition takes exactly the rest of the line, and its value is
the one the line states. -/
theorem condition_rest {flags : Flags} {dir : Token} {ts more r : List Token} {b : Branch}
    {h : r.length ≤ (ts ++ more).length} (hts : LineTail dir.line ts)
    (hc : Document.condition flags dir (ts ++ more) = .ok (b, ⟨r, h⟩)) :
    r = more ∧ lineHolds flags (dir :: ts) = b.cond := by
  have := Document.condition_append flags hts more
  rw [hc] at this
  cases hc' : Document.condition flags dir ts with
  | error e => simp [hc', Except.map] at this
  | ok p =>
    simp only [hc', Except.map, Except.ok.injEq, Prod.mk.injEq] at this
    obtain ⟨hb, hr⟩ := this
    refine ⟨hr, ?_⟩
    simp only [lineHolds, hc', hb]

/-! ## The line machine -/

/-- A region open around the lines being read: whether the region itself is live, and whether
one of its branches has been taken already. -/
structure OpenRegion where
  outer : Bool
  taken : Bool

/-- The live content lines among the numbered lines `ls` of `file`. `live` says whether the lines
being read are selected, and `regions` holds the regions open around them, innermost first. A
line that states no directive is content; `#if` opens a region, `#elseif` and `#else` start its
next branch, selected when the region is live, no earlier branch was taken and the branch's
condition holds (always, for `#else`), and `#endif` closes it. -/
def liveLines (flags : Flags) (file : Bytes) :
    Bool → List OpenRegion → List (Bytes × Nat) → List (Bytes × Nat)
  | _, _, [] => []
  | live, regions, (l, n) :: ls =>
    match lineDirective l with
    | none => (if live then [(l, n)] else []) ++ liveLines flags file live regions ls
    | some k =>
      let c := lineHolds flags (ofLine l n file)
      match k, regions with
      | .openIf, _ => liveLines flags file (live && c) (⟨live, c⟩ :: regions) ls
      | .elseIf, r :: up =>
        liveLines flags file (r.outer && !r.taken && c) (⟨r.outer, r.taken || c⟩ :: up) ls
      | .otherwise, r :: up => liveLines flags file (r.outer && !r.taken) (⟨r.outer, true⟩ :: up) ls
      | .endIf, r :: up => liveLines flags file r.outer up ls
      | _, _ => liveLines flags file live regions ls

/-- The live content lines of a source of `file`, numbered from 1. -/
def liveContent (flags : Flags) (src file : Bytes) : List (Bytes × Nat) :=
  liveLines flags file true [] ((lines src).zipIdx 1)

/-- A live line is a content line of the lines read. -/
theorem mem_liveLines {flags : Flags} {file : Bytes} {p : Bytes × Nat} :
    ∀ {live : Bool} {regions : List OpenRegion} {ls : List (Bytes × Nat)},
      p ∈ liveLines flags file live regions ls → p ∈ ls ∧ lineDirective p.1 = none
  | _, _, [], h => by simp [liveLines] at h
  | live, regions, (l, n) :: ls, h => by
    rw [liveLines] at h
    -- every branch of the line machine reads on with the lines that follow
    have step : ∀ {live' regions'}, p ∈ liveLines flags file live' regions' ls →
        p ∈ (l, n) :: ls ∧ lineDirective p.1 = none := fun h' =>
      ⟨List.mem_cons_of_mem _ (mem_liveLines h').1, (mem_liveLines h').2⟩
    split at h
    · next hd =>
      rcases List.mem_append.1 h with h | h
      · split at h
        · simp only [List.mem_singleton] at h
          subst h
          exact ⟨by simp, hd⟩
        · simp at h
      · exact step h
    · split at h <;> exact step h

/-! ## The sweep over whole lines -/

/-- The segment a text or reference token stands for. -/
def segment (t : Token) : Segment :=
  match t.kind with
  | .reference => .reference t.text t.place
  | _ => .literal t.text t.place

/-- The items a content line contributes when it is live. -/
def lineItems (file : Bytes) (p : Bytes × Nat) : List Item :=
  (ofLine p.1 p.2 file).map fun t => .segment t.segment

end Token

/-- The open region a sweep frame stands for. -/
def Frame.region (f : Frame) : Token.OpenRegion := ⟨f.outer, f.taken⟩

/-- Text and reference tokens are read as their segments, live or not. -/
theorem sweep_segments {flags : Flags} {live : Bool} {frames : List Frame} (xs more : List Token)
    (hk : ∀ t ∈ xs, t.kind = .text ∨ t.kind = .reference) :
    Token.sweep flags live frames (xs ++ more) =
      (Token.sweep flags live frames more).map
        (keepIf live (xs.map fun t => .segment t.segment) ++ ·) := by
  induction xs with
  | nil => simp
  | cons t xs ih =>
    have ih := ih fun t' ht' => hk t' (by simp [ht'])
    rcases hk t (by simp) with ht | ht
    · rw [List.cons_append, sweep_literal (.inl ht), ih, except_map_append_map]
      simp [Token.segment, ht]
    · rw [List.cons_append, sweep_reference ht, ih, except_map_append_map]
      simp [Token.segment, ht]

/-- **The sweep reads source lines as the line machine does.** Over the tokens of whole lines
of a line-oriented source, a sweep that succeeds gives the items of the live content lines, line
by line: a content line is read as its segments, and a directive line changes the frames as the
line machine changes its regions. -/
theorem sweep_lines (flags : Flags) (file : Bytes) (ls : List (Bytes × Nat))
    (hls : ∀ p ∈ ls, Token.PlainLine p.1) (live : Bool) (frames : List Frame) (items : List Item)
    (h : Token.sweep flags live frames (ls.flatMap fun p => Token.ofLine p.1 p.2 file) = .ok items) :
    items = (Token.liveLines flags file live (frames.map Frame.region) ls).flatMap
      (Token.lineItems file) := by
  induction ls generalizing live frames items with
  | nil =>
    rw [List.flatMap_nil] at h
    obtain ⟨rfl, rfl⟩ := sweep_nil_eq_ok.1 h
    simp [Token.liveLines]
  | cons p ls ih =>
    obtain ⟨l, n⟩ := p
    have hl : Token.PlainLine l := hls (l, n) (by simp)
    have ih := ih fun q hq => hls q (by simp [hq])
    rw [List.flatMap_cons] at h
    rw [Token.liveLines]
    cases hd : Token.lineDirective l with
    | none =>
      -- a content line: its tokens are text and references, read as its segments
      rw [sweep_segments _ _ (Token.ofLine_content_kind n file hl hd)] at h
      obtain ⟨items', h', rfl⟩ := except_map_eq_ok h
      rw [ih live frames items' h']
      cases live <;> simp [Token.lineItems]
    | some k =>
      -- a directive line: its keyword, then the rest of the line, which the directive takes
      obtain ⟨kw, tail, hline, htail⟩ := Token.ofLine_directive n file hd hl.no_lf
      have hc := Token.lineDirective_conditional hd
      simp only [hline]
      rw [hline, List.cons_append] at h
      cases k
      case openIf =>
        obtain ⟨b, r, hr, hcd, h⟩ := (sweep_openIf_eq_ok rfl).1 h
        obtain ⟨rfl, hholds⟩ := Token.condition_rest htail hcd
        rw [hholds]
        exact ih _ _ _ h
      case elseIf =>
        obtain ⟨fr, up, rfl, hin, b, r, hr, hcd, h⟩ := (sweep_elseIf_eq_ok rfl).1 h
        obtain ⟨rfl, hholds⟩ := Token.condition_rest htail hcd
        simp only [List.map_cons, hholds]
        rw [ih _ _ _ h]
        rfl
      case otherwise =>
        obtain ⟨fr, up, rfl, hin, r, hr, hcl, h⟩ := (sweep_otherwise_eq_ok rfl).1 h
        obtain rfl := Document.closeLine_rest htail hcl
        simp only [List.map_cons]
        rw [ih _ _ _ h]
        rfl
      case endIf =>
        obtain ⟨fr, up, rfl, r, hr, hcl, h⟩ := (sweep_endIf_eq_ok rfl).1 h
        obtain rfl := Document.closeLine_rest htail hcl
        simp only [List.map_cons]
        rw [ih _ _ _ h]
        rfl
      -- no other kind is a conditional keyword
      all_goals simp [TokenKind.conditional] at hc

/-! ## What the live lines write -/

namespace Bytes

/-- A byte read on its own from a text is a byte of the text. -/
theorem mem_of_inl_mem_parts {s : Bytes} {b : UInt8} (h : .inl b ∈ s.parts) : b ∈ s := by
  fun_induction parts s with
  | case1 s name rest hr ih =>
    obtain ⟨rfl, -, -⟩ := Token.referenceAt?_eq_some hr
    simp only [List.mem_cons, reduceCtorEq, false_or] at h
    simp [ih h]
  | case2 => simp at h
  | case3 c r hr ih =>
    simp only [List.mem_cons, Sum.inl.injEq] at h
    rcases h with rfl | h
    · simp
    · simp [ih h]

/-- The text with every value reference `#{name}` replaced by the value `values` gives the name,
verbatim (by nothing when the name has no value). -/
def substitute (values : Values) (s : Bytes) : Bytes :=
  s.parts.flatMap (Sum.elim (fun b => [b]) fun name => (values.get? name).getD [])

/-- The names of the value references of a text, in order. -/
def references (s : Bytes) : List Bytes := s.parts.filterMap Sum.getRight?

/-- With the values free of line feeds, a text free of line feeds stays free of them when its
references are replaced. -/
theorem lf_not_mem_substitute {values : Values} {s : Bytes} (hs : lf ∉ s)
    (hv : ∀ name ∈ references s, ∀ v, values.get? name = some v → lf ∉ v) :
    lf ∉ substitute values s := by
  intro h
  obtain ⟨x, hx, hmem⟩ := List.mem_flatMap.1 h
  cases x with
  | inl b =>
    simp only [Sum.elim_inl, List.mem_singleton] at hmem
    exact hs (hmem ▸ mem_of_inl_mem_parts hx)
  | inr name =>
    simp only [Sum.elim_inr] at hmem
    cases hget : values.get? name with
    | none => simp [hget] at hmem
    | some v =>
      rw [hget, Option.getD_some] at hmem
      exact hv name (List.mem_filterMap.2 ⟨_, hx, rfl⟩) v hget hmem

end Bytes

namespace Token

/-- What a token writes: a reference the value it names (nothing when the name has no value),
any other token its own text. -/
def spell (values : Values) (t : Token) : Bytes :=
  match t.kind with
  | .reference => (values.get? t.text).getD []
  | _ => t.text

/-- The pieces that tokens write, each placed where its token stands. -/
def pieces (values : Values) (ts : List Token) : List Piece :=
  ts.map fun t => ⟨t.spell values, t.place⟩

theorem spell_atLine (values : Values) (n : Int) (file : Bytes) (p : TokenKind × Bytes) :
    (atLine n file p).spell values =
      (partsOf p).flatMap (Sum.elim (fun b => [b]) fun name => (values.get? name).getD []) := by
  obtain ⟨k, x⟩ := p
  cases k <;> simp [spell, atLine, partsOf, List.flatMap_map]

/-- **A content line writes its text, references replaced, and its line end.** -/
theorem ofLine_spell {l : Bytes} (values : Values) (n : Int) (file : Bytes) (hl : PlainLine l)
    (hd : lineDirective l = none) :
    (ofLine l n file).flatMap (spell values) = Bytes.substitute values l ++ [Bytes.lf] := by
  rw [ofLine_content n file hl hd, List.flatMap_map]
  simp only [spell_atLine]
  rw [← List.flatMap_assoc, List.flatMap_append, tokens_parts _ (words_sound l) (words_alternate l),
    words_join]
  simp [Bytes.substitute, partsOf]

/-- Every reference token of a content line names a reference of the line's text. -/
theorem ofLine_reference {l : Bytes} (n : Int) (file : Bytes) (hl : PlainLine l)
    (hd : lineDirective l = none) :
    ∀ t ∈ ofLine l n file, t.kind = .reference → t.text ∈ Bytes.references l := by
  rw [ofLine_content n file hl hd]
  intro t ht hk
  obtain ⟨p, hp, rfl⟩ := List.mem_map.1 ht
  -- the reference is one of the parts that the line's tokens spell
  have hparts : Sum.inr p.2 ∈ Bytes.parts l := by
    rw [← words_join l, ← tokens_parts _ (words_sound l) (words_alternate l)]
    rcases List.mem_append.1 hp with hp | hp
    · refine List.mem_flatMap.2 ⟨p, hp, ?_⟩
      simp only [atLine] at hk
      simp [partsOf, hk]
    · simp only [List.mem_singleton] at hp
      simp [hp, atLine] at hk
  exact List.mem_filterMap.2 ⟨_, hparts, rfl⟩

/-- **The live content lines write their text**, references replaced, each ended by a line
feed. -/
theorem text_lines (values : Values) (file : Bytes) (live : List (Bytes × Nat))
    (hlive : ∀ p ∈ live, PlainLine p.1 ∧ lineDirective p.1 = none) :
    (pieces values (live.flatMap fun p => ofLine p.1 p.2 file)).flatMap Piece.text =
      live.flatMap fun p => Bytes.substitute values p.1 ++ [Bytes.lf] := by
  rw [pieces, List.flatMap_map, List.flatMap_assoc]
  refine List.flatMap_congr fun p hp => ?_
  exact ofLine_spell values p.2 file (hlive p hp).1 (hlive p hp).2

/-- Every token of a line stands on the line, so what the line writes is placed there. -/
theorem ofLine_placed (values : Values) (l : Bytes) (n : Int) (file : Bytes) :
    (ofLine l n file).flatMap (fun t => (t.spell values).map (·, t.place)) =
      ((ofLine l n file).flatMap (spell values)).map (·, ⟨file, n⟩) := by
  rw [ofLine_eq, List.flatMap_map, List.flatMap_map, List.map_flatMap]
  rfl

end Token

namespace Expansion

/-- A line written from one place, ended by its line feed, has that place as origin, or the
origin of the line under way. -/
theorem originsFrom_line (P : Place) {xs : Bytes} (hxs : Bytes.lf ∉ xs) (cur : Option Place)
    (rest : List (UInt8 × Place)) :
    originsFrom cur (xs.map (·, P) ++ (Bytes.lf, P) :: rest) = cur.getD P :: originsFrom none rest := by
  induction xs generalizing cur with
  | nil => simp [originsFrom]
  | cons b xs ih =>
    have hb : (b == Bytes.lf) = false := by
      simp only [beq_eq_false_iff_ne]
      exact fun h => hxs (by simp [h])
    rw [List.map_cons, List.cons_append, originsFrom]
    simp only [hb, Bool.false_eq_true, ↓reduceIte]
    rw [ih fun h => hxs (by simp [h])]
    rfl

end Expansion

namespace Token

/-- **Each live content line is one output line, with its own place as origin**, when no value
its references name holds a line feed. -/
theorem lineOrigins_lines (values : Values) (file : Bytes) (live : List (Bytes × Nat))
    (hlive : ∀ p ∈ live, PlainLine p.1 ∧ lineDirective p.1 = none ∧
      ∀ name ∈ Bytes.references p.1, ∀ v, values.get? name = some v → Bytes.lf ∉ v) :
    Expansion.lineOrigins (pieces values (live.flatMap fun p => ofLine p.1 p.2 file)) =
      live.map fun p => ⟨file, p.2⟩ := by
  unfold Expansion.lineOrigins pieces
  induction live with
  | nil => simp [Expansion.originsFrom]
  | cons p live ih =>
    obtain ⟨hl, hd, hv⟩ := hlive p (by simp)
    have hsub := Bytes.lf_not_mem_substitute hl.no_lf hv
    rw [List.flatMap_cons, List.map_append, List.flatMap_append, List.flatMap_map]
    simp only
    -- the line's bytes, all placed at the line, end with its only line feed
    rw [ofLine_placed, ofLine_spell values p.2 file hl hd, List.map_append, List.map_singleton,
      List.append_assoc, List.singleton_append, Expansion.originsFrom_line _ hsub,
      ih fun q hq => hlive q (by simp [hq])]
    rfl

end Token

namespace Session

/-- A text or reference token whose value is set writes what it spells, where it stands. -/
theorem segment_segment (s : Session) {t : Token}
    (hdef : t.kind = .reference → (s.values.get? t.text).isSome) :
    s.segment t.segment = .ok ⟨t.spell s.values, t.place⟩ := by
  unfold Token.segment Token.spell
  cases hk : t.kind
  case reference =>
    obtain ⟨v, hv⟩ := Option.isSome_iff_exists.1 (hdef hk)
    simp [segment, hv]
  all_goals rfl

/-- The live expansion of a source whose live items are all segments: each segment writes what
its token spells, where the token stands. -/
theorem expandLive_of_segments {s : Session} (depth : Nat) {src file : Bytes} {ts : List Token}
    (h : Token.sweep s.flags true [] (Token.ofSource src file) =
      .ok (ts.map fun t => .segment t.segment))
    (hdef : ∀ t ∈ ts, t.kind = .reference → (s.values.get? t.text).isSome) :
    s.expandLive depth src file = .ok (Token.pieces s.values ts) := by
  rw [expandLive, h]
  simp only
  clear h
  induction ts with
  | nil => rfl
  | cons t ts ih =>
    rw [List.map_cons, List.flatMapM_cons]
    simp only [segment_segment s (hdef t (by simp))]
    rw [ih fun t' ht' => hdef t' (by simp [ht'])]
    rfl

/-! ## The source map -/

/-- A source parses exactly when its sweep succeeds. -/
theorem parse_isOk (s : Session) (src file : Bytes) :
    (s.parse src file).isOk = (Token.sweep s.flags true [] (Token.ofSource src file)).isOk := by
  rw [Session.parse, Document.ofSource, ← parse_map_items s.flags file]
  cases Document.parse s.flags file (Token.ofSource src file) <;> rfl

/-- **A line-oriented source expands line by line.** When every line of a source that parses
keeps to the line discipline and every reference of a live content line has a value, the live
expansion writes the tokens of the live content lines, one line after the other. -/
theorem expandLive_lines (s : Session) {src file : Bytes} {doc : Document}
    (hlines : ∀ l ∈ Token.lines src, Token.PlainLine l) (hparse : s.parse src file = .ok doc)
    (hdef : ∀ p ∈ Token.liveContent s.flags src file, ∀ name ∈ Bytes.references p.1,
      (s.values.get? name).isSome) :
    s.expandLive 0 src file =
      .ok (Token.pieces s.values ((Token.liveContent s.flags src file).flatMap
        fun p => Token.ofLine p.1 p.2 file)) := by
  have hL : ∀ p ∈ (Token.lines src).zipIdx 1, Token.PlainLine p.1 :=
    fun p hp => hlines p.1 (List.fst_mem_of_mem_zipIdx hp)
  -- the parse succeeds, so the sweep does, and it reads the items of the live content lines
  have hsweep : Token.sweep s.flags true [] (Token.ofSource src file) =
      .ok (Node.itemsAll doc.nodes) := by
    rw [← parse_map_items]
    simp only [Session.parse, Document.ofSource] at hparse
    rw [hparse]
    rfl
  have hitems := sweep_lines s.flags file _ hL true [] _ hsweep
  refine expandLive_of_segments 0 (hsweep.trans ?_) ?_
  · rw [hitems, List.map_flatMap]
    rfl
  · intro t ht hk
    obtain ⟨p, hp, ht⟩ := List.mem_flatMap.1 ht
    obtain ⟨hpL, hd⟩ := Token.mem_liveLines hp
    exact hdef p hp t.text (Token.ofLine_reference p.2 file (hL p hpL) hd t ht hk)

/-- **What a line-oriented source expands to.** When every line of a source that parses keeps to
the line discipline and every reference of a live content line has a value, the source expands;
the text is the live content lines in order, each with its references replaced and ended by a line
feed; and, when no value so referenced holds a line feed, the origins are the file and line number
of those lines, one per output line. -/
theorem expand_lines (s : Session) {src file : Bytes} {doc : Document}
    (hlines : ∀ l ∈ Token.lines src, Token.PlainLine l) (hparse : s.parse src file = .ok doc)
    (hdef : ∀ p ∈ Token.liveContent s.flags src file, ∀ name ∈ Bytes.references p.1,
      (s.values.get? name).isSome) :
    ∃ e, s.expand src file = .ok e ∧
      e.text = (Token.liveContent s.flags src file).flatMap
        (fun p => Bytes.substitute s.values p.1 ++ [Bytes.lf]) ∧
      ((∀ p ∈ Token.liveContent s.flags src file, ∀ name ∈ Bytes.references p.1, ∀ v,
          s.values.get? name = some v → Bytes.lf ∉ v) →
        e.origins = (Token.liveContent s.flags src file).map fun p => ⟨file, p.2⟩) := by
  -- every live line is a content line of the source
  have hcontent : ∀ p ∈ Token.liveContent s.flags src file,
      Token.PlainLine p.1 ∧ Token.lineDirective p.1 = none := fun p hp =>
    have h := Token.mem_liveLines hp
    ⟨hlines p.1 (List.fst_mem_of_mem_zipIdx h.1), h.2⟩
  have hmap := expand_map_pieces s src file
  rw [s.expandLive_lines hlines hparse hdef] at hmap
  obtain ⟨e, he, hpair⟩ := except_map_eq_ok hmap
  simp only [Prod.mk.injEq] at hpair
  refine ⟨e, he, ?_, fun hv => ?_⟩
  · rw [← Token.text_lines s.values file _ hcontent]
    exact hpair.1
  · rw [← Token.lineOrigins_lines s.values file _ fun p hp =>
      ⟨(hcontent p hp).1, (hcontent p hp).2, hv p hp⟩]
    exact hpair.2

/-- **The source map of a line-oriented source.** Take a source none of whose words is
`#include`, whose conditional keywords stand only as the first word of a line, and which parses.
If every value referenced on a live content line is set, the source expands; the text is the
live content lines in order, each with its references replaced and ended by a line feed; and,
when no value so referenced holds a line feed, the origins are the file and line number of those
lines, one per output line. -/
theorem expand_source_map (s : Session) (src file : Bytes)
    (hinc : ∀ l ∈ Token.lines src, Bytes.ofString "#include" ∉ Token.lineWords l)
    (hcond : ∀ l ∈ Token.lines src, ∀ w ∈ (Token.lineWords l).tail,
      Token.isConditionalWord w = false)
    (hparse : (s.parse src file).isOk)
    (hdef : ∀ p ∈ Token.liveContent s.flags src file, ∀ name ∈ Bytes.references p.1,
      (s.values.get? name).isSome) :
    ∃ e, s.expand src file = .ok e ∧
      e.text = (Token.liveContent s.flags src file).flatMap
        (fun p => Bytes.substitute s.values p.1 ++ [Bytes.lf]) ∧
      ((∀ p ∈ Token.liveContent s.flags src file, ∀ name ∈ Bytes.references p.1, ∀ v,
          s.values.get? name = some v → Bytes.lf ∉ v) →
        e.origins = (Token.liveContent s.flags src file).map fun p => ⟨file, p.2⟩) := by
  have hlines : ∀ l ∈ Token.lines src, Token.PlainLine l :=
    fun l hl => ⟨Token.lf_not_mem_of_mem_lines hl, hinc l hl, hcond l hl⟩
  obtain ⟨doc, hdoc⟩ : ∃ doc, s.parse src file = .ok doc := by
    cases h : s.parse src file with
    | error e => simp [h, Except.isOk, Except.toBool] at hparse
    | ok doc => exact ⟨doc, rfl⟩
  exact s.expand_lines hlines hdoc hdef

/-- The source map at work: with the flag `F` off, the first and the fifth line of this source
are its live content lines, the reference on the first is replaced by its value, and each output
line has its source line as origin. -/
theorem expand_source_map_sample :
    let s : Session :=
      ⟨[(Bytes.ofString "F", false)], [(Bytes.ofString "v", Bytes.ofString "x")], Loader.ofTable [], 0⟩
    let src := Bytes.ofString "a #\x7bv\x7d\n#if F\nb\n#else\nc\n#endif\n"
    ∃ e, s.expand src (Bytes.ofString "f") = .ok e ∧ e.text = Bytes.ofString "a x\nc\n" ∧
      e.origins = [⟨Bytes.ofString "f", 1⟩, ⟨Bytes.ofString "f", 5⟩] := by
  intro s src
  obtain ⟨e, he, htext, horigins⟩ := expand_source_map s src (Bytes.ofString "f")
    (by decide +kernel) (by decide +kernel) (by rw [parse_isOk]; decide +kernel)
    (by decide +kernel)
  refine ⟨e, he, ?_, ?_⟩
  · rw [htext]
    decide +kernel
  · rw [horigins (by decide +kernel)]
    decide +kernel

end Session

end ShaderVariants
