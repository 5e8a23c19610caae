import Mathlib.Data.List.Chain
import ShaderVariants.Proofs.SourceMap
/-!
# The shape of a source's token stream

The tokens of a source come in whole lines: the tokens of a line stand on that line and end with
its line end, the only line end among them, and a negation comes only right after `#if` or
`#elseif`. `Token.Lined` says this of a stream through its consecutive tokens, and
`lined_ofSource` states that the stream of every source has it. The grammar of the directive
language is read over such streams.
-/

namespace ShaderVariants

namespace Token

/-! ## Streams of whole lines -/

/-- How a token of a source stands to the one before it: a token that is no line end is followed
by a token of its own line, and a negation comes right after `#if` or `#elseif`. -/
def Follows (a b : Token) : Prop :=
  (a.isLineEnd = false → b.line = a.line) ∧ (b.kind = .negation → a.kind.takesCondition = true)

/-- A stream of whole lines: consecutive tokens follow each other, the stream starts with no
negation, and it ends with a line end. -/
structure Lined (ts : List Token) : Prop where
  chain : ts.IsChain Follows
  head : ∀ t ∈ ts.head?, t.kind ≠ .negation
  last : ∀ t ∈ ts.getLast?, t.isLineEnd = true

theorem Lined.nil : Lined [] := ⟨.nil, by simp, by simp⟩

/-- Two streams of whole lines make one. -/
theorem Lined.append {xs ys : List Token} (hx : Lined xs) (hy : Lined ys) : Lined (xs ++ ys) := by
  refine ⟨List.isChain_append.2 ⟨hx.chain, hy.chain, fun a ha b hb => ?_⟩, ?_, ?_⟩
  · -- a line ends at `a`, and the next line starts with no negation
    exact ⟨fun h => absurd (hx.last a ha) (by simp [h]), fun h => absurd h (hy.head b hb)⟩
  · cases xs with
    | nil => exact hy.head
    | cons x xs => exact hx.head
  · intro t ht
    rw [List.getLast?_append] at ht
    cases hl : ys.getLast? with
    | none => rw [hl] at ht; exact hx.last t ht
    | some y =>
      rw [hl] at ht
      have hyt : y = t := by simpa using ht
      subst hyt
      exact hy.last y hl

/-- What follows a token that takes no condition is again a stream of whole lines. -/
theorem Lined.of_append {xs ys : List Token} (h : Lined (xs ++ ys))
    (hx : ∀ a ∈ xs.getLast?, a.kind.takesCondition = false) : Lined ys := by
  obtain ⟨-, hys, hjoin⟩ := List.isChain_append.1 h.chain
  refine ⟨hys, fun b hb hneg => ?_, fun t ht => h.last t ?_⟩
  · cases hl : xs.getLast? with
    | none =>
      rw [List.getLast?_eq_none_iff] at hl
      subst hl
      exact h.head b hb hneg
    | some a =>
      have := (hjoin a hl b hb).2 hneg
      rw [hx a hl] at this
      cases this
  · rw [List.getLast?_append, ht]
    rfl

theorem Lined.tail {t : Token} {ts : List Token} (h : Lined (t :: ts))
    (ht : t.kind.takesCondition = false) : Lined ts :=
  @Lined.of_append [t] ts h (by simpa using ht)

/-! ## A negation comes after a condition keyword -/

/-- A pair of scanned tokens in which a negation comes only after `#if` or `#elseif`. -/
def NegationAfter (a b : TokenKind × Bytes) : Prop :=
  b.1 = .negation → a.1.takesCondition = true

/-- The reading state of a line never holds indentation back while it expects a condition. -/
def LineState.Settled (st : LineState) : Prop :=
  st.afterCondition = true → st.afterDirective = true ∧ st.indent = []

/-- Tokens with no negation among them can stand anywhere. -/
theorem isChain_negationAfter_append {xs ys : List (TokenKind × Bytes)}
    (hxs : ∀ q ∈ xs, q.1 ≠ .negation) (hys : ∀ q, (q :: ys).IsChain NegationAfter)
    (p : TokenKind × Bytes) : (p :: (xs ++ ys)).IsChain NegationAfter := by
  induction xs generalizing p with
  | nil => exact hys p
  | cons x xs ih =>
    rw [List.cons_append, List.isChain_cons_cons]
    exact ⟨fun h => absurd h (hxs x (by simp)), ih (fun q hq => hxs q (by simp [hq])) x⟩

theorem isChain_negationAfter_append_cons {xs ys : List (TokenKind × Bytes)}
    {y : TokenKind × Bytes} (hxs : ∀ q ∈ xs, q.1 ≠ .negation) (hy : y.1 ≠ .negation)
    (hys : (y :: ys).IsChain NegationAfter) (p : TokenKind × Bytes) :
    (p :: (xs ++ y :: ys)).IsChain NegationAfter := by
  induction xs generalizing p with
  | nil => exact List.isChain_cons_cons.2 ⟨fun h => absurd h hy, hys⟩
  | cons x xs ih =>
    rw [List.cons_append, List.isChain_cons_cons]
    exact ⟨fun h => absurd h (hxs x (by simp)), ih (fun q hq => hxs q (by simp [hq])) x⟩

theorem held_not_negation (st : LineState) : ∀ q ∈ st.held, q.1 ≠ .negation := by
  intro q hq
  unfold LineState.held pending at hq
  split at hq <;> simp_all

theorem splitReferences_not_negation (s : Bytes) :
    ∀ q ∈ splitReferences [] s, q.1 ≠ .negation := by
  intro q hq
  rcases splitReferences_kind [] s q hq with h | h <;> simp [h]

theorem keyword?_not_negation {w : Bytes} {k : TokenKind} (h : keyword? w = some k) :
    k ≠ .negation := by
  rcases keyword?_cases h with rfl | rfl | rfl | rfl | rfl <;> simp

/-- **A negation comes only after a condition keyword.** Reading the words of a line from a
settled state, every negation token follows `#if` or `#elseif`, the first one following `p`,
which takes a condition if the state expects one. -/
theorem scan_negationAfter (st : LineState) (ws : List Word) (hst : LineState.Settled st)
    (p : TokenKind × Bytes) (hp : st.afterCondition = true → p.1.takesCondition = true) :
    (p :: scan st ws).IsChain NegationAfter := by
  induction ws generalizing st p with
  | nil =>
    rw [scan]
    exact isChain_negationAfter_append (held_not_negation st)
      (fun q => by simp [NegationAfter]) p
  | cons w ws ih =>
    -- a state that expects no condition passes any predecessor on
    have hfree : ∀ st' : LineState, st'.afterCondition = false → ∀ q,
        (q :: scan st' ws).IsChain NegationAfter := fun st' h q =>
      ih st' (fun h' => by simp [h] at h') q (fun h' => by simp [h] at h')
    rw [scan]
    split
    · split
      · exact ih st hst p hp
      · next hdir =>
        have hc : st.afterCondition = false := by
          cases hc : st.afterCondition
          · rfl
          · simp [(hst hc).1] at hdir
        split
        · exact hfree { st with indent := w.text } hc p
        · exact @isChain_negationAfter_append [(.text, w.text)] _ (by simp) (hfree st hc) p
    · split
      · next k hk =>
        refine isChain_negationAfter_append_cons ?_ (keyword?_not_negation hk)
          (ih _ (fun _ => ⟨rfl, rfl⟩) _ (fun h => h)) p
        split
        · simp
        · exact held_not_negation st
      · dsimp only
        -- the plain reading of a word expects no condition after it
        have hplain : ∀ st' : LineState, st'.afterCondition = false → ∀ (word : Bytes) q,
            (q :: (splitReferences [] word ++ scan st' ws)).IsChain NegationAfter :=
          fun st' h word q =>
            isChain_negationAfter_append (splitReferences_not_negation word) (hfree st' h) q
        split
        · next hcond =>
          have hheld : st.held = [] := by simp [LineState.held, pending, (hst hcond).2]
          rw [hheld, List.nil_append]
          split
          · exact List.isChain_cons_cons.2 ⟨fun _ => hp hcond, hfree _ rfl _⟩
          · split
            · exact List.isChain_cons_cons.2 ⟨fun _ => hp hcond, by
                split
                · exact hfree _ rfl _
                · exact hplain _ rfl _ _⟩
            · exact hplain _ rfl _ _
        · exact isChain_negationAfter_append (held_not_negation st) (hplain _ rfl w.text) p

/-! ## The stream of a source -/

theorem LineTail.line_eq {n : Int} {ts : List Token} (h : LineTail n ts) : ∀ t ∈ ts, t.line = n := by
  induction h with
  | last e _ he => simpa using he
  | cons t _ ht _ ih =>
    intro x hx
    rcases List.mem_cons.1 hx with rfl | hx
    · exact ht
    · exact ih x hx

theorem LineTail.last_lineEnd {n : Int} {ts : List Token} (h : LineTail n ts) :
    ∀ t ∈ ts.getLast?, t.isLineEnd = true := by
  induction h with
  | last e he _ => simpa using he
  | cons t _ _ h ih =>
    cases h with
    | last e he _ => simpa using he
    | cons t' _ _ _ => simpa using ih

/-- The tokens of one line follow each other when its negations follow condition keywords. -/
theorem LineTail.isChain_follows {n : Int} {ts : List Token} (h : LineTail n ts)
    (hneg : ts.IsChain fun a b => b.kind = .negation → a.kind.takesCondition = true) :
    ts.IsChain Follows := by
  induction h with
  | last e _ _ => exact .singleton e
  | cons t hl ht h ih =>
    obtain ⟨hfirst, hrest⟩ := List.isChain_cons.1 hneg
    refine List.isChain_cons.2 ⟨fun y hy => ⟨fun _ => ?_, hfirst y hy⟩, ih hrest⟩
    rw [h.line_eq y (List.mem_of_mem_head? hy), ht]

/-- The tokens of a line stand on it and end with its line end, the only one among them. -/
theorem ofLine_lineTail {l : Bytes} (n : Int) (file : Bytes) (hlf : Bytes.lf ∉ l) :
    LineTail n (ofLine l n file) := by
  obtain ⟨xs, hscan, hbytes⟩ := scan_lineEnd (words l) {}
  rw [ofLine_eq, hscan]
  refine LineTail.of_scan n file xs fun p hp hmem => ?_
  rcases hbytes p hp _ hmem with h | ⟨w, hw, h⟩
  · simp at h
  · exact hlf (mem_of_mem_words hw h)

/-- The tokens of one line make a stream of whole lines. -/
theorem lined_ofLine {l : Bytes} (n : Int) (file : Bytes) (hlf : Bytes.lf ∉ l) :
    Lined (ofLine l n file) := by
  have hline := ofLine_lineTail n file hlf
  -- the scan starts expecting no condition, after a token that takes none
  have hscan := scan_negationAfter {} (words l) (fun h => by simp at h) (.text, [])
    (fun h => by simp at h)
  have hneg : (ofLine l n file).IsChain fun a b =>
      b.kind = .negation → a.kind.takesCondition = true := by
    rw [ofLine_eq, List.isChain_map]
    exact hscan.tail
  refine ⟨hline.isChain_follows hneg, fun t ht hkind => ?_, hline.last_lineEnd⟩
  rw [ofLine_eq, List.head?_map] at ht
  obtain ⟨q, hq, rfl⟩ := Option.map_eq_some_iff.1 ht
  have := (List.isChain_cons.1 hscan).1 q hq hkind
  simp [TokenKind.takesCondition] at this

/-- **The stream of a source is made of whole lines.** -/
theorem lined_ofSource (src file : Bytes) : Lined (ofSource src file) := by
  unfold ofSource
  have hlines : ∀ p ∈ (lines src).zipIdx 1, Bytes.lf ∉ p.1 :=
    fun p hp => lf_not_mem_of_mem_lines (List.fst_mem_of_mem_zipIdx hp)
  generalize (lines src).zipIdx 1 = ps at hlines
  induction ps with
  | nil => exact Lined.nil
  | cons p ps ih =>
    rw [List.flatMap_cons]
    exact (lined_ofLine p.2 file (hlines p (by simp))).append
      (ih fun q hq => hlines q (by simp [hq]))

end Token

end ShaderVariants
