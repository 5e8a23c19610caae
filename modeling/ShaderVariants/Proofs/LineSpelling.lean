import ShaderVariants.Proofs.FlagWords
/-!
# The tokens of a line spell it back

A line's tokens, each value reference written `#{name}`, spell the line and its line feed less
the blank runs that only separate a directive from what follows (`Token.ofLine_spells`):

* the blank run at the head of a line whose first word is `#if`, `#elseif`, `#else` or
  `#endif` (the one before `#include` stays);
* a blank run right after a keyword, `#include` included;
* a blank run right after a negation, `not` or a lone `!`, that is the word after `#if` or
  `#elseif`.

`Token.dropsAt` says which runs of a line these are, from their neighbours alone, and
`Token.keptText` joins the rest. Nothing else is lost or added: a line without keywords is
spelled byte for byte, stray bytes, carriage returns and every blank character included. Every
token stands at the line's place, only the last is a line end, no text token is empty, and every
reference names a value name.

The proof reads a line word by word (`Token.scan_word_spelled`). After the words before it, the
reading holds nothing back and its two flags are set by the nearest word that is not blank
(`Token.Reads`); the next word is then spelled whole, or not at all when the rules above drop it,
and the reading after it holds again. A blank run at the head of the line is held back until the
first word shows whether it is dropped (`Token.scan_held`).
-/

namespace ShaderVariants

namespace Token

/-! ## What tokens spell -/

/-- The text a scanned token stands for: a value reference `#{name}`, any other token its
text. -/
def spellPart (p : TokenKind × Bytes) : Bytes :=
  match p.1 with
  | .reference => 35 :: 123 :: (p.2 ++ [125])
  | _ => p.2

/-- The text a token stands for in its line: a value reference written `#{name}`, any other
token its own text. -/
def spelled (t : Token) : Bytes := spellPart (t.kind, t.text)

@[simp] theorem spellPart_text (x : Bytes) : spellPart (.text, x) = x := rfl

@[simp] theorem spellPart_negation (x : Bytes) : spellPart (.negation, x) = x := rfl

theorem spellPart_keyword {k : TokenKind} (hk : k ≠ .reference) (x : Bytes) :
    spellPart (k, x) = x := by
  cases k
  case reference => exact absurd rfl hk
  all_goals rfl

@[simp] theorem pending_nil : pending [] = [] := rfl

theorem pending_spelled (acc : Bytes) : (pending acc).flatMap spellPart = acc := by
  unfold pending
  split <;> simp_all

/-- **A word cut at its references spells the word**, after the text passed over. -/
theorem splitReferences_spelled (acc s : Bytes) :
    (splitReferences acc s).flatMap spellPart = acc ++ s := by
  fun_induction splitReferences acc s with
  | case1 acc s name rest h ih =>
    obtain ⟨rfl, -, -⟩ := referenceAt?_eq_some h
    simp [pending_spelled, ih, spellPart]
  | case2 acc h => simp [pending_spelled]
  | case3 acc b r h ih => simp [ih]

/-- No token of a word cut at its references is empty. -/
theorem splitReferences_ne_nil_of_mem (s : Bytes) :
    ∀ p ∈ splitReferences [] s, p.2 ≠ [] := by
  suffices h : ∀ acc, ∀ p ∈ splitReferences acc s, p.2 ≠ [] from h []
  intro acc
  fun_induction splitReferences acc s with
  | case1 acc s name rest h ih =>
    obtain ⟨-, hne, -⟩ := referenceAt?_eq_some h
    intro p hp
    simp only [List.mem_append, List.mem_cons] at hp
    rcases hp with hp | rfl | hp
    · unfold pending at hp; split at hp <;> simp_all
    · exact hne
    · exact ih p hp
  | case2 acc h =>
    intro p hp
    unfold pending at hp; split at hp <;> simp_all
  | case3 acc b r h ih => exact ih

/-! ## Which blank runs a line drops -/

namespace Word

/-- Whether a word is one of the five directive keywords. -/
def isKeyword (w : Word) : Bool := (keyword? w.text).isSome

/-- Whether a word is `#if`, `#elseif`, `#else` or `#endif`. -/
def isConditional (w : Word) : Bool := (keyword? w.text).any TokenKind.conditional

/-- Whether a word is `#if` or `#elseif`, the keywords a condition follows. -/
def opensCondition (w : Word) : Bool := (keyword? w.text).any TokenKind.takesCondition

/-- Whether a word is a negation marker: `not`, or a lone `!`. -/
def isNegation (w : Word) : Bool := w.text == Bytes.ofString "not" || w.text == [33]

theorem isKeyword_of_opensCondition {w : Word} (h : w.opensCondition = true) :
    w.isKeyword = true := by
  unfold opensCondition at h
  unfold isKeyword
  cases hk : keyword? w.text <;> simp_all

theorem isKeyword_of_isConditional {w : Word} (h : w.isConditional = true) :
    w.isKeyword = true := by
  unfold isConditional at h
  unfold isKeyword
  cases hk : keyword? w.text <;> simp_all

end Word

/-- Whether a blank run after the words `rpre` (the nearest first) only separates a directive
from what follows: the nearest word is a keyword, or a negation that is the word after `#if` or
`#elseif`. -/
def separates (rpre : List Word) : Bool :=
  rpre[0]?.any Word.isKeyword || (rpre[0]?.any Word.isNegation && rpre[2]?.any Word.opensCondition)

/-- Whether the tokens of a line leave out its word `i`: a blank run at the head of the line
before `#if`, `#elseif`, `#else` or `#endif`; a blank run right after a keyword; a blank run right
after a negation that is the word after `#if` or `#elseif`. -/
def dropsAt (ws : List Word) (i : Nat) : Bool :=
  ws[i]?.any Word.blank &&
    ((i == 0 && ws[1]?.any Word.isConditional) ||
      (0 < i && ws[i - 1]?.any Word.isKeyword) ||
      (0 < i && ws[i - 1]?.any Word.isNegation && 2 < i && ws[i - 3]?.any Word.opensCondition))

/-- The words of a line that its tokens keep, joined. -/
def keptText (ws : List Word) : Bytes :=
  ((ws.zipIdx).filter fun p => !dropsAt ws p.2).flatMap (·.1.text)

/-- Whether the word after the words `pre` is dropped, read from `pre` taken nearest first. -/
theorem dropsAt_append (pre : List Word) (w : Word) (ws : List Word) :
    dropsAt (pre ++ w :: ws) pre.length =
      (w.blank && ((pre.isEmpty && ws.head?.any Word.isConditional) || separates pre.reverse)) := by
  have hat : (pre ++ w :: ws)[pre.length]? = some w := by simp
  -- the words before the one read, nearest first
  have hback : ∀ j, j < pre.length → (pre ++ w :: ws)[pre.length - 1 - j]? = pre.reverse[j]? := by
    intro j hj
    rw [List.getElem?_reverse hj, List.getElem?_append_left (by omega)]
  cases pre with
  | nil => simp [dropsAt, separates, List.getElem?_cons_succ, List.head?_eq_getElem?]
  | cons v pre' =>
    have h0 : (v :: pre' ++ w :: ws)[(v :: pre').length - 1]? = (v :: pre').reverse[0]? :=
      hback 0 (by simp)
    have h2 (h : 2 < (v :: pre').length) :
        (v :: pre' ++ w :: ws)[(v :: pre').length - 3]? = (v :: pre').reverse[2]? := by
      rw [← hback 2 h]
      congr 1
    unfold dropsAt separates
    rw [hat, h0]
    by_cases h3 : 2 < pre'.length + 1
    · rw [h2 (by simpa using h3)]
      simp [h3]
    · simp [h3]

/-! ## Reading a line word by word -/

/-- What the reading of a line holds after the words `rpre` (the nearest first): no indentation
held back, the head of the line only while those words are blank, and the two flags the nearest
word that is not blank sets. -/
def Reads (st : LineState) (rpre : List Word) : Prop :=
  st.indent = [] ∧ (st.leading = true → ∀ v ∈ rpre, v.blank = true) ∧
    st.afterDirective = separates (rpre.dropWhile Word.blank) ∧
    st.afterCondition = (rpre.dropWhile Word.blank)[0]?.any Word.opensCondition

theorem reads_start : Reads {} [] := by
  simp [Reads, separates]

namespace Reads

variable {st : LineState} {rpre : List Word}

/-- Before a blank run, the nearest word is not blank, and the flag after a directive says
whether the run is dropped. -/
theorem afterDirective_eq (h : Reads st rpre) (hv : ∀ v ∈ rpre[0]?, v.blank = false) :
    st.afterDirective = separates rpre := by
  rw [h.2.2.1]
  cases rpre with
  | nil => rfl
  | cons v r => simp [hv v rfl]

/-- Before a word, the nearest word is a blank run (or there is none), so the flag after a
condition keyword is set by the word before that run. -/
theorem afterCondition_eq (h : Reads st rpre) (halt : rpre.IsChain Word.Alternate)
    (hv : ∀ v ∈ rpre[0]?, v.blank = true) :
    st.afterCondition = rpre[1]?.any Word.opensCondition := by
  rw [h.2.2.2]
  match rpre, halt, hv with
  | [], _, _ => rfl
  | [b], _, hv => simp [hv b rfl]
  | b :: v :: r, halt, hv =>
    have hb := hv b rfl
    have hv' : v.blank = false := by
      simpa [hb] using Word.blank_of_alternate (List.isChain_cons_cons.1 halt).1
    simp [hb, hv']

/-- After a condition keyword, the flag after a directive is set too. -/
theorem afterDirective_of_afterCondition (h : Reads st rpre) (hc : st.afterCondition = true) :
    st.afterDirective = true := by
  rw [h.2.2.1]
  rw [h.2.2.2] at hc
  cases hq : rpre.dropWhile Word.blank with
  | nil => simp [hq] at hc
  | cons v r =>
    simp only [hq, List.getElem?_cons_zero, Option.any_some] at hc
    simp [separates, Word.isKeyword_of_opensCondition hc]

/-- The reading after a blank run that is not at the head of the line is the reading before
it. -/
theorem blank (h : Reads st rpre) {w : Word} (hw : w.blank = true) : Reads st (w :: rpre) := by
  refine ⟨h.1, fun hl v hv => ?_, ?_, ?_⟩
  · rcases List.mem_cons.1 hv with rfl | hv
    · exact hw
    · exact h.2.1 hl v hv
  · simp [hw, h.2.2.1]
  · simp [hw, h.2.2.2]

end Reads

/-- The reading after a word that is not blank: nothing held back, past the head of the line,
with the flags the word sets. -/
theorem reads_word {st : LineState} {rpre : List Word} {w : Word} (hw : w.blank = false)
    (hindent : st.indent = []) (hlead : st.leading = false)
    (hdir : st.afterDirective = separates (w :: rpre))
    (hcond : st.afterCondition = w.opensCondition) : Reads st (w :: rpre) := by
  refine ⟨hindent, by simp [hlead], ?_, ?_⟩
  · simp [hw, hdir]
  · simp [hw, hcond]

/-- The flags a word that is no keyword sets, read off its text. -/
theorem separates_plain {w : Word} (rpre : List Word) (hk : keyword? w.text = none) :
    separates (w :: rpre) = (w.isNegation && rpre[1]?.any Word.opensCondition) := by
  simp [separates, Word.isKeyword, hk]

theorem opensCondition_plain {w : Word} (hk : keyword? w.text = none) :
    w.opensCondition = false := by
  simp [Word.opensCondition, hk]

/-- **One word of a line.** After words that the reading holds, a word gives tokens that spell
it, or nothing when it is a blank run that only separates a directive from what follows; no
token is empty, and the reading holds again after the word. -/
theorem scan_word_spelled {st : LineState} {rpre : List Word} (h : Reads st rpre) (w : Word)
    (ws : List Word) (halt : (w :: rpre).IsChain Word.Alternate) (hw : w.text ≠ [])
    (hhead : w.blank = true → rpre ≠ []) :
    ∃ toks st', scan st (w :: ws) = toks ++ scan st' ws ∧ Reads st' (w :: rpre) ∧
      (∀ p ∈ toks, p.2 ≠ []) ∧
      toks.flatMap spellPart = if w.blank && separates rpre then [] else w.text := by
  have hheld : st.held = [] := by simp [LineState.held, pending, h.1]
  -- the word before, if there is one, differs in blankness
  have hnear : ∀ v ∈ rpre[0]?, v.blank = !w.blank := by
    intro v hv
    cases rpre with
    | nil => simp at hv
    | cons v' r =>
      cases hv
      have := Word.blank_of_alternate (List.isChain_cons_cons.1 halt).1
      cases hb : w.blank <;> simp_all
  cases hb : w.blank
  case true =>
    have hlead : st.leading = false := by
      obtain ⟨v, r, rfl⟩ := List.exists_cons_of_ne_nil (hhead hb)
      cases hl : st.leading
      · rfl
      · have := h.2.1 hl v (by simp)
        simp [hnear v rfl, hb] at this
    have hdir := h.afterDirective_eq fun v hv => by simpa [hb] using hnear v hv
    cases hsep : separates rpre
    · -- a blank run that separates nothing is text
      refine ⟨[(.text, w.text)], st, ?_, h.blank hb, by simpa using hw, by simp⟩
      rw [scan]
      simp [hb, hdir, hsep, hlead]
    · refine ⟨[], st, ?_, h.blank hb, by simp, by simp⟩
      rw [scan]
      simp [hb, hdir, hsep]
  case false =>
    have hcond := h.afterCondition_eq (List.isChain_cons.1 halt).2
      fun v hv => by simpa [hb] using hnear v hv
    cases hk : keyword? w.text with
    | some k =>
      -- a keyword: its token alone, and the flags of a directive
      have hkw : w.isKeyword = true := by simp [Word.isKeyword, hk]
      refine ⟨[(k, w.text)], LineState.afterKeyword k, ?_, ?_, by simpa using hw, ?_⟩
      · rw [scan]
        simp [hb, hk, hheld]
      · refine reads_word hb rfl rfl (by simp [separates, hkw, LineState.afterKeyword]) ?_
        simp [Word.opensCondition, hk, LineState.afterKeyword]
      · simp [spellPart_keyword (keyword?_not_reference hk)]
    | none =>
      -- a word that is no keyword: a negation right after a condition keyword, else its text
      let st' : LineState := { st with indent := [], leading := false, afterCondition := false }
      have hsep := separates_plain rpre hk
      have hopen := opensCondition_plain hk
      -- the state after a word read as plain text
      have hplain (hneg : (w.isNegation && st.afterCondition) = false) :
          Reads { st' with afterDirective := false } (w :: rpre) :=
        reads_word hb rfl rfl (by simp [hsep, ← hcond, hneg]) (by simp [st', hopen])
      cases hc : st.afterCondition
      case false =>
        refine ⟨splitReferences [] w.text, { st' with afterDirective := false }, ?_,
          hplain (by simp [hc]), splitReferences_ne_nil_of_mem _, by simp [splitReferences_spelled]⟩
        rw [scan]
        simp [hb, hk, hc, hheld, st']
      case true =>
        -- right after `#if` or `#elseif`: `not` or a leading `!` is a negation
        have hdir := h.afterDirective_of_afterCondition hc
        have hneg (hn : w.isNegation = true) : Reads st' (w :: rpre) :=
          reads_word hb rfl rfl (by simp [st', hsep, ← hcond, hc, hn, hdir]) (by simp [st', hopen])
        by_cases hnot : w.text = Bytes.ofString "not"
        · refine ⟨[(.negation, w.text)], st', ?_, hneg (by simp [Word.isNegation, hnot]),
            by simpa using hw, by simp⟩
          have hk' : keyword? (Bytes.ofString "not") = none := hnot ▸ hk
          rw [scan]
          simp [hb, hk', hc, hheld, hnot, st']
        · obtain ⟨x, rest, hx⟩ := List.exists_cons_of_ne_nil hw
          rw [hx] at hk hnot
          by_cases h33 : x = 33
          · subst h33
            by_cases hrest : rest = []
            · subst hrest
              refine ⟨[(.negation, [33])], st', ?_, hneg (by simp [Word.isNegation, hx]),
                by simp, by simp [hx]⟩
              rw [scan]
              simp [hb, hk, hc, hheld, hnot, hx, st']
            · have hn : w.isNegation = false := by
                simp [Word.isNegation, hnot, hx, hrest]
              refine ⟨(.negation, [33]) :: splitReferences [] rest, { st' with afterDirective := false },
                ?_, hplain (by simp [hn]), ?_, ?_⟩
              · rw [scan]
                simp [hb, hk, hc, hheld, hnot, hx, hrest, st']
              · intro p hp
                rcases List.mem_cons.1 hp with rfl | hp
                · simp
                · exact splitReferences_ne_nil_of_mem rest p hp
              · simp [splitReferences_spelled, hx]
          · have hn : w.isNegation = false := by
              simp only [Word.isNegation, Bool.or_eq_false_iff, beq_eq_false_iff_ne]
              exact ⟨by rw [hx]; exact hnot, by rw [hx]; simp [h33]⟩
            refine ⟨splitReferences [] w.text, { st' with afterDirective := false }, ?_,
              hplain (by simp [hn]), splitReferences_ne_nil_of_mem _, by simp [splitReferences_spelled]⟩
            rw [scan]
            simp [hb, hk, hc, hheld, hnot, hx, h33, st']

/-- Indentation held back before a word is given back, unless the word is a conditional keyword;
the line then reads on as if nothing had been held. -/
theorem scan_held (st : LineState) {w : Word} (ws : List Word) (hb : w.blank = false) :
    scan st (w :: ws) =
      (if w.isConditional then [] else pending st.indent) ++ scan { st with indent := [] } (w :: ws) := by
  rw [scan, scan]
  cases hk : keyword? w.text with
  | some k => cases hc : k.conditional <;> simp [hb, hk, hc, Word.isConditional, LineState.held, pending]
  | none => simp [hb, hk, Word.isConditional, LineState.held]

/-- **The words of a line past its head.** From a reading that holds the words before them, the
rest of a line's words give tokens, none empty, that spell the words the line keeps, then the
line end. The induction is on the words left, the reading carried by `scan_word_spelled`. -/
theorem scan_rest_spelled {L : List Word} (hL : L.IsChain Word.Alternate)
    (hsound : ∀ w ∈ L, w.Sound) (rest : List Word) :
    ∀ (pre : List Word) (st : LineState), L = pre ++ rest → Reads st pre.reverse →
      (pre = [] → ∀ v ∈ rest.head?, v.blank = false) →
      (∀ p ∈ scan st rest, p.2 ≠ []) ∧
      (scan st rest).flatMap spellPart =
        ((rest.zipIdx pre.length).filter fun p => !dropsAt L p.2).flatMap (·.1.text) ++
          [Bytes.lf] := by
  induction rest with
  | nil =>
    intro pre st _ h _
    have hheld : st.held = [] := by simp [LineState.held, pending, h.1]
    simp [scan, hheld]
  | cons w ws ih =>
    intro pre st hsplit h hhead
    -- the words read so far, the nearest first, alternate in blankness
    have halt : (w :: pre.reverse).IsChain Word.Alternate := by
      have hall : (pre ++ [w] ++ ws).IsChain Word.Alternate := by simpa [hsplit] using hL
      have hpre : (pre ++ [w]).IsChain Word.Alternate := hall.left_of_append
      have hrev : (pre ++ [w]).reverse.IsChain Word.Alternate :=
        List.isChain_reverse.2 (hpre.imp fun a b hab => show Word.Alternate b a from Ne.symm hab)
      rwa [List.reverse_append, List.reverse_singleton, List.singleton_append] at hrev
    have hw : w.text ≠ [] := (hsound w (by simp [hsplit])).1
    have hfirst : w.blank = true → pre.reverse ≠ [] := by
      intro hb hnil
      have := hhead (List.reverse_eq_nil_iff.1 hnil) w rfl
      simp [hb] at this
    obtain ⟨toks, st', hscan, h', hne, hspell⟩ := scan_word_spelled h w ws halt hw hfirst
    obtain ⟨ihne, ihspell⟩ := ih (pre ++ [w]) st' (by simp [hsplit]) (by simpa using h')
      (by simp)
    -- the word is dropped exactly when the step spells nothing for it
    have hdrop : dropsAt L pre.length = (w.blank && separates pre.reverse) := by
      rw [hsplit, dropsAt_append]
      cases hb : w.blank
      · rfl
      · have hpre : pre ≠ [] := fun hnil => hfirst hb (by simp [hnil])
        simp [hpre]
    refine ⟨fun p hp => ?_, ?_⟩
    · rw [hscan] at hp
      rcases List.mem_append.1 hp with hp | hp
      · exact hne p hp
      · exact ihne p hp
    · rw [hscan, List.flatMap_append, hspell, ihspell, List.zipIdx_cons, List.filter_cons,
        List.length_append, List.length_singleton, hdrop]
      cases hd : (w.blank && separates pre.reverse) <;> simp

/-- **The tokens of a line, from its start**: none is empty, and they spell the words the line
keeps, then the line end. A blank run at the head is held back and given back unless a
conditional keyword follows it. -/
theorem scan_line_spelled (ws : List Word) (halt : ws.IsChain Word.Alternate)
    (hsound : ∀ w ∈ ws, w.Sound) :
    (∀ p ∈ scan {} ws, p.2 ≠ []) ∧ (scan {} ws).flatMap spellPart = keptText ws ++ [Bytes.lf] := by
  cases ws with
  | nil => simp [scan, keptText, LineState.held, pending]
  | cons w rest =>
    cases hb : w.blank
    case false =>
      simpa [keptText] using
        scan_rest_spelled halt hsound (w :: rest) [] {} rfl reads_start (by simp [hb])
    case true =>
      have hw : w.text ≠ [] := (hsound w (by simp)).1
      rw [scan_indent {} rest hb rfl rfl]
      cases rest with
      | nil =>
        simp [scan, keptText, dropsAt, LineState.held, pending, hw]
      | cons v more =>
        have hv : v.blank = false := by
          simpa [hb] using Word.blank_of_alternate (List.isChain_cons_cons.1 halt).1
        have hreads : Reads {} [w] := by simp [Reads, separates, hb]
        obtain ⟨hne, hspell⟩ :=
          scan_rest_spelled halt hsound (v :: more) [w] {} rfl hreads (by simp)
        have hdrop : dropsAt (w :: v :: more) 0 = v.isConditional := by
          simpa [hb, separates] using dropsAt_append [] w (v :: more)
        have hkept : keptText (w :: v :: more) = (if v.isConditional then [] else w.text) ++
            (((v :: more).zipIdx 1).filter fun p => !dropsAt (w :: v :: more) p.2).flatMap
              (·.1.text) := by
          rw [keptText, List.zipIdx_cons, List.filter_cons, hdrop]
          cases v.isConditional <;> simp
        rw [scan_held _ more hv]
        refine ⟨fun p hp => ?_, ?_⟩
        · rcases List.mem_append.1 hp with hp | hp
          · split at hp
            · simp at hp
            · rw [eq_of_mem_pending hp]
              exact hw
          · exact hne p hp
        · rw [List.flatMap_append, hspell, hkept]
          cases v.isConditional <;> simp [pending_spelled]

/-! ## The tokens of a line -/

/-- The words of a numbered list, joined, are the words joined. -/
theorem flatMap_zipIdx_text (ws : List Word) (n : Nat) :
    (ws.zipIdx n).flatMap (·.1.text) = (ws.map Word.text).flatten := by
  induction ws generalizing n with
  | nil => rfl
  | cons w ws ih => simp [List.zipIdx_cons, ih]

/-- A line without keywords drops none of its words. -/
theorem dropsAt_of_no_keyword {ws : List Word} (h : ∀ w ∈ ws, w.isKeyword = false) (i : Nat) :
    dropsAt ws i = false := by
  -- every rule needs a keyword among the words
  have hnone : ∀ (P : Word → Bool), (∀ w, P w = true → w.isKeyword = true) →
      ∀ j : Nat, ws[j]?.any P = false := by
    intro P hP j
    cases hj : ws[j]? with
    | none => rfl
    | some w =>
      cases hw : P w
      · simp [hw]
      · have := h w (List.mem_of_getElem? hj)
        simp [hP w hw] at this
  have hk := hnone Word.isKeyword fun _ h => h
  have hc := hnone Word.isConditional fun _ => Word.isKeyword_of_isConditional
  have ho := hnone Word.opensCondition fun _ => Word.isKeyword_of_opensCondition
  simp [dropsAt, hk, hc, ho]

/-- **The tokens of a line spell it back, less the blanks that only separate a directive.** For
a line without a line feed: every token stands at the line's place; the last token is the line
end and no other is; no text token is empty; every reference names a value name; the line is cut
into words and blank runs, and the tokens, each reference written `#{name}`, spell the runs that
the line keeps (`dropsAt`), then the line feed; so a line without keywords is spelled back byte
for byte. -/
theorem ofLine_spells (s : Bytes) (k : Int) (f : Bytes) (hs : Bytes.lf ∉ s) :
    (∀ t ∈ ofLine s k f, t.line = k ∧ t.file = f) ∧
    (∃ ts, ofLine s k f = ts ++ [⟨.text, [Bytes.lf], k, f⟩] ∧ ∀ t ∈ ts, t.isLineEnd = false) ∧
    (∀ t ∈ ofLine s k f, t.kind = .text → t.text ≠ []) ∧
    (∀ t ∈ ofLine s k f, t.kind = .reference → Check.isIdentifier t.text = true) ∧
    ((words s).map Word.text).flatten = s ∧
    (ofLine s k f).flatMap spelled = keptText (words s) ++ [Bytes.lf] ∧
    ((∀ w ∈ words s, w.isKeyword = false) → (ofLine s k f).flatMap spelled = s ++ [Bytes.lf]) := by
  obtain ⟨hne, hspell⟩ := scan_line_spelled (words s) (words_alternate s) (words_sound s)
  have hspelled : (ofLine s k f).flatMap spelled = keptText (words s) ++ [Bytes.lf] := by
    simpa [ofLine, List.flatMap_map, spelled] using hspell
  refine ⟨?_, ?_, ?_, ?_, words_join s, hspelled, fun hk => ?_⟩
  · intro t ht
    obtain ⟨p, -, rfl⟩ := List.mem_map.1 ht
    exact ⟨rfl, rfl⟩
  · -- every token before the line end is made of bytes of the line, which holds no line feed
    obtain ⟨xs, hxs, hbytes⟩ := scan_lineEnd (words s) {}
    refine ⟨xs.map fun p => ⟨p.1, p.2, k, f⟩, by simp [ofLine, hxs], fun t ht => ?_⟩
    obtain ⟨p, hp, rfl⟩ := List.mem_map.1 ht
    cases hend : Token.isLineEnd ⟨p.1, p.2, k, f⟩
    · rfl
    · have hlf : Bytes.lf ∈ p.2 := by
        simp only [isLineEnd, Bool.and_eq_true, beq_iff_eq] at hend
        simp [hend.2]
      rcases hbytes p hp _ hlf with h | ⟨w, hw, hb⟩
      · simp at h
      · exact absurd (mem_of_mem_words hw hb) hs
  · intro t ht _
    obtain ⟨p, hp, rfl⟩ := List.mem_map.1 ht
    exact hne p hp
  · intro t ht hkind
    obtain ⟨p, hp, rfl⟩ := List.mem_map.1 ht
    exact scan_reference {} (words s) p hp hkind
  · -- no word is dropped, and the words spell the line
    have hkept : keptText (words s) = s := by
      rw [keptText, List.filter_eq_self.2 fun p _ => by simp [dropsAt_of_no_keyword hk],
        flatMap_zipIdx_text, words_join]
    rw [hspelled, hkept]

/-- The line `  #if !  A #{v}`: the blank run at its head, the one after `#if` and the one after
the lone `!` are dropped, and the one before the reference stays. -/
theorem ofLine_spells_sample :
    let s := Bytes.ofString "  #if !  A #\x7bv\x7d"
    Bytes.lf ∉ s ∧
      (ofLine s 3 (Bytes.ofString "x.glsl")).flatMap spelled = Bytes.ofString "#if!A #\x7bv\x7d\n" := by
  intro s
  have hs : Bytes.lf ∉ Bytes.ofString "  #if !  A #\x7bv\x7d" := of_decide_eq_false (by cbv)
  refine ⟨hs, ?_⟩
  rw [(ofLine_spells s 3 (Bytes.ofString "x.glsl") hs).2.2.2.2.2.1]
  simp only [s]
  cbv

end Token

end ShaderVariants
