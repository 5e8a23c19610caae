import Mathlib.Data.List.Chain
import Mathlib.Data.List.TakeWhile
import ShaderVariants.Token
/-!
# The tokens of one line

What the tokenizer makes of a single line, as far as the source map of an expansion needs it.

* The words of a line spell the line, none is empty, words and blank runs alternate, and a blank
  run holds no byte that can take part in a value reference (`words_join`, `words_sound`,
  `words_alternate`).
* `Bytes.parts` reads a text as value references and the single bytes between them. A cut before
  a byte that cannot take part in a reference splits the reading in two (`Bytes.parts_append`),
  and the tokens of a word spell the word's parts (`splitReferences_parts`).
* One word read from any state gives tokens made of its own bytes and of the indentation held
  back (`scan_step`), so every line ends with its line end and no earlier token holds a byte
  from elsewhere (`scan_lineEnd`).
* A line whose words are not keywords gives, word by word, a text token for each blank run and
  the text and reference tokens of each other word (`scan_content`), and these tokens spell the
  line's parts (`tokens_parts`). A line that opens with a conditional keyword gives that keyword
  first (`scan_directive`).
-/

namespace ShaderVariants

/-! ## Markup bytes and blank glyphs -/

/-- Whether a byte can take part in a value reference `#{name}`: a name byte, `#`, `{` or `}`. -/
def Token.isMarkupByte (b : UInt8) : Bool :=
  Token.isNameByte b || b == 35 || b == 123 || b == 125

theorem Token.isMarkupByte_of_high {b : UInt8} (hb : 0x80 ≤ b) : Token.isMarkupByte b = false := by
  simp only [Token.isMarkupByte, Token.isNameByte, Bool.or_eq_false_iff, Bool.and_eq_false_iff,
    decide_eq_false_iff_not, beq_eq_false_iff_ne, ne_eq, UInt8.le_iff_toNat_le,
    ← UInt8.toNat_inj] at hb ⊢
  simp at hb ⊢
  omega

namespace Glyph

theorem lead_ascii {b : UInt8} {r : Bytes} {c n : Nat} (h : lead b r = some (c, n))
    (hb : b < 0x80) : c = b.toNat ∧ n = 0 := by
  unfold lead at h
  simp only [hb, if_true, Option.some.injEq, Prod.mk.injEq] at h
  exact ⟨h.1.symm, h.2.symm⟩

/-- The continuation bytes of a sequence that starts with a byte of `0x80` or more are all at
least `0x80`. -/
theorem lead_high {b : UInt8} {r : Bytes} {c n : Nat} (h : lead b r = some (c, n))
    (hb : ¬ b < 0x80) : ∀ x ∈ r.take n, 0x80 ≤ x := by
  unfold lead at h
  simp only [hb, if_false] at h
  repeat' split at h
  all_goals cases h
  -- each continuation byte read was checked against a range that starts at `0x80` or above
  all_goals
    rename_i hw
    intro x hx
    simp only [List.take_succ_cons, List.take_zero, List.mem_cons, List.not_mem_nil,
      or_false] at hx
    simp only [within, Bool.and_eq_true, decide_eq_true_eq, UInt8.le_iff_toNat_le] at hw ⊢
    simp only [UInt8.reduceToNat] at hw ⊢
    rcases hx with rfl | rfl | rfl <;> omega

/-- An ASCII blank is a control character or the space: none of them is markup. -/
theorem isMarkupByte_of_isBlank {b : UInt8} (hb : b < 0x80) (h : isBlank b.toNat = true) :
    Token.isMarkupByte b = false := by
  simp only [isBlank, Token.isMarkupByte, Token.isNameByte, Bool.or_eq_true, Bool.and_eq_true,
    decide_eq_true_eq, beq_iff_eq, Bool.or_eq_false_iff, Bool.and_eq_false_iff,
    decide_eq_false_iff_not, beq_eq_false_iff_ne, ne_eq, UInt8.le_iff_toNat_le,
    ← UInt8.toNat_inj, UInt8.lt_iff_toNat_lt] at hb h ⊢
  simp at hb h ⊢
  omega

/-- The bytes of a blank glyph are never markup: an ASCII blank is a control character or the
space, and every byte of a longer sequence is at least `0x80`. -/
theorem markup_free_of_blank (s : Bytes) :
    ∀ g ∈ decode s, g.blank = true → ∀ b ∈ g.bytes, Token.isMarkupByte b = false := by
  induction s using decode.induct with
  | case1 => simp [decode]
  | case2 b r c n h ih =>
    rw [decode]
    simp only [h, List.mem_cons]
    rintro g (rfl | hg) hblank
    · intro x hx
      by_cases hb : b < 0x80
      · obtain ⟨rfl, rfl⟩ := lead_ascii h hb
        simp only [bytes, List.take_zero, List.mem_singleton] at hx
        subst hx
        exact isMarkupByte_of_isBlank hb hblank
      · simp only [bytes, List.mem_cons] at hx
        rcases hx with rfl | hx
        · exact Token.isMarkupByte_of_high
            (by simpa [UInt8.lt_iff_toNat_lt, UInt8.le_iff_toNat_le] using hb)
        · exact Token.isMarkupByte_of_high (lead_high h hb x hx)
    · exact ih g hg hblank
  | case3 b r h ih =>
    rw [decode]
    simp only [h, List.mem_cons]
    rintro g (rfl | hg) hblank
    · simp [blank] at hblank
    · exact ih g hg hblank

/-- Every glyph covers at least one byte. -/
theorem bytes_ne_nil_of_mem_decode (s : Bytes) : ∀ g ∈ decode s, g.bytes ≠ [] := by
  induction s using decode.induct with
  | case1 => simp [decode]
  | case2 b r c n h ih =>
    rw [decode]
    simp only [h, List.mem_cons]
    rintro g (rfl | hg)
    · simp [bytes]
    · exact ih g hg
  | case3 b r h ih =>
    rw [decode]
    simp only [h, List.mem_cons]
    rintro g (rfl | hg)
    · simp [bytes]
    · exact ih g hg

end Glyph

/-! ## Words and blank runs -/

namespace Token

/-- What every word of a line satisfies: it is not empty, and a blank run holds no markup
byte. -/
def Word.Sound (w : Word) : Prop :=
  w.text ≠ [] ∧ (w.blank = true → ∀ b ∈ w.text, isMarkupByte b = false)

/-- Two words that follow each other in a line differ in blankness. -/
def Word.Alternate (a b : Word) : Prop := a.blank ≠ b.blank

theorem gather_join (cur : Option Word) (gs : List Glyph) :
    ((gather cur gs).map Word.text).flatten =
      (cur.map Word.text).getD [] ++ (gs.map Glyph.bytes).flatten := by
  induction gs generalizing cur with
  | nil => cases cur <;> simp [gather]
  | cons g gs ih =>
    cases cur with
    | none => simp [gather, ih]
    | some w =>
      simp only [gather]
      split <;> simp [ih]

/-- **The words of a line spell the line.** -/
theorem words_join (l : Bytes) : ((words l).map Word.text).flatten = l := by
  simp [words, gather_join, Glyph.join_decode]

theorem gather_sound (cur : Option Word) (gs : List Glyph) (hcur : ∀ w ∈ cur, w.Sound)
    (hgs : ∀ g ∈ gs, Word.Sound ⟨g.bytes, g.blank⟩) : ∀ w ∈ gather cur gs, w.Sound := by
  induction gs generalizing cur with
  | nil =>
    cases cur with
    | none => simp [gather]
    | some w => simpa [gather] using hcur
  | cons g gs ih =>
    have hg : Word.Sound ⟨g.bytes, g.blank⟩ := hgs g (by simp)
    have hrest : ∀ g ∈ gs, Word.Sound ⟨g.bytes, g.blank⟩ := fun g' h => hgs g' (by simp [h])
    cases cur with
    | none => exact ih _ (by simpa using hg) hrest
    | some w =>
      have hw : w.Sound := hcur w rfl
      simp only [gather]
      split
      · next hb =>
        -- the glyph joins the run under way, which keeps its blankness
        refine ih _ ?_ hrest
        simp only [Option.mem_def, Option.some.injEq, forall_eq']
        refine ⟨by simp [hw.1], fun hblank b hmem => ?_⟩
        simp only [beq_iff_eq] at hb
        rcases List.mem_append.1 hmem with h | h
        · exact hw.2 hblank b h
        · exact hg.2 (hb.trans hblank) b h
      · intro w' hw'
        rcases List.mem_cons.1 hw' with rfl | h
        · exact hw
        · exact ih _ (by simpa using hg) hrest w' h

/-- **No word is empty, and no blank run holds markup.** -/
theorem words_sound (l : Bytes) : ∀ w ∈ words l, w.Sound := by
  refine gather_sound none _ (by simp) fun g hg => ⟨Glyph.bytes_ne_nil_of_mem_decode l g hg, ?_⟩
  exact Glyph.markup_free_of_blank l g hg

theorem gather_alternate (w : Word) (gs : List Glyph) :
    (gather (some w) gs).head?.map Word.blank = some w.blank ∧
      (gather (some w) gs).IsChain Word.Alternate := by
  induction gs generalizing w with
  | nil => simp [gather]
  | cons g gs ih =>
    simp only [gather]
    split
    · exact ih _
    · next hb =>
      -- the run under way is closed, and the next one starts with the glyph
      obtain ⟨hhead, hchain⟩ := ih ⟨g.bytes, g.blank⟩
      refine ⟨by simp, List.isChain_cons.2 ⟨fun y hy => ?_, hchain⟩⟩
      have : y.blank = g.blank := by
        rw [Option.mem_def.1 hy] at hhead
        simpa using hhead
      simp only [beq_iff_eq] at hb
      simp only [Word.Alternate, this]
      exact Ne.symm hb

/-- **Words and blank runs alternate.** -/
theorem words_alternate (l : Bytes) : (words l).IsChain Word.Alternate := by
  unfold words
  cases Glyph.decode l with
  | nil => simp [gather]
  | cons g gs => exact (gather_alternate _ gs).2

/-- The word after a blank run is not blank, and the word after a word is a blank run. -/
theorem Word.blank_of_alternate {a b : Word} (h : Word.Alternate a b) : b.blank = !a.blank := by
  unfold Word.Alternate at h
  cases ha : a.blank <;> cases hb : b.blank <;> simp_all

/-- A keyword is one of the five directives. -/
theorem keyword?_cases {w : Bytes} {k : TokenKind} (h : keyword? w = some k) :
    k = .openIf ∨ k = .elseIf ∨ k = .otherwise ∨ k = .endIf ∨ k = .include := by
  unfold keyword? at h
  repeat' split at h
  all_goals (cases h <;> simp)

/-- A keyword's token is no value reference. -/
theorem keyword?_not_reference {w : Bytes} {k : TokenKind} (h : keyword? w = some k) :
    k ≠ .reference := by
  rcases keyword?_cases h with rfl | rfl | rfl | rfl | rfl <;> simp

end Token

/-! ## Value references -/

namespace Token

/-- A value reference at the start of a text is `#{`, a nonempty run of name bytes and `}`. -/
theorem referenceAt?_eq_some {s name rest : Bytes} (h : referenceAt? s = some (name, rest)) :
    s = 35 :: 123 :: (name ++ 125 :: rest) ∧ name ≠ [] ∧ ∀ b ∈ name, isNameByte b = true := by
  unfold referenceAt? at h
  split at h
  · next r =>
    split at h
    · simp at h
    · next _ _ rest' hd hne =>
      simp only [Option.some.injEq, Prod.mk.injEq] at h
      obtain ⟨rfl, rfl⟩ := h
      refine ⟨?_, hne, fun b hb => List.mem_takeWhile_imp hb⟩
      rw [← hd, List.takeWhile_append_dropWhile]
    · simp at h
  · simp at h

/-- The reference `#{name}` is read back whole, whatever follows it. -/
theorem referenceAt?_spelled {name : Bytes} (rest : Bytes) (hne : name ≠ [])
    (hname : ∀ b ∈ name, isNameByte b = true) :
    referenceAt? (35 :: 123 :: (name ++ 125 :: rest)) = some (name, rest) := by
  have hclose : isNameByte 125 = false := by decide
  unfold referenceAt?
  simp only [List.takeWhile_append_of_pos hname, List.dropWhile_append_of_pos hname,
    List.takeWhile_cons, List.dropWhile_cons, hclose, Bool.false_eq_true, ↓reduceIte,
    List.append_nil]

theorem referenceAt?_cons_of_ne {b : UInt8} (r : Bytes) (hb : b ≠ 35) :
    referenceAt? (b :: r) = none := by
  unfold referenceAt?
  split
  · next heq => simp_all
  · rfl

theorem referenceAt?_append_of_some {s name rest : Bytes} (t : Bytes)
    (h : referenceAt? s = some (name, rest)) : referenceAt? (s ++ t) = some (name, rest ++ t) := by
  obtain ⟨rfl, hne, hname⟩ := referenceAt?_eq_some h
  simpa using referenceAt?_spelled (rest ++ t) hne hname

/-- A text that starts with no markup byte cannot complete a reference begun before it, so no
reference starts where none started before. -/
theorem referenceAt?_append_of_none {s t : Bytes} (h : referenceAt? s = none)
    (ht : ∀ x ∈ t.head?, isMarkupByte x = false) : referenceAt? (s ++ t) = none := by
  cases hst : referenceAt? (s ++ t) with
  | none => rfl
  | some p =>
    obtain ⟨name, rest⟩ := p
    obtain ⟨heq, hne, hname⟩ := referenceAt?_eq_some hst
    -- the reference is markup from end to end, so it ends inside `s`
    have hmark : ∀ x ∈ 35 :: 123 :: (name ++ [125]), isMarkupByte x = true := by
      intro x hx
      simp only [List.mem_cons, List.mem_append, List.not_mem_nil, or_false] at hx
      rcases hx with rfl | rfl | hx | rfl
      · decide
      · decide
      · simp [isMarkupByte, hname x hx]
      · decide
    have hsplit : s ++ t = (35 :: 123 :: (name ++ [125])) ++ rest := by simpa using heq
    obtain ⟨c, hc⟩ : ∃ c, s = (35 :: 123 :: (name ++ [125])) ++ c := by
      rcases List.append_eq_append_iff.1 hsplit with ⟨a, hp, ht'⟩ | ⟨c, hc, -⟩
      · cases a with
        | nil => exact ⟨[], by simpa using hp.symm⟩
        | cons x a =>
          have hx : isMarkupByte x = true := hmark x (by rw [hp]; simp)
          simp [ht', ht x] at hx
      · exact ⟨c, hc⟩
    rw [hc, show (35 :: 123 :: (name ++ [125])) ++ c = 35 :: 123 :: (name ++ 125 :: c) by simp,
      referenceAt?_spelled c hne hname] at h
    cases h

end Token

namespace Bytes

/-- A text read left to right as value references `#{name}` and the single bytes between
them: where a reference starts it is read whole, and anywhere else one byte is read. -/
def parts (s : Bytes) : List (UInt8 ⊕ Bytes) :=
  match _h : Token.referenceAt? s with
  | some (name, rest) => .inr name :: parts rest
  | none =>
    match s with
    | [] => []
    | b :: r => .inl b :: parts r
termination_by s.length
decreasing_by
  · exact Token.referenceAt?_shorter _h
  · simp

@[simp] theorem parts_nil : parts [] = [] := by
  rw [parts]
  simp [Token.referenceAt?]

theorem parts_of_referenceAt? {s name rest : Bytes} (h : Token.referenceAt? s = some (name, rest)) :
    parts s = .inr name :: parts rest := by
  rw [parts]
  split
  · next heq => rw [h] at heq; cases heq; rfl
  · next heq => rw [h] at heq; cases heq

theorem parts_cons {b : UInt8} {r : Bytes} (h : Token.referenceAt? (b :: r) = none) :
    parts (b :: r) = .inl b :: parts r := by
  rw [parts]
  split
  · next heq => rw [h] at heq; cases heq
  · rfl

/-- **Reading a text in two pieces.** When the second piece starts with no markup byte, no
reference spans the cut, and the text reads as its two pieces one after the other. -/
theorem parts_append (s : Bytes) {t : Bytes} (ht : ∀ x ∈ t.head?, Token.isMarkupByte x = false) :
    parts (s ++ t) = parts s ++ parts t := by
  fun_induction parts s with
  | case1 s name rest h ih =>
    rw [parts_of_referenceAt? (Token.referenceAt?_append_of_some t h), ih]
    rfl
  | case2 h => simp
  | case3 b r h ih =>
    have h' : Token.referenceAt? (b :: (r ++ t)) = none := Token.referenceAt?_append_of_none h ht
    rw [List.cons_append, parts_cons h', ih]
    rfl

/-- A text without markup bytes is read byte by byte, whatever follows it. -/
theorem parts_markup_free_append {s : Bytes} (t : Bytes)
    (h : ∀ b ∈ s, Token.isMarkupByte b = false) : parts (s ++ t) = s.map .inl ++ parts t := by
  induction s with
  | nil => simp
  | cons b r ih =>
    have hb : b ≠ 35 := by
      intro hb
      have := h b (by simp)
      simp [hb, Token.isMarkupByte] at this
    rw [List.cons_append, parts_cons (Token.referenceAt?_cons_of_ne _ hb),
      ih fun x hx => h x (by simp [hx])]
    rfl

end Bytes

namespace Token

/-- The parts a scanned token spells: a reference its name, any other token its bytes. -/
def partsOf (p : TokenKind × Bytes) : List (UInt8 ⊕ Bytes) :=
  match p.1 with
  | .reference => [.inr p.2]
  | _ => p.2.map .inl

theorem pending_parts (acc : Bytes) : (pending acc).flatMap partsOf = acc.map .inl := by
  unfold pending
  split
  · next h => simp_all
  · simp [partsOf]

/-- **The tokens of a word spell its parts.** -/
theorem splitReferences_parts (acc s : Bytes) :
    (splitReferences acc s).flatMap partsOf = acc.map .inl ++ s.parts := by
  fun_induction splitReferences acc s with
  | case1 acc s name rest h ih =>
    rw [List.flatMap_append, pending_parts, List.flatMap_cons, ih, Bytes.parts_of_referenceAt? h]
    simp [partsOf]
  | case2 acc h => simp [pending_parts]
  | case3 acc b r h ih =>
    rw [ih, Bytes.parts_cons h]
    simp

theorem splitReferences_kind (acc s : Bytes) :
    ∀ p ∈ splitReferences acc s, p.1 = .text ∨ p.1 = .reference := by
  fun_induction splitReferences acc s with
  | case1 acc s name rest h ih =>
    intro p hp
    simp only [List.mem_append, List.mem_cons] at hp
    rcases hp with hp | rfl | hp
    · unfold pending at hp; split at hp <;> simp_all
    · exact .inr rfl
    · exact ih p hp
  | case2 acc h =>
    intro p hp
    unfold pending at hp; split at hp <;> simp_all
  | case3 acc b r h ih => exact ih

/-- Every byte of a token of a word comes from the word or from the text passed over. -/
theorem splitReferences_bytes (acc s : Bytes) :
    ∀ p ∈ splitReferences acc s, ∀ b ∈ p.2, b ∈ acc ∨ b ∈ s := by
  fun_induction splitReferences acc s with
  | case1 acc s name rest h ih =>
    obtain ⟨rfl, -, -⟩ := referenceAt?_eq_some h
    intro p hp b hb
    simp only [List.mem_append, List.mem_cons] at hp
    rcases hp with hp | rfl | hp
    · unfold pending at hp; split at hp <;> simp_all
    · exact .inr (by simp [hb])
    · rcases ih p hp b hb with h' | h'
      · simp at h'
      · exact .inr (by simp [h'])
  | case2 acc h =>
    intro p hp b hb
    unfold pending at hp; split at hp <;> simp_all
  | case3 acc b r h ih =>
    intro p hp x hx
    rcases ih p hp x hx with h' | h'
    · simp only [List.mem_append, List.mem_singleton] at h'
      rcases h' with h' | rfl
      · exact .inl h'
      · exact .inr (by simp)
    · exact .inr (by simp [h'])

/-! ## The tokens of a line -/

theorem held_bytes (st : LineState) : ∀ p ∈ st.held, ∀ b ∈ p.2, b ∈ st.indent := by
  intro p hp b hb
  unfold LineState.held pending at hp
  split at hp <;> simp_all

/-- **One word of a line.** Reading a word gives tokens made of the word's bytes and of the
indentation held back, and holds back at most those bytes. -/
theorem scan_step (st : LineState) (w : Word) (ws : List Word) :
    ∃ pre st', scan st (w :: ws) = pre ++ scan st' ws ∧
      (∀ p ∈ pre, ∀ b ∈ p.2, b ∈ st.indent ∨ b ∈ w.text) ∧
      (∀ b ∈ st'.indent, b ∈ st.indent ∨ b ∈ w.text) := by
  have hheld := held_bytes st
  -- the tokens of a piece of the word are made of the word's bytes
  have hpiece : ∀ s, (∀ b ∈ s, b ∈ w.text) →
      ∀ p ∈ splitReferences [] s, ∀ b ∈ p.2, b ∈ st.indent ∨ b ∈ w.text := by
    intro s hs p hp b hb
    rcases splitReferences_bytes [] s p hp b hb with h | h
    · simp at h
    · exact .inr (hs b h)
  rw [scan]
  split
  · -- a blank run: dropped after a directive, held back before the first word, else text
    split
    · exact ⟨[], st, rfl, by simp, fun b hb => .inl hb⟩
    · split
      · exact ⟨[], { st with indent := w.text }, rfl, by simp, fun b hb => .inr hb⟩
      · exact ⟨[(.text, w.text)], st, rfl, by simp +contextual, fun b hb => .inl hb⟩
  · split
    · next k hk =>
      refine ⟨(if k.conditional then [] else st.held) ++ [(k, w.text)], LineState.afterKeyword k,
        by simp, fun p hp b hb => ?_, by simp [LineState.afterKeyword]⟩
      simp only [List.mem_append, List.mem_singleton] at hp
      rcases hp with hp | rfl
      · split at hp
        · simp at hp
        · exact .inl (hheld p hp b hb)
      · exact .inr hb
    · dsimp only
      -- the state after a word that is no keyword
      let st' : LineState := { st with indent := [], leading := false, afterCondition := false }
      split
      · -- right after a condition keyword, a negation may come first
        split
        · refine ⟨st.held ++ [(.negation, w.text)], st', by simp [st'], fun p hp b hb => ?_,
            by simp [st']⟩
          simp only [List.mem_append, List.mem_singleton] at hp
          rcases hp with hp | rfl
          · exact .inl (hheld p hp b hb)
          · exact .inr hb
        · split
          · next rest hw =>
            split
            · refine ⟨st.held ++ [(.negation, [33])], st', by simp [st'], fun p hp b hb => ?_,
                by simp [st']⟩
              simp only [List.mem_append, List.mem_singleton] at hp
              rcases hp with hp | rfl
              · exact .inl (hheld p hp b hb)
              · simp only [List.mem_singleton] at hb
                exact .inr (by simp [hw, hb])
            · refine ⟨st.held ++ (.negation, [33]) :: splitReferences [] rest,
                { st' with afterDirective := false }, by simp [st'], fun p hp b hb => ?_,
                by simp [st']⟩
              simp only [List.mem_append, List.mem_cons] at hp
              rcases hp with hp | rfl | hp
              · exact .inl (hheld p hp b hb)
              · simp only [List.mem_singleton] at hb
                exact .inr (by simp [hw, hb])
              · exact hpiece rest (fun b hb => by simp [hw, hb]) p hp b hb
          · refine ⟨st.held ++ splitReferences [] w.text, { st' with afterDirective := false },
              by simp [st'], fun p hp b hb => ?_, by simp [st']⟩
            rcases List.mem_append.1 hp with hp | hp
            · exact .inl (hheld p hp b hb)
            · exact hpiece w.text (fun b hb => hb) p hp b hb
      · refine ⟨st.held ++ splitReferences [] w.text, { st' with afterDirective := false },
          by simp [st'], fun p hp b hb => ?_, by simp [st']⟩
        rcases List.mem_append.1 hp with hp | hp
        · exact .inl (hheld p hp b hb)
        · exact hpiece w.text (fun b hb => hb) p hp b hb

/-- **Every line ends with its line end.** The tokens of a line are tokens made of the bytes of
its words and of the indentation held back, followed by the line end. -/
theorem scan_lineEnd (ws : List Word) (st : LineState) :
    ∃ xs, scan st ws = xs ++ [(.text, [Bytes.lf])] ∧
      ∀ p ∈ xs, ∀ b ∈ p.2, b ∈ st.indent ∨ ∃ w ∈ ws, b ∈ w.text := by
  induction ws generalizing st with
  | nil => exact ⟨st.held, rfl, fun p hp b hb => .inl (held_bytes st p hp b hb)⟩
  | cons w ws ih =>
    obtain ⟨pre, st', hscan, hpre, hindent⟩ := scan_step st w ws
    obtain ⟨xs, hxs, hbytes⟩ := ih st'
    refine ⟨pre ++ xs, by rw [hscan, hxs, List.append_assoc], fun p hp b hb => ?_⟩
    rcases List.mem_append.1 hp with hp | hp
    · rcases hpre p hp b hb with h | h
      · exact .inl h
      · exact .inr ⟨w, by simp, h⟩
    · rcases hbytes p hp b hb with h | ⟨w', hw', h⟩
      · rcases hindent b h with h | h
        · exact .inl h
        · exact .inr ⟨w, by simp, h⟩
      · exact .inr ⟨w', by simp [hw'], h⟩

/-- The state of a line once a word that is no directive has been read: nothing is held back,
and nothing changes how the next word is read. -/
def LineState.plain : LineState := { leading := false }

/-- The tokens of a word read in the plain state: a blank run is one text token, and any other
word is cut at its value references. -/
def Word.tokens (w : Word) : List (TokenKind × Bytes) :=
  if w.blank then [(.text, w.text)] else splitReferences [] w.text

@[simp] theorem LineState.plain_leading : LineState.plain.leading = false := rfl
@[simp] theorem LineState.plain_afterDirective : LineState.plain.afterDirective = false := rfl
@[simp] theorem LineState.plain_afterCondition : LineState.plain.afterCondition = false := rfl
@[simp] theorem LineState.plain_held : LineState.plain.held = [] := rfl

/-- A word that is neither blank nor a keyword, read where no condition is expected: the
indentation held back, then the word cut at its value references; the line goes on plain. -/
theorem scan_word (st : LineState) {w : Word} (ws : List Word) (hb : w.blank = false)
    (hk : keyword? w.text = none) (hc : st.afterCondition = false) :
    scan st (w :: ws) = st.held ++ splitReferences [] w.text ++ scan LineState.plain ws := by
  rw [scan]
  simp only [hb, hk, hc, Bool.false_eq_true, ↓reduceIte, List.append_assoc]
  rfl

/-- A blank run before the first word is held back as indentation. -/
theorem scan_indent (st : LineState) {w : Word} (ws : List Word) (hb : w.blank = true)
    (hlead : st.leading = true) (hdir : st.afterDirective = false) :
    scan st (w :: ws) = scan { st with indent := w.text } ws := by
  rw [scan]
  simp [hb, hlead, hdir]

/-- A blank run after a word is a text token. -/
theorem scan_plain_blank {w : Word} (ws : List Word) (hb : w.blank = true) :
    scan LineState.plain (w :: ws) = (.text, w.text) :: scan LineState.plain ws := by
  rw [scan]
  simp [hb]

/-- In the plain state every word gives its own tokens, and the line end closes them. -/
theorem scan_plain (ws : List Word) (h : ∀ w ∈ ws, w.blank = false → keyword? w.text = none) :
    scan LineState.plain ws = ws.flatMap Word.tokens ++ [(.text, [Bytes.lf])] := by
  induction ws with
  | nil => rfl
  | cons w ws ih =>
    have ih := ih fun w' hw' => h w' (by simp [hw'])
    cases hb : w.blank with
    | true => simp [scan_plain_blank ws hb, ih, Word.tokens, hb]
    | false => simp [scan_word LineState.plain ws hb (h w (by simp) hb) rfl, ih, Word.tokens, hb]

/-- **A line of plain words.** When no word of a line is a keyword, every word of the line gives
its own tokens, the blank run before the first word included. -/
theorem scan_content (ws : List Word) (h : ∀ w ∈ ws, w.blank = false → keyword? w.text = none)
    (hsound : ∀ w ∈ ws, w.Sound) (halt : ws.IsChain Word.Alternate) :
    scan {} ws = ws.flatMap Word.tokens ++ [(.text, [Bytes.lf])] := by
  rcases ws with _ | ⟨w, ws⟩
  · rfl
  · have hrest : ∀ w' ∈ ws, w'.blank = false → keyword? w'.text = none :=
      fun w' hw' => h w' (by simp [hw'])
    cases hb : w.blank with
    | false =>
      rw [scan_word {} ws hb (h w (by simp) hb) rfl, scan_plain ws hrest]
      simp [Word.tokens, hb, LineState.held, pending]
    | true =>
      -- the blank run is held back as indentation until the next word, which is not blank
      have hne : w.text ≠ [] := (hsound w (by simp)).1
      rw [scan_indent {} ws hb rfl rfl]
      rcases ws with _ | ⟨w', ws'⟩
      · simp [scan, LineState.held, pending, hne, Word.tokens, hb]
      · have hb' : w'.blank = false := by
          simpa [hb] using Word.blank_of_alternate (List.isChain_cons_cons.1 halt).1
        rw [scan_word _ ws' hb' (h w' (by simp) hb') rfl,
          scan_plain ws' fun w'' hw'' => hrest w'' (by simp [hw''])]
        simp [LineState.held, pending, hne, Word.tokens, hb, hb']

/-- **A line that opens with a conditional keyword.** The blank run before it is dropped, and the
keyword is the line's first token. -/
theorem scan_directive (pre : List Word) (st : LineState) {w : Word} (rest : List Word)
    {k : TokenKind} (hlead : st.leading = true) (hdir : st.afterDirective = false)
    (hpre : ∀ b ∈ pre, b.blank = true) (hw : w.blank = false) (hk : keyword? w.text = some k)
    (hc : k.conditional = true) :
    scan st (pre ++ w :: rest) = (k, w.text) :: scan (LineState.afterKeyword k) rest := by
  induction pre generalizing st with
  | nil =>
    rw [List.nil_append, scan]
    simp [hw, hk, hc]
  | cons b pre ih =>
    -- a blank run before the keyword is its indentation
    rw [List.cons_append, scan_indent st _ (hpre b (by simp)) hlead hdir]
    exact ih _ hlead hdir fun b' hb' => hpre b' (by simp [hb'])

/-- **The tokens of plain words spell them.** Words that alternate with markup-free blank runs
give tokens whose parts are the parts of the words' text. -/
theorem tokens_parts (ws : List Word) (hsound : ∀ w ∈ ws, w.Sound)
    (halt : ws.IsChain Word.Alternate) :
    (ws.flatMap Word.tokens).flatMap partsOf = Bytes.parts (ws.map Word.text).flatten := by
  induction ws with
  | nil => simp
  | cons w ws ih =>
    have hw := hsound w (by simp)
    rw [List.flatMap_cons, List.flatMap_append, ih (fun w' hw' => hsound w' (by simp [hw']))
      (List.isChain_cons.1 halt).2, List.map_cons, List.flatten_cons]
    cases hb : w.blank with
    | true =>
      rw [Bytes.parts_markup_free_append _ (hw.2 hb)]
      simp [Word.tokens, hb, partsOf]
    | false =>
      -- the next word is a blank run, so no reference reaches across the end of this word
      have hnext : ∀ x ∈ (ws.map Word.text).flatten.head?, isMarkupByte x = false := by
        intro x hx
        match ws, halt, hsound with
        | [], _, _ => simp at hx
        | w' :: ws', halt, hsound =>
          have hw' := hsound w' (by simp)
          have hb' : w'.blank = true := by
            simpa [hb] using Word.blank_of_alternate (List.isChain_cons_cons.1 halt).1
          obtain ⟨y, ys, hy⟩ := List.exists_cons_of_ne_nil hw'.1
          simp only [List.map_cons, List.flatten_cons, hy, List.cons_append, List.head?_cons,
            Option.mem_def, Option.some.injEq] at hx
          subst hx
          exact hw'.2 hb' y (by simp [hy])
      rw [Bytes.parts_append _ hnext]
      simp [Word.tokens, hb, splitReferences_parts]

/-- The tokens of plain words are text and references only. -/
theorem tokens_kind (ws : List Word) :
    ∀ p ∈ ws.flatMap Word.tokens, p.1 = .text ∨ p.1 = .reference := by
  intro p hp
  obtain ⟨w, -, hp⟩ := List.mem_flatMap.1 hp
  unfold Word.tokens at hp
  split at hp
  · simp only [List.mem_singleton] at hp
    exact .inl (by rw [hp])
  · exact splitReferences_kind [] w.text p hp

end Token

end ShaderVariants
