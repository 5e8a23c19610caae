import Mathlib
import ShaderVariants.Validation
import ShaderVariants.Proofs.LineTokens
import ShaderVariants.Proofs.DiagnosticTrace
/-!
# Flag words and reference lines

What the tokenizer makes of the word after `#if`, and of a line that is one value reference,
stated without the tokenizer's machinery so that the validator's rules can be compared with it.

* A `Token.FlagWord` is a word that reads, after `#if`, as a flag and nothing else: not empty,
  without a blank glyph, not a negation, not a keyword, without a value reference. The line
  `#if n` is the keyword, the flag `n` and the line end exactly for such a word
  (`Token.scan_if_flagWord`); and when the token after `#if` is text that the rest of the line is
  a prefix of, the rest of the line is a flag word (`Token.flagWord_of_scan_if`).
* Every value reference token names a value name (`Token.scan_reference`), and the line `#{n}`
  is one reference and the line end exactly when `n` is a value name (`Token.ofLine_reference_iff`).
* The first line of a text is what comes before its first line feed, less one final carriage
  return (`Token.lines_line`).
-/

namespace ShaderVariants

/-! ## ASCII glyphs -/

namespace Glyph

/-- An ASCII byte is a glyph of its own. -/
theorem decode_ascii_cons {b : UInt8} (hb : b < 0x80) (r : Bytes) :
    decode (b :: r) = char b.toNat [b] :: decode r := by
  have hlead : lead b r = some (b.toNat, 0) := by
    unfold lead
    simp [hb]
  rw [decode]
  simp [hlead]

/-- ASCII bytes in front of a text read byte by byte. -/
theorem decode_ascii_append {a : Bytes} (h : ∀ b ∈ a, b < 0x80) (s : Bytes) :
    decode (a ++ s) = a.map (fun b => char b.toNat [b]) ++ decode s := by
  induction a with
  | nil => rfl
  | cons b r ih =>
    rw [List.cons_append, decode_ascii_cons (h b (by simp)), ih fun x hx => h x (by simp [hx]),
      List.map_cons, List.cons_append]

/-- A text of ASCII bytes reads byte by byte. -/
theorem decode_ascii {s : Bytes} (h : ∀ b ∈ s, b < 0x80) :
    decode s = s.map fun b => char b.toNat [b] := by
  simpa [decode] using decode_ascii_append h []

/-- An ASCII byte of a text is read as a glyph of its own: no longer sequence holds it. -/
theorem char_mem_decode_of_ascii {x : UInt8} (hx : x < 0x80) (s : Bytes) (hmem : x ∈ s) :
    char x.toNat [x] ∈ decode s := by
  induction s using decode.induct with
  | case1 => simp at hmem
  | case2 b r c n h ih =>
    rw [decode]
    simp only [h, List.mem_cons]
    rcases List.mem_cons.1 hmem with rfl | hr
    · obtain ⟨rfl, rfl⟩ := lead_ascii h hx
      exact .inl rfl
    · by_cases hb : b < 0x80
      · obtain ⟨-, rfl⟩ := lead_ascii h hb
        exact .inr (ih (by simpa using hr))
      · rw [← List.take_append_drop n r, List.mem_append] at hr
        rcases hr with ht | hd
        · have := lead_high h hb x ht
          simp [UInt8.le_iff_toNat_le, UInt8.lt_iff_toNat_lt] at this hx
          omega
        · exact .inr (ih hd)
  | case3 b r h ih =>
    rw [decode]
    simp only [h, List.mem_cons]
    rcases List.mem_cons.1 hmem with rfl | hr
    · unfold lead at h
      simp [hx] at h
    · exact .inr (ih hr)

/-- A text that is not empty has a glyph. -/
theorem decode_ne_nil {s : Bytes} (h : s ≠ []) : decode s ≠ [] := fun h0 => by
  have hjoin := join_decode s
  rw [h0] at hjoin
  exact h hjoin.symm

end Glyph

/-! ## The first line of a text -/

namespace Bytes

theorem normalizeLineEnds_ne_nil {s : Bytes} (h : s ≠ []) : normalizeLineEnds s ≠ [] := by
  rcases s with _ | ⟨b, r⟩
  · exact absurd rfl h
  · unfold normalizeLineEnds
    split <;> simp_all

/-- One final line feed is dropped from the last line only. -/
theorem dropFinalLf_line (l : Bytes) {rest : Bytes} (h : rest ≠ []) :
    dropFinalLf (l ++ lf :: rest) = l ++ lf :: dropFinalLf rest := by
  unfold dropFinalLf
  rw [List.getLast?_append_of_ne_nil _ (List.cons_ne_nil _ _), List.getLast?_cons,
    List.getLast?_eq_some_getLast h]
  simp only [Option.getD_some]
  split
  · rw [List.dropLast_append_of_ne_nil (List.cons_ne_nil _ _), List.dropLast_cons_of_ne_nil h]
  · rfl

/-- A carriage return is dropped from a text's end only, so a front that does not end in one
stays. -/
theorem dropFinalCr_append {a : Bytes} (s : Bytes) (ha : a.getLast? ≠ some cr) :
    dropFinalCr (a ++ s) = a ++ dropFinalCr s := by
  rcases List.eq_nil_or_concat s with rfl | ⟨s', c, rfl⟩
  · simp [dropFinalCr, ha]
  · unfold dropFinalCr
    simp only [List.concat_eq_append, ← List.append_assoc, List.getLast?_concat]
    split <;> simp

theorem dropFinalCr_prefix (s : Bytes) : dropFinalCr s <+: s := by
  unfold dropFinalCr
  split
  · exact List.dropLast_prefix s
  · exact List.prefix_refl s

theorem dropFinalCr_of_not_mem {s : Bytes} (h : cr ∉ s) : dropFinalCr s = s := by
  unfold dropFinalCr
  rw [if_neg fun hl => h (List.mem_of_getLast? hl)]

end Bytes

namespace Token

/-- A line free of line feeds, ended by one, is the first line of a text that goes on. -/
theorem lines_line {l : Bytes} (hl : Bytes.lf ∉ l) {rest : Bytes} (h : rest ≠ []) :
    lines (l ++ Bytes.lf :: rest) = Bytes.dropFinalCr l :: lines rest := by
  have hn := Bytes.normalizeLineEnds_ne_nil h
  unfold lines
  rw [Bytes.normalizeLineEnds_line hl, if_neg (by simp), if_neg (by simpa using hn),
    Bytes.dropFinalLf_line _ hn, Bytes.splitOn_line (Bytes.lf_not_mem_dropFinalCr hl)]

theorem ofSource_of_lines {src l : Bytes} {ls : List Bytes} (h : lines src = l :: ls)
    (file : Bytes) :
    ofSource src file = ofLine l 1 file ++ (ls.zipIdx 2).flatMap fun p => ofLine p.1 p.2 file := by
  unfold ofSource
  rewrite [h, List.zipIdx_cons, List.flatMap_cons]
  rfl

/-! ## Words -/

/-- A run continued from the word `w` takes every glyph of `w`'s blankness that comes next, and the
glyphs after them start afresh. -/
theorem gather_some (w : Word) (gs : List Glyph) :
    gather (some w) gs =
      ⟨w.text ++ ((gs.takeWhile (·.blank == w.blank)).map Glyph.bytes).flatten, w.blank⟩ ::
        gather none (gs.dropWhile (·.blank == w.blank)) := by
  induction gs generalizing w with
  | nil => simp [gather]
  | cons g gs ih =>
    by_cases hg : (g.blank == w.blank) = true
    · rw [gather, if_pos hg, ih]
      simp [hg]
    · rw [gather, if_neg hg]
      simp [hg, gather]

/-- A text without blank glyphs is one word. -/
theorem gather_solid {s : Bytes} (hne : s ≠ []) (hsolid : ∀ g ∈ Glyph.decode s, g.blank = false) :
    gather none (Glyph.decode s) = [⟨s, false⟩] := by
  obtain ⟨g, gs, hgs⟩ := List.exists_cons_of_ne_nil (Glyph.decode_ne_nil hne)
  have hg : g.blank = false := hsolid g (by simp [hgs])
  have hrest : ∀ g' ∈ gs, (g'.blank == g.blank) = true := fun g' hg' => by
    simp [hg, hsolid g' (by simp [hgs, hg'])]
  have hjoin : g.bytes ++ (gs.map Glyph.bytes).flatten = s := by
    simpa [hgs] using Glyph.join_decode s
  rw [hgs, gather, gather_some, List.takeWhile_eq_self_iff.2 hrest, List.dropWhile_eq_nil_iff.2 hrest]
  simp [hjoin, hg, gather]

/-- Glyphs read from a text cover no bytes only if there are none. -/
theorem glyphs_eq_nil {s : Bytes} {gs : List Glyph} (hsub : ∀ g ∈ gs, g ∈ Glyph.decode s)
    (h : (gs.map Glyph.bytes).flatten = []) : gs = [] := by
  rcases gs with _ | ⟨g, gs⟩
  · rfl
  · exact absurd (List.flatten_eq_nil_iff.1 h g.bytes (by simp))
      (Glyph.bytes_ne_nil_of_mem_decode s g (hsub g (by simp)))

/-- The words of a `#if` line: the keyword, then the blank run that the space begins. -/
theorem words_if (m : Bytes) :
    words (Bytes.ofString "#if " ++ m) =
      ⟨Bytes.ofString "#if", false⟩ :: gather (some ⟨[32], true⟩) (Glyph.decode m) := by
  have hlit : Bytes.ofString "#if " = [35, 105, 102, 32] := by cbv
  have hkw : Bytes.ofString "#if" = [35, 105, 102] := by cbv
  rw [hlit, hkw, words, Glyph.decode_ascii_append (by simp) m]
  have hblank : ShaderVariants.isBlank 35 = false ∧ ShaderVariants.isBlank 105 = false ∧
      ShaderVariants.isBlank 102 = false ∧ ShaderVariants.isBlank 32 = true := by decide
  simp [gather, Glyph.blank, Glyph.bytes, hblank]

/-! ## Value references -/

/-- Text passed over is held as one text token. -/
theorem eq_of_mem_pending {acc : Bytes} {p : TokenKind × Bytes} (h : p ∈ pending acc) :
    p = (.text, acc) := by
  unfold pending at h
  split at h <;> simp_all

/-- A value reference read at the front of a word is its first reference token. -/
theorem splitReferences_of_referenceAt? {acc s name rest : Bytes}
    (h : referenceAt? s = some (name, rest)) :
    splitReferences acc s = pending acc ++ (.reference, name) :: splitReferences [] rest := by
  rw [splitReferences]
  split <;> simp_all

/-- The first token of a word cut at its references, when it is text: a prefix of the word
(with the text passed over), the whole of it only if the word holds no reference. -/
theorem splitReferences_head_text {acc s x : Bytes} {rest : List (TokenKind × Bytes)}
    (h : splitReferences acc s = (.text, x) :: rest) :
    x <+: acc ++ s ∧ (x = acc ++ s → Check.hasReference s = false) := by
  fun_induction splitReferences acc s with
  | case1 acc s name r hr ih =>
    obtain ⟨rfl, -, -⟩ := referenceAt?_eq_some hr
    unfold pending at h
    split at h
    · simp at h
    · simp only [List.cons_append, List.nil_append, List.cons.injEq, Prod.mk.injEq] at h
      obtain ⟨⟨-, rfl⟩, -⟩ := h
      exact ⟨List.prefix_append _ _, fun h' => by simp at h'⟩
  | case2 acc hr =>
    unfold pending at h
    split at h
    · simp at h
    · simp only [List.cons.injEq, Prod.mk.injEq] at h
      obtain ⟨⟨-, rfl⟩, -⟩ := h
      exact ⟨by simp, fun _ => rfl⟩
  | case3 acc b r hr ih =>
    obtain ⟨hpre, hfull⟩ := ih h
    refine ⟨by simpa using hpre, fun hx => ?_⟩
    simp [Check.hasReference, hr, hfull (by simpa using hx)]

/-- A word with no reference is one text token. -/
theorem splitReferences_of_hasReference {acc s : Bytes} (h : Check.hasReference s = false) :
    splitReferences acc s = pending (acc ++ s) := by
  fun_induction splitReferences acc s with
  | case1 acc s name r hr ih =>
    obtain ⟨rfl, -, -⟩ := referenceAt?_eq_some hr
    simp [Check.hasReference, hr] at h
  | case2 acc hr => simp
  | case3 acc b r hr ih =>
    simp only [Check.hasReference, Bool.or_eq_false_iff] at h
    simpa using ih h.2

/-- Cutting a text at its references leaves something of every byte. -/
theorem splitReferences_ne_nil {acc s : Bytes} (h : acc ++ s ≠ []) : splitReferences acc s ≠ [] := by
  fun_induction splitReferences acc s with
  | case1 acc s name r hr ih => simp
  | case2 acc hr =>
    unfold pending
    split <;> simp_all
  | case3 acc b r hr ih => exact ih (by simp)

/-- **Every value reference names a value name.** -/
theorem splitReferences_reference (acc s : Bytes) :
    ∀ p ∈ splitReferences acc s, p.1 = .reference → Check.isIdentifier p.2 = true := by
  fun_induction splitReferences acc s with
  | case1 acc s name r hr ih =>
    obtain ⟨-, hne, hname⟩ := referenceAt?_eq_some hr
    intro p hp hkind
    simp only [List.mem_append, List.mem_cons] at hp
    rcases hp with hp | rfl | hp
    · simp [eq_of_mem_pending hp] at hkind
    · simpa [Check.isIdentifier, hne] using hname
    · exact ih p hp hkind
  | case2 acc hr =>
    intro p hp hkind
    simp [eq_of_mem_pending hp] at hkind
  | case3 acc b r hr ih => exact ih

theorem scan_reference (st : LineState) (ws : List Word) :
    ∀ p ∈ scan st ws, p.1 = .reference → Check.isIdentifier p.2 = true := by
  have hheld : ∀ st : LineState, ∀ p ∈ st.held, p.1 = .text := fun st p hp => by
    rw [eq_of_mem_pending hp]
  induction ws generalizing st with
  | nil =>
    intro p hp hk
    simp only [scan, List.mem_append, List.mem_singleton] at hp
    rcases hp with hp | rfl
    · simp [hheld st p hp] at hk
    · simp at hk
  | cons w ws ih =>
    have hkey : ∀ k, keyword? w.text = some k → k ≠ .reference := fun _ hk =>
      keyword?_not_reference hk
    intro p hp hk
    rw [scan] at hp
    -- each branch of the step gives held text, a keyword, a negation, blank text, the tokens of
    -- a word cut at its references, and the tokens of the rest of the line; `grind` splits the
    -- branches and closes each from the fact above that covers it
    grind [splitReferences_reference]

/-- A name byte is an ASCII byte that is not blank. -/
theorem isNameByte_solid {b : UInt8} (h : isNameByte b = true) :
    b < 0x80 ∧ ShaderVariants.isBlank b.toNat = false := by
  simp only [isNameByte, Bool.or_eq_true, Bool.and_eq_true, decide_eq_true_eq, beq_iff_eq,
    UInt8.le_iff_toNat_le, ← UInt8.toNat_inj] at h
  simp only [UInt8.lt_iff_toNat_lt, ShaderVariants.isBlank, Bool.or_eq_false_iff,
    Bool.and_eq_false_iff, decide_eq_false_iff_not, beq_eq_false_iff_ne, ne_eq]
  simp at h ⊢
  omega

/-- **A value reference on a line of its own**: the line `#{n}` is the reference and the line
end exactly when `n` is a value name. -/
theorem ofLine_reference_iff (n : Bytes) (k : Int) (file : Bytes) :
    Check.isIdentifier n = true ↔
      ofLine (Bytes.ofString "#\x7b" ++ n ++ Bytes.ofString "\x7d") k file =
        [⟨.reference, n, k, file⟩, ⟨.text, [Bytes.lf], k, file⟩] := by
  have hopen : Bytes.ofString "#\x7b" = [35, 123] := by cbv
  have hclose : Bytes.ofString "\x7d" = [125] := by cbv
  rw [hopen, hclose]
  constructor
  · intro h
    simp only [Check.isIdentifier, Bool.and_eq_true, Bool.not_eq_true', List.isEmpty_eq_false_iff,
      List.all_eq_true] at h
    obtain ⟨hne, hname⟩ := h
    -- the line is one word of ASCII bytes, none blank
    have hbytes : ∀ b : UInt8, b ∈ [35, 123] ++ n ++ [125] →
        b < 0x80 ∧ ShaderVariants.isBlank b.toNat = false := by
      intro b hb
      simp only [List.cons_append, List.nil_append, List.mem_cons, List.mem_append,
        List.not_mem_nil, or_false] at hb
      rcases hb with rfl | rfl | hb | rfl
      · decide
      · decide
      · exact isNameByte_solid (hname b hb)
      · decide
    have hsolid : ∀ g ∈ Glyph.decode ([35, 123] ++ n ++ [125]), g.blank = false := by
      intro g hg
      rw [Glyph.decode_ascii fun b hb => (hbytes b hb).1] at hg
      obtain ⟨b, hb, rfl⟩ := List.mem_map.1 hg
      exact (hbytes b hb).2
    have hkw : keyword? ([35, 123] ++ n ++ [125]) = none := by
      have hif : Bytes.ofString "#if" = [35, 105, 102] := by cbv
      have helseif : Bytes.ofString "#elseif" = [35, 101, 108, 115, 101, 105, 102] := by cbv
      have helse : Bytes.ofString "#else" = [35, 101, 108, 115, 101] := by cbv
      have hendif : Bytes.ofString "#endif" = [35, 101, 110, 100, 105, 102] := by cbv
      have hinclude : Bytes.ofString "#include" = [35, 105, 110, 99, 108, 117, 100, 101] := by
        cbv
      simp [keyword?, hif, helseif, helse, hendif, hinclude]
    have hwords : words ([35, 123] ++ n ++ [125]) = [⟨[35, 123] ++ n ++ [125], false⟩] :=
      gather_solid (by simp) hsolid
    have href : referenceAt? ([35, 123] ++ n ++ [125]) = some (n, []) := by
      simpa using referenceAt?_spelled [] (by simpa using hne) hname
    rw [ofLine, hwords, scan_word {} [] rfl hkw rfl, splitReferences_of_referenceAt? href,
      splitReferences_of_hasReference rfl]
    simp [pending, scan, LineState.held, LineState.plain]
  · intro h
    have hmem : (⟨.reference, n, k, file⟩ : Token) ∈
        ofLine ([35, 123] ++ n ++ [125]) k file := by
      rw [h]
      simp
    obtain ⟨p, hp, hpk⟩ := List.mem_map.1 hmem
    simp only [Token.mk.injEq] at hpk
    exact hpk.2.1 ▸ scan_reference {} _ p hp hpk.1

/-! ## The word after `#if` -/

/-- A word that the tokenizer reads after a condition keyword as a flag and nothing else: not
empty, without a blank glyph, not a negation, not a keyword, and without a value reference. -/
structure FlagWord (n : Bytes) : Prop where
  ne_nil : n ≠ []
  no_blank : ∀ g ∈ Glyph.decode n, g.blank = false
  ne_not : n ≠ Bytes.ofString "not"
  no_bang : n.head? ≠ some 33
  no_keyword : keyword? n = none
  no_reference : Check.hasReference n = false

/-- A flag word holds no ASCII blank, so no line end. -/
theorem FlagWord.not_mem {n : Bytes} (h : FlagWord n) {c : UInt8} (hc : c < 0x80)
    (hb : ShaderVariants.isBlank c.toNat = true) : c ∉ n := fun hmem => by
  have := h.no_blank _ (Glyph.char_mem_decode_of_ascii hc n hmem)
  simp [Glyph.blank, hb] at this

/-- The tokens of `#if` and what its line holds next, the blank run after the keyword dropped. -/
theorem scan_if (m : Bytes) :
    scan {} (words (Bytes.ofString "#if " ++ m)) =
      (.openIf, Bytes.ofString "#if") ::
        scan (LineState.afterKeyword .openIf)
          (gather none ((Glyph.decode m).dropWhile (·.blank == true))) := by
  have hk : keyword? (Bytes.ofString "#if") = some .openIf := by cbv
  rw [words_if, gather_some, scan]
  simp [hk, TokenKind.conditional, scan, LineState.afterKeyword]

/-- **The word after `#if`.** When the token after the keyword is text, the word it comes from is
no keyword and no negation, and the token is a prefix of the word, the whole word only if the
word holds no reference. -/
theorem scan_afterIf_word {w : Word} {ws : List Word} {x : Bytes} {rest : List (TokenKind × Bytes)}
    (hb : w.blank = false) (hne : w.text ≠ [])
    (h : scan (LineState.afterKeyword .openIf) (w :: ws) = (.text, x) :: rest) :
    keyword? w.text = none ∧ w.text ≠ Bytes.ofString "not" ∧ w.text.head? ≠ some 33 ∧
      x <+: w.text ∧ (x = w.text → Check.hasReference w.text = false) := by
  rw [scan] at h
  simp only [hb, Bool.false_eq_true, if_false] at h
  cases hk : keyword? w.text with
  | some k =>
    rw [hk] at h
    have hkt : k ≠ .text := by rcases keyword?_cases hk with rfl | rfl | rfl | rfl | rfl <;> simp
    split at h <;> simp_all [LineState.afterKeyword, LineState.held, pending]
  | none =>
    rw [hk] at h
    simp only [LineState.afterKeyword, LineState.held, pending, TokenKind.takesCondition,
      List.isEmpty_nil, if_true, List.nil_append] at h
    by_cases hnot : w.text = Bytes.ofString "not"
    · simp [hnot] at h
    · rw [if_neg hnot] at h
      split at h
      · simp at h
      · next hbang =>
        have hhead : w.text.head? ≠ some 33 := by
          intro h33
          obtain ⟨r, hr⟩ : ∃ r, w.text = 33 :: r := by
            cases hw : w.text with
            | nil => simp [hw] at h33
            | cons c r => simp_all
          exact hbang r hr
        have hsplit : splitReferences [] w.text ≠ [] := splitReferences_ne_nil (by simpa using hne)
        obtain ⟨p, ps, hps⟩ := List.exists_cons_of_ne_nil hsplit
        rw [hps, List.cons_append, List.cons.injEq] at h
        obtain ⟨rfl, -⟩ := h
        obtain ⟨hpre, hfull⟩ := splitReferences_head_text hps
        exact ⟨rfl, hnot, hhead, by simpa using hpre, fun hx => hfull (by simpa using hx)⟩

/-- **A flag token that spans its line.** If the token after `#if` is text that the rest of the
line `m` is a prefix of, then it is all of `m`, and `m` reads as one flag. -/
theorem flagWord_of_scan_if {m x : Bytes} {rest : List (TokenKind × Bytes)}
    (h : scan (LineState.afterKeyword .openIf)
      (gather none ((Glyph.decode m).dropWhile (·.blank == true))) = (.text, x) :: rest)
    (hx : x ≠ [Bytes.lf]) (hm : m <+: x) : x = m ∧ FlagWord x := by
  cases hD : (Glyph.decode m).dropWhile (·.blank == true) with
  | nil =>
    -- nothing but blanks after the keyword: the next token is the line end
    rw [hD] at h
    simp [gather, scan, LineState.afterKeyword, LineState.held, pending] at h
    exact absurd h.1.symm hx
  | cons g gs =>
    have hg : g.blank = false := by
      have hhead := List.head?_dropWhile_not (fun x : Glyph => x.blank == true) (Glyph.decode m)
      rw [hD] at hhead
      simpa using hhead
    rw [hD, gather, gather_some] at h
    dsimp only at h
    -- the glyphs of `m`: a blank run, the first word, and what follows the word
    set lead := (Glyph.decode m).takeWhile (·.blank == true) with hlead
    set word := gs.takeWhile (·.blank == g.blank) with hword
    set after := gs.dropWhile (·.blank == g.blank) with hafter
    have hsplit : Glyph.decode m = lead ++ g :: (word ++ after) := by
      rw [hlead, hword, hafter, List.takeWhile_append_dropWhile, ← hD,
        List.takeWhile_append_dropWhile]
    have hmem : ∀ g' ∈ lead ++ g :: (word ++ after), g' ∈ Glyph.decode m := by
      rw [← hsplit]; exact fun _ h => h
    have hwne : g.bytes ++ (word.map Glyph.bytes).flatten ≠ [] := by
      simp [Glyph.bytes_ne_nil_of_mem_decode m g (hmem g (by simp))]
    obtain ⟨hkw, hnot, hbang, hpre, hfull⟩ := scan_afterIf_word hg hwne h
    dsimp only at hkw hnot hbang hpre hfull
    -- `m` is a prefix of the token, which is a prefix of the word inside `m`: all three agree
    have hbytes : m = (lead.map Glyph.bytes).flatten ++ (g.bytes ++ (word.map Glyph.bytes).flatten) ++
        (after.map Glyph.bytes).flatten := by
      conv_lhs => rw [← Glyph.join_decode m, hsplit]
      simp
    have hlen := congrArg List.length hbytes
    have hm' := hm.length_le
    have hpre' := hpre.length_le
    simp only [List.length_append] at hlen hpre'
    have hxw : x = g.bytes ++ (word.map Glyph.bytes).flatten := hpre.eq_of_length (by rw [List.length_append]; omega)
    have hxm : m = x := hm.eq_of_length (by omega)
    have hlead0 : lead = [] := glyphs_eq_nil (fun g' h' => hmem g' (by simp [h']))
      (List.eq_nil_of_length_eq_zero (by omega))
    have hafter0 : after = [] := glyphs_eq_nil (fun g' h' => hmem g' (by simp [h']))
      (List.eq_nil_of_length_eq_zero (by omega))
    refine ⟨hxm.symm, ⟨hxw ▸ hwne, ?_, hxw ▸ hnot, hxw ▸ hbang, hxw ▸ hkw, hfull hxw ▸ ?_⟩⟩
    · -- every glyph of the flag is the word's, of the first glyph's blankness
      rw [← hxm, hsplit, hlead0, hafter0]
      intro g' hg'
      simp only [List.nil_append, List.append_nil, List.mem_cons] at hg'
      rcases hg' with rfl | hg'
      · exact hg
      · simpa [hg] using List.mem_takeWhile_imp hg'
    · rw [hxw]

/-- **The `#if` line of a flag word**: the keyword, the flag, the line end. -/
theorem scan_if_flagWord {n : Bytes} (h : FlagWord n) :
    scan {} (words (Bytes.ofString "#if " ++ n)) =
      [(.openIf, Bytes.ofString "#if"), (.text, n), (.text, [Bytes.lf])] := by
  have hdrop : (Glyph.decode n).dropWhile (·.blank == true) = Glyph.decode n := by
    cases hd : Glyph.decode n with
    | nil => rfl
    | cons g gs => exact List.dropWhile_cons_of_neg (by simp [h.no_blank g (by simp [hd])])
  rw [scan_if, hdrop, gather_solid h.ne_nil h.no_blank]
  simp only [scan, h.no_keyword, h.ne_not, LineState.afterKeyword, TokenKind.takesCondition,
    LineState.held, pending, List.isEmpty_nil, Bool.false_eq_true, if_true, if_false,
    List.nil_append]
  split
  · exact absurd rfl h.no_bang
  · simp [splitReferences_of_hasReference h.no_reference, pending, h.ne_nil]

end Token

end ShaderVariants
