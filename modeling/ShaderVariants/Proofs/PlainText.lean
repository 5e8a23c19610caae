import ShaderVariants.Proofs.PermutationNames
/-!
# Expanding a text without markup

A text is without markup when no word of any of its lines is a directive keyword and no line
refers to a value (`Token.MarkupFree`). Such a text parses under any flags, every one of its lines
is live, and it expands to its lines, each closed by a line feed (`Session.expand_markup_free`):
the text with each CR LF pair read as a line feed, and a line feed added at its end when it has
none.

Expanding that output again reads its CR LF pairs again. A carriage return at the end of a line
of the text is kept, and meets the line feed the expansion writes after the line; so the second
expansion is the first with its CR LF pairs read as line feeds, and it gives the first back
exactly when the first holds no CR LF pair: when the text has no carriage return before a CR LF
pair and does not end in a carriage return (`Session.reexpand_markup_free`). The text `CR CR LF`
expands to `CR LF`, and that to `LF` (`Session.reexpand_carriage_returns`).
-/

namespace ShaderVariants

/-! ## §1 — Lines without markup -/

namespace Token

/-- A line without markup: none of its words is a directive keyword, and it refers to no value. -/
structure MarkupFreeLine (l : Bytes) : Prop where
  no_keyword : ∀ w ∈ lineWords l, keyword? w = none
  no_reference : Bytes.references l = []

/-- A text without markup: each of its lines is without markup. -/
def MarkupFree (src : Bytes) : Prop := ∀ l ∈ lines src, MarkupFreeLine l

theorem MarkupFreeLine.lineDirective_eq {l : Bytes} (h : MarkupFreeLine l) :
    lineDirective l = none := by
  unfold lineDirective
  split
  · next w ws hws =>
    rw [h.no_keyword w (by simp [hws])]
    rfl
  · rfl

theorem MarkupFreeLine.plainLine {l : Bytes} (h : MarkupFreeLine l) (hlf : Bytes.lf ∉ l) :
    PlainLine l where
  no_lf := hlf
  no_include := fun hmem => by
    have hkw : keyword? (Bytes.ofString "#include") = some .include := by decide +kernel
    have := h.no_keyword _ hmem
    rw [hkw] at this
    cases this
  directive_first := fun w hw => by
    simp [isConditionalWord, h.no_keyword w (List.mem_of_mem_tail hw)]

theorem MarkupFree.selfContained {src : Bytes} (h : MarkupFree src) : SelfContained src where
  no_include := fun l hl => ((h l hl).plainLine (lf_not_mem_of_mem_lines hl)).no_include
  no_reference := fun l hl => (h l hl).no_reference
  directive_first := fun l hl => ((h l hl).plainLine (lf_not_mem_of_mem_lines hl)).directive_first

/-! ## §2 — Every line is live, and the text parses -/

/-- Lines that state no directive are all live, whatever regions are open around them. -/
theorem liveLines_of_content (flags : Flags) (file : Bytes) (regions : List OpenRegion) :
    ∀ ls : List (Bytes × Nat), (∀ p ∈ ls, lineDirective p.1 = none) →
      liveLines flags file true regions ls = ls
  | [], _ => rfl
  | (l, n) :: ls, h => by
    have hl : lineDirective l = none := h (l, n) (by simp)
    simp only [liveLines, hl, if_true, List.singleton_append]
    rw [liveLines_of_content flags file regions ls fun p hp => h p (List.mem_cons_of_mem _ hp)]

theorem liveContent_markup_free {src : Bytes} (h : MarkupFree src) (flags : Flags) (file : Bytes) :
    liveContent flags src file = (lines src).zipIdx 1 :=
  liveLines_of_content flags file [] _ fun p hp =>
    (h p.1 (List.fst_mem_of_mem_zipIdx hp)).lineDirective_eq

/-- The tokens of a text without markup are text, line ends included. -/
theorem ofSource_markup_free {src : Bytes} (h : MarkupFree src) (file : Bytes) :
    ∀ t ∈ ofSource src file, t.kind = .text ∨ t.kind = .reference := by
  intro t ht
  obtain ⟨p, hp, ht⟩ := List.mem_flatMap.1 ht
  have hl := List.fst_mem_of_mem_zipIdx hp
  exact ofLine_content_kind p.2 file ((h p.1 hl).plainLine (lf_not_mem_of_mem_lines hl))
    (h p.1 hl).lineDirective_eq t ht

end Token

namespace Session

/-- **A text without markup parses**, under any flags: its tokens are all read as segments. -/
theorem parse_markup_free (s : Session) {src : Bytes} (h : Token.MarkupFree src) (file : Bytes) :
    ∃ doc, s.parse src file = .ok doc := by
  have hsweep := @sweep_segments s.flags true [] (Token.ofSource src file) []
    (Token.ofSource_markup_free h file)
  rw [List.append_nil] at hsweep
  have hok := parse_isOk s src file
  rw [hsweep] at hok
  cases hp : s.parse src file with
  | error e => simp [hp, Except.isOk, Except.toBool, Token.sweep, Except.map] at hok
  | ok doc => exact ⟨doc, rfl⟩

/-! ## §3 — The expansion -/

/-- **A text without markup expands to its lines**, each closed by a line feed, under any flags,
values and loader. -/
theorem expand_markup_free (s : Session) {src : Bytes} (h : Token.MarkupFree src) (file : Bytes) :
    ∃ e, s.expand src file = .ok e ∧ e.text = (Token.lines src).flatMap (· ++ [Bytes.lf]) := by
  obtain ⟨doc, hdoc⟩ := s.parse_markup_free h file
  have hplain : ∀ l ∈ Token.lines src, Token.PlainLine l :=
    fun l hl => (h l hl).plainLine (Token.lf_not_mem_of_mem_lines hl)
  have hlive := Token.liveContent_markup_free h s.flags file
  -- no live line refers to a value
  have hnoref : ∀ p ∈ Token.liveContent s.flags src file, Bytes.references p.1 = [] := by
    intro p hp
    rw [hlive] at hp
    exact (h p.1 (List.fst_mem_of_mem_zipIdx hp)).no_reference
  obtain ⟨e, he, htext, -⟩ :=
    s.expand_lines hplain hdoc fun p hp name hname => by simp [hnoref p hp] at hname
  refine ⟨e, he, ?_⟩
  rw [htext,
    List.flatMap_congr fun p hp => by rw [Bytes.substitute_of_references_nil _ (hnoref p hp)],
    hlive]
  conv_rhs => rw [← List.zipIdx_map_fst 1 (Token.lines src)]
  rw [List.flatMap_map]

end Session

/-! ## §4 — The lines of the expansion -/

namespace Token

/-- **The lines of a text written line by line** are its lines, each less a carriage return at
its end: that return and the line feed written after it are read as one line end. -/
theorem lines_written {ls : List Bytes} (h : ∀ l ∈ ls, Bytes.lf ∉ l) :
    lines (ls.flatMap (· ++ [Bytes.lf])) = ls.map Bytes.dropFinalCr := by
  induction ls with
  | nil => rfl
  | cons l ls ih =>
    have hl : Bytes.lf ∉ l := h l (by simp)
    cases ls with
    | nil =>
      -- the last line: its line feed is dropped, and what is left is one piece
      have hn : Bytes.normalizeLineEnds (l ++ [Bytes.lf]) = Bytes.dropFinalCr l ++ [Bytes.lf] := by
        simpa using Bytes.normalizeLineEnds_line hl []
      simp [lines, hn, Bytes.dropFinalLf, Bytes.splitOn_of_not_mem (Bytes.lf_not_mem_dropFinalCr hl)]
    | cons l' ls' =>
      rw [List.flatMap_cons, List.append_assoc, List.singleton_append, lines_line hl (by simp),
        ih fun x hx => h x (List.mem_cons_of_mem l hx)]
      rfl

/-- A blank glyph at the end of a line adds no word: it ends the line's last blank run, or is one
of its own. -/
theorem gather_append_blank {g : Glyph} (hg : g.blank = true) :
    ∀ (cur : Option Word) (gs : List Glyph),
      (gather cur (gs ++ [g])).filter (!·.blank) = (gather cur gs).filter (!·.blank)
  | none, [] => by simp [gather, hg]
  | some w, [] => by
    cases hw : w.blank <;> simp [gather, hg, hw]
  | none, g' :: gs => by
    simp only [List.cons_append, gather]
    exact gather_append_blank hg _ gs
  | some w, g' :: gs => by
    simp only [List.cons_append, gather]
    split
    · exact gather_append_blank hg _ gs
    · simp only [List.filter_cons]
      rw [gather_append_blank hg _ gs]

/-- A carriage return at the end of a line changes none of its words. -/
theorem lineWords_append_cr (x : Bytes) : lineWords (x ++ [Bytes.cr]) = lineWords x := by
  have hcr : Glyph.decode [Bytes.cr] = [.char 13 [13]] := by decide +kernel
  have hdec : Glyph.decode (x ++ [Bytes.cr]) = Glyph.decode x ++ [.char 13 [13]] := by
    rw [Glyph.decode_append_ascii (by simp [Bytes.cr]), hcr]
  simp only [lineWords, words, hdec, gather_append_blank (by decide : (Glyph.char 13 [13]).blank = true)]

/-- A carriage return at the end of a line adds no value reference. -/
theorem references_append_cr (x : Bytes) :
    Bytes.references (x ++ [Bytes.cr]) = Bytes.references x := by
  have hcr : Bytes.parts [Bytes.cr] = [.inl Bytes.cr] := by decide +kernel
  rw [Bytes.references, Bytes.parts_append x (by simp [Bytes.cr, isMarkupByte, isNameByte]), hcr]
  simp [Bytes.references]

theorem MarkupFreeLine.dropFinalCr {l : Bytes} (h : MarkupFreeLine l) :
    MarkupFreeLine (Bytes.dropFinalCr l) := by
  unfold Bytes.dropFinalCr
  split
  · next hlast =>
    obtain ⟨x, rfl⟩ := List.getLast?_eq_some_iff.1 hlast
    rw [List.dropLast_concat]
    exact ⟨fun w hw => h.no_keyword w (by rwa [lineWords_append_cr]),
      by rw [← references_append_cr]; exact h.no_reference⟩
  · exact h

/-- **The expansion of a text without markup is without markup.** -/
theorem MarkupFree.written {src : Bytes} (h : MarkupFree src) :
    MarkupFree ((lines src).flatMap (· ++ [Bytes.lf])) := by
  intro l hl
  rw [lines_written fun l hl => lf_not_mem_of_mem_lines hl] at hl
  obtain ⟨l0, hl0, rfl⟩ := List.mem_map.1 hl
  exact (h l0 hl0).dropFinalCr

end Token

/-! ## §5 — CR LF pairs -/

namespace Bytes

/-- Reading CR LF pairs as line feeds changes a text exactly when it holds such a pair. -/
theorem normalizeLineEnds_eq_self_iff (s : Bytes) :
    normalizeLineEnds s = s ↔ contains s [cr, lf] = false := by
  induction s using normalizeLineEnds.induct with
  | case1 => simp [contains]
  | case2 r ih => simp [normalizeLineEnds, contains, cr, lf]
  | case3 b r hb ih =>
    -- `b` starts no CR LF pair, so both sides come down to the rest
    have hpre : List.isPrefixOf [cr, lf] (b :: r) = false := by
      rcases r with _ | ⟨c, r⟩
      · simp [List.isPrefixOf]
      · by_cases hb13 : b = 13
        · have hc : c ≠ 10 := fun hc => hb r hb13 (by rw [hc])
          simp [List.isPrefixOf, cr, lf, Ne.symm hc]
        · simp [List.isPrefixOf, cr, beq_eq_false_iff_ne.2 (Ne.symm hb13)]
    rw [normalizeLineEnds.eq_3 b r hb, List.cons.injEq, contains, hpre, Bool.false_or, ← ih]
    simp

/-- A text that does not start with a line feed starts with one after its CR LF pairs are read
as line feeds exactly when it starts with such a pair. -/
theorem isPrefixOf_lf_normalizeLineEnds {r : Bytes} (hr : r.head? ≠ some lf) :
    List.isPrefixOf [lf] (normalizeLineEnds r) = List.isPrefixOf [cr, lf] r := by
  rcases r with _ | ⟨c, _ | ⟨d, r'⟩⟩
  · rfl
  · have hc : c ≠ 10 := fun hc => hr (by simp [hc, lf])
    simp [normalizeLineEnds, List.isPrefixOf, lf, Ne.symm hc]
  · have hc : c ≠ 10 := fun hc => hr (by simp [hc, lf])
    by_cases hcd : c = 13 ∧ d = 10
    · obtain ⟨rfl, rfl⟩ := hcd
      simp [normalizeLineEnds, List.isPrefixOf, cr, lf]
    · rw [normalizeLineEnds.eq_3 c (d :: r') fun _ h1 h2 => hcd ⟨h1, (List.cons.inj h2).1⟩]
      have hpair : List.isPrefixOf [cr, lf] (c :: d :: r') = false := by
        simp only [List.isPrefixOf, cr, lf, Bool.and_eq_false_iff, beq_eq_false_iff_ne]
        by_cases h13 : c = 13
        · exact .inr (.inl fun h => hcd ⟨h13, h.symm⟩)
        · exact .inl (Ne.symm h13)
      rw [hpair]
      simp only [List.isPrefixOf, lf, Bool.and_eq_false_iff, beq_eq_false_iff_ne]
      exact .inl (Ne.symm hc)

/-- **A CR LF pair survives the reading of CR LF pairs** exactly where a carriage return stood
before a CR LF pair. -/
theorem contains_normalizeLineEnds (s : Bytes) :
    contains (normalizeLineEnds s) [cr, lf] = contains s [cr, cr, lf] := by
  induction s using normalizeLineEnds.induct with
  | case1 => rfl
  | case2 r ih =>
    simp only [cr, lf] at ih ⊢
    simp [normalizeLineEnds, contains, List.isPrefixOf, ih]
  | case3 b r hb ih =>
    rw [normalizeLineEnds.eq_3 b r hb, contains, contains, ih]
    congr 1
    by_cases hb13 : b = 13
    · -- after a carriage return, the rest starts with no line feed
      subst hb13
      have hr : r.head? ≠ some lf := fun h => by
        obtain ⟨r', rfl⟩ : ∃ r', r = 10 :: r' := by
          rcases r with _ | ⟨c, r'⟩
          · simp at h
          · exact ⟨r', by simpa [lf] using h⟩
        exact hb r' rfl rfl
      simp only [List.isPrefixOf, cr, BEq.rfl, Bool.true_and]
      exact isPrefixOf_lf_normalizeLineEnds hr
    · simp [List.isPrefixOf, cr, beq_eq_false_iff_ne.2 (Ne.symm hb13)]

/-- Reading CR LF pairs as line feeds keeps a text's last byte. -/
theorem getLast?_normalizeLineEnds (s : Bytes) : (normalizeLineEnds s).getLast? = s.getLast? := by
  induction s using normalizeLineEnds.induct with
  | case1 => rfl
  | case2 r ih => simp [normalizeLineEnds, List.getLast?_cons, ih]
  | case3 b r hb ih => rw [normalizeLineEnds.eq_3 b r hb, List.getLast?_cons, List.getLast?_cons, ih]

/-- A line feed put after a text makes a CR LF pair with a carriage return at its end. -/
theorem contains_append_lf (x : Bytes) :
    contains (x ++ [lf]) [cr, lf] = (contains x [cr, lf] || x.getLast? == some cr) := by
  induction x with
  | nil => rfl
  | cons b r ih =>
    rw [List.cons_append, contains, ih, contains]
    rcases r with _ | ⟨c, r'⟩
    · simp [contains, List.isPrefixOf, cr, lf, eq_comm]
    · simp only [List.cons_append, List.isPrefixOf, List.getLast?_cons_cons, Bool.or_assoc]

/-- Lines, each closed by the separator, join back into the text and a final separator. -/
theorem flatMap_splitOn (sep : UInt8) (x : Bytes) :
    (splitOn sep x).flatMap (· ++ [sep]) = x ++ [sep] := by
  induction x with
  | nil => rfl
  | cons b r ih =>
    rw [splitOn]
    split
    · next hb => simp [hb, ih]
    · split
      · next hnil => exact absurd hnil (splitOn_ne_nil sep r)
      · next p ps hps =>
        rw [hps] at ih
        simp only [List.flatMap_cons, List.cons_append] at ih ⊢
        rw [ih]

end Bytes

namespace Token

/-- A text written line by line is the text with its CR LF pairs read as line feeds, closed by a
line feed if it does not end in one. -/
theorem flatMap_lines (src : Bytes) :
    (lines src).flatMap (· ++ [Bytes.lf]) =
      if Bytes.normalizeLineEnds src = [] then []
      else Bytes.dropFinalLf (Bytes.normalizeLineEnds src) ++ [Bytes.lf] := by
  by_cases h : Bytes.normalizeLineEnds src = []
  · simp [lines, h]
  · simp [lines, h, Bytes.flatMap_splitOn]

/-- **The expansion of a text without markup holds no CR LF pair** exactly when the text has no
carriage return before a CR LF pair and does not end in a carriage return. -/
theorem contains_written (src : Bytes) :
    Bytes.contains ((lines src).flatMap (· ++ [Bytes.lf])) [Bytes.cr, Bytes.lf] = false ↔
      Bytes.contains src [Bytes.cr, Bytes.cr, Bytes.lf] = false ∧ src.getLast? ≠ some Bytes.cr := by
  rw [flatMap_lines]
  split
  · next hN =>
    -- only the empty text reads as nothing
    have hsrc : src = [] := by
      by_contra hne
      exact Bytes.normalizeLineEnds_ne_nil hne hN
    subst hsrc
    simp [Bytes.contains]
  · next hN =>
    by_cases hlast : (Bytes.normalizeLineEnds src).getLast? = some Bytes.lf
    · -- the text ends in a line feed, which closes its last line already
      have hclose : Bytes.dropFinalLf (Bytes.normalizeLineEnds src) ++ [Bytes.lf] =
          Bytes.normalizeLineEnds src := by
        obtain ⟨ys, hys⟩ := List.getLast?_eq_some_iff.1 hlast
        rw [Bytes.dropFinalLf, if_pos hlast, hys, List.dropLast_concat]
      rw [Bytes.getLast?_normalizeLineEnds] at hlast
      rw [hclose, Bytes.contains_normalizeLineEnds, hlast]
      simp [Bytes.cr, Bytes.lf]
    · rw [Bytes.dropFinalLf, if_neg hlast, Bytes.contains_append_lf, Bytes.contains_normalizeLineEnds,
        Bytes.getLast?_normalizeLineEnds]
      simp

end Token

/-! ## §7 — Expanding twice -/

namespace Session

/-- **Expanding a text without markup twice.** Under any flags, values and loader, a text without
markup expands to its lines, each closed by a line feed; that output expands in turn to itself
with its CR LF pairs read as line feeds, so the second expansion gives the first back exactly when
the first holds no CR LF pair, which is when the text has no carriage return before a CR LF pair
and does not end in a carriage return. -/
theorem reexpand_markup_free (s : Session) (src file : Bytes) (h : Token.MarkupFree src) :
    ∃ e, s.expand src file = .ok e ∧ e.text = (Token.lines src).flatMap (· ++ [Bytes.lf]) ∧
      ∃ e', s.expand e.text file = .ok e' ∧ e'.text = Bytes.normalizeLineEnds e.text ∧
        (e'.text = e.text ↔ Bytes.contains e.text [Bytes.cr, Bytes.lf] = false) ∧
        (Bytes.contains e.text [Bytes.cr, Bytes.lf] = false ↔
          Bytes.contains src [Bytes.cr, Bytes.cr, Bytes.lf] = false ∧
            src.getLast? ≠ some Bytes.cr) := by
  obtain ⟨e, he, htext⟩ := s.expand_markup_free h file
  have hfree : Token.MarkupFree e.text := htext ▸ h.written
  obtain ⟨e', he', htext'⟩ := s.expand_markup_free hfree file
  have hlines : ∀ l ∈ Token.lines src, Bytes.lf ∉ l :=
    fun _ hl => Token.lf_not_mem_of_mem_lines hl
  -- the second pass writes the lines of the first, each less a final carriage return
  have hsecond : e'.text = Bytes.normalizeLineEnds e.text := by
    rw [htext', htext, Token.lines_written hlines, Bytes.normalizeLineEnds_lines hlines]
  refine ⟨e, he, htext, e', he', hsecond, ?_, ?_⟩
  · rw [hsecond]
    exact Bytes.normalizeLineEnds_eq_self_iff e.text
  · rw [htext]
    exact Token.contains_written src

/-- The text `a CR LF` expands to `a LF`, which expands to itself. -/
theorem reexpand_markup_free_crlf :
    let s : Session := ⟨[], [], Loader.ofTable [], 0⟩
    let f := Bytes.ofString "a.glsl"
    let src : Bytes := [97, Bytes.cr, Bytes.lf]
    Token.MarkupFree src ∧ ∃ e e', s.expand src f = .ok e ∧ e.text = [97, Bytes.lf] ∧
      s.expand e.text f = .ok e' ∧ e'.text = e.text := by
  intro s f src
  have hlines : Token.lines src = [[97]] := by decide +kernel
  have hfree : Token.MarkupFree src := by
    intro l hl
    rw [hlines, List.mem_singleton] at hl
    subst hl
    exact ⟨by decide +kernel, by decide +kernel⟩
  obtain ⟨e, he, htext, e', he', -, hsame, -⟩ := reexpand_markup_free s src f hfree
  rw [hlines, show [[97]].flatMap (· ++ [Bytes.lf]) = [97, Bytes.lf] from rfl] at htext
  refine ⟨hfree, e, e', he, htext, he', hsame.2 ?_⟩
  rw [htext]
  decide

/-- A carriage return before a CR LF pair: `CR CR LF` expands to `CR LF`, which expands to `LF`. -/
theorem reexpand_carriage_returns :
    let s : Session := ⟨[], [], Loader.ofTable [], 0⟩
    let f := Bytes.ofString "a.glsl"
    ∃ e e', s.expand [Bytes.cr, Bytes.cr, Bytes.lf] f = .ok e ∧ e.text = [Bytes.cr, Bytes.lf] ∧
      s.expand e.text f = .ok e' ∧ e'.text = [Bytes.lf] := by
  intro s f
  have hfree : ∀ src : Bytes, Token.lines src = [[]] ∨ Token.lines src = [[Bytes.cr]] →
      Token.MarkupFree src := by
    intro src hsrc l hl
    rcases hsrc with h | h <;> rw [h] at hl <;> simp only [List.mem_singleton] at hl <;> subst hl
    · exact ⟨by simp [Token.lineWords, Token.words, Token.gather, Glyph.decode],
        by decide +kernel⟩
    · exact ⟨by decide +kernel, by decide +kernel⟩
  have hl1 : Token.lines [Bytes.cr, Bytes.cr, Bytes.lf] = [[Bytes.cr]] := by decide +kernel
  have hl2 : Token.lines [Bytes.cr, Bytes.lf] = [[]] := by decide +kernel
  obtain ⟨e, he, htext⟩ := s.expand_markup_free (hfree _ (.inr hl1)) f
  rw [hl1, show [[Bytes.cr]].flatMap (· ++ [Bytes.lf]) = [Bytes.cr, Bytes.lf] from rfl] at htext
  have hfree' : Token.MarkupFree e.text := hfree e.text (.inl (by rw [htext]; exact hl2))
  obtain ⟨e', he', htext'⟩ := s.expand_markup_free hfree' f
  rw [htext, hl2, show [[]].flatMap (· ++ [Bytes.lf]) = [Bytes.lf] from rfl] at htext'
  exact ⟨e, e', he, htext, he', htext'⟩

end Session

end ShaderVariants
