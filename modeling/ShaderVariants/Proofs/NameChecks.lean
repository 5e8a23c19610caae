import Mathlib.Data.List.Enum
import ShaderVariants.Config.Overrides
import ShaderVariants.Document.Parser
import ShaderVariants.Proofs.FlagWords
import ShaderVariants.Proofs.Grammar
import ShaderVariants.Proofs.IncludeTree
/-!
# The name checks and the directive language

The checks a configuration's names must pass agree with how sources are read. A flag name is
what `#if` can test: the probe `#if n`, a line `X` and `#endif` reads, where `n` is defined, as one
region whose one branch tests `n` unnegated (and then chooses `X` exactly when `n` is on), and it
reads so only for a flag name (`Document.flagName_iff_testsFlag`). A value name is what `#{...}`
can hold: the line `#{n}` is one reference to `n` exactly for a value name
(`Token.ofLine_reference_iff`). So every flag a command line sets, and every flag of a valid
configuration, can be tested by `#if` (`Check.name_checks_match_tokenizer`).

The checks are compared with the tokenizer through `Token.FlagWord`; the probe's reading is
computed forward for a flag word, and taken apart backward (`Document.arms_eq_ok_region`,
`Document.condition_unnegated`) for any document that tests the flag.
-/

namespace ShaderVariants

/-! ## The checks as properties of names -/

namespace Check

/-- A list of checks passes when each passes. -/
theorem all_eq_ok (cs : List Check) : all cs = .ok () ↔ ∀ c ∈ cs, c = .ok () := by
  induction cs with
  | nil => simp [all]
  | cons c cs ih =>
    cases c with
    | error v => simp [all]
    | ok u => simp [all, ih]

/-- Every name of a table that passes `keys` passes the check. -/
theorem keys_eq_ok {α : Type} (t : Table α) (check : Bytes → Bytes → Check) (what : Bytes) :
    keys t check what = .ok () ↔ ∀ e ∈ t, check e.1 what = .ok () := by
  rw [keys, all_eq_ok, List.forall_mem_map, Table.names]
  simp

/-- Every item of a list that passes `each` passes the check. -/
theorem each_eq_ok {α : Type} (items : List α) (check : α → Check) (what : Bytes) :
    each items check what = .ok () ↔ ∀ x ∈ items, check x = .ok () := by
  rw [each, all_eq_ok, List.forall_mem_map, List.forall_mem_zipIdx', List.forall_mem_iff_getElem]
  refine forall₂_congr fun i hi => ?_
  dsimp only
  cases check items[i] <;> simp

/-- The directives the validator names are the keywords the tokenizer reads. -/
theorem directives_contains (n : Bytes) : directives.contains n = (Token.keyword? n).isSome := by
  unfold directives Token.keyword?
  split_ifs <;> simp_all

/-- **The validator's flag names are the tokenizer's flag words.** -/
theorem flagName_eq_ok_iff (n what : Bytes) : flagName n what = .ok () ↔ Token.FlagWord n := by
  have hok : flagName n what = .ok () ↔ n ≠ [] ∧ flagNameFlaw? n = none := by
    unfold flagName
    split
    · simp_all
    · split <;> simp_all
  have hflaw : flagNameFlaw? n = none ↔ (Glyph.decode n).any Glyph.blank = false ∧
      (n == Bytes.ofString "not" || n.head? == some 33) = false ∧ directives.contains n = false ∧
      hasReference n = false := by
    unfold flagNameFlaw?
    split_ifs <;> simp_all
    tauto
  rw [hok, hflaw, directives_contains]
  constructor
  · rintro ⟨hne, hblank, hneg, hkw, href⟩
    simp only [Bool.or_eq_false_iff, beq_eq_false_iff_ne] at hneg
    exact ⟨hne, by simpa using hblank, hneg.1, hneg.2, by simpa using hkw, href⟩
  · intro h
    exact ⟨h.ne_nil, by simpa using h.no_blank, by simp [h.ne_not, h.no_bang],
      by simp [h.no_keyword], h.no_reference⟩

theorem identifier_eq_ok_iff (n what : Bytes) :
    identifier n what = .ok () ↔ isIdentifier n = true := by
  unfold identifier
  split <;> simp_all

end Check

/-! ## The probe of a flag -/

namespace Document

/-- The source that tests a flag: `#if` the flag, the line `X`, `#endif`. -/
def flagProbe (n : Bytes) : Bytes :=
  Bytes.ofString "#if " ++ n ++ Bytes.ofString "\nX\n#endif\n"

/-- What the probe of `n` reads as where `n` is `b`: one region, whose one branch tests `n`
unnegated and holds the line `X`, chosen exactly when `b` holds. -/
def flagProbeDocument (n file : Bytes) (b : Bool) : Document :=
  ⟨file, [.region ⟨file, 1⟩
    [⟨some ⟨n, false⟩, b, 1,
      [.text [.literal (Bytes.ofString "X") ⟨file, 2⟩, .literal [Bytes.lf] ⟨file, 2⟩]]⟩]
    (if b then some 0 else none)]⟩

/-- A document that tests the flag `n`: one region, whose one branch tests `n` unnegated. -/
def TestsFlag (d : Document) (n : Bytes) : Prop :=
  ∃ place br sel, d.nodes = [.region place [br] sel] ∧ br.guard = some ⟨n, false⟩

/-- The probe is its `#if` line and two more lines. -/
theorem flagProbe_eq (n : Bytes) :
    flagProbe n = (Bytes.ofString "#if " ++ n) ++ Bytes.lf :: Bytes.ofString "X\n#endif\n" := by
  have htail : Bytes.ofString "\nX\n#endif\n" = Bytes.lf :: Bytes.ofString "X\n#endif\n" := by
    cbv
  rw [flagProbe, htail]

/-- A `#if` line ended by a line feed is the first line, less one final carriage return. -/
theorem lines_if_line {p r : Bytes} (hp : Bytes.lf ∉ p) (hr : r ≠ []) :
    Token.lines ((Bytes.ofString "#if " ++ p) ++ Bytes.lf :: r) =
      (Bytes.ofString "#if " ++ Bytes.dropFinalCr p) :: Token.lines r := by
  have hif : Bytes.lf ∉ Bytes.ofString "#if " := by
    simp [show Bytes.ofString "#if " = [35, 105, 102, 32] by cbv, Bytes.lf]
  have hlast : (Bytes.ofString "#if ").getLast? ≠ some Bytes.cr := by cbv; decide
  rw [Token.lines_line (by simp [hif, hp]) hr, Bytes.dropFinalCr_append _ hlast]

/-- The first line of the probe is `#if` and a prefix of the flag. -/
theorem lines_flagProbe (n : Bytes) :
    ∃ m rest, m <+: n ∧ Token.lines (flagProbe n) = (Bytes.ofString "#if " ++ m) :: rest := by
  -- the first line ends at the first line feed, in the flag or after it
  have hsplit : ∃ p r, Bytes.lf ∉ p ∧ p <+: n ∧ r ≠ [] ∧
      flagProbe n = (Bytes.ofString "#if " ++ p) ++ Bytes.lf :: r := by
    have hp : Bytes.lf ∉ n.takeWhile (· != Bytes.lf) := fun h => by
      simpa using List.mem_takeWhile_imp h
    have hn : n = n.takeWhile (· != Bytes.lf) ++ n.dropWhile (· != Bytes.lf) :=
      List.takeWhile_append_dropWhile.symm
    rw [flagProbe_eq]
    cases hq : n.dropWhile (· != Bytes.lf) with
    | nil =>
      refine ⟨n.takeWhile (· != Bytes.lf), Bytes.ofString "X\n#endif\n", hp,
        List.takeWhile_prefix _, by cbv; decide, ?_⟩
      conv_lhs => rw [hn, hq]
      simp
    | cons c q =>
      have hc : c = Bytes.lf := by
        have hhead := List.head?_dropWhile_not (· != Bytes.lf) n
        rw [hq] at hhead
        simpa using hhead
      refine ⟨n.takeWhile (· != Bytes.lf), q ++ Bytes.lf :: Bytes.ofString "X\n#endif\n", hp,
        List.takeWhile_prefix _, by simp, ?_⟩
      conv_lhs => rw [hn, hq, hc]
      simp
  obtain ⟨p, r, hp, hpn, hr, hprobe⟩ := hsplit
  refine ⟨Bytes.dropFinalCr p, Token.lines r, (Bytes.dropFinalCr_prefix p).trans hpn, ?_⟩
  rw [hprobe, lines_if_line hp hr]

/-- The lines of the probe of a flag word. -/
theorem lines_flagProbe_of_flagWord {n : Bytes} (h : Token.FlagWord n) :
    Token.lines (flagProbe n) =
      [Bytes.ofString "#if " ++ n, Bytes.ofString "X", Bytes.ofString "#endif"] := by
  have hlf : Bytes.lf ∉ n := h.not_mem (by decide) (by decide)
  have hcr : Bytes.cr ∉ n := h.not_mem (by decide) (by decide)
  have hrest : Token.lines (Bytes.ofString "X\n#endif\n") =
      [Bytes.ofString "X", Bytes.ofString "#endif"] := by cbv
  rw [flagProbe_eq, lines_if_line hlf (by cbv; decide), Bytes.dropFinalCr_of_not_mem hcr, hrest]

/-- The tokens of the probe of a flag word: `#if`, the flag, `X`, `#endif`, each line closed. -/
theorem tokens_flagProbe {n : Bytes} (h : Token.FlagWord n) (file : Bytes) :
    Token.ofSource (flagProbe n) file =
      [⟨.openIf, Bytes.ofString "#if", 1, file⟩, ⟨.text, n, 1, file⟩, ⟨.text, [Bytes.lf], 1, file⟩,
        ⟨.text, Bytes.ofString "X", 2, file⟩, ⟨.text, [Bytes.lf], 2, file⟩,
        ⟨.endIf, Bytes.ofString "#endif", 3, file⟩, ⟨.text, [Bytes.lf], 3, file⟩] := by
  have hx : Token.scan {} (Token.words (Bytes.ofString "X")) =
      [(.text, Bytes.ofString "X"), (.text, [Bytes.lf])] := by cbv
  have hend : Token.scan {} (Token.words (Bytes.ofString "#endif")) =
      [(.endIf, Bytes.ofString "#endif"), (.text, [Bytes.lf])] := by cbv
  rw [Token.ofSource, lines_flagProbe_of_flagWord h]
  simp [Token.ofLine, Token.scan_if_flagWord h, hx, hend]

/-- **The probe of a flag word reads as one region** that tests the flag. -/
theorem ofSource_flagProbe {n : Bytes} (h : Token.FlagWord n) (file : Bytes) (b : Bool) :
    ofSource [(n, b)] file (flagProbe n) = .ok (flagProbeDocument n file b) := by
  rw [ofSource, tokens_flagProbe h]
  have hlit : Bytes.ofString "X" ≠ [Bytes.lf] := by cbv; decide
  have hne : n ≠ [Bytes.lf] := fun hn =>
    h.not_mem (by decide : Bytes.lf < 0x80) (by decide) (by simp [hn])
  have hrun : Bytes.isBlankRun n = false := by
    obtain ⟨g, gs, hgs⟩ := List.exists_cons_of_ne_nil (Glyph.decode_ne_nil h.ne_nil)
    have hg : g ∈ Glyph.decode n := by simp [hgs]
    simp only [Bytes.isBlankRun, List.all_eq_false]
    exact ⟨g, hg, by simp [h.no_blank g hg]⟩
  -- the condition of `#if`: the flag, then the end of its line
  obtain ⟨hr₁, hcond⟩ : ∃ hr, condition [(n, b)] ⟨.openIf, Bytes.ofString "#if", 1, file⟩
      [⟨.text, n, 1, file⟩, ⟨.text, [Bytes.lf], 1, file⟩, ⟨.text, Bytes.ofString "X", 2, file⟩,
        ⟨.text, [Bytes.lf], 2, file⟩, ⟨.endIf, Bytes.ofString "#endif", 3, file⟩,
        ⟨.text, [Bytes.lf], 3, file⟩] =
      .ok (⟨some ⟨n, false⟩, b, 1, []⟩, ⟨[⟨.text, Bytes.ofString "X", 2, file⟩,
        ⟨.text, [Bytes.lf], 2, file⟩, ⟨.endIf, Bytes.ofString "#endif", 3, file⟩,
        ⟨.text, [Bytes.lf], 3, file⟩], hr⟩) :=
    ⟨by simp, by simp [condition, closeLine, isArgument, Token.isLineEnd, Token.isBlank, hne, hrun,
      Table.get?]⟩
  -- the branch's body, the line `X`, up to `#endif`
  obtain ⟨hr₂, hbody⟩ : ∃ hr, body [(n, b)] [⟨.text, Bytes.ofString "X", 2, file⟩,
        ⟨.text, [Bytes.lf], 2, file⟩, ⟨.endIf, Bytes.ofString "#endif", 3, file⟩,
        ⟨.text, [Bytes.lf], 3, file⟩] =
      .ok ([.text [.literal (Bytes.ofString "X") ⟨file, 2⟩, .literal [Bytes.lf] ⟨file, 2⟩]],
        ⟨[⟨.endIf, Bytes.ofString "#endif", 3, file⟩, ⟨.text, [Bytes.lf], 3, file⟩], hr⟩) :=
    ⟨by simp, by simp [body, consSegment, Token.place]⟩
  -- `#endif` closes the region with its one branch
  obtain ⟨hr₃, harms⟩ : ∃ hr, arms [(n, b)] ⟨.openIf, Bytes.ofString "#if", 1, file⟩ []
      ⟨some ⟨n, false⟩, b, 1, []⟩ [⟨.text, Bytes.ofString "X", 2, file⟩,
        ⟨.text, [Bytes.lf], 2, file⟩, ⟨.endIf, Bytes.ofString "#endif", 3, file⟩,
        ⟨.text, [Bytes.lf], 3, file⟩] =
      .ok (.region ⟨file, 1⟩ [⟨some ⟨n, false⟩, b, 1,
        [.text [.literal (Bytes.ofString "X") ⟨file, 2⟩, .literal [Bytes.lf] ⟨file, 2⟩]]⟩]
        (if b then some 0 else none), ⟨[], hr⟩) := by
    refine ⟨by simp, ?_⟩
    rw [arms, hbody]
    simp [closeLine, Token.isLineEnd, Token.place, selectedIndex]
  rw [parse, body]
  simp only [region, hcond, harms]
  simp [body, flagProbeDocument]

/-! ## Reading a parse back -/

section ParseBack

variable {flags : Flags}

theorem parse_eq_ok {file : Bytes} {ts : List Token} {d : Document}
    (h : parse flags file ts = .ok d) : ∃ hr, body flags ts = .ok (d.nodes, ⟨[], hr⟩) := by
  unfold parse at h
  split at h
  · cases h
  · next _ ns rest _ hbody =>
    split at h
    · cases h
    · cases h
      exact ⟨_, hbody⟩

/-- A body that opens with `#if` starts with the region it opens. -/
theorem body_openIf {t : Token} {r : List Token} {ns : List Node}
    {q : {r' : List Token // r'.length ≤ (t :: r).length}} (ht : t.kind = .openIf)
    (h : body flags (t :: r) = .ok (ns, q)) :
    ∃ node p ns', region flags t r = .ok (node, p) ∧ ns = node :: ns' := by
  rw [body] at h
  simp only [ht] at h
  split at h
  · next node r₁ h₁ hregion =>
    split at h
    · next ns' rest h' _ =>
      simp only [Except.ok.injEq, Prod.mk.injEq] at h
      exact ⟨node, ⟨r₁, h₁⟩, ns', hregion, h.1.symm⟩
    · cases h
  · cases h

/-- A region is its condition, then its arms from the first branch on. -/
theorem region_eq_ok {opener : Token} {ts : List Token} {node : Node}
    {q : {r' : List Token // r'.length ≤ ts.length}} (h : region flags opener ts = .ok (node, q)) :
    ∃ br p q', condition flags opener ts = .ok (br, p) ∧
      arms flags opener [] br p.1 = .ok (node, q') := by
  rw [region] at h
  split at h
  · next br r₁ h₁ hcond =>
    split at h
    · next n rest h' harms =>
      simp only [Except.ok.injEq, Prod.mk.injEq] at h
      exact ⟨br, ⟨r₁, h₁⟩, ⟨rest, h'⟩, hcond, h.1 ▸ harms⟩
    · cases h
  · cases h

/-- An unnegated guard comes from a flag that stands right after the keyword. -/
theorem condition_unnegated {dir : Token} {ts : List Token} {br : Branch}
    {p : {r : List Token // r.length ≤ ts.length}} {x : Bytes}
    (h : condition flags dir ts = .ok (br, p)) (hg : br.guard = some ⟨x, false⟩) :
    ∃ t r, ts = t :: r ∧ isArgument dir t = true ∧ t.text = x := by
  obtain ⟨r, hr⟩ := p
  obtain ⟨negated, t, after, _, hsplit, harg, -, -, rfl⟩ := condition_eq_ok.1 h
  simp only [Option.some.injEq, Guard.mk.injEq] at hg
  obtain ⟨rfl, rfl⟩ := hg
  -- without a negation, the flag is the first token
  rcases hsplit with ⟨rfl, -⟩ | ⟨n, -, -, -, hneg⟩
  · exact ⟨t, after, rfl, harg, rfl⟩
  · cases hneg

end ParseBack

/-- **Only a flag word is tested by its probe.** Under any flags, a probe of `n` that reads as
one region testing `n` unnegated has a flag word after its `#if`. -/
theorem flagWord_of_ofSource {flags : Flags} {file n : Bytes} {d : Document}
    (h : ofSource flags file (flagProbe n) = .ok d) (ht : d.TestsFlag n) : Token.FlagWord n := by
  obtain ⟨place, br, sel, hnodes, hguard⟩ := ht
  obtain ⟨m, ls, hmn, hlines⟩ := lines_flagProbe n
  -- the first line is `#if`, then at least its line end
  obtain ⟨xs, hxs, -⟩ := Token.scan_lineEnd
    (Token.gather none ((Glyph.decode m).dropWhile (·.blank == true)))
    (Token.LineState.afterKeyword .openIf)
  obtain ⟨⟨k, x⟩, rest, hkx⟩ : ∃ p rest, Token.scan (Token.LineState.afterKeyword .openIf)
      (Token.gather none ((Glyph.decode m).dropWhile (·.blank == true))) = p :: rest := by
    rw [hxs]
    cases xs with
    | nil => exact ⟨_, _, rfl⟩
    | cons p xs => exact ⟨p, _, rfl⟩
  rw [ofSource, Token.ofSource_of_lines hlines, Token.ofLine, Token.scan_if, hkx] at h
  simp only [List.map_cons, List.cons_append] at h
  obtain ⟨_, hbody⟩ := parse_eq_ok h
  -- the region, its one branch and the condition it was read from
  obtain ⟨node, p, ns, hregion, hns⟩ := body_openIf rfl hbody
  rw [hnodes, List.cons.injEq] at hns
  obtain ⟨rfl, -⟩ := hns
  obtain ⟨b, p', ⟨rest', hr'⟩, hcond, harms⟩ := region_eq_ok hregion
  obtain ⟨nodes, bs, hn⟩ := arms_eq_ok_region harms
  have hbg : b.guard = some ⟨n, false⟩ := by
    simp only [Node.region.injEq, List.nil_append, List.cons.injEq] at hn
    rw [← hguard, hn.2.1.1]
  obtain ⟨t, r, htr, harg, htext⟩ := condition_unnegated hcond hbg
  rw [List.cons.injEq] at htr
  obtain ⟨rfl, -⟩ := htr
  -- the flag token is the text `x` of the line's first word
  have hk : k = .text := Token.kind_of_isArgument harg
  have hx : x ≠ [Bytes.lf] := fun hx => by
    have := Token.isLineEnd_of_isArgument harg
    simp [Token.isLineEnd, hk, hx] at this
  subst hk
  dsimp only at htext
  subst htext
  exact (Token.flagWord_of_scan_if hkx hx hmn).2

/-- **The validator's flag names are what `#if` tests**, for either value of the flag. -/
theorem flagName_iff_testsFlag (n what file : Bytes) (b : Bool) :
    Check.flagName n what = .ok () ↔
      ∃ d, ofSource [(n, b)] file (flagProbe n) = .ok d ∧ d.TestsFlag n := by
  rw [Check.flagName_eq_ok_iff]
  constructor
  · intro h
    exact ⟨_, ofSource_flagProbe h file b, _, _, _, rfl, rfl⟩
  · rintro ⟨d, hd, ht⟩
    exact flagWord_of_ofSource hd ht

end Document

/-! ## Settings -/

/-- A flag setting is taken only under a flag name. -/
theorem Overrides.parseFlag_flagName {arg name : Bytes} {v : Bool}
    (h : Overrides.parseFlag arg = .ok (name, v)) :
    Check.flagName name (Bytes.ofString "flag") = .ok () := by
  unfold Overrides.parseFlag at h
  rcases hc : Overrides.cut arg with ⟨nm, raw⟩
  rw [hc] at h
  dsimp only at h
  split at h
  · cases h
  · next hok =>
    -- every accepted setting is named by the checked name
    have hname : nm = name := by
      repeat' split at h
      all_goals (cases h <;> rfl)
    exact hname ▸ hok

/-- A valid configuration names its flags, and its permutations' flags, by flag names. -/
theorem Config.validate_flagName {c : Config} (h : c.validate = .ok ()) :
    (∀ e ∈ c.flags, Check.flagName e.1 (Bytes.ofString "flag") = .ok ()) ∧
      ∀ p ∈ c.permutations, ∀ e ∈ p.flags, Check.flagName e.1 (Bytes.ofString "flag") = .ok () := by
  rw [Config.validate, Check.all_eq_ok] at h
  refine ⟨(Check.keys_eq_ok _ _ _).1 (h _ (by simp)), fun p hp => ?_⟩
  have hperm := (Check.each_eq_ok c.permutations Permutation.validate
    (Bytes.ofString "permutations")).1 (h _ (by simp)) p hp
  rw [Permutation.validate, Check.all_eq_ok] at hperm
  exact (Check.keys_eq_ok _ _ _).1 (hperm _ (by simp))

/-- **The name checks agree with the directive language.** A name passes the flag-name check
exactly when its probe reads, under either value of the flag, as one region testing it unnegated,
and then the region chooses its line exactly when the flag is on; a name passes the value-name
check exactly when `#{n}` is read as one reference to it; and every flag that a command-line
setting or a valid configuration names can so be tested by `#if`. -/
theorem Check.name_checks_match_tokenizer (n what : Bytes) :
    (∀ b file, (Check.flagName n what = .ok () ↔
      ∃ d, Document.ofSource [(n, b)] file (Document.flagProbe n) = .ok d ∧ d.TestsFlag n)) ∧
    (Check.flagName n what = .ok () → ∀ b file,
      Document.ofSource [(n, b)] file (Document.flagProbe n) =
        .ok (Document.flagProbeDocument n file b)) ∧
    (∀ k file, Check.identifier n what = .ok () ↔
      Token.ofLine (Bytes.ofString "#\x7b" ++ n ++ Bytes.ofString "\x7d") k file =
        [⟨.reference, n, k, file⟩, ⟨.text, [Bytes.lf], k, file⟩]) ∧
    (∀ arg v, Overrides.parseFlag arg = .ok (n, v) → ∀ b file,
      Document.ofSource [(n, b)] file (Document.flagProbe n) =
        .ok (Document.flagProbeDocument n file b)) ∧
    (∀ c : Config, c.validate = .ok () →
      ((∃ v, (n, v) ∈ c.flags) ∨ ∃ p ∈ c.permutations, ∃ v, (n, v) ∈ p.flags) → ∀ b file,
      Document.ofSource [(n, b)] file (Document.flagProbe n) =
        .ok (Document.flagProbeDocument n file b)) := by
  have htested : Token.FlagWord n → ∀ b file,
      Document.ofSource [(n, b)] file (Document.flagProbe n) =
        .ok (Document.flagProbeDocument n file b) :=
    fun h b file => Document.ofSource_flagProbe h file b
  refine ⟨fun b file => Document.flagName_iff_testsFlag n what file b,
    fun h => htested ((Check.flagName_eq_ok_iff n what).1 h),
    fun k file => (Check.identifier_eq_ok_iff n what).trans (Token.ofLine_reference_iff n k file),
    fun arg v h => htested ((Check.flagName_eq_ok_iff n _).1 (Overrides.parseFlag_flagName h)),
    fun c hc hn => htested ((Check.flagName_eq_ok_iff n (Bytes.ofString "flag")).1 ?_)⟩
  obtain ⟨hflags, hperms⟩ := Config.validate_flagName hc
  rcases hn with ⟨v, hv⟩ | ⟨p, hp, v, hv⟩
  · exact hflags _ hv
  · exact hperms p hp _ hv

/-- The flags of a configuration and of a command line, tested by `#if`. -/
theorem Check.name_checks_match_tokenizer_sample :
    let c : Config :=
      { flags := [(Bytes.ofString "my-flag", true), (Bytes.ofString "use.fog", false)] }
    Overrides.parseFlag (Bytes.ofString "my-flag=false") = .ok (Bytes.ofString "my-flag", false) ∧
      Document.ofSource [(Bytes.ofString "my-flag", false)] (Bytes.ofString "a.glsl")
          (Document.flagProbe (Bytes.ofString "my-flag")) =
        .ok (Document.flagProbeDocument (Bytes.ofString "my-flag") (Bytes.ofString "a.glsl") false) ∧
      c.validate = .ok () ∧
      Document.ofSource [(Bytes.ofString "use.fog", true)] (Bytes.ofString "a.glsl")
          (Document.flagProbe (Bytes.ofString "use.fog")) =
        .ok (Document.flagProbeDocument (Bytes.ofString "use.fog") (Bytes.ofString "a.glsl") true) := by
  intro c
  have hp : (Overrides.parseFlag (Bytes.ofString "my-flag=false")).toOption =
      some (Bytes.ofString "my-flag", false) := by cbv
  replace hp : Overrides.parseFlag (Bytes.ofString "my-flag=false") =
      .ok (Bytes.ofString "my-flag", false) := by
    revert hp
    cases Overrides.parseFlag (Bytes.ofString "my-flag=false") <;> simp [Except.toOption]
  -- the configuration's checks, each evaluated on its own: sorting its names does not evaluate
  have hok : ∀ ch : Check, ch.toOption = some () → ch = .ok () := by
    intro ch h
    cases ch with
    | error v => simp [Except.toOption] at h
    | ok u => rfl
  have hmy := hok _ (by cbv :
    (Check.flagName (Bytes.ofString "my-flag") (Bytes.ofString "flag")).toOption = some ())
  have hfog := hok _ (by cbv :
    (Check.flagName (Bytes.ofString "use.fog") (Bytes.ofString "flag")).toOption = some ())
  have hc : c.validate = .ok () := by
    rw [Config.validate, Check.all_eq_ok]
    simp [c, Check.keys_eq_ok, Check.each_eq_ok, hmy, hfog, Check.notNegative, Check.matchesAllowed,
      knownCompilers, Check.noDuplicates, Check.firstRepeat, Config.unknownPermutation?]
  have hin : ∃ v, (Bytes.ofString "use.fog", v) ∈ c.flags := ⟨false, by simp [c]⟩
  exact ⟨hp, (Check.name_checks_match_tokenizer _ (Bytes.ofString "flag")).2.2.2.1 _ _ hp false _,
    hc, (Check.name_checks_match_tokenizer _ (Bytes.ofString "flag")).2.2.2.2 c hc (.inl hin) true _⟩

end ShaderVariants
