import Mathlib.Data.List.Nodup
import ShaderVariants.Batch
import ShaderVariants.Proofs.DiagnosticTrace
import ShaderVariants.Proofs.NameChecks
/-!
# Where a batch run writes

A run writes each unit's two stages to `DIR/SHADER.PERMUTATION.vert` and `.frag`, and a binary
beside each with `.spv` appended (`Batch.outputFiles`). Validation asks only that shader names,
and permutation names, be unique and not empty; it says nothing about the bytes in them. The
file name joins the two names with a dot, and the path is cleaned, so names that hold a dot or a
separator can meet: shaders `a.b` and `a` in permutations `c` and `b.c` both write `a.b.c.vert`
(`Batch.outputFiles_dotted_names`), and a shader named `./a` writes where `a` does.

When no name holds a separator and no shader name holds a dot, every file of every unit has a
path of its own (`Batch.outputFiles_nodup`). The proof reads each path by its last element
(`Path.base`): joining a plain element onto any directory leaves it last (`Path.join_plain`,
`Path.base_append`), the shader name is everything before the first dot, and the four endings a
unit writes are none the end of another, so the rest splits one way only.
-/

namespace ShaderVariants

/-! ## Splitting and joining texts -/

namespace Bytes

/-- A text with no separator in it is its own only piece. -/
theorem splitOn_of_not_mem {sep : UInt8} {s : Bytes} (h : sep ∉ s) : splitOn sep s = [s] := by
  induction s with
  | nil => rfl
  | cons b r ih =>
    have hb : b ≠ sep := fun hb => h (by simp [hb])
    rw [splitOn, if_neg hb, ih fun hr => h (List.mem_cons_of_mem b hr)]

/-- Two texts joined by a separator split into the pieces of each. -/
theorem splitOn_append_cons (sep : UInt8) (a b : Bytes) :
    splitOn sep (a ++ sep :: b) = splitOn sep a ++ splitOn sep b := by
  induction a with
  | nil => simp [splitOn]
  | cons x r ih =>
    rw [List.cons_append, splitOn, splitOn, ih]
    split
    · rfl
    · obtain ⟨p, ps, hps⟩ := List.exists_cons_of_ne_nil (splitOn_ne_nil sep r)
      rw [hps]
      rfl

/-- Pieces joined by a separator, one more piece at the end: the last piece follows the others
and a separator, or stands alone. -/
theorem intercalate_append_singleton (sep : Bytes) (ps : List Bytes) (q : Bytes) :
    intercalate sep (ps ++ [q]) = (if ps = [] then [] else intercalate sep ps ++ sep) ++ q := by
  induction ps with
  | nil => rfl
  | cons p ps ih =>
    cases ps with
    | nil => simp [intercalate]
    | cons p' ps =>
      show p ++ sep ++ intercalate sep (p' :: ps ++ [q]) = _
      rw [ih]
      simp [intercalate]

/-- Two texts that end in endings from a list where no ending ends another are equal only with
equal endings and equal fronts. -/
theorem append_inj_of_suffix_free {E : List Bytes}
    (hE : ∀ t ∈ E, ∀ t' ∈ E, t <:+ t' → t = t') {p p' t t' : Bytes} (ht : t ∈ E) (ht' : t' ∈ E)
    (h : p ++ t = p' ++ t') : p = p' ∧ t = t' := by
  have hs : t <:+ p' ++ t' := h ▸ List.suffix_append p t
  have hs' : t' <:+ p' ++ t' := List.suffix_append p' t'
  -- both endings end the same text, so the shorter ends the longer
  have htt : t = t' := by
    rcases le_total t.length t'.length with hl | hl
    · exact hE t ht t' ht' (List.suffix_of_suffix_length_le hs hs' hl)
    · exact (hE t' ht' t ht (List.suffix_of_suffix_length_le hs' hs hl)).symm
  subst htt
  exact ⟨List.append_cancel_right h, rfl⟩

end Bytes

/-! ## Cleaning keeps a plain last element -/

namespace Path

/-- A path element that cleaning keeps as it is: not empty, without a separator, and neither
`.` nor `..`. -/
structure Plain (e : Bytes) : Prop where
  ne_nil : e ≠ []
  sep_not_mem : sep ∉ e
  ne_dot : e ≠ [dot]
  ne_dotDot : e ≠ [dot, dot]

/-- The directory part of a path: empty, or ending in a separator. -/
def EndsDir (pre : Bytes) : Prop := pre = [] ∨ pre.getLast? = some sep

theorem fold_append (rooted : Bool) (acc xs ys : List Bytes) :
    fold rooted acc (xs ++ ys) = fold rooted (fold rooted acc xs) ys := by
  fun_induction fold rooted acc xs <;> simp_all [fold]

/-- A plain element is kept on top of the elements before it. -/
theorem fold_plain {e : Bytes} (he : Plain e) (rooted : Bool) (acc : List Bytes) :
    fold rooted acc [e] = e :: acc := by
  simp [fold, he.ne_nil, he.ne_dot, he.ne_dotDot]

/-- A path whose last piece is a plain element cleans to a directory part followed by that
element. -/
theorem clean_of_last {p : Bytes} (hp : p ≠ []) {xs : List Bytes} {e : Bytes} (he : Plain e)
    (hsplit : Bytes.splitOn sep p = xs ++ [e]) : ∃ pre, clean p = pre ++ e ∧ EndsDir pre := by
  set acc := fold (isAbs p) [] xs
  have hkept : (fold (isAbs p) [] (Bytes.splitOn sep p)).reverse = acc.reverse ++ [e] := by
    rw [hsplit, fold_append, fold_plain he, List.reverse_cons]
  set mid : Bytes := if acc.reverse = [] then [] else Bytes.intercalate [sep] acc.reverse ++ [sep]
  have hmid : EndsDir mid := by
    by_cases h : acc.reverse = [] <;> simp [mid, EndsDir, h]
  have hbody : Bytes.intercalate [sep] (acc.reverse ++ [e]) = mid ++ e :=
    Bytes.intercalate_append_singleton _ _ _
  have hne : mid ++ e ≠ [] := by simp [he.ne_nil]
  simp only [clean, List.isEmpty_iff, hp, if_false, hkept, hbody]
  -- a rooted path keeps its leading separator in front of the directory part
  cases isAbs p
  · exact ⟨mid, by simp [hne], hmid⟩
  · refine ⟨sep :: mid, by simp, .inr ?_⟩
    rcases hmid with h | h <;> simp [h, List.getLast?_cons]

/-- **Joining a plain element onto a directory** gives a directory part followed by the
element, whatever the directory. -/
theorem join_plain (d : Bytes) {e : Bytes} (he : Plain e) :
    ∃ pre, join d e = pre ++ e ∧ EndsDir pre := by
  have hsplit : Bytes.splitOn sep e = [] ++ [e] := Bytes.splitOn_of_not_mem he.sep_not_mem
  by_cases hd : d = []
  · subst hd
    simpa [join, he.ne_nil] using clean_of_last he.ne_nil he hsplit
  · have hjoin : join d e = clean (d ++ sep :: e) := by simp [join, hd, he.ne_nil]
    have hs : Bytes.splitOn sep (d ++ sep :: e) = Bytes.splitOn sep d ++ [e] := by
      rw [Bytes.splitOn_append_cons, Bytes.splitOn_of_not_mem he.sep_not_mem]
    rw [hjoin]
    exact clean_of_last (by simp) he hs

/-- The last element of a directory part followed by an element is that element. -/
theorem base_append {pre e : Bytes} (hpre : EndsDir pre) (hne : e ≠ []) (hsep : sep ∉ e) :
    base (pre ++ e) = e := by
  obtain ⟨y, ys, hy⟩ := List.exists_cons_of_ne_nil (List.reverse_ne_nil_iff.2 hne)
  have hysep : y ≠ sep := fun h => hsep (List.mem_reverse.1 (hy ▸ h ▸ List.mem_cons_self))
  have hkeep : (e.reverse ++ pre.reverse).dropWhile (· == sep) = e.reverse ++ pre.reverse := by
    rw [hy, List.cons_append, List.dropWhile_cons_of_neg (by simpa using hysep)]
  have hpre : pre.reverse.takeWhile (· != sep) = [] := by
    rcases hpre with rfl | h
    · rfl
    · obtain ⟨q, hq⟩ := List.getLast?_eq_some_iff.1 h
      simp [hq]
  have hword : (e.reverse ++ pre.reverse).takeWhile (· != sep) = e.reverse := by
    have hall : ∀ a ∈ e.reverse, (a != sep) = true := by
      intro a ha
      simp only [bne_iff_ne, ne_eq]
      rintro rfl
      exact hsep (List.mem_reverse.1 ha)
    rw [List.takeWhile_append_of_pos hall, hpre, List.append_nil]
  simp [base, hkeep, hword, hne]

end Path

/-! ## Unique names in a valid configuration -/

namespace Check

/-- The repeat search finds nothing exactly when no item repeats an earlier one or one already
seen. -/
theorem firstRepeat_eq_none (seen xs : List Bytes) :
    firstRepeat seen xs = none ↔ (∀ x ∈ xs, x ∉ seen) ∧ xs.Nodup := by
  induction xs generalizing seen with
  | nil => simp [firstRepeat]
  | cons x xs ih =>
    by_cases hx : x ∈ seen
    · simp [firstRepeat, hx]
    · rw [firstRepeat, if_neg (by simpa using hx), ih]
      simp only [List.mem_cons, not_or, List.nodup_cons]
      constructor
      · rintro ⟨hall, hnd⟩
        refine ⟨?_, fun h => (hall x h).1 rfl, hnd⟩
        rintro y (rfl | hy)
        · exact hx
        · exact (hall y hy).2
      · rintro ⟨hall, hnot, hnd⟩
        exact ⟨fun y hy => ⟨fun h => hnot (h ▸ hy), hall y (.inr hy)⟩, hnd⟩

/-- A list passes the duplicate check exactly when no item repeats. -/
theorem noDuplicates_eq_ok (xs : List Bytes) (what : Bytes) :
    noDuplicates xs what = .ok () ↔ xs.Nodup := by
  rw [noDuplicates]
  have h := firstRepeat_eq_none [] xs
  cases hr : firstRepeat [] xs with
  | none => simpa [hr] using h
  | some x => simpa [hr] using h

end Check

/-- A valid configuration names its shaders, and its permutations, each once. -/
theorem Config.validate_names_nodup {cfg : Config} (h : cfg.validate = .ok ()) :
    (cfg.shaders.map (·.name)).Nodup ∧ (cfg.permutations.map (·.name)).Nodup := by
  rw [Config.validate, Check.all_eq_ok] at h
  exact ⟨(Check.noDuplicates_eq_ok _ (Bytes.ofString "shader names")).1 (h _ (by simp)),
    (Check.noDuplicates_eq_ok _ (Bytes.ofString "permutation names")).1 (h _ (by simp))⟩

namespace Config

variable {cfg : Config}

theorem allPermutations_names_nodup (h : (cfg.permutations.map (·.name)).Nodup) :
    (cfg.allPermutations.map (·.name)).Nodup := by
  unfold allPermutations
  split <;> simp_all

theorem permutationsFor_names_nodup (h : (cfg.permutations.map (·.name)).Nodup)
    (s : ShaderEntry) : ((cfg.permutationsFor s).map (·.name)).Nodup := by
  unfold permutationsFor
  split
  · exact allPermutations_names_nodup h
  · exact (allPermutations_names_nodup h).sublist (List.filter_sublist.map _)

theorem mem_allPermutations {p : Permutation} (hp : p ∈ cfg.allPermutations) :
    p = { name := defaultPermutationName } ∨ p ∈ cfg.permutations := by
  unfold allPermutations at hp
  split at hp <;> simp_all

end Config

namespace Batch

theorem mem_units {cfg : Config} {u : ShaderEntry × Permutation} (hu : u ∈ units cfg) :
    u.1 ∈ cfg.shaders ∧ u.2 ∈ cfg.allPermutations := by
  simp only [units, List.mem_flatMap, List.mem_map] at hu
  obtain ⟨s, hs, p, hp, rfl⟩ := hu
  refine ⟨hs, ?_⟩
  unfold Config.permutationsFor at hp
  split at hp
  · exact hp
  · exact List.mem_of_mem_filter hp

/-- The units of a valid configuration have different pairs of names. -/
theorem units_names_nodup {cfg : Config} (h : cfg.validate = .ok ()) :
    ((units cfg).map fun u => (u.1.name, u.2.name)).Nodup := by
  obtain ⟨hs, hp⟩ := Config.validate_names_nodup h
  have hunits : (units cfg).map (fun u => (u.1.name, u.2.name)) =
      cfg.shaders.flatMap fun s => ((cfg.permutationsFor s).map (·.name)).map (Prod.mk s.name) := by
    simp [units, List.map_flatMap, Function.comp_def]
  rw [hunits, List.nodup_flatMap]
  refine ⟨fun s _ => (Config.permutationsFor_names_nodup hp s).map fun _ _ h => (Prod.mk.inj h).2, ?_⟩
  -- two shaders of different names share no pair
  rw [List.Nodup, List.pairwise_map] at hs
  refine hs.imp fun hne => ?_
  simp only [Function.onFun, List.disjoint_left, List.mem_map]
  rintro x ⟨n, -, rfl⟩ ⟨n', -, h⟩
  exact hne (Prod.mk.inj h).1.symm

/-! ## File names -/

/-- The endings of the files a unit writes: each stage's extension, alone and followed by the
extension of its binary. -/
def fileEndings : List Bytes :=
  [Stage.vertex.ext, Stage.vertex.ext ++ Bytes.ofString ".spv",
    Stage.fragment.ext, Stage.fragment.ext ++ Bytes.ofString ".spv"]

theorem fileEndings_eq : fileEndings =
    [[46, 118, 101, 114, 116], [46, 118, 101, 114, 116, 46, 115, 112, 118],
      [46, 102, 114, 97, 103], [46, 102, 114, 97, 103, 46, 115, 112, 118]] := by
  cbv

/-- No file ending is the end of another. -/
theorem fileEndings_suffix_free : ∀ t ∈ fileEndings, ∀ t' ∈ fileEndings, t <:+ t' → t = t' := by
  rw [fileEndings_eq]
  simp only [List.forall_mem_cons, List.not_mem_nil, false_implies, implies_true, and_true]
  decide

theorem fileEndings_nodup : fileEndings.Nodup := by
  rw [fileEndings_eq]
  decide

theorem sep_not_mem_of_mem_fileEndings {t : Bytes} (ht : t ∈ fileEndings) :
    Path.sep ∉ t ∧ 5 ≤ t.length := by
  rw [fileEndings_eq] at ht
  simp only [List.mem_cons, List.not_mem_nil, or_false] at ht
  rcases ht with rfl | rfl | rfl | rfl <;> simp [Path.sep]

/-- A text cut at the first occurrence of a byte it does not hold before it. -/
theorem append_cons_inj {c : UInt8} {a a' r r' : Bytes} (ha : c ∉ a) (ha' : c ∉ a')
    (h : a ++ c :: r = a' ++ c :: r') : a = a' ∧ r = r' := by
  have hcut : ∀ {a r : Bytes}, c ∉ a → (a ++ c :: r).takeWhile (· != c) = a := by
    intro a r ha
    have hall : ∀ x ∈ a, (x != c) = true := by
      intro x hx
      simp only [bne_iff_ne, ne_eq]
      rintro rfl
      exact ha hx
    simp [List.takeWhile_append_of_pos hall]
  have heq : a = a' := by rw [← hcut ha, h, hcut ha']
  subst heq
  exact ⟨rfl, List.cons_injective (List.append_cancel_left h)⟩

/-- Two texts ending in file endings are equal only with equal endings and equal fronts. -/
theorem append_fileEndings_inj {p p' t t' : Bytes} (ht : t ∈ fileEndings)
    (ht' : t' ∈ fileEndings) (h : p ++ t = p' ++ t') : p = p' ∧ t = t' :=
  Bytes.append_inj_of_suffix_free fileEndings_suffix_free ht ht' h

/-- A unit's file name, shader, dot, permutation and ending, gives back all three when the
shader name holds no dot. -/
theorem fileName_inj {s s' p p' t t' : Bytes} (hs : Path.dot ∉ s) (hs' : Path.dot ∉ s')
    (ht : t ∈ fileEndings) (ht' : t' ∈ fileEndings)
    (h : s ++ Path.dot :: (p ++ t) = s' ++ Path.dot :: (p' ++ t')) : s = s' ∧ p = p' ∧ t = t' := by
  obtain ⟨rfl, hrest⟩ := append_cons_inj hs hs' h
  exact ⟨rfl, append_fileEndings_inj ht ht' hrest⟩

/-- A unit's file name is a plain path element when neither name holds a separator. -/
theorem plain_fileName {s p t : Bytes} (hs : Path.sep ∉ s) (hp : Path.sep ∉ p)
    (ht : t ∈ fileEndings) : Path.Plain (s ++ Path.dot :: (p ++ t)) := by
  obtain ⟨hsep, hlen⟩ := sep_not_mem_of_mem_fileEndings ht
  have hlong : 6 ≤ (s ++ Path.dot :: (p ++ t)).length := by simp; omega
  refine ⟨fun h => by simp [h] at hlong, ?_, fun h => by simp [h] at hlong,
    fun h => by simp [h] at hlong⟩
  simp only [List.mem_append, List.mem_cons, not_or]
  exact ⟨hs, by decide, hp, hsep⟩

/-- The last element of a unit's stage file, and of the binary beside it, is its file name. -/
theorem base_outputPath (dir : Bytes) {s p : Bytes} (hs : Path.sep ∉ s) (hp : Path.sep ∉ p)
    {st : Stage} (hst : st = .vertex ∨ st = .fragment) :
    Path.base (outputPath dir s p st) = s ++ Path.dot :: (p ++ st.ext) ∧
      Path.base (outputPath dir s p st ++ Bytes.ofString ".spv") =
        s ++ Path.dot :: (p ++ (st.ext ++ Bytes.ofString ".spv")) := by
  have hext : st.ext ∈ fileEndings ∧ st.ext ++ Bytes.ofString ".spv" ∈ fileEndings := by
    rcases hst with rfl | rfl <;> simp [fileEndings]
  have he := plain_fileName hs hp hext.1
  obtain ⟨pre, hpre, hdir⟩ := Path.join_plain dir he
  have hout : outputPath dir s p st = pre ++ s ++ Path.dot :: (p ++ st.ext) := by
    rw [outputPath, show s ++ [Path.dot] ++ p ++ st.ext = s ++ Path.dot :: (p ++ st.ext) by simp,
      hpre, List.append_assoc]
  refine ⟨by rw [hout, List.append_assoc]; exact Path.base_append hdir he.ne_nil he.sep_not_mem, ?_⟩
  have he' := plain_fileName hs hp hext.2
  rw [hout, List.append_assoc, List.append_assoc, List.cons_append, List.append_assoc]
  exact Path.base_append hdir he'.ne_nil he'.sep_not_mem

/-- Read by their last elements, the files of a run are the units' file names. -/
theorem outputFiles_map_base {cfg : Config} (dir : Bytes)
    (h : ∀ u ∈ units cfg, Path.sep ∉ u.1.name ∧ Path.sep ∉ u.2.name) :
    (outputFiles cfg dir).map Path.base =
      (units cfg).flatMap fun u =>
        fileEndings.map fun t => u.1.name ++ Path.dot :: (u.2.name ++ t) := by
  rw [outputFiles, List.map_flatMap]
  refine List.flatMap_congr fun u hu => ?_
  obtain ⟨hs, hp⟩ := h u hu
  obtain ⟨hv, hvs⟩ := base_outputPath dir hs hp (.inl rfl)
  obtain ⟨hf, hfs⟩ := base_outputPath dir hs hp (.inr rfl)
  simp [fileEndings, hv, hvs, hf, hfs]

/-! ## Distinct units, distinct files -/

/-- **Distinct units write distinct files**, when no name holds a separator and no shader name
holds a dot: every stage file of every unit of a valid configuration, and every binary beside
one, has a path of its own, whatever the output directory. -/
theorem outputFiles_nodup {cfg : Config} (hv : cfg.validate = .ok ())
    (hshaders : ∀ s ∈ cfg.shaders, Path.sep ∉ s.name ∧ Path.dot ∉ s.name)
    (hperms : ∀ p ∈ cfg.permutations, Path.sep ∉ p.name) (dir : Bytes) :
    (outputFiles cfg dir).Nodup := by
  have hnames : ∀ u ∈ units cfg,
      Path.sep ∉ u.1.name ∧ Path.dot ∉ u.1.name ∧ Path.sep ∉ u.2.name := by
    intro u hu
    obtain ⟨hs, hp⟩ := mem_units hu
    refine ⟨(hshaders _ hs).1, (hshaders _ hs).2, ?_⟩
    rcases Config.mem_allPermutations hp with h | h
    · rw [h]
      exact of_decide_eq_false (by cbv)
    · exact hperms _ h
  apply List.Nodup.of_map Path.base
  rw [outputFiles_map_base dir fun u hu => ⟨(hnames u hu).1, (hnames u hu).2.2⟩, List.nodup_flatMap]
  -- within a unit the endings tell the files apart, across units the names do
  refine ⟨fun u hu => fileEndings_nodup.map_on fun t ht t' ht' h =>
    (fileName_inj (hnames u hu).2.1 (hnames u hu).2.1 ht ht' h).2.2, ?_⟩
  have hpairs := units_names_nodup hv
  rw [List.Nodup, List.pairwise_map] at hpairs
  refine hpairs.imp_of_mem fun {u u'} hu hu' hne => ?_
  simp only [Function.onFun, List.disjoint_left, List.mem_map]
  rintro x ⟨t, ht, rfl⟩ ⟨t', ht', heq⟩
  obtain ⟨hs, hp, -⟩ := fileName_inj (hnames u' hu').2.1 (hnames u hu).2.1 ht' ht heq
  exact hne (by rw [hs, hp])

/-- Two shaders in two permutations, the second permutation's name dotted, write eight files
into `out`. -/
theorem outputFiles_nodup_sample :
    let cfg : Config :=
      { shaders := [{ name := Bytes.ofString "water", path := Bytes.ofString "shaders/water" },
          { name := Bytes.ofString "sky", path := Bytes.ofString "shaders/sky" }],
        permutations := [{ name := Bytes.ofString "low" }, { name := Bytes.ofString "high.q" }] }
    cfg.validate = .ok () ∧ (∀ s ∈ cfg.shaders, Path.sep ∉ s.name ∧ Path.dot ∉ s.name) ∧
      (∀ p ∈ cfg.permutations, Path.sep ∉ p.name) ∧ (outputFiles cfg (Bytes.ofString "out")).Nodup := by
  intro cfg
  have hv : cfg.validate = .ok () := by
    rw [Config.validate, Check.all_eq_ok]
    simp [cfg, Check.keys_eq_ok, Check.each_eq_ok, Check.noDuplicates_eq_ok, ShaderEntry.validate,
      Permutation.validate, Check.all_eq_ok, Check.notEmpty, Check.notNegative,
      Check.matchesAllowed, knownCompilers, Config.unknownPermutation?]
    cbv
    decide
  have hs : ∀ s ∈ cfg.shaders, Path.sep ∉ s.name ∧ Path.dot ∉ s.name := by
    simp only [cfg, List.mem_cons, List.not_mem_nil, or_false]
    rintro s (rfl | rfl) <;> exact ⟨of_decide_eq_false (by cbv), of_decide_eq_false (by cbv)⟩
  have hp : ∀ p ∈ cfg.permutations, Path.sep ∉ p.name := by
    simp only [cfg, List.mem_cons, List.not_mem_nil, or_false]
    rintro p (rfl | rfl) <;> exact of_decide_eq_false (by cbv)
  exact ⟨hv, hs, hp, outputFiles_nodup hv hs hp _⟩

/-- Dotted names share a file. Shaders `a.b` and `a` built in permutations `c` and `b.c` both
write `a.b.c.vert`, in a configuration that passes validation. -/
theorem outputFiles_dotted_names :
    let cfg : Config :=
      { shaders := [{ name := Bytes.ofString "a.b", path := Bytes.ofString "s" },
          { name := Bytes.ofString "a", path := Bytes.ofString "s" }],
        permutations := [{ name := Bytes.ofString "c" }, { name := Bytes.ofString "b.c" }] }
    cfg.validate = .ok () ∧
      outputPath [Path.dot] (Bytes.ofString "a.b") (Bytes.ofString "c") .vertex =
        outputPath [Path.dot] (Bytes.ofString "a") (Bytes.ofString "b.c") .vertex ∧
      ¬ (outputFiles cfg [Path.dot]).Nodup := by
  intro cfg
  refine ⟨?_, by cbv, of_decide_eq_false (by cbv)⟩
  rw [Config.validate, Check.all_eq_ok]
  simp [cfg, Check.keys_eq_ok, Check.each_eq_ok, Check.noDuplicates_eq_ok, ShaderEntry.validate,
    Permutation.validate, Check.all_eq_ok, Check.notEmpty, Check.notNegative, Check.matchesAllowed,
    knownCompilers, Config.unknownPermutation?]
  cbv
  decide

end Batch

end ShaderVariants
