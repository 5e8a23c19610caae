import ShaderVariants.Config.Decode
import ShaderVariants.Proofs.FlagDependence
import ShaderVariants.Proofs.NameChecks
/-!
# The job count never wraps

A document's `jobs` entry is decoded by `Decode.integer`: a signed integer as it is, a 64-bit
unsigned one as the signed integer with the same 64 bits, which is negative from `2^63` on.
Validation asks only that the count is not negative. Together they reject exactly the integers
outside `[0, 2^63)`, so no unsigned integer too large for a count wraps onto a count
(`Decode.integer_nonneg_iff`).

A document's entries are read in byte order of their names, the `jobs` entry among the others
(`Decode.sorted_split`), and reading any other entry neither looks at the job count nor changes
it (`Decode.topKey_withJobs`). So a document whose other entries make a valid configuration is
accepted exactly when its `jobs` entry is an integer in `[0, 2^63)`, and the configuration then
runs that many jobs (`Config.jobs_never_wrap`).
-/

namespace ShaderVariants

/-! ## §1 — Integers as the decoders give them -/

/-- `v` is an integer of a type the decoders produce, within that type's range, standing for the
number `m`: `int` and `int64` hold 64-bit signed integers, `uint64` 64-bit unsigned ones. -/
inductive Value.IntegerOf : Value → Int → Prop
  | int {n : Int} : -(Nat.pow 2 63 : Int) ≤ n → n < Nat.pow 2 63 → Value.IntegerOf (.int n) n
  | int64 {n : Int} : -(Nat.pow 2 63 : Int) ≤ n → n < Nat.pow 2 63 → Value.IntegerOf (.int64 n) n
  | uint64 {n : Nat} : n < Nat.pow 2 64 → Value.IntegerOf (.uint64 n) n

/-- **Decoding an integer never wraps onto a count.** The count decoded from an integer of its
type's range is not negative exactly when the integer lies in `[0, 2^63)`, and is then the
integer itself. -/
theorem Decode.integer_nonneg_iff {v : Value} {m : Int} (hv : v.IntegerOf m) (place : Bytes) :
    ∃ j, Decode.integer v place = .ok j ∧ (0 ≤ j ↔ 0 ≤ m ∧ m < Nat.pow 2 63) ∧
      (0 ≤ j → j = m) := by
  have h63 : Nat.pow 2 63 = 9223372036854775808 := rfl
  have h64 : Nat.pow 2 64 = 18446744073709551616 := rfl
  cases hv with
  | int hlo hhi => exact ⟨_, rfl, by omega, fun _ => rfl⟩
  | int64 hlo hhi => exact ⟨_, rfl, by omega, fun _ => rfl⟩
  | @uint64 n hn =>
    refine ⟨_, rfl, ?_⟩
    by_cases hsmall : n < Nat.pow 2 63
    · rw [if_pos hsmall]
      omega
    · -- from `2^63` on, the same 64 bits read as a signed integer are `n - 2^64`, below zero
      rw [if_neg hsmall]
      omega

/-! ## §2 — Validation reads the job count once -/

theorem Check.notNegative_eq_ok (n : Int) (what : Bytes) :
    Check.notNegative n what = .ok () ↔ 0 ≤ n := by
  unfold Check.notNegative
  split
  · simp only [reduceCtorEq, false_iff]
    omega
  · simp only [true_iff]
    omega

/-- The checks of a valid configuration other than the job count pass with any job count, so the
configuration stays valid exactly when the count is not negative. -/
theorem Config.validate_withJobs {c : Config} (h : c.validate = .ok ()) (j : Int) :
    ({ c with jobs := j } : Config).validate = .ok () ↔ 0 ≤ j := by
  rw [Config.validate, Check.all_eq_ok] at h ⊢
  simp only [List.forall_mem_cons, List.not_mem_nil, IsEmpty.forall_iff, implies_true,
    and_true] at h ⊢
  rw [Check.notNegative_eq_ok]
  tauto

/-! ## §3 — Reading the `jobs` entry among the others -/

/-- A setting other than the job count is read alike under any job count, and keeps it. -/
theorem Decode.topKey_withJobs (o : MapOrder Value) (c : Config) (j : Int) {kv : Bytes × Value}
    (hk : kv.1 ≠ Bytes.ofString "jobs") :
    Decode.topKey o { c with jobs := j } kv =
      (Decode.topKey o c kv).map fun c' => { c' with jobs := j } := by
  obtain ⟨k, x⟩ := kv
  have hj : ¬(k == Bytes.ofString "jobs") = true := by
    rw [beq_false_of_ne hk]
    exact Bool.false_ne_true
  dsimp only [Decode.topKey]
  -- key by key, the same entry is decoded on both sides; only the job count differs
  by_cases hf : (k == Bytes.ofString "flags") = true
  · rw [if_pos hf, if_pos hf]
    cases Decode.flags o x k <;> rfl
  rw [if_neg hf, if_neg hf]
  by_cases hv : (k == Bytes.ofString "values") = true
  · rw [if_pos hv, if_pos hv]
    cases Decode.values o x k <;> rfl
  rw [if_neg hv, if_neg hv]
  by_cases hs : (k == Bytes.ofString "shaders") = true
  · rw [if_pos hs, if_pos hs]
    cases Decode.shaders x <;> rfl
  rw [if_neg hs, if_neg hs]
  by_cases hp : (k == Bytes.ofString "permutations") = true
  · rw [if_pos hp, if_pos hp]
    cases Decode.permutations o x <;> rfl
  rw [if_neg hp, if_neg hp]
  by_cases ho : (k == Bytes.ofString "output_dir") = true
  · rw [if_pos ho, if_pos ho]
    cases Decode.string x k <;> rfl
  rw [if_neg ho, if_neg ho]
  by_cases hc : (k == Bytes.ofString "compiler") = true
  · rw [if_pos hc, if_pos hc]
    cases Decode.string x k <;> rfl
  rw [if_neg hc, if_neg hc, if_neg hj, if_neg hj]
  by_cases hd : (k == Bytes.ofString "cache_dir") = true
  · rw [if_pos hd, if_pos hd]
    cases Decode.string x k <;> rfl
  rw [if_neg hd, if_neg hd]
  rfl

/-- Settings other than the job count, read one after another, keep it. -/
theorem Decode.foldlM_topKey_withJobs (o : MapOrder Value) (j : Int) :
    ∀ (B : List (Bytes × Value)) (c : Config), (∀ kv ∈ B, kv.1 ≠ Bytes.ofString "jobs") →
      B.foldlM (Decode.topKey o) { c with jobs := j } =
        (B.foldlM (Decode.topKey o) c).map fun c' => { c' with jobs := j }
  | [], c, _ => rfl
  | kv :: B, c, hB => by
    have hrest : ∀ kv ∈ B, kv.1 ≠ Bytes.ofString "jobs" := fun kv' h => hB kv' (by simp [h])
    simp only [List.foldlM_cons, Decode.topKey_withJobs o c j (hB kv (by simp))]
    cases Decode.topKey o c kv with
    | error e => rfl
    | ok c₁ => exact Decode.foldlM_topKey_withJobs o j B c₁ hrest

/-- The `jobs` entry is read by `Decode.integer`, whatever the configuration so far. -/
theorem Decode.topKey_jobs (o : MapOrder Value) (c : Config) (v : Value) :
    Decode.topKey o c (Bytes.ofString "jobs", v) =
      (Decode.integer v (Bytes.ofString "jobs")).map fun j => { c with jobs := j } := by
  obtain ⟨h1, h2, h3, h4, h5, h6⟩ : (Bytes.ofString "jobs" == Bytes.ofString "flags") = false ∧
      (Bytes.ofString "jobs" == Bytes.ofString "values") = false ∧
      (Bytes.ofString "jobs" == Bytes.ofString "shaders") = false ∧
      (Bytes.ofString "jobs" == Bytes.ofString "permutations") = false ∧
      (Bytes.ofString "jobs" == Bytes.ofString "output_dir") = false ∧
      (Bytes.ofString "jobs" == Bytes.ofString "compiler") = false := by
    decide +kernel
  simp only [Decode.topKey, h1, h2, h3, h4, h5, h6, beq_self_eq_true, Bool.false_eq_true,
    if_false, if_true]
  cases Decode.integer v (Bytes.ofString "jobs") <;> rfl

/-- A strictly ascending list of texts has no repeat. -/
theorem Bytes.nodup_of_ascending {l : List Bytes} (h : l.Pairwise fun a b => Bytes.lt a b = true) :
    l.Nodup :=
  h.imp fun hab heq => by rw [heq, Bytes.lt_irrefl] at hab; cases hab

/-- Two strictly ascending lists of texts with the same members are the same list. -/
theorem Bytes.eq_of_ascending {l₁ l₂ : List Bytes} (h₁ : l₁.Pairwise fun a b => Bytes.lt a b = true)
    (h₂ : l₂.Pairwise fun a b => Bytes.lt a b = true) (h : ∀ x, x ∈ l₁ ↔ x ∈ l₂) : l₁ = l₂ := by
  refine List.Perm.eq_of_pairwise (fun a b _ _ hab hba => ?_) h₁ h₂
    ((List.perm_ext_iff_of_nodup (Bytes.nodup_of_ascending h₁) (Bytes.nodup_of_ascending h₂)).2 h)
  -- two texts each below the other would make one below itself
  have hself := Bytes.lt_trans hab hba
  rw [Bytes.lt_irrefl] at hself
  cases hself

/-- **The entries of a document, in byte order, split around one of them**: those before it and
those after it are, together, the entries of the document without it. -/
theorem Decode.sorted_split {doc : Table Value} {k : Bytes} {v : Value} (hv : doc.get? k = some v) :
    ∃ A B, Decode.sorted doc = A ++ (k, v) :: B ∧ Decode.sorted (doc.erase k) = A ++ B ∧
      ∀ kv ∈ A ++ B, kv.1 ≠ k := by
  have hsorted : (Table.names doc).Pairwise fun a b => Bytes.lt a b = true :=
    Bytes.sortDedup_sorted _
  have hk : k ∈ Table.names doc := by
    obtain ⟨e, he, -⟩ := Option.map_eq_some_iff.1 hv
    have hek : e.1 = k := by simpa using List.find?_some he
    exact Bytes.mem_sortDedup.2 (List.mem_map.2 ⟨e, List.mem_of_find?_eq_some he, hek⟩)
  obtain ⟨P, S, hPS⟩ := List.append_of_mem hk
  rw [hPS] at hsorted
  have hkPS : k ∉ P ++ S :=
    (List.nodup_cons.1 (List.nodup_middle.1 (Bytes.nodup_of_ascending hsorted))).1
  have hkP : k ∉ P := fun h => hkPS (List.mem_append_left S h)
  have hkS : k ∉ S := fun h => hkPS (List.mem_append_right P h)
  -- the names of the document without `k` are the names before and after it
  have hnames : Table.names (doc.erase k) = P ++ S := by
    apply Bytes.eq_of_ascending (Bytes.sortDedup_sorted _)
    · have hsub : (P ++ S).Sublist (P ++ k :: S) := by simp
      exact hsorted.sublist hsub
    · intro x
      have hx : x ∈ P ++ k :: S ↔ x ∈ doc.map Prod.fst := by
        rw [← hPS]
        simp [Table.names]
      by_cases hxk : x = k
      · subst hxk
        simp [Table.erase, hkP, hkS]
      · simp only [List.mem_append, List.mem_cons, hxk, false_or, List.mem_map] at hx
        simp [Table.erase, hxk, hx]
  -- names other than `k` read alike with and without `k`
  have hget : ∀ x ∈ P ++ S, (x, ((doc.erase k).get? x).getD .null) = (x, (doc.get? x).getD .null) := by
    intro x hx
    have hxk : x ≠ k := fun h => by simp_all
    rw [Table.erase, Table.get?_filter_ne doc hxk]
  refine ⟨P.map fun x => (x, (doc.get? x).getD .null), S.map fun x => (x, (doc.get? x).getD .null),
    ?_, ?_, ?_⟩
  · simp [Decode.sorted, hPS, hv]
  · rw [Decode.sorted, hnames, List.map_congr_left hget, List.map_append]
  · intro kv hkv
    simp only [List.mem_append, List.mem_map] at hkv
    rcases hkv with ⟨x, hx, rfl⟩ | ⟨x, hx, rfl⟩
    · exact fun h => hkP (h ▸ hx)
    · exact fun h => hkS (h ▸ hx)

/-- **A valid configuration's job count is the `jobs` entry, read last.** When the document
without its `jobs` entry reads as `c`, and the entry reads as the count `j`, the document reads as
`c` with `j` jobs. -/
theorem Config.ofDocument_jobs {doc : Table Value} {c : Config} {v : Value} {j : Int}
    (hjobs : doc.get? (Bytes.ofString "jobs") = some v)
    (hrest : Config.ofDocument (doc.erase (Bytes.ofString "jobs")) = .ok c)
    (hj : Decode.integer v (Bytes.ofString "jobs") = .ok j) :
    Config.ofDocument doc = .ok { c with jobs := j } := by
  obtain ⟨A, B, hdoc, herase, hkeys⟩ := Decode.sorted_split hjobs
  rw [Config.ofDocument, Config.ofDocumentIn, herase, List.foldlM_append] at hrest
  -- the entries before `jobs` read as some configuration, which the rest turns into `c`
  cases hA : A.foldlM (Decode.topKey .stored) {} with
  | error e => rw [hA] at hrest; cases hrest
  | ok cA =>
    rw [hA] at hrest
    replace hrest : B.foldlM (Decode.topKey .stored) cA = .ok c := hrest
    rw [Config.ofDocument, Config.ofDocumentIn, hdoc, List.foldlM_append, hA]
    show ((Bytes.ofString "jobs", v) :: B).foldlM (Decode.topKey .stored) cA = _
    rw [List.foldlM_cons, Decode.topKey_jobs, hj]
    show B.foldlM (Decode.topKey .stored) { cA with jobs := j } = _
    rw [Decode.foldlM_topKey_withJobs .stored j B cA fun kv h => hkeys kv (by simp [h]), hrest]
    rfl

/-! ## §4 — The job count of a document -/

/-- **The job count never wraps.** Take a document whose entries other than `jobs` make a valid
configuration, and whose `jobs` entry is an integer of a type the decoders produce, within its
range, standing for `m`. The document reads as a valid configuration exactly when
`0 ≤ m ≤ 2^63 - 1`, and its job count is then `m`: no out-of-range unsigned integer becomes a
count that is not negative. -/
theorem Config.jobs_never_wrap {doc : Table Value} {c : Config} {v : Value} {m : Int}
    (hjobs : doc.get? (Bytes.ofString "jobs") = some v) (hv : v.IntegerOf m)
    (hrest : Config.ofDocument (doc.erase (Bytes.ofString "jobs")) = .ok c)
    (hvalid : c.validate = .ok ()) :
    ((∃ c', Config.ofDocument doc = .ok c' ∧ c'.validate = .ok ()) ↔
        0 ≤ m ∧ m ≤ (Nat.pow 2 63 : Int) - 1) ∧
      ∀ c', Config.ofDocument doc = .ok c' → c'.validate = .ok () → c'.jobs = m := by
  obtain ⟨j, hj, hrange, hexact⟩ := Decode.integer_nonneg_iff hv (Bytes.ofString "jobs")
  have hdoc := Config.ofDocument_jobs hjobs hrest hj
  have hok : ∀ c', Config.ofDocument doc = .ok c' → c' = { c with jobs := j } := by
    intro c' h
    rw [hdoc] at h
    cases h
    rfl
  constructor
  · constructor
    · rintro ⟨c', hc', hval⟩
      rw [hok c' hc', Config.validate_withJobs hvalid] at hval
      have := hrange.1 hval
      omega
    · intro hm
      refine ⟨_, hdoc, (Config.validate_withJobs hvalid j).2 (hrange.2 ⟨hm.1, by omega⟩)⟩
  · intro c' hc' hval
    rw [hok c' hc', Config.validate_withJobs hvalid] at hval
    rw [hok c' hc']
    exact hexact hval

/-- A YAML count of `2^64 - 1`, an unsigned integer whose 64 bits read as `-1`, is refused: the
document `jobs: 18446744073709551615` reads, but fails validation. -/
theorem Config.jobs_never_wrap_sample :
    let doc : Table Value := [(Bytes.ofString "jobs", .uint64 18446744073709551615)]
    doc.get? (Bytes.ofString "jobs") = some (.uint64 18446744073709551615) ∧
      Value.IntegerOf (.uint64 18446744073709551615) 18446744073709551615 ∧
      Config.ofDocument (doc.erase (Bytes.ofString "jobs")) = .ok {} ∧
      ({} : Config).validate = .ok () ∧
      ¬ ∃ c', Config.ofDocument doc = .ok c' ∧ c'.validate = .ok () := by
  intro doc
  have hjobs : doc.get? (Bytes.ofString "jobs") = some (.uint64 18446744073709551615) := by
    simp [doc, Table.get?]
  have hv : Value.IntegerOf (.uint64 18446744073709551615) 18446744073709551615 :=
    .uint64 (by decide)
  have hrest : Config.ofDocument (doc.erase (Bytes.ofString "jobs")) = .ok {} := by
    simp [doc, Table.erase, Config.ofDocument, Config.ofDocumentIn, Decode.sorted, Table.names,
      Bytes.sortDedup]
    rfl
  have hvalid : ({} : Config).validate = .ok () := by
    cbv
  refine ⟨hjobs, hv, hrest, hvalid, fun h => ?_⟩
  have hm := ((Config.jobs_never_wrap hjobs hv hrest hvalid).1.1 h).2
  have h63 : Nat.pow 2 63 = 9223372036854775808 := rfl
  omega

end ShaderVariants
