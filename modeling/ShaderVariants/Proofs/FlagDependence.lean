import Mathlib
import ShaderVariants.Proofs.IncludeTree
import ShaderVariants.Proofs.DiagnosticTrace
import ShaderVariants.Batch
/-!
# The flags an expansion depends on

An expansion lists the flags named by the conditions of the documents it read, in the branches
their regions select and in those they do not, sorted in byte order and each once. This module
shows that the list is exactly what the expansion depends on of the flags
(`Session.expand_flags_exact`):

* it is strictly increasing in byte order and every flag in it is defined;
* a text is in it exactly when a document the expansion reads (`Session.Reads`) names it in a
  condition, so an include never followed adds nothing and a dead branch of a document read
  adds its flags;
* any flags that give its members the same values expand the source to the same expansion,
  text, source map and flags alike.

The last point is an induction on how far the include depth is from its limit: a document read
is parsed alike under both flags (`Document.ofSource_settles`), so its live items and its
includes are the same, and what each include renders one level deeper is again the same.

A batch unit reports the flags of its permutation that neither stage names; by the last point
each of them can be set to any value, or left out of the permutation, and the unit loads the
same pair (`Batch.buildUnit_changeFlag_pair`).
-/

namespace ShaderVariants

/-! ## Byte order -/

namespace Bytes

theorem lt_irrefl : ∀ a : Bytes, lt a a = false
  | [] => rfl
  | x :: r => by simp [lt, lt_irrefl r]

theorem lt_trans {a b c : Bytes} (hab : lt a b = true) (hbc : lt b c = true) : lt a c = true := by
  induction a generalizing b c with
  | nil =>
    cases b with
    | nil => simp [lt] at hab
    | cons y s =>
      cases c with
      | nil => simp [lt] at hbc
      | cons z t => rfl
  | cons x r ih =>
    cases b with
    | nil => simp [lt] at hab
    | cons y s =>
      cases c with
      | nil => simp [lt] at hbc
      | cons z t =>
        simp only [lt, Bool.or_eq_true, Bool.and_eq_true, decide_eq_true_eq, beq_iff_eq] at hab hbc ⊢
        rcases hab with hxy | ⟨rfl, hrs⟩ <;> rcases hbc with hyz | ⟨rfl, hst⟩
        · exact .inl (UInt8.lt_trans hxy hyz)
        · exact .inl hxy
        · exact .inl hyz
        · exact .inr ⟨rfl, ih hrs hst⟩

theorem lt_trichotomy (a b : Bytes) : lt a b = true ∨ a = b ∨ lt b a = true := by
  induction a generalizing b with
  | nil => cases b <;> simp [lt]
  | cons x r ih =>
    cases b with
    | nil => simp [lt]
    | cons y s =>
      simp only [lt, Bool.or_eq_true, Bool.and_eq_true, decide_eq_true_eq, beq_iff_eq,
        List.cons.injEq]
      rcases Nat.lt_trichotomy x.toNat y.toNat with h | h | h
      · exact .inl (.inl (UInt8.lt_iff_toNat_lt.2 h))
      · obtain rfl := UInt8.toNat_inj.1 h
        rcases ih s with h' | h' | h'
        · exact .inl (.inr ⟨rfl, h'⟩)
        · exact .inr (.inl ⟨rfl, h'⟩)
        · exact .inr (.inr (.inr ⟨rfl, h'⟩))
      · exact .inr (.inr (.inl (UInt8.lt_iff_toNat_lt.2 h)))

/-- Of two different texts that are not in descending order, the first is below the second. -/
theorem lt_of_not_lt_of_ne {a b : Bytes} (hba : lt b a = false) (hne : a ≠ b) : lt a b = true := by
  rcases lt_trichotomy a b with h | h | h
  · exact h
  · exact absurd h hne
  · rw [hba] at h; cases h

/-- Dropping repeats from a list in ascending order leaves it strictly ascending. -/
theorem pairwise_lt_eraseDups :
    ∀ {l : List Bytes}, l.Pairwise (fun a b => (!lt b a) = true) →
      l.eraseDups.Pairwise fun a b => lt a b = true
  | [], _ => by simp
  | a :: as, h => by
    rw [List.eraseDups_cons]
    obtain ⟨ha, has⟩ := List.pairwise_cons.1 h
    have ih := pairwise_lt_eraseDups (has.filter fun b => !b == a)
    refine List.pairwise_cons.2 ⟨fun b hb => ?_, ih⟩
    -- a later text is no repeat of `a`, and not below it
    obtain ⟨hbas, hba⟩ := List.mem_filter.1 (List.mem_eraseDups.1 hb)
    have hne : a ≠ b := fun hab => by simp [hab] at hba
    exact lt_of_not_lt_of_ne (by simpa using ha b hbas) hne
termination_by l => l.length
decreasing_by exact Nat.lt_succ_of_le (List.length_filter_le _ _)

/-- Not descending is transitive, since the order is total: the relation the sorts of this
library order by. -/
theorem not_lt_trans {a b c : Bytes} (hab : (!lt b a) = true) (hbc : (!lt c b) = true) :
    (!lt c a) = true := by
  simp only [Bool.not_eq_eq_eq_not, Bool.not_true] at hab hbc ⊢
  cases hca : lt c a
  · rfl
  · rcases lt_trichotomy b a with h | rfl | h
    · rw [hab] at h; cases h
    · rw [hca] at hbc; cases hbc
    · rw [lt_trans hca h] at hbc; cases hbc

/-- Of two texts, one is not below the other. -/
theorem not_lt_total (a b : Bytes) : (!lt b a || !lt a b) = true := by
  cases hab : lt a b <;> cases hba : lt b a <;> simp
  have := lt_trans hab hba
  rw [lt_irrefl] at this
  cases this

/-- **Sorted texts are strictly ascending.** -/
theorem sortDedup_sorted (xs : List Bytes) : (sortDedup xs).Pairwise fun a b => lt a b = true := by
  apply pairwise_lt_eraseDups
  apply List.pairwise_mergeSort
  · exact fun _ _ _ => not_lt_trans
  · exact not_lt_total

end Bytes

/-! ## The flags of an expansion -/

namespace Session

variable {s : Session} {src file : Bytes}

/-- A document read is the parse of some source under the session's flags. -/
theorem Reads.parsed {k : Nat} {d : Document} (h : s.Reads src file k d) :
    ∃ src' file', s.parse src' file' = .ok d := by
  cases h with
  | root hp => exact ⟨src, file, hp⟩
  | included _ _ _ hp => exact ⟨_, _, hp⟩

/-- Every flag that the rendering of a document read collects is named by a document read. -/
theorem Reads.flags_below {k : Nat} {d : Document} (hd : s.Reads src file k d) {ps : List Piece}
    {fs : List Bytes} (hr : s.renderNodes k d.nodes = .ok (ps, fs)) {x : Bytes} (hx : x ∈ fs) :
    ∃ k' d', s.Reads src file k' d' ∧ x ∈ Node.flagsNamedAll d'.nodes := by
  rw [renderNodes_eq_live] at hr
  obtain ⟨path, place, ps₁, fs₁, hmem, h₁, hx₁⟩ := renderLive_flags_mem s k hr hx
  obtain ⟨hlt, src', d', fs', hl, hp, hr', rfl⟩ := (renderNode_include_eq_ok s k).1 h₁
  have hd' : s.Reads src file (k + 1) d' := .included hd hmem hl hp
  rcases List.mem_append.1 hx₁ with hx' | hx'
  · exact ⟨k + 1, d', hd', hx'⟩
  · exact hd'.flags_below hr' hx'
termination_by s.limit - k

section Expanded

variable {e : Expansion} (he : s.expand src file = .ok e)
include he

/-- **An expansion's flags are the flags that the documents it reads name**, in every branch of
their regions. -/
theorem expand_flags_iff (x : Bytes) :
    x ∈ e.flags ↔ ∃ k d, s.Reads src file k d ∧ x ∈ Node.flagsNamedAll d.nodes := by
  constructor
  · intro hx
    obtain ⟨d, ps, fs, hp, hr, rfl⟩ := expand_eq_ok.1 he
    simp only [Expansion.ofPieces, Bytes.mem_sortDedup, List.mem_append] at hx
    rcases hx with hx | hx
    · exact ⟨0, d, .root hp, hx⟩
    · exact Reads.flags_below (.root hp) hr hx
  · rintro ⟨k, d, hd, hx⟩
    obtain ⟨ps, fs, -, hsub⟩ := hd.rendered he
    exact hsub x (List.mem_append_left _ hx)

/-- Every flag of an expansion is defined. -/
theorem expand_flags_defined : ∀ x ∈ e.flags, s.flags.mem x = true := by
  intro x hx
  obtain ⟨k, d, hd, hxd⟩ := (expand_flags_iff he x).1 hx
  obtain ⟨src', file', hp⟩ := hd.parsed
  exact (Document.ofSource_settles hp).1 x hxd

/-- An expansion's flags are strictly ascending in byte order. -/
theorem expand_flags_sorted : e.flags.Pairwise fun a b => Bytes.lt a b = true := by
  obtain ⟨d, ps, fs, -, -, rfl⟩ := expand_eq_ok.1 he
  exact Bytes.sortDedup_sorted _

end Expanded

/-! ## Flags that agree -/

mutual
/-- A rendering reads the flags only through the flags it collects: flags that agree with the
session's on these render the same nodes alike. -/
theorem renderNodes_of_agree (s : Session) (flags' : Flags) (depth : Nat) {ns : List Node}
    {ps : List Piece} {fs : List Bytes} (h : s.renderNodes depth ns = .ok (ps, fs))
    (hag : ∀ x ∈ fs, flags'.get? x = s.flags.get? x) :
    { s with flags := flags' }.renderNodes depth ns = .ok (ps, fs) := by
  rw [renderNodes_eq_live] at h ⊢
  -- the live items are the same; a segment does not read the flags, and an include is the
  -- same statement one level deeper
  generalize Node.itemsAll ns = items at h ⊢
  induction items generalizing ps fs with
  | nil => exact h
  | cons it its ih =>
    obtain ⟨ps₁, fs₁, ps₂, fs₂, h₁, h₂, rfl, rfl⟩ := joinRendered_eq_ok.1 h
    have h₁' : { s with flags := flags' }.renderLiveItem depth it = .ok (ps₁, fs₁) := by
      cases it with
      | segment sg => exact h₁
      | «include» path place =>
        exact renderNode_include_of_agree s flags' depth h₁ fun x hx =>
          hag x (List.mem_append_left _ hx)
    rw [renderLive_cons, h₁', ih (fun x hx => hag x (List.mem_append_right _ hx)) h₂]
    rfl
termination_by (s.limit - depth, 1)

/-- An include renders alike under flags that agree on the flags its rendering collects. -/
theorem renderNode_include_of_agree (s : Session) (flags' : Flags) (depth : Nat) {path : Bytes}
    {place : Place} {ps : List Piece} {fs : List Bytes}
    (h : s.renderNode depth (.include path place) = .ok (ps, fs))
    (hag : ∀ x ∈ fs, flags'.get? x = s.flags.get? x) :
    { s with flags := flags' }.renderNode depth (.include path place) = .ok (ps, fs) := by
  obtain ⟨hlt, src', d, fs', hl, hp, hr, rfl⟩ := (renderNode_include_eq_ok s depth).1 h
  have hp' : { s with flags := flags' }.parse src' (Path.resolve path place.file) = .ok d :=
    (Document.ofSource_settles hp).2 flags' fun x hx => hag x (List.mem_append_left _ hx)
  have hr' := renderNodes_of_agree s flags' (depth + 1) hr fun x hx =>
    hag x (List.mem_append_right _ hx)
  exact (renderNode_include_eq_ok _ depth).2 ⟨hlt, src', d, fs', hl, hp', hr', rfl⟩
termination_by (s.limit - depth, 0)
end

/-- **Flags that agree on an expansion's flags expand the source to the same expansion.** -/
theorem expand_of_agree {e : Expansion} (he : s.expand src file = .ok e) (flags' : Flags)
    (hag : ∀ x ∈ e.flags, flags'.get? x = s.flags.get? x) :
    { s with flags := flags' }.expand src file = .ok e := by
  obtain ⟨d, ps, fs, hp, hr, rfl⟩ := expand_eq_ok.1 he
  have hag' : ∀ x ∈ Node.flagsNamedAll d.nodes ++ fs, flags'.get? x = s.flags.get? x :=
    fun x hx => hag x (by simpa [Expansion.ofPieces] using hx)
  refine expand_eq_ok.2 ⟨d, ps, fs, ?_, ?_, rfl⟩
  · exact (Document.ofSource_settles hp).2 flags' fun x hx => hag' x (List.mem_append_left _ hx)
  · exact renderNodes_of_agree s flags' 0 hr fun x hx => hag' x (List.mem_append_right _ hx)

end Session

/-! ## Unused flags of a batch unit -/

namespace Table

variable {α : Type}

theorem get?_append (t u : Table α) (x : Bytes) : (t ++ u).get? x = (t.get? x).or (u.get? x) := by
  simp [get?, List.find?_append, Option.map_or]

theorem get?_singleton (k x : Bytes) (v : α) :
    Table.get? [(k, v)] x = if k = x then some v else none := by
  by_cases h : k = x <;> simp [get?, h]

/-- Taking out the entries of one name leaves the look-up of any other name as it was. -/
theorem get?_filter_ne (t : Table α) {n x : Bytes} (hx : x ≠ n) :
    Table.get? (t.filter fun e => e.1 != n) x = t.get? x := by
  induction t with
  | nil => rfl
  | cons e t ih =>
    obtain ⟨k, v⟩ := e
    by_cases hk : k = n
    · subst hk
      have hkx : (k == x) = false := by simpa using fun h => hx h.symm
      simp [get?, hkx] at ih ⊢
      exact ih
    · simp only [List.filter_cons, bne_iff_ne, ne_eq, hk, not_false_eq_true, if_true]
      simp only [get?, List.find?_cons] at ih ⊢
      split <;> simp_all

/-- The look-up of a table with entries set over it: the last entry of the name among those
set, else the look-up of the table. -/
theorem get?_setAll (t u : Table α) (x : Bytes) :
    (t.setAll u).get? x = (Table.get? u.reverse x).or (t.get? x) := by
  induction u generalizing t with
  | nil => simp [setAll, get?]
  | cons e u ih =>
    obtain ⟨k, v⟩ := e
    have hset : (t.set k v).get? x = (Table.get? [(k, v)] x).or (t.get? x) := by
      by_cases h : k = x
      · subst h
        simp [get?_singleton]
      · rw [set, ← List.singleton_append, get?_append, get?_filter_ne t (Ne.symm h)]
    simp only [setAll, List.foldl_cons] at ih ⊢
    rw [ih, hset, List.reverse_cons, get?_append, Option.or_assoc]

end Table

/-- The permutation with the flag `n` set to `v`, or taken out when `v` is `none`. -/
def Permutation.changeFlag (p : Permutation) (n : Bytes) : Option Bool → Permutation
  | some v => { p with flags := p.flags.set n v }
  | none => { p with flags := p.flags.filter fun e => e.1 != n }

/-- Changing one flag of a permutation leaves the last entry of every other name as it was. -/
theorem Permutation.get?_reverse_changeFlag (p : Permutation) {n x : Bytes} (hx : x ≠ n)
    (v : Option Bool) :
    Table.get? (p.changeFlag n v).flags.reverse x = Table.get? p.flags.reverse x := by
  have hfilter : Table.get? (p.flags.filter fun e => e.1 != n).reverse x =
      Table.get? p.flags.reverse x := by
    rw [← List.filter_reverse, Table.get?_filter_ne _ hx]
  cases v with
  | none => exact hfilter
  | some v =>
    have hnx : n ≠ x := Ne.symm hx
    simp only [changeFlag, Table.set, List.reverse_cons, Table.get?_append, Table.get?_singleton,
      hnx, if_false, Option.or_none]
    exact hfilter

namespace Batch

/-- The session a unit expands its pair in: the permutation's flags and values set over the
configuration's, the run's set over those, and the run's loader. -/
def unitSession (cfg : Config) (opts : BatchOptions) (perm : Permutation) : Session :=
  { flags := (cfg.flags.setAll perm.flags).setAll opts.flags
    values := (cfg.values.setAll perm.values).setAll opts.values
    loader := opts.loader }

/-- A unit holds the pair its session loads, when it loads. -/
theorem buildUnit_pair (cfg : Config) (opts : BatchOptions) (dir : Bytes) (disk : Disk)
    (shader : ShaderEntry) (perm : Permutation) :
    (buildUnit cfg opts dir disk (shader, perm)).1.pair =
      (Pair.load (unitSession cfg opts perm) (cfg.resolve shader.path)).toOption := by
  simp only [buildUnit, Permutation.merge, unitSession]
  cases Pair.load _ _ with
  | error e => rfl
  | ok pair =>
    dsimp only
    split
    · rfl
    · split
      · rfl
      · split <;> rfl

/-- A unit whose pair loads reports the permutation's flags that neither stage names. -/
theorem buildUnit_unusedFlags {cfg : Config} {opts : BatchOptions} {dir : Bytes} {disk : Disk}
    {shader : ShaderEntry} {perm : Permutation} {pair : Pair}
    (h : Pair.load (unitSession cfg opts perm) (cfg.resolve shader.path) = .ok pair) :
    (buildUnit cfg opts dir disk (shader, perm)).1.unusedFlags = unusedFlags perm pair := by
  simp only [buildUnit, Permutation.merge]
  simp only [unitSession] at h
  rw [h]
  dsimp only
  split
  · rfl
  · split
    · rfl
    · split <;> rfl

/-- Changing one flag of the permutation changes the unit's session at that flag only. -/
theorem unitSession_changeFlag (cfg : Config) (opts : BatchOptions) (perm : Permutation)
    (n : Bytes) (v : Option Bool) :
    unitSession cfg opts (perm.changeFlag n v) =
      { unitSession cfg opts perm with
        flags := (cfg.flags.setAll (perm.changeFlag n v).flags).setAll opts.flags } := by
  cases v <;> rfl

end Batch

namespace Pair

/-- A stage loads alike under flags that agree on its expansion's flags. -/
theorem loadStage_of_agree {s : Session} {path : Bytes} {stage : Stage} {u : StageSource}
    (h : loadStage s path stage = .ok u) (flags' : Flags)
    (hag : ∀ x ∈ u.expansion.flags, flags'.get? x = s.flags.get? x) :
    loadStage { s with flags := flags' } path stage = .ok u := by
  unfold loadStage at h ⊢
  dsimp only at h ⊢
  cases hl : s.loader (path ++ stage.ext) with
  | error c => rw [hl] at h; cases h
  | ok raw =>
    rw [hl] at h
    dsimp only at h
    cases he : s.expand raw (path ++ stage.ext) with
    | error p => rw [he] at h; cases h
    | ok e =>
      rw [he] at h
      cases h
      simp only [Session.expand_of_agree he flags' hag]

/-- A pair loads alike under flags that agree on the flags of both its stages. -/
theorem load_of_agree {s : Session} {path : Bytes} {pair : Pair} (h : load s path = .ok pair)
    (flags' : Flags)
    (hag : ∀ x, x ∈ pair.vertex.expansion.flags ∨ x ∈ pair.fragment.expansion.flags →
      flags'.get? x = s.flags.get? x) :
    load { s with flags := flags' } path = .ok pair := by
  obtain ⟨hv, hf⟩ := loadStage_of_load h
  have hv' := loadStage_of_agree hv flags' fun x hx => hag x (.inl hx)
  have hf' := loadStage_of_agree hf flags' fun x hx => hag x (.inr hx)
  unfold load at h ⊢
  rw [hv', hf']
  rw [hv, hf] at h
  exact h

end Pair

/-- **An unused flag of a unit changes nothing.** When a unit's pair loads, each flag the unit
reports as unused can be set to any value, or taken out of the permutation, and the unit loads
the same pair: the same raw texts and expansions of both stages. -/
theorem Batch.buildUnit_changeFlag_pair (cfg : Config) (opts : BatchOptions) (dir : Bytes)
    (disk : Disk) (shader : ShaderEntry) (perm : Permutation) (pair : Pair)
    (hpair : (buildUnit cfg opts dir disk (shader, perm)).1.pair = some pair)
    (n : Bytes) (hn : n ∈ (buildUnit cfg opts dir disk (shader, perm)).1.unusedFlags)
    (v : Option Bool) :
    (buildUnit cfg opts dir disk (shader, perm.changeFlag n v)).1.pair = some pair := by
  rw [buildUnit_pair] at hpair ⊢
  have hload : Pair.load (unitSession cfg opts perm) (cfg.resolve shader.path) = .ok pair := by
    cases hl : Pair.load (unitSession cfg opts perm) (cfg.resolve shader.path) with
    | error e => rw [hl] at hpair; cases hpair
    | ok p => rw [hl] at hpair; cases hpair; rfl
  rw [buildUnit_unusedFlags hload] at hn
  -- an unused flag is named by neither stage
  have hfree : ∀ x, x ∈ pair.vertex.expansion.flags ∨ x ∈ pair.fragment.expansion.flags → x ≠ n := by
    rintro x hx rfl
    simp only [unusedFlags, List.mem_filter, Bool.not_eq_eq_eq_not, Bool.not_true,
      List.contains_eq_mem, decide_eq_false_iff_not] at hn
    exact hn.2 (List.mem_append.2 hx)
  rw [unitSession_changeFlag, Pair.load_of_agree hload _ fun x hx => ?_]
  · rfl
  · simp only [unitSession, Table.get?_setAll, Permutation.get?_reverse_changeFlag perm (hfree x hx)]

/-! ## The flags an expansion reports -/

/-- What the flags of an expansion `e` of the source `src` of `file` are: strictly ascending in
byte order, defined, exactly the flags named by the conditions of the documents the expansion
reads, and enough to fix the expansion. -/
structure Session.FlagsExact (s : Session) (src file : Bytes) (e : Expansion) : Prop where
  sorted : e.flags.Pairwise fun a b => Bytes.lt a b = true
  defined : ∀ x ∈ e.flags, s.flags.mem x = true
  named : ∀ x, x ∈ e.flags ↔ ∃ k d, s.Reads src file k d ∧ x ∈ Node.flagsNamedAll d.nodes
  decisive : ∀ flags' : Flags, (∀ x ∈ e.flags, flags'.get? x = s.flags.get? x) →
    { s with flags := flags' }.expand src file = .ok e

/-- **An expansion's flags are exactly the flags it depends on.** Every successful expansion
reports, strictly ascending, the defined flags that the documents it reads name, dead branches
included, and any flags that agree on these give the same expansion. So every flag that a batch
unit reports as unused can be set to any value, or taken out of its permutation, and the unit
loads the same pair. -/
theorem Session.expand_flags_exact :
    (∀ (s : Session) (src file : Bytes) (e : Expansion),
      s.expand src file = .ok e → s.FlagsExact src file e) ∧
    ∀ (cfg : Config) (opts : BatchOptions) (dir : Bytes) (disk : Disk) (shader : ShaderEntry)
      (perm : Permutation) (pair : Pair),
      (Batch.buildUnit cfg opts dir disk (shader, perm)).1.pair = some pair →
      ∀ n ∈ (Batch.buildUnit cfg opts dir disk (shader, perm)).1.unusedFlags, ∀ v : Option Bool,
        (Batch.buildUnit cfg opts dir disk (shader, perm.changeFlag n v)).1.pair = some pair :=
  ⟨fun _ _ _ _ he => ⟨expand_flags_sorted he, expand_flags_defined he, expand_flags_iff he,
      expand_of_agree he⟩,
    fun cfg opts dir disk shader perm pair hpair n hn v =>
      Batch.buildUnit_changeFlag_pair cfg opts dir disk shader perm pair hpair n hn v⟩

/-- The flags of an expansion that follows a live include into a file whose only region is dead. -/
theorem Session.expand_flags_exact_sample :
    let s : Session := ⟨[(Bytes.ofString "A", true), (Bytes.ofString "B", false)], [],
      Loader.ofTable [(Bytes.ofString "i", Bytes.ofString "#if B\ny\n#endif\n")], 0⟩
    ∃ e, s.expand (Bytes.ofString "#if A\n#include i\n#endif\n") (Bytes.ofString "r") = .ok e ∧
      s.FlagsExact (Bytes.ofString "#if A\n#include i\n#endif\n") (Bytes.ofString "r") e := by
  intro s
  obtain ⟨e, he⟩ := s.exists_expand (Bytes.ofString "#if A\n#include i\n#endif\n")
    (Bytes.ofString "r") (by cbv)
  exact ⟨e, he, Session.expand_flags_exact.1 s _ _ e he⟩

end ShaderVariants
