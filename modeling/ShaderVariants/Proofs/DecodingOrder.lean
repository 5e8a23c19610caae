import Mathlib.Data.List.Perm.Basic
import ShaderVariants.Config.Load
import ShaderVariants.Proofs.FlagDependence
/-!
# Decoding does not depend on the order maps are walked in

Decoding a document walks its tables of flags and of values as maps, and reading a
configuration program walks its globals as a map, in an order the map does not fix
(`MapOrder`). This module shows how much of the outcome depends on that order.

Nothing but a failure's choice of entry does. For any two ways of walking maps that meet each
entry once (`MapOrder.Lawful`), decoding gives the same configuration, or fails in both with
the same fault, or with two entries of one table that are not of the kind wanted
(`ShapeFault.Alike`); reading a program gives the same document, or the same message, or the
failures of two of the globals the document takes (`Starlark.MessageAlike`). This is
`Config.decoding_agrees_across_orders`.

Which of two wrong entries a failure names does depend on it: in `flags: {b: 1, a: 2}` the walk
in stored order reports `flags.b`, and the walk in reverse order `flags.a`, the first entry in
byte order (`Config.ofDocument_reports_first_met_flag`).

The argument is one lemma about a loop over a map (`Table.rangeM_perm`): when the entries met
are an arrangement of each other, the two loops convert the same entries, since the first to
fail is met by both loops, and when none fails the converted entries sorted by name are the
same list. The rest carries that agreement through the binds and folds of decoding
(`Except.Agree`).
-/

namespace ShaderVariants

variable {ε α β : Type}

/-! ## Outcomes that agree up to a relation on failures -/

/-- Two outcomes that agree up to `R` on failures: the same result, or two failures that `R`
relates. -/
def Except.Agree {ε α : Type} (R : ε → ε → Prop) : Except ε α → Except ε α → Prop
  | .ok a, .ok b => a = b
  | .error e₁, .error e₂ => R e₁ e₂
  | _, _ => False

namespace Except.Agree

variable {R : ε → ε → Prop}

theorem self (hR : ∀ e, R e e) (r : Except ε α) : Agree R r r := by
  cases r with
  | error e => exact hR e
  | ok a => rfl

theorem bind {r₁ r₂ : Except ε α} {f₁ f₂ : α → Except ε β} (h : Agree R r₁ r₂)
    (hf : ∀ a, Agree R (f₁ a) (f₂ a)) : Agree R (r₁ >>= f₁) (r₂ >>= f₂) := by
  cases r₁ with
  | error e₁ =>
    cases r₂ with
    | error e₂ => exact h
    | ok b => exact h.elim
  | ok a =>
    cases r₂ with
    | error e₂ => exact h.elim
    | ok b =>
      obtain rfl : a = b := h
      exact hf a

theorem mapM {l : List α} {f₁ f₂ : α → Except ε β} (hf : ∀ x ∈ l, Agree R (f₁ x) (f₂ x)) :
    Agree R (l.mapM f₁) (l.mapM f₂) := by
  induction l with
  | nil => rfl
  | cons x l ih =>
    simp only [List.mapM_cons]
    exact bind (hf x (by simp)) fun b =>
      bind (ih fun y hy => hf y (List.mem_cons_of_mem x hy)) fun bs => rfl

theorem foldlM {l : List α} {f₁ f₂ : β → α → Except ε β}
    (hf : ∀ b, ∀ x ∈ l, Agree R (f₁ b x) (f₂ b x)) (b : β) :
    Agree R (l.foldlM f₁ b) (l.foldlM f₂ b) := by
  induction l generalizing b with
  | nil => rfl
  | cons x l ih =>
    simp only [List.foldlM_cons]
    exact bind (hf b x (by simp)) fun c => ih (fun b y hy => hf b y (List.mem_cons_of_mem x hy)) c

end Except.Agree


/-! ## Loops over maps -/

/-- A loop that finishes converted every entry, in order. -/
theorem forall₂_of_mapM_eq_ok {f : α → Except ε β} :
    ∀ {l : List α} {ys : List β}, l.mapM f = .ok ys → List.Forall₂ (fun x y => f x = .ok y) l ys
  | [], ys, h => by
    simp only [List.mapM_nil] at h
    cases h
    exact .nil
  | x :: l, ys, h => by
    simp only [List.mapM_cons] at h
    cases hx : f x with
    | error e => rw [hx] at h; cases h
    | ok y =>
      cases hl : l.mapM f with
      | error e => rw [hx, hl] at h; cases h
      | ok ys' =>
        rw [hx, hl] at h
        cases h
        exact .cons hx (forall₂_of_mapM_eq_ok hl)

/-- A loop that fails failed on one of its entries. -/
theorem exists_error_of_mapM_eq_error {f : α → Except ε β} :
    ∀ {l : List α} {e : ε}, l.mapM f = .error e → ∃ x ∈ l, f x = .error e
  | [], e, h => by simp only [List.mapM_nil] at h; cases h
  | x :: l, e, h => by
    simp only [List.mapM_cons] at h
    cases hx : f x with
    | error e' => rw [hx] at h; cases h; exact ⟨x, by simp, hx⟩
    | ok y =>
      cases hl : l.mapM f with
      | error e' =>
        rw [hx, hl] at h
        cases h
        obtain ⟨z, hz, hfz⟩ := exists_error_of_mapM_eq_error hl
        exact ⟨z, List.mem_cons_of_mem x hz, hfz⟩
      | ok ys' => rw [hx, hl] at h; cases h


namespace Table

/-- The entries `firstsFrom` keeps have distinct names, none of them already seen. -/
theorem firstsFrom_names (seen : List Bytes) (t : Table α) :
    ((firstsFrom seen t).map Prod.fst).Nodup ∧ ∀ k ∈ (firstsFrom seen t).map Prod.fst, k ∉ seen := by
  induction t generalizing seen with
  | nil => simp [firstsFrom]
  | cons e r ih =>
    by_cases he : seen.contains e.1 = true
    · simp only [firstsFrom, he, if_true]
      exact ih seen
    · obtain ⟨hnd, hout⟩ := ih (e.1 :: seen)
      simp only [firstsFrom, he, Bool.false_eq_true, if_false, List.map_cons, List.nodup_cons,
        List.mem_cons]
      simp only [List.contains_iff_mem, List.mem_cons, not_or] at he hout
      refine ⟨⟨fun h => (hout e.1 h).1 rfl, hnd⟩, ?_⟩
      rintro k (rfl | hk)
      · exact he
      · exact (hout k hk).2

theorem firsts_names_nodup (t : Table α) : (t.firsts.map Prod.fst).Nodup :=
  (firstsFrom_names [] t).1

/-- Sorting by name gives one result for every arrangement of entries whose names are
distinct. -/
theorem mergeSort_byName_perm {ys₁ ys₂ : List (Bytes × β)} (hp : ys₁.Perm ys₂)
    (hnd : (ys₁.map Prod.fst).Nodup) :
    ys₁.mergeSort (fun a b => !Bytes.lt b.1 a.1) = ys₂.mergeSort (fun a b => !Bytes.lt b.1 a.1) := by
  have hs : ∀ ys : List (Bytes × β), (ys.mergeSort fun a b => !Bytes.lt b.1 a.1).Pairwise
      fun a b => (!Bytes.lt b.1 a.1) = true := fun ys => by
    apply List.pairwise_mergeSort
    · exact fun _ _ _ => Bytes.not_lt_trans
    · exact fun a b => Bytes.not_lt_total a.1 b.1
  have hperm : (ys₁.mergeSort fun a b => !Bytes.lt b.1 a.1).Perm
      (ys₂.mergeSort fun a b => !Bytes.lt b.1 a.1) :=
    ((List.mergeSort_perm ys₁ _).trans hp).trans (List.mergeSort_perm ys₂ _).symm
  refine List.Perm.eq_of_pairwise ?_ (hs ys₁) (hs ys₂) hperm
  intro a b ha hb hab hba
  -- neither name is below the other, so they are one name, and names are distinct
  have hname : a.1 = b.1 := by
    rcases Bytes.lt_trichotomy a.1 b.1 with h | h | h
    · rw [h] at hba; cases hba
    · exact h
    · rw [h] at hab; cases hab
  have ha₁ : a ∈ ys₁ := (List.mergeSort_perm ys₁ _).subset ha
  have hb₁ : b ∈ ys₁ := hp.symm.subset ((List.mergeSort_perm ys₂ _).subset hb)
  exact List.inj_on_of_nodup_map hnd ha₁ hb₁ hname


theorem exists_ok_of_mapM_eq_ok {f : α → Except ε β} {l : List α} {ys : List β}
    (h : l.mapM f = .ok ys) {x : α} (hx : x ∈ l) : ∃ y, f x = .ok y := by
  have hf := forall₂_of_mapM_eq_ok h
  clear h
  induction hf with
  | nil => cases hx
  | @cons a y l ys hay _ ih =>
    rcases List.mem_cons.1 hx with rfl | hx
    · exact ⟨y, hay⟩
    · exact ih hx

/-- **A loop over a map converts the same entries whatever order it meets them in**: the map it
builds is the same, and when it fails, the two failures are failures of `f` on entries. -/
theorem rangeM_perm {R : ε → ε → Prop} {l₁ l₂ : List (Bytes × α)}
    {f : Bytes × α → Except ε (Bytes × β)} (hp : l₁.Perm l₂) (hnd : (l₁.map Prod.fst).Nodup)
    (hkey : ∀ x y, f x = .ok y → y.1 = x.1)
    (hR : ∀ x ∈ l₁, ∀ y ∈ l₁, ∀ e₁ e₂, f x = .error e₁ → f y = .error e₂ → R e₁ e₂) :
    Except.Agree R (rangeM l₁ f) (rangeM l₂ f) := by
  unfold rangeM
  cases h₁ : l₁.mapM f with
  | error e₁ =>
    obtain ⟨x, hx, hfx⟩ := exists_error_of_mapM_eq_error h₁
    cases h₂ : l₂.mapM f with
    | error e₂ =>
      obtain ⟨y, hy, hfy⟩ := exists_error_of_mapM_eq_error h₂
      exact hR x hx y (hp.symm.subset hy) e₁ e₂ hfx hfy
    | ok ys₂ =>
      -- the entry that failed first is met by the other loop too
      obtain ⟨y, hy⟩ := exists_ok_of_mapM_eq_ok h₂ (hp.subset hx)
      rw [hfx] at hy
      cases hy
  | ok ys₁ =>
    cases h₂ : l₂.mapM f with
    | error e₂ =>
      obtain ⟨y, hy, hfy⟩ := exists_error_of_mapM_eq_error h₂
      obtain ⟨z, hz⟩ := exists_ok_of_mapM_eq_ok h₁ (hp.symm.subset hy)
      rw [hfy] at hz
      cases hz
    | ok ys₂ =>
      have hf₁ := forall₂_of_mapM_eq_ok h₁
      -- converting is a function, so the two results are arrangements of one another
      have hys : ys₁.Perm ys₂ :=
        List.rel_perm_imp (fun _ _ _ hb hc => Except.ok.inj (hb.symm.trans hc)) hf₁
          (forall₂_of_mapM_eq_ok h₂) hp
      have hnames : ys₁.map Prod.fst = l₁.map Prod.fst := by
        clear h₁ h₂ hys hp hnd hR
        induction hf₁ with
        | nil => rfl
        | cons hxy _ ih => simp [hkey _ _ hxy, ih]
      exact mergeSort_byName_perm hys (hnames ▸ hnd)

end Table

/-! ## Ways to walk a map -/

/-- A way a loop can walk maps: each map's entries, each once, in some arrangement. -/
def MapOrder.Lawful (o : MapOrder α) : Prop :=
  ∀ place t, (o place t).Perm t.firsts

namespace MapOrder

theorem stored_lawful : (stored : MapOrder α).Lawful := fun _ _ => .refl _

theorem Lawful.perm {o₁ o₂ : MapOrder α} (h₁ : o₁.Lawful) (h₂ : o₂.Lawful) (place : Bytes)
    (t : Table α) : (o₁ place t).Perm (o₂ place t) :=
  (h₁ place t).trans (h₂ place t).symm

theorem Lawful.names_nodup {o : MapOrder α} (h : o.Lawful) (place : Bytes) (t : Table α) :
    ((o place t).map Prod.fst).Nodup :=
  ((h place t).map Prod.fst).nodup_iff.2 (Table.firsts_names_nodup t)

end MapOrder

/-! ## Decoding a document -/

/-- Two faults that decoding one document can report when it walks its maps in two orders: the
same fault, or two entries of one table that are not of the kind wanted. -/
inductive ShapeFault.Alike : ShapeFault → ShapeFault → Prop
  | same (f : ShapeFault) : Alike f f
  | entries (place k₁ k₂ : Bytes) (w : Wanted) (g₁ g₂ : Bytes) :
      Alike (.mismatch (Decode.dot place k₁) w g₁) (.mismatch (Decode.dot place k₂) w g₂)

namespace Decode

variable {o₁ o₂ : MapOrder Value}

/-- A table of flags or of values walked in two orders: each entry converted under its own
name, or refused as not of the kind `w`, at its own place. -/
theorem walk_agree (h₁ : o₁.Lawful) (h₂ : o₂.Lawful) (place : Bytes) (t : Table Value)
    (w : Wanted) {f : Bytes × Value → Result (Bytes × β)} (hkey : ∀ x y, f x = .ok y → y.1 = x.1)
    (hfault : ∀ x e, f x = .error e → ∃ got, e = .mismatch (dot place x.1) w got) :
    Except.Agree ShapeFault.Alike (Table.rangeM (o₁ place t) f) (Table.rangeM (o₂ place t) f) := by
  apply Table.rangeM_perm (h₁.perm h₂ place t) (h₁.names_nodup place t) hkey
  intro x _ y _ e₁ e₂ hx hy
  obtain ⟨g₁, rfl⟩ := hfault x e₁ hx
  obtain ⟨g₂, rfl⟩ := hfault y e₂ hy
  exact .entries _ _ _ _ _ _

theorem flags_agree (h₁ : o₁.Lawful) (h₂ : o₂.Lawful) (v : Value) (place : Bytes) :
    Except.Agree ShapeFault.Alike (flags o₁ v place) (flags o₂ v place) := by
  unfold flags
  refine (Except.Agree.self ShapeFault.Alike.same _).bind fun t => ?_
  apply walk_agree h₁ h₂ place t .boolean
  · rintro ⟨k, x⟩ y h
    dsimp only at h
    split at h
    · cases h; rfl
    · cases h
  · rintro ⟨k, x⟩ e h
    dsimp only at h
    split at h
    · cases h
    · cases h; exact ⟨_, rfl⟩

theorem values_agree (h₁ : o₁.Lawful) (h₂ : o₂.Lawful) (v : Value) (place : Bytes) :
    Except.Agree ShapeFault.Alike (values o₁ v place) (values o₂ v place) := by
  unfold values
  refine (Except.Agree.self ShapeFault.Alike.same _).bind fun t => ?_
  apply walk_agree h₁ h₂ place t .scalar
  · rintro ⟨k, x⟩ y h
    dsimp only at h
    split at h
    · cases h; rfl
    · cases h
  · rintro ⟨k, x⟩ e h
    dsimp only at h
    split at h
    · cases h
    · cases h; exact ⟨_, rfl⟩

theorem permutationKey_agree (h₁ : o₁.Lawful) (h₂ : o₂.Lawful) (place : Bytes) (p : Permutation)
    (kv : Bytes × Value) :
    Except.Agree ShapeFault.Alike (permutationKey o₁ place p kv) (permutationKey o₂ place p kv) := by
  obtain ⟨k, x⟩ := kv
  unfold permutationKey
  dsimp only
  split_ifs
  · exact Except.Agree.self ShapeFault.Alike.same _
  · exact (flags_agree h₁ h₂ x _).bind fun _ => rfl
  · exact (values_agree h₁ h₂ x _).bind fun _ => rfl
  · exact Except.Agree.self ShapeFault.Alike.same _

theorem permutations_agree (h₁ : o₁.Lawful) (h₂ : o₂.Lawful) (v : Value) :
    Except.Agree ShapeFault.Alike (permutations o₁ v) (permutations o₂ v) := by
  unfold permutations
  split
  · apply Except.Agree.mapM
    rintro ⟨x, i⟩ -
    dsimp only
    split
    · exact Except.Agree.foldlM (fun p kv _ => permutationKey_agree h₁ h₂ _ p kv) {}
    · exact Except.Agree.self ShapeFault.Alike.same _
  · exact Except.Agree.self ShapeFault.Alike.same _

theorem topKey_agree (h₁ : o₁.Lawful) (h₂ : o₂.Lawful) (c : Config) (kv : Bytes × Value) :
    Except.Agree ShapeFault.Alike (topKey o₁ c kv) (topKey o₂ c kv) := by
  obtain ⟨k, x⟩ := kv
  unfold topKey
  dsimp only
  -- the keys are tested in turn; `split_ifs` over these tests is slow
  by_cases hf : (k == Bytes.ofString "flags") = true
  · rw [if_pos hf, if_pos hf]
    exact (flags_agree h₁ h₂ x k).bind fun _ => rfl
  rw [if_neg hf, if_neg hf]
  by_cases hv : (k == Bytes.ofString "values") = true
  · rw [if_pos hv, if_pos hv]
    exact (values_agree h₁ h₂ x k).bind fun _ => rfl
  rw [if_neg hv, if_neg hv]
  by_cases hs : (k == Bytes.ofString "shaders") = true
  · rw [if_pos hs, if_pos hs]
    exact Except.Agree.self ShapeFault.Alike.same _
  rw [if_neg hs, if_neg hs]
  by_cases hp : (k == Bytes.ofString "permutations") = true
  · rw [if_pos hp, if_pos hp]
    exact (permutations_agree h₁ h₂ x).bind fun _ => rfl
  rw [if_neg hp, if_neg hp]
  -- the other keys read no table walked as a map
  exact Except.Agree.self ShapeFault.Alike.same _

end Decode

theorem Config.ofDocumentIn_agree {o₁ o₂ : MapOrder Value} (h₁ : o₁.Lawful) (h₂ : o₂.Lawful)
    (doc : Table Value) :
    Except.Agree ShapeFault.Alike (Config.ofDocumentIn o₁ doc) (Config.ofDocumentIn o₂ doc) :=
  Except.Agree.foldlM (fun c kv _ => Decode.topKey_agree h₁ h₂ c kv) {}

/-! ## Reading a configuration program -/

namespace Starlark

/-- Two messages that reading one configuration program can report when it walks the globals
in two orders: the same message, or the failures of two globals of the document. -/
inductive MessageAlike : Bytes → Bytes → Prop
  | same (m : Bytes) : MessageAlike m m
  | globals (k₁ e₁ k₂ e₂ : Bytes) (hk₁ : k₁ ∈ documentKeys.map Bytes.ofString)
      (hk₂ : k₂ ∈ documentKeys.map Bytes.ofString) :
      MessageAlike (Bytes.ofString "global " ++ k₁ ++ Bytes.ofString ": " ++ e₁)
        (Bytes.ofString "global " ++ k₂ ++ Bytes.ofString ": " ++ e₂)

theorem Program.documentIn_agree {o₁ o₂ : MapOrder Value} (h₁ : o₁.Lawful) (h₂ : o₂.Lawful)
    (run : Except Bytes (List (Bytes × Value) × Machine)) :
    Except.Agree MessageAlike (Program.documentIn o₁ run) (Program.documentIn o₂ run) := by
  unfold Program.documentIn
  refine (Except.Agree.self MessageAlike.same _).bind fun run => ?_
  obtain ⟨globals, m⟩ := run
  dsimp only
  apply Table.rangeM_perm ((h₁.perm h₂ [] globals).filter _)
    ((h₁.names_nodup [] globals).sublist (List.filter_sublist.map _))
  · rintro ⟨k, v⟩ y h
    dsimp only at h
    split at h
    · cases h; rfl
    · cases h
  · rintro ⟨k₁, v₁⟩ hx ⟨k₂, v₂⟩ hy e₁ e₂ hfx hfy
    dsimp only at hfx hfy
    split at hfx
    · cases hfx
    · split at hfy
      · cases hfy
      · cases hfx; cases hfy
        -- only the globals the document names are converted
        simp only [List.mem_filter, List.contains_iff_mem] at hx hy
        exact .globals _ _ _ _ hx.2 hy.2

end Starlark

/-! ## Decoding across orders -/

namespace MapOrder

/-- The entries of each map in the reverse of the order they were put in. -/
def reversed : MapOrder α := fun _ t => t.firsts.reverse

theorem reversed_lawful : (reversed : MapOrder α).Lawful := fun _ t => List.reverse_perm t.firsts

end MapOrder

/-- **Decoding a configuration agrees across the orders its maps are walked in.** For any two
ways of walking maps that meet each entry once, decoding a document gives the same
configuration, or fails in both with the same fault or with two entries of one table of flags
or values that are not of the kind wanted; and whatever a configuration program's run
leaves, or the message it fails with, the document read from its globals is the same, or both
fail with the same message or with the failures of two of the globals the document takes. -/
theorem Config.decoding_agrees_across_orders {o₁ o₂ : MapOrder Value}
    {g₁ g₂ : MapOrder Starlark.Value} (ho₁ : o₁.Lawful) (ho₂ : o₂.Lawful) (hg₁ : g₁.Lawful)
    (hg₂ : g₂.Lawful) :
    (∀ doc, Except.Agree ShapeFault.Alike (Config.ofDocumentIn o₁ doc)
      (Config.ofDocumentIn o₂ doc)) ∧
    ∀ run, Except.Agree Starlark.MessageAlike
      (Starlark.Program.documentIn g₁ run) (Starlark.Program.documentIn g₂ run) :=
  ⟨Config.ofDocumentIn_agree ho₁ ho₂, Starlark.Program.documentIn_agree hg₁ hg₂⟩

theorem Config.decoding_agrees_across_orders_sample :
    (MapOrder.stored : MapOrder Value).Lawful ∧ (MapOrder.reversed : MapOrder Value).Lawful ∧
    (MapOrder.stored : MapOrder Starlark.Value).Lawful ∧
    (MapOrder.reversed : MapOrder Starlark.Value).Lawful ∧
    Except.Agree ShapeFault.Alike
      (Config.ofDocument [(Bytes.ofString "flags",
        .table [(Bytes.ofString "b", .int 1), (Bytes.ofString "a", .int 2)])])
      (Config.ofDocumentIn .reversed [(Bytes.ofString "flags",
        .table [(Bytes.ofString "b", .int 1), (Bytes.ofString "a", .int 2)])]) ∧
    Except.Agree Starlark.MessageAlike
      (Starlark.Program.readTable (Bytes.ofString "c.star") (Bytes.ofString "jobs = 2") [])
      (Starlark.Program.readTableIn .reversed (Bytes.ofString "c.star")
        (Bytes.ofString "jobs = 2") []) :=
  have h := Config.decoding_agrees_across_orders MapOrder.stored_lawful MapOrder.reversed_lawful
    MapOrder.stored_lawful MapOrder.reversed_lawful
  ⟨MapOrder.stored_lawful, MapOrder.reversed_lawful, MapOrder.stored_lawful,
    MapOrder.reversed_lawful, h.1 _, h.2 _⟩

/-- Which of two wrong flags a failure names depends on the walk: in `flags: {b: 1, a: 2}`, the
walk in stored order reports `flags.b`, the walk in reverse order `flags.a`. -/
theorem Config.ofDocument_reports_first_met_flag :
    Config.ofDocument [(Bytes.ofString "flags",
        .table [(Bytes.ofString "b", .int 1), (Bytes.ofString "a", .int 2)])] =
      .error (.mismatch (Bytes.ofString "flags.b") .boolean (Bytes.ofString "int")) ∧
    Config.ofDocumentIn .reversed [(Bytes.ofString "flags",
        .table [(Bytes.ofString "b", .int 1), (Bytes.ofString "a", .int 2)])] =
      .error (.mismatch (Bytes.ofString "flags.a") .boolean (Bytes.ofString "int")) := by
  constructor <;>
  · simp [Config.ofDocument, Config.ofDocumentIn, Decode.sorted, Table.names, Bytes.sortDedup,
      List.eraseDups_cons, Table.get?, Decode.topKey, Decode.flags, Decode.table, Table.rangeM,
      MapOrder.stored, MapOrder.reversed, Table.firsts, Table.firstsFrom, List.mapM_cons, bind,
      Except.bind, Except.map, Decode.dot, Value.typeName]
    cbv

end ShaderVariants
