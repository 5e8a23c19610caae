import ShaderVariants.Proofs.CacheFiles
/-!
# Names of generated permutations

`combinations` builds one permutation per subset of its flag names and names it after the flags
it turns on: sorted, joined by `_` and lower-cased, or `none` when it turns on none
(`permutationName`). Lower-casing and joining lose information, so different subsets can share a
name: `A` and `a` both give `a`, the subsets `{a_b}` and `{a, b}` both give `a_b`, and `{NONE}`
gives the name of the empty subset (`permutationName_case_collision`).

They are all there is to it. A name reads back as the lower-case forms of its flags, in sorted
order, when no such form holds `_` (`splitOn_permutationName`): lower-casing keeps the
separators where they are, since an ASCII byte stands on its own when a text is read as
characters (`Glyph.decode_append_ascii`). So for flag names whose lower-case forms are pairwise
different, hold no `_` and are not `none` (`Nameable`), different subsets have different names,
and the permutations `combinations` builds pass the check for duplicate permutation names
(`combination_names_distinct`).
-/

namespace ShaderVariants

/-! ## §1 — Reading across an ASCII byte -/

namespace Glyph

theorem within_of_ascii {x lo hi : UInt8} (hx : x < 0x80) (hlo : 0x80 ≤ lo) :
    within x lo hi = false := by
  simp only [within, Bool.and_eq_false_iff, decide_eq_false_iff_not]
  left
  intro h
  simp only [UInt8.le_iff_toNat_le, UInt8.lt_iff_toNat_lt] at h hx hlo
  simp at hx hlo
  omega

/-- A sequence that is broken or cut short stays so when an ASCII byte, or nothing, follows the
text: an ASCII byte continues no sequence. -/
theorem lead_append_of_none {b : UInt8} {r t : Bytes} (h : lead b r = none)
    (ht : ∀ x ∈ t.head?, x < 0x80) : lead b (r ++ t) = none := by
  unfold lead at h ⊢
  by_cases h1 : b < 0x80
  · rw [if_pos h1] at h
    cases h
  rw [if_neg h1] at h ⊢
  by_cases h2 : b < 0xC2
  · rw [if_pos h2]
  rw [if_neg h2] at h ⊢
  -- a continuation byte is at least `0x80`, and the first byte of `t` is below it
  have hx : ∀ x ∈ t.head?, ∀ lo hi : UInt8, 0x80 ≤ lo → within x lo hi = false :=
    fun x hxt lo hi hlo => within_of_ascii (ht x hxt) hlo
  by_cases h3 : b < 0xE0
  · rw [if_pos h3] at h ⊢
    rcases r with _ | ⟨a, r⟩
    · rcases t with _ | ⟨x, t⟩
      · rfl
      · simp [hx x rfl 0x80 0xBF (by decide)]
    · exact h
  rw [if_neg h3] at h ⊢
  by_cases h4 : b < 0xF0
  · rw [if_pos h4] at h ⊢
    rcases r with _ | ⟨a, _ | ⟨a', r⟩⟩
    · rcases t with _ | ⟨x, _ | ⟨y, t⟩⟩
      · rfl
      · rfl
      · have hlo : (0x80 : UInt8) ≤ if b = 0xE0 then 0xA0 else 0x80 := by split <;> decide
        simp [hx x rfl _ _ hlo]
    · rcases t with _ | ⟨x, t⟩
      · rfl
      · simp [hx x rfl 0x80 0xBF (by decide)]
    · exact h
  rw [if_neg h4] at h ⊢
  by_cases h5 : b < 0xF5
  · rw [if_pos h5] at h ⊢
    rcases r with _ | ⟨a, _ | ⟨a', _ | ⟨a'', r⟩⟩⟩
    · rcases t with _ | ⟨x, _ | ⟨y, _ | ⟨z, t⟩⟩⟩
      · rfl
      · rfl
      · rfl
      · have hlo : (0x80 : UInt8) ≤ if b = 0xF0 then 0x90 else 0x80 := by split <;> decide
        simp [hx x rfl _ _ hlo]
    · rcases t with _ | ⟨x, _ | ⟨y, t⟩⟩
      · rfl
      · rfl
      · simp [hx x rfl 0x80 0xBF (by decide)]
    · rcases t with _ | ⟨x, t⟩
      · rfl
      · simp [hx x rfl 0x80 0xBF (by decide)]
    · exact h
  rw [if_neg h5]

/-- **Reading across an ASCII byte.** A text followed by one that starts with an ASCII byte, or by
nothing, reads as its own glyphs and then the other's. -/
theorem decode_append_ascii {s t : Bytes} (ht : ∀ x ∈ t.head?, x < 0x80) :
    decode (s ++ t) = decode s ++ decode t := by
  induction s using decode.induct with
  | case1 => simp [decode]
  | case2 b r c n h ih =>
    -- a whole sequence: its bytes are in `r`, so `t` is read after it
    have hn := lead_length h
    rw [List.cons_append, decode, lead_append h, decode, h]
    simp only [List.take_append_of_le_length hn, List.drop_append_of_le_length hn, ih,
      List.cons_append]
  | case3 b r h ih =>
    -- a stray byte stays stray
    rw [List.cons_append, decode, lead_append_of_none h ht, decode, h]
    simp only [ih, List.cons_append]

end Glyph

/-! ## §2 — Lower-casing across an ASCII byte -/

namespace Bytes

theorem intercalate_cons_cons (sep x y : Bytes) (xs : List Bytes) :
    intercalate sep (x :: y :: xs) = x ++ sep ++ intercalate sep (y :: xs) := rfl

/-- An ASCII character is written as its own byte. -/
theorem Glyph.encode_ascii {c : Nat} (hc : c < 0x80) : Glyph.encode c = [c.toUInt8] := by
  have hscalar : ((0xD800 ≤ c && c < 0xE000) || 0x10FFFF < c) = false := by
    simp only [Bool.or_eq_false_iff, Bool.and_eq_false_iff, decide_eq_false_iff_not]
    omega
  simp only [Glyph.encode, hscalar, Bool.false_eq_true, ↓reduceIte, hc]

/-- The bytes a case mapping writes for one glyph: a character its mapped form (its own bytes
when the mapping leaves it), a stray byte U+FFFD. -/
def caseGlyph (f : Nat → Nat) : Glyph → Bytes
  | .char c bs => if f c == c then bs else Glyph.encode (f c)
  | .stray _ => Glyph.encode Glyph.replacement

/-- The lower-case form of an ASCII character is that of its byte. -/
theorem lowerScalar_ascii : ∀ c < 0x80, lowerScalar c = (lowerAscii c.toUInt8).toNat := by
  decide +kernel

theorem caseGlyph_lower_ascii {b : UInt8} (hb : b < 0x80) :
    caseGlyph lowerScalar (.char b.toNat [b]) = [lowerAscii b] := by
  have hlt : b.toNat < 0x80 := by simpa [UInt8.lt_iff_toNat_lt] using hb
  have hlow := lowerScalar_ascii b.toNat hlt
  rw [show b.toNat.toUInt8 = b from UInt8.ofNat_toNat] at hlow
  have hascii : (lowerAscii b).toNat < 0x80 := by
    unfold lowerAscii
    split
    · simp_all [UInt8.lt_iff_toNat_lt, UInt8.le_iff_toNat_le, UInt8.toNat_add]
      omega
    · exact hlt
  simp only [caseGlyph]
  by_cases h : lowerScalar b.toNat == b.toNat
  · rw [if_pos h]
    simp only [beq_iff_eq, hlow] at h
    rw [UInt8.toNat_inj.1 h]
  · rw [if_neg h, hlow, Glyph.encode_ascii hascii,
      show (lowerAscii b).toNat.toUInt8 = lowerAscii b from UInt8.ofNat_toNat]

/-- **Lower-casing reads a text as characters**, whatever its bytes: on an ASCII text the
byte-wise form is the same. -/
theorem toLower_eq_flatMap (s : Bytes) :
    toLower s = (Glyph.decode s).flatMap (caseGlyph lowerScalar) := by
  unfold toLower mapCase
  split
  · next hascii =>
    have hall : ∀ b ∈ s, b < 0x80 := by simpa using hascii
    rw [Glyph.decode_ascii hall, List.flatMap_map]
    simp only [List.map_eq_flatMap]
    exact List.flatMap_congr fun b hb => (caseGlyph_lower_ascii (hall b hb)).symm
  · rfl

/-- Lower-casing a text cut before an ASCII byte lower-cases the two pieces. -/
theorem toLower_append_ascii {s t : Bytes} (ht : ∀ x ∈ t.head?, x < 0x80) :
    toLower (s ++ t) = toLower s ++ toLower t := by
  rw [toLower_eq_flatMap, Glyph.decode_append_ascii ht, List.flatMap_append, ← toLower_eq_flatMap,
    ← toLower_eq_flatMap]

/-- Lower-casing keeps an ASCII byte where it is. -/
theorem toLower_ascii_cons {b : UInt8} (hb : b < 0x80) (s : Bytes) :
    toLower (b :: s) = lowerAscii b :: toLower s := by
  rw [toLower_eq_flatMap, Glyph.decode_ascii_cons hb, List.flatMap_cons, caseGlyph_lower_ascii hb,
    ← toLower_eq_flatMap]
  rfl

/-- **Lower-casing names joined by `_`** lower-cases each name. -/
theorem toLower_intercalate (ls : List Bytes) :
    toLower (intercalate [95] ls) = intercalate [95] (ls.map toLower) := by
  induction ls with
  | nil => rfl
  | cons p ps ih =>
    cases ps with
    | nil => rfl
    | cons q qs =>
      rw [intercalate_cons_cons, List.map_cons, List.map_cons, intercalate_cons_cons,
        List.append_assoc, toLower_append_ascii (by simp), List.singleton_append,
        toLower_ascii_cons (by decide), ih]
      simp only [List.append_assoc, List.singleton_append]
      rfl

/-! ## §3 — A permutation name reads back as its flags -/

/-- Pieces joined by a separator they do not hold split back into the pieces. -/
theorem splitOn_intercalate {sep : UInt8} {ls : List Bytes} (hne : ls ≠ [])
    (h : ∀ l ∈ ls, sep ∉ l) : splitOn sep (intercalate [sep] ls) = ls := by
  induction ls with
  | nil => exact absurd rfl hne
  | cons p ps ih =>
    cases ps with
    | nil => exact splitOn_of_not_mem (h p (by simp))
    | cons q qs =>
      rw [intercalate_cons_cons, List.append_assoc, List.singleton_append,
        splitOn_line (h p (by simp)), ih (by simp) fun l hl => h l (List.mem_cons_of_mem p hl)]

end Bytes

/-- The order a permutation name lists its flags in: byte order. -/
def nameOrder (S : List Bytes) : List Bytes := S.mergeSort fun a b => !Bytes.lt b a

theorem nameOrder_perm (S : List Bytes) : (nameOrder S).Perm S := List.mergeSort_perm S _

/-- The name of a permutation that turns flags on is their lower-case forms, in byte order,
joined by `_`. -/
theorem permutationName_of_ne_nil {S : List Bytes} (h : S ≠ []) :
    permutationName S = Bytes.intercalate [95] ((nameOrder S).map Bytes.toLower) := by
  rw [permutationName, if_neg (by simpa using h), Bytes.toLower_intercalate]
  rfl

/-- **A permutation name reads back** as `none`, for no flags, or as the lower-case forms of its
flags in byte order, when none of them holds `_`. -/
theorem splitOn_permutationName {S : List Bytes} (hS : ∀ n ∈ S, 95 ∉ Bytes.toLower n) :
    Bytes.splitOn 95 (permutationName S) =
      if S = [] then [Bytes.ofString "none"] else (nameOrder S).map Bytes.toLower := by
  by_cases h : S = []
  · subst h
    rw [if_pos rfl, permutationName, if_pos List.isEmpty_nil,
      Bytes.splitOn_of_not_mem (of_decide_eq_false (by cbv))]
  · rw [if_neg h, permutationName_of_ne_nil h]
    apply Bytes.splitOn_intercalate
    · intro h0
      have hlen := (nameOrder_perm S).length_eq
      rw [List.map_eq_nil_iff.1 h0] at hlen
      exact h (List.eq_nil_of_length_eq_zero hlen.symm)
    · intro l hl
      obtain ⟨n, hn, rfl⟩ := List.mem_map.1 hl
      exact hS n ((nameOrder_perm S).mem_iff.1 hn)

/-- Flag names whose subsets can be told apart by name: their lower-case forms are pairwise
different, hold no `_`, and none of them is `none`. -/
structure Nameable (names : List Bytes) : Prop where
  lower_nodup : (names.map Bytes.toLower).Nodup
  no_separator : ∀ n ∈ names, 95 ∉ Bytes.toLower n
  not_none : ∀ n ∈ names, Bytes.toLower n ≠ Bytes.ofString "none"

theorem Nameable.nodup {names : List Bytes} (h : Nameable names) : names.Nodup :=
  List.Nodup.of_map _ h.lower_nodup

/-- Two lists whose images agree are equal when the map is one to one on their members. -/
theorem List.eq_of_map_eq_of_injOn {α β : Type} {f : α → β} {s : α → Prop} :
    ∀ {xs ys : List α}, (∀ x ∈ xs, s x) → (∀ y ∈ ys, s y) →
      (∀ x y, s x → s y → f x = f y → x = y) → xs.map f = ys.map f → xs = ys
  | [], [], _, _, _, _ => rfl
  | x :: xs, y :: ys, hx, hy, hinj, h => by
    simp only [List.map_cons, List.cons.injEq] at h
    rw [hinj x y (hx x (by simp)) (hy y (by simp)) h.1,
      List.eq_of_map_eq_of_injOn (fun x' h' => hx x' (List.mem_cons_of_mem x h'))
        (fun y' h' => hy y' (List.mem_cons_of_mem y h')) hinj h.2]
  | [], _ :: _, _, _, _, h => by simp at h
  | _ :: _, [], _, _, _, h => by simp at h

/-- No subset of nameable flags reads back as the one name `none`, the empty subset's. -/
theorem Nameable.lower_ne_none {names : List Bytes} (h : Nameable names) {U : List Bytes}
    (hU : U.Sublist names) : [Bytes.ofString "none"] ≠ (nameOrder U).map Bytes.toLower := by
  intro hone
  obtain ⟨n, hn⟩ : ∃ n, nameOrder U = [n] := by
    rcases hU' : nameOrder U with _ | ⟨n, _ | ⟨m, rest⟩⟩
    · simp [hU'] at hone
    · exact ⟨n, rfl⟩
    · simp [hU'] at hone
  have hmem : n ∈ names := hU.subset ((nameOrder_perm U).mem_iff.1 (by simp [hn]))
  rw [hn] at hone
  simp only [List.map_cons, List.map_nil, List.cons.injEq, and_true] at hone
  exact h.not_none n hmem hone.symm

/-- **Different subsets of nameable flags have different permutation names.** -/
theorem permutationName_injective {names : List Bytes} (h : Nameable names) {S T : List Bytes}
    (hS : S.Sublist names) (hT : T.Sublist names) (heq : permutationName S = permutationName T) :
    S = T := by
  have hsep : ∀ n ∈ names, 95 ∉ Bytes.toLower n := h.no_separator
  have hsplit := congrArg (Bytes.splitOn 95) heq
  rw [splitOn_permutationName fun n hn => hsep n (hS.subset hn),
    splitOn_permutationName fun n hn => hsep n (hT.subset hn)] at hsplit
  -- only the empty subset is named `none`
  by_cases hS0 : S = [] <;> by_cases hT0 : T = []
  · rw [hS0, hT0]
  · rw [if_pos hS0, if_neg hT0] at hsplit
    exact absurd hsplit (h.lower_ne_none hT)
  · rw [if_neg hS0, if_pos hT0] at hsplit
    exact absurd hsplit.symm (h.lower_ne_none hS)
  · rw [if_neg hS0, if_neg hT0] at hsplit
    -- the lower-case forms tell the names apart, so the sorted subsets are equal
    have hsorted : nameOrder S = nameOrder T :=
      List.eq_of_map_eq_of_injOn (s := (· ∈ names))
        (fun x hx => hS.subset ((nameOrder_perm S).mem_iff.1 hx))
        (fun y hy => hT.subset ((nameOrder_perm T).mem_iff.1 hy))
        (fun x y hx hy => List.inj_on_of_nodup_map h.lower_nodup hx hy) hsplit
    have hperm : S.Perm T := by
      have hT' := nameOrder_perm T
      rw [← hsorted] at hT'
      exact (nameOrder_perm S).symm.trans hT'
    exact (List.Nodup.perm_iff_eq_of_sublist h.nodup hS hT).1 hperm

/-! ## §4 — The permutations `combinations` builds -/

/-- A table whose keys are different has, under each key, the entry stored there. -/
theorem List.find?_key {β : Type} {l : List (Bytes × β)} (hl : (l.map Prod.fst).Nodup)
    {k : Bytes} {x : β} (hmem : (k, x) ∈ l) : l.find? (fun e => e.1 == k) = some (k, x) := by
  obtain ⟨e, he⟩ : ∃ e, l.find? (fun e => e.1 == k) = some e :=
    Option.isSome_iff_exists.1 (List.find?_isSome.2 ⟨(k, x), hmem, by simp⟩)
  have hek : e.1 = k := by simpa using List.find?_some he
  rw [he, List.inj_on_of_nodup_map hl (List.mem_of_find?_eq_some he) hmem hek]

/-- A name listed once is its own only first occurrence. -/
theorem List.eraseDups_of_nodup : ∀ {l : List Bytes}, l.Nodup → l.eraseDups = l
  | [], _ => rfl
  | a :: as, h => by
    have hfilter : as.filter (fun b => !b == a) = as := by
      refine List.filter_eq_self.2 fun b hb => ?_
      have hne : b ≠ a := fun hba => (List.nodup_cons.1 h).1 (hba ▸ hb)
      simpa using hne
    rw [List.eraseDups_cons, hfilter, List.eraseDups_of_nodup (List.nodup_cons.1 h).2]

/-- Assignment `mask` of `combinations`: the flag at position `j` is on when bit `j` of `mask`
is set, a name given twice taking the bit of its later position. -/
def combination (names : List Bytes) (mask : Nat) : Flags :=
  let bits := names.zipIdx.map fun p => (p.1, mask / Nat.pow 2 p.2 % 2 == 1)
  (names.eraseDups).map fun n => (n, ((bits.reverse.find? (·.1 == n)).map (·.2)).getD false)

theorem combinations_eq (names : List Bytes) :
    combinations names =
      (List.range (shiftOne64 names.length).toNat).map (combination names) := rfl

/-- When no name is given twice, each reads the bit of its own position. -/
theorem combination_get? {names : List Bytes} (hnd : names.Nodup) (mask : Nat) {i : Nat}
    (hi : i < names.length) :
    (combination names mask).get? names[i] = some (mask / Nat.pow 2 i % 2 == 1) := by
  have hbits : ((names.zipIdx.map fun p => (p.1, mask / Nat.pow 2 p.2 % 2 == 1)).reverse.map
      Prod.fst).Nodup := by
    simpa [List.map_reverse, List.map_map, Function.comp_def, List.zipIdx_map_fst] using hnd
  have hmem : (names[i], i) ∈ names.zipIdx :=
    List.mk_mem_zipIdx_iff_getElem?.2 (List.getElem?_eq_getElem hi)
  have hbit := List.find?_key hbits
    (List.mem_reverse.2 (List.mem_map.2 ⟨(names[i], i), hmem, rfl⟩))
  have htable := List.find?_key (l := names.map fun n => (n, (((names.zipIdx.map fun p =>
      (p.1, mask / Nat.pow 2 p.2 % 2 == 1)).reverse.find? (·.1 == n)).map (·.2)).getD false))
    (by simpa [List.map_map, Function.comp_def] using hnd)
    (List.mem_map.2 ⟨names[i], List.getElem_mem hi, rfl⟩)
  simp only [combination, List.eraseDups_of_nodup hnd, Table.get?, htable, Option.map_some]
  simp only at hbit
  rw [hbit]
  rfl

/-- The flags that assignment `mask` turns on, in the order of the names, as `combinations`'
builtin lists them. -/
theorem mem_turnedOn_iff {names : List Bytes} (hnd : names.Nodup) (mask : Nat) {i : Nat}
    (hi : i < names.length) :
    names[i] ∈ names.filter (fun n => ((combination names mask).get? n).getD false) ↔
      mask.testBit i = true := by
  rw [List.mem_filter, combination_get? hnd mask hi, Nat.testBit_eq_decide_div_mod_eq]
  simp [List.getElem_mem hi, Nat.pow_eq]

/-- **Different masks turn on different flags**, among the masks of one bit per name. -/
theorem turnedOn_injective {names : List Bytes} (hnd : names.Nodup) {m m' : Nat}
    (hm : m < Nat.pow 2 names.length) (hm' : m' < Nat.pow 2 names.length)
    (h : names.filter (fun n => ((combination names m).get? n).getD false) =
      names.filter (fun n => ((combination names m').get? n).getD false)) : m = m' := by
  apply Nat.eq_of_testBit_eq
  intro i
  by_cases hi : i < names.length
  · have hsame := mem_turnedOn_iff hnd m hi
    rw [h, mem_turnedOn_iff hnd m' hi] at hsame
    cases hb : m.testBit i <;> cases hb' : m'.testBit i <;> simp_all
  · -- both masks are below the bit
    have hpow : Nat.pow 2 names.length ≤ 2 ^ i := Nat.pow_le_pow_right (by decide) (by omega)
    rw [Nat.testBit_lt_two_pow (by omega), Nat.testBit_lt_two_pow (by omega)]

/-- **The permutations of nameable flags have different names.** -/
theorem combination_names_distinct {names : List Bytes} (h : Nameable names) :
    ((combinations names).map fun flags =>
      permutationName (names.filter fun n => (flags.get? n).getD false)).Nodup := by
  rw [combinations_eq, List.map_map]
  refine List.Nodup.map_on ?_ List.nodup_range
  intro m hm m' hm' heq
  have hbound := toNat_shiftOne64_le names.length
  exact turnedOn_injective h.nodup (by grind) (by grind)
    (permutationName_injective h List.filter_sublist List.filter_sublist heq)

/-- The names of the four permutations of `SHADOWS` and `FOG`, in mask order. -/
example : let names := [Bytes.ofString "SHADOWS", Bytes.ofString "FOG"]
    (combinations names).map (fun flags =>
      permutationName (names.filter fun n => (flags.get? n).getD false)) =
      [Bytes.ofString "none", Bytes.ofString "shadows", Bytes.ofString "fog",
        Bytes.ofString "fog_shadows"] := by
  cbv

/-! ## §5 — Unique names, and where they fail -/

/-- **The permutations generated for nameable flags have unique names.** When the lower-case
forms of the flag names are pairwise different, hold no `_` and none is `none`, different subsets
of the names have different permutation names, so the permutations that `combinations` builds
pass the check for duplicate permutation names. -/
theorem permutation_names_unique {names : List Bytes} (h : Nameable names) :
    (∀ S T : List Bytes, S.Sublist names → T.Sublist names →
        permutationName S = permutationName T → S = T) ∧
      Check.noDuplicates ((combinations names).map fun flags =>
          permutationName (names.filter fun n => (flags.get? n).getD false))
        (Bytes.ofString "permutation names") = .ok () :=
  ⟨fun _ _ hS hT => permutationName_injective h hS hT,
    (Check.noDuplicates_eq_ok _ _).2 (combination_names_distinct h)⟩

/-- The flags `SHADOWS` and `FOG` are nameable, so their four permutations have unique names. -/
theorem permutation_names_unique_sample :
    let names := [Bytes.ofString "SHADOWS", Bytes.ofString "FOG"]
    Nameable names ∧
      Check.noDuplicates ((combinations names).map fun flags =>
          permutationName (names.filter fun n => (flags.get? n).getD false))
        (Bytes.ofString "permutation names") = .ok () := by
  intro names
  have h : Nameable names := ⟨by decide +kernel, by decide +kernel, by decide +kernel⟩
  exact ⟨h, (permutation_names_unique h).2⟩

/-- Flag names that differ only in case share a permutation name: `A` and `a` are different flag
names, both accepted, yet the subsets `{A}` and `{a}` are both named `a`. -/
theorem permutationName_case_collision :
    let names := [Bytes.ofString "A", Bytes.ofString "a"]
    (∀ n ∈ names, Check.flagName n (Bytes.ofString "flag") = .ok ()) ∧ names.Nodup ∧
      names.length ≤ 16 ∧ [Bytes.ofString "A"].Sublist names ∧
      [Bytes.ofString "a"].Sublist names ∧
      [Bytes.ofString "A"] ≠ [Bytes.ofString "a"] ∧
      permutationName [Bytes.ofString "A"] = permutationName [Bytes.ofString "a"] := by
  intro names
  have hok : ∀ ch : Check, ch.toOption = some () → ch = .ok () := by
    intro ch hch
    cases ch with
    | error v => simp [Except.toOption] at hch
    | ok u => rfl
  have hA := hok _ (by cbv :
    (Check.flagName (Bytes.ofString "A") (Bytes.ofString "flag")).toOption = some ())
  have ha := hok _ (by cbv :
    (Check.flagName (Bytes.ofString "a") (Bytes.ofString "flag")).toOption = some ())
  refine ⟨?_, by decide +kernel, by decide, by simp [names], by simp [names], by decide +kernel,
    ?_⟩
  · intro n hn
    simp only [names, List.mem_cons, List.not_mem_nil, or_false] at hn
    rcases hn with rfl | rfl
    · exact hA
    · exact ha
  · simp only [permutationName, List.isEmpty_cons, Bool.false_eq_true, ↓reduceIte,
      List.mergeSort_singleton]
    decide +kernel

end ShaderVariants
