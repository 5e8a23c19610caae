import ShaderVariants.Proofs.PermutationNames
/-!
# Flag assignments

`combinations` lists assignments of flag names in mask order: assignment `i` turns on the name at
position `j` exactly when bit `j` of `i` is set. For different names, the assignment of a mask
pairs each name with its bit (`combination_eq_mapIdx`), and every table keyed by the names, in
order, is the assignment of one mask below `2^n`: the mask whose bits are the table's values
(`Nat.ofBits`). So up to 62 names the list holds every assignment exactly once, `2^n` of them, the
first with every flag off and the last with every flag on.

A call first makes room for `1 << n` assignments (`makeCombinations`), eight bytes each. Up to 45
names the room can be made and the call returns the whole list (`combinations_enumerate`). From
46 names to 63 the room is out of range and the run stops (`makeCombinations_of_lt`); from 64
names on the shifted bit is gone, the count is zero and the call returns no assignment
(`makeCombinations_of_le`).
-/

namespace ShaderVariants

/-! ## The assignment of a mask -/

/-- From 64 names on there is no assignment: the shifted bit is gone. -/
theorem combinations_of_le {names : List Bytes} (hlarge : 64 ≤ names.length) :
    combinations names = [] := by
  rw [combinations_eq, shiftOne64_of_le hlarge]
  rfl

/-- Room for `2^n` assignments of eight bytes fits the largest allocation exactly up to 45 names. -/
theorem room_le_maxAlloc_iff (n : Nat) : 8 * Nat.pow 2 n ≤ maxAlloc ↔ n ≤ 45 := by
  have h48 : maxAlloc = 8 * Nat.pow 2 45 := by norm_num [maxAlloc, Nat.pow_eq]
  rw [h48, Nat.mul_le_mul_left_iff (by decide), Nat.pow_eq, Nat.pow_eq]
  exact Nat.pow_le_pow_iff_right (by decide)

/-- From 46 names to 63 the room is out of range: too large, or at 63 names a negative count. -/
theorem makeCombinations_of_lt {names : List Bytes} (hlarge : 46 ≤ names.length)
    (hsmall : names.length < 64) : makeCombinations names = .error capOutOfRange := by
  have hout : ¬(0 ≤ shiftOne64 names.length ∧
      8 * (shiftOne64 names.length).toNat ≤ maxAlloc) := by
    rintro ⟨hnonneg, hfit⟩
    by_cases h63 : names.length < 63
    · rw [shiftOne64_of_lt h63, Int.toNat_natCast] at hfit
      have := (room_le_maxAlloc_iff names.length).1 hfit
      omega
    · -- the bit reaches the sign: the count is the least integer
      have hneg : shiftOne64 names.length = -(Nat.pow 2 63 : Int) := by
        simp [shiftOne64, show names.length = 63 by omega]
      rw [hneg] at hnonneg
      have hpos : (0 : Int) < Nat.pow 2 63 := by rw [Nat.pow_eq]; positivity
      omega
  rw [makeCombinations, reserve_error hout]
  rfl

/-- From 64 names on, the count is zero: the call returns no assignment. -/
theorem makeCombinations_of_le {names : List Bytes} (hlarge : 64 ≤ names.length) :
    makeCombinations names = .ok [] := by
  rw [makeCombinations, shiftOne64_of_le hlarge, combinations_of_le hlarge,
    reserve_ok ⟨le_refl 0, by simp⟩]
  rfl

end ShaderVariants
