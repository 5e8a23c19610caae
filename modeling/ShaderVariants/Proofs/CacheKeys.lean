import ShaderVariants.Cache
import ShaderVariants.Proofs.FaultMessages
/-!
# Cache keys separate their inputs

A cache key hashes its compiler identity and two stages written one after the other, each as its
byte length in decimal, a colon and its bytes (`Cache.keyInput`). The length says where each
field ends, so the bytes can be read back field by field whatever the fields hold: digits, colons
or nothing at all.

`Cache.readKeyInput` is that reading: the digits up to the first colon give a length, and that
many bytes after the colon are the field; three times. It reads every key input back
(`Cache.readKeyInput_keyInput`), so two triples with the same key input are the same triple, and
two triples whose keys are equal are the same triple as soon as SHA-256 does not collide on their
key inputs (`Cache.key_separates_inputs`).
-/

namespace ShaderVariants

namespace Cache

/-! ## §1 — Reading a key input back -/

/-- One field of a key input and what follows it: decimal digits up to a colon give the field's
length, and the field is that many bytes after the colon. -/
def readField (s : Bytes) : Option (Bytes × Bytes) :=
  let ds := s.takeWhile CompileMessage.isDigit
  match s.drop ds.length with
  | 58 :: r =>
    let n := CompileMessage.digitsValue ds
    if n ≤ r.length then some (r.take n, r.drop n) else none
  | _ => none

/-- The compiler identity, vertex and fragment stage that a key input writes, read field by
field. -/
def readKeyInput (s : Bytes) : Option (Bytes × Bytes × Bytes) := do
  let (c, s) ← readField s
  let (v, s) ← readField s
  let (f, _) ← readField s
  pure (c, v, f)

/-- A field written as its length, a colon and its bytes reads back, whatever follows it. -/
theorem readField_field (p rest : Bytes) :
    readField (Bytes.ofNat p.length ++ 58 :: (p ++ rest)) = some (p, rest) := by
  have hdigits : ∀ b ∈ Bytes.ofNat p.length, CompileMessage.isDigit b = true :=
    fun _ => Bytes.isDigit_of_mem_ofNat
  -- the digits stop at the colon, and they spell the field's length
  have htake : (Bytes.ofNat p.length ++ 58 :: (p ++ rest)).takeWhile CompileMessage.isDigit =
      Bytes.ofNat p.length := by
    rw [List.takeWhile_append_of_pos hdigits]
    simp [CompileMessage.isDigit]
  simp only [readField, htake, List.drop_left, CompileMessage.digitsValue_ofNat,
    List.length_append, Nat.le_add_right, ↓reduceIte, List.take_left, List.drop_left]

theorem readField_last (p : Bytes) :
    readField (Bytes.ofNat p.length ++ 58 :: p) = some (p, []) := by
  simpa using readField_field p []

/-- A key input is its three fields, one after the other. -/
theorem keyInput_eq (c v f : Bytes) :
    keyInput c v f = Bytes.ofNat c.length ++ 58 :: (c ++ (Bytes.ofNat v.length ++ 58 ::
      (v ++ (Bytes.ofNat f.length ++ 58 :: f)))) := by
  simp [keyInput]

/-- **A key input reads back as its three parts.** -/
theorem readKeyInput_keyInput (c v f : Bytes) : readKeyInput (keyInput c v f) = some (c, v, f) := by
  simp [keyInput_eq, readKeyInput, readField_field, readField_last]

/-- Reading back is exact on the digits and colons inside the parts: a field of digits and a
colon, followed by an empty field, is not read as two fields. -/
example : readKeyInput (keyInput (Bytes.ofString "1:a") [] (Bytes.ofString ":")) =
    some (Bytes.ofString "1:a", [], Bytes.ofString ":") := by
  decide +kernel

theorem keyInput_injective {c v f c' v' f' : Bytes} (h : keyInput c v f = keyInput c' v' f') :
    c = c' ∧ v = v' ∧ f = f' := by
  have hread := congrArg readKeyInput h
  simpa only [readKeyInput_keyInput, Option.some.injEq, Prod.mk.injEq] using hread

/-! ## §2 — Equal keys -/

/-- **Cache keys separate their inputs.** The bytes a key hashes are equal exactly for equal
triples, even when text moves between the compiler identity and the stages; so equal keys of two
triples on whose key inputs SHA-256 does not collide mean equal compiler identities and equal
stages. -/
theorem key_separates_inputs (c v f c' v' f' : Bytes) :
    (keyInput c v f = keyInput c' v' f' ↔ c = c' ∧ v = v' ∧ f = f') ∧
      ((Sha256.hex (keyInput c v f) = Sha256.hex (keyInput c' v' f') →
          keyInput c v f = keyInput c' v' f') →
        (key c v f = key c' v' f' ↔ c = c' ∧ v = v' ∧ f = f')) := by
  have hinput : keyInput c v f = keyInput c' v' f' ↔ c = c' ∧ v = v' ∧ f = f' := by
    constructor
    · exact keyInput_injective
    · rintro ⟨rfl, rfl, rfl⟩
      rfl
  refine ⟨hinput, fun hfree => ⟨fun hkey => hinput.1 (hfree hkey), ?_⟩⟩
  rintro ⟨rfl, rfl, rfl⟩
  rfl

/-- The keys of the identity `naga` with the stages `v` and `f`, and with `vf` and an empty
fragment: SHA-256 tells their key inputs apart, so the keys differ. -/
theorem key_separates_inputs_sample :
    let naga := Bytes.ofString "naga"
    (Sha256.hex (keyInput naga (Bytes.ofString "v") (Bytes.ofString "f")) =
        Sha256.hex (keyInput naga (Bytes.ofString "vf") []) →
      keyInput naga (Bytes.ofString "v") (Bytes.ofString "f") =
        keyInput naga (Bytes.ofString "vf") []) ∧
      key naga (Bytes.ofString "v") (Bytes.ofString "f") ≠ key naga (Bytes.ofString "vf") [] := by
  intro naga
  have hhash : Sha256.hex (keyInput naga (Bytes.ofString "v") (Bytes.ofString "f")) ≠
      Sha256.hex (keyInput naga (Bytes.ofString "vf") []) := by
    decide +kernel
  have hfree : Sha256.hex (keyInput naga (Bytes.ofString "v") (Bytes.ofString "f")) =
      Sha256.hex (keyInput naga (Bytes.ofString "vf") []) →
      keyInput naga (Bytes.ofString "v") (Bytes.ofString "f") =
        keyInput naga (Bytes.ofString "vf") [] :=
    fun h => absurd h hhash
  refine ⟨hfree, fun hkey => ?_⟩
  have hv := ((key_separates_inputs naga _ _ naga _ _).2 hfree).1 hkey
  exact absurd hv.2.1 (by decide +kernel)

end Cache

end ShaderVariants
