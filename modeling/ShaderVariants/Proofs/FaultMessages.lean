import Mathlib
import ShaderVariants.Shader
/-!
# Reading a stage fault's message back

A compiler fault at a stage is written as `Compilation failed: STAGE/PHASE: LINE: CAUSE`, the
line field left out when the fault has no line (`StageFault.message`), and a compiler message is
read at the first `Compilation failed: ` that `TYPE: LINE:` follows (`CompileMessage.parse?`).
For a phase with no colon and no line feed:

* **A line reads back** (`StageFault.parse?_message`, first part): a fault at a line `n ≥ 1`
  within the range of a 64-bit line number reads as the type `STAGE/PHASE`, trimmed, and the
  line `n`.
* **Without a line, the cause is read in its place** (`StageFault.parse?_message_unlined`): the
  message names a line exactly when the cause opens with ASCII digits and a colon, or when a
  marker followed by `TYPE: LINE:` stands later in `PHASE: CAUSE`. So a fault without a line
  reads as none only when its cause opens with no line field and `PHASE: CAUSE` holds no marker
  (`StageFault.parse?_message`, second part), and the cause `7: x` gives the line 7
  (`StageFault.parse?_message_digit_cause`).

The reading is taken apart at the marker (`CompileMessage.find?_marker`): the type runs to the
first colon (`CompileMessage.located_type`), and the search goes past every byte that cannot
start a marker (`CompileMessage.find?_append_of_not_mem`).
-/

namespace ShaderVariants

/-! ## Decimal numerals -/

/-- A decimal digit character is one of the code points 48 to 57. -/
theorem toNat_of_isDigit {c : Char} (h : c.isDigit = true) : 48 ≤ c.toNat ∧ c.toNat ≤ 57 := by
  simp only [Char.isDigit, Bool.and_eq_true, decide_eq_true_eq] at h
  exact ⟨UInt32.le_iff_toNat_le.1 h.1, UInt32.le_iff_toNat_le.1 h.2⟩

namespace Bytes

theorem ofNat_ne_nil (n : Nat) : ofNat n ≠ [] := by
  simp [ofNat, Nat.toDigits_ne_nil]

/-- Every byte of a numeral is an ASCII digit. -/
theorem isDigit_of_mem_ofNat {n : Nat} {b : UInt8} (h : b ∈ ofNat n) :
    CompileMessage.isDigit b = true := by
  obtain ⟨c, hc, rfl⟩ := List.mem_map.1 h
  have hd := toNat_of_isDigit (Nat.isDigit_of_mem_toDigits (by decide) (by decide) hc)
  simp only [CompileMessage.isDigit, Bool.and_eq_true, decide_eq_true_eq, UInt8.le_iff_toNat_le]
  simp [Nat.toUInt8, UInt8.toNat_ofNat]
  omega

end Bytes

namespace CompileMessage

/-- The value of digits read one by one is the value of the characters they spell. -/
theorem digitsValue_map_chars (cs : List Char) (init : Nat) (hcs : ∀ c ∈ cs, c.isDigit = true) :
    (cs.map fun c => c.toNat.toUInt8).foldl (fun n d => n * 10 + (d - 48).toNat) init =
      Nat.ofDigitChars 10 cs init := by
  induction cs generalizing init with
  | nil => rfl
  | cons c cs ih =>
    have hc := toNat_of_isDigit (hcs c (by simp))
    have hsub : (c.toNat.toUInt8 - 48).toNat = c.toNat - 48 := by
      rw [UInt8.toNat_sub]
      simp [Nat.toUInt8, UInt8.toNat_ofNat]
      omega
    rw [List.map_cons, List.foldl_cons, Nat.ofDigitChars_cons, hsub, Nat.mul_comm,
      ih _ fun c' h' => hcs c' (by simp [h'])]
    rfl

/-- **A numeral reads back as its number.** -/
theorem digitsValue_ofNat (n : Nat) : digitsValue (Bytes.ofNat n) = n := by
  unfold digitsValue Bytes.ofNat
  rw [digitsValue_map_chars _ 0 fun c hc => Nat.isDigit_of_mem_toDigits (by decide) (by decide) hc]
  exact Nat.ofDigitChars_ten_toDigits

/-- The line field a text opens with: a run of ASCII digits followed by a colon, read as a
number. -/
def lineField? (r : Bytes) : Option Nat :=
  let ds := r.takeWhile isDigit
  match r.drop ds.length with
  | 58 :: _ => if ds.isEmpty then none else some (digitsValue ds)
  | _ => none

/-- A numeral followed by a colon is the line field it spells. -/
theorem lineField?_ofNat (n : Nat) (rest : Bytes) :
    lineField? (Bytes.ofNat n ++ 58 :: rest) = some n := by
  have hdigits : ∀ b ∈ Bytes.ofNat n, isDigit b = true := fun _ => Bytes.isDigit_of_mem_ofNat
  have htake : (Bytes.ofNat n ++ 58 :: rest).takeWhile isDigit = Bytes.ofNat n := by
    rw [List.takeWhile_append_of_pos hdigits]
    simp [isDigit]
  simp only [lineField?, htake, List.drop_left, List.isEmpty_iff, Bytes.ofNat_ne_nil,
    ↓reduceIte, digitsValue_ofNat]

/-- The line field read without its match: a non-empty run of digits followed by a colon. -/
theorem lineField?_eq (r : Bytes) :
    lineField? r = if (r.drop (r.takeWhile isDigit).length).head? = some 58 ∧
        r.takeWhile isDigit ≠ [] then some (digitsValue (r.takeWhile isDigit)) else none := by
  simp only [lineField?]
  -- what follows the digits: nothing, a colon, or another byte
  cases hd : List.drop (List.takeWhile isDigit r).length r with
  | nil => simp
  | cons b tail =>
    by_cases hb : b = 58
    · subst hb
      by_cases hds : List.takeWhile isDigit r = []
      · simp only [hds, List.isEmpty_nil, if_true, ne_eq, not_true_eq_false, and_false, if_false]
      · simp only [hds, List.head?_cons, ne_eq, not_false_eq_true, and_self, if_true,
          List.isEmpty_iff, if_false]
    · simp [hb]

/-- **After a marker the type runs to the first colon**, and what follows the colon and its
blank is read as the line field. -/
theorem located_type {t : Bytes} (r : Bytes) (ht : t ≠ [])
    (htype : ∀ b ∈ t, b ≠ 58 ∧ b ≠ Bytes.lf) :
    located (t ++ 58 :: 32 :: r) = (lineField? r).map (⟨Bytes.trimBlank t, ·⟩) := by
  have htake : (t ++ 58 :: 32 :: r).takeWhile (fun b => b != 58 && b != Bytes.lf) = t := by
    rw [List.takeWhile_append_of_pos fun b hb => by simpa using htype b hb]
    simp
  -- the type is not empty, so the read after the blank is the line field's
  have hlocated : located (t ++ 58 :: 32 :: r) =
      if (r.drop (r.takeWhile isDigit).length).head? = some 58 ∧ r.takeWhile isDigit ≠ [] then
        some ⟨Bytes.trimBlank t, digitsValue (r.takeWhile isDigit)⟩ else none := by
    simp only [located, htake, List.drop_left]
    cases hd : List.drop (List.takeWhile isDigit r).length r with
    | nil => simp
    | cons b tail =>
      by_cases hb : b = 58
      · subst hb
        by_cases hds : List.takeWhile isDigit r = []
        · simp only [hds, List.isEmpty_nil, Bool.or_true, if_true, ne_eq, not_true_eq_false,
            and_false, if_false]
        · have hte : t.isEmpty = false := List.isEmpty_eq_false_iff.2 ht
          have hdse : (List.takeWhile isDigit r).isEmpty = false := List.isEmpty_eq_false_iff.2 hds
          simp only [hds, hte, hdse, List.head?_cons, ne_eq, not_false_eq_true, and_self, if_true,
            Bool.or_false, Bool.false_eq_true, if_false]
      · simp [hb]
  rw [hlocated, lineField?_eq]
  split_ifs <;> rfl

end CompileMessage

/-- The byte texts a fault's message is made of, spelled out once. -/
theorem message_literals :
    Bytes.ofString "vertex" = [118, 101, 114, 116, 101, 120] ∧
      Bytes.ofString "fragment" = [102, 114, 97, 103, 109, 101, 110, 116] ∧
      Bytes.ofString "Stage(" = [83, 116, 97, 103, 101, 40] ∧ Bytes.ofString ")" = [41] ∧
      Bytes.ofString "/" = [47] ∧ Bytes.ofString ": " = [58, 32] ∧
      CompileMessage.marker =
        [67, 111, 109, 112, 105, 108, 97, 116, 105, 111, 110, 32, 102, 97, 105, 108, 101, 100, 58, 32] := by
  cbv
  decide

namespace CompileMessage

theorem marker_eq : marker =
    [67, 111, 109, 112, 105, 108, 97, 116, 105, 111, 110, 32, 102, 97, 105, 108, 101, 100, 58, 32] :=
  message_literals.2.2.2.2.2.2

/-- A text without the byte `C` holds no marker. -/
theorem not_marker_infix {r : Bytes} (hr : 67 ∉ r) : ¬ marker <:+: r := fun h =>
  hr (h.subset (by simp [marker_eq]))

/-- A text that opens with the marker is read there first; if what follows is not `TYPE: LINE:`,
the search goes on from the marker's second byte. -/
theorem find?_marker (rest : Bytes) :
    find? (marker ++ rest) = (located rest).or (find? (marker.tail ++ rest)) := by
  have hpre : Bytes.dropPrefix? marker (marker ++ rest) = some rest := by
    simp [Bytes.dropPrefix?, List.isPrefixOf_iff_prefix]
  have hcons : marker ++ rest = 67 :: (marker.tail ++ rest) := by rw [marker_eq]; rfl
  rw [hcons, find?, ← hcons, hpre]
  dsimp only
  cases located rest <;> rfl

/-- **No marker starts at a byte other than `C`**, so the search passes over a text without
one. -/
theorem find?_append_of_not_mem {x : Bytes} (y : Bytes) (hx : 67 ∉ x) :
    find? (x ++ y) = find? y := by
  induction x with
  | nil => rfl
  | cons b x ih =>
    have hb : b ≠ 67 := fun h => hx (by simp [h])
    have hpre : Bytes.dropPrefix? marker (b :: (x ++ y)) = none := by
      simp [Bytes.dropPrefix?, marker_eq, List.isPrefixOf, Ne.symm hb]
    rw [List.cons_append, find?, hpre]
    exact ih fun h => hx (by simp [h])

/-- The search finds a type and line only where a marker occurs. -/
theorem marker_infix_of_find? {s : Bytes} {m : CompileMessage} (h : find? s = some m) :
    marker <:+: s := by
  induction s with
  | nil => simp [find?] at h
  | cons b r ih =>
    rw [find?] at h
    split at h
    · next after hpre =>
      simp only [Bytes.dropPrefix?] at hpre
      split at hpre
      · next hp => exact (List.isPrefixOf_iff_prefix.1 hp).isInfix
      · cases hpre
    · -- the marker did not complete here, and the search went on
      exact (ih h).trans (List.suffix_cons b r).isInfix

end CompileMessage

/-! ## The parts of a fault's message -/

namespace Stage

/-- The name of a stage is plain text: no colon, line feed or `C` in it. -/
theorem name_plain (s : Stage) : ∀ b ∈ s.name, b ≠ 58 ∧ b ≠ Bytes.lf ∧ b ≠ 67 := by
  have hnum : ∀ n : Int, ∀ b ∈ Bytes.ofInt n, b ≠ 58 ∧ b ≠ Bytes.lf ∧ b ≠ 67 := by
    intro n b hb
    have hdigit : ∀ {k : Nat}, b ∈ Bytes.ofNat k → b ≠ 58 ∧ b ≠ Bytes.lf ∧ b ≠ 67 := by
      intro k hk
      have := Bytes.isDigit_of_mem_ofNat hk
      simp only [CompileMessage.isDigit, Bool.and_eq_true, decide_eq_true_eq,
        UInt8.le_iff_toNat_le] at this
      refine ⟨?_, ?_, ?_⟩ <;> rintro rfl <;> simp [Bytes.lf] at this
    cases n with
    | ofNat k => exact hdigit hb
    | negSucc k =>
      rcases List.mem_cons.1 hb with rfl | hb
      · decide
      · exact hdigit hb
  obtain ⟨hv, hf, hopen, hclose, -⟩ := message_literals
  cases s with
  | vertex => simp [name, hv, Bytes.lf]
  | fragment => simp [name, hf, Bytes.lf]
  | other n =>
    intro b hb
    simp only [name, List.mem_append] at hb
    rcases hb with (hb | hb) | hb
    · rw [hopen] at hb
      revert b
      simp [Bytes.lf]
    · exact hnum n b hb
    · rw [hclose] at hb
      revert b
      simp [Bytes.lf]

theorem name_ne_nil (s : Stage) : s.name ≠ [] := by
  obtain ⟨hv, hf, hopen, -⟩ := message_literals
  cases s <;> simp [name, hv, hf, hopen]

end Stage

namespace StageFault

/-- The type a fault's message names: the stage's name, a slash and the phase. -/
def label (e : StageFault) : Bytes := e.stage.name ++ Bytes.ofString "/" ++ e.phase

/-- The cause as the message writes it: each line feed a blank. -/
def flatCause (e : StageFault) : Bytes := e.cause.map fun b => if b == Bytes.lf then 32 else b

/-- The line field of a fault's message: empty for a fault without a line. -/
def lineText (e : StageFault) : Bytes :=
  if e.line == 0 then [] else Bytes.ofInt e.line ++ [58, 32]

theorem message_eq (e : StageFault) :
    e.message = CompileMessage.marker ++ e.label ++ 58 :: 32 :: (e.lineText ++ e.flatCause) := by
  have hsep : Bytes.ofString ": " = [58, 32] := message_literals.2.2.2.2.2.1
  simp [message, label, flatCause, lineText, CompileMessage.marker, hsep]

variable {e : StageFault}

theorem label_ne_nil : e.label ≠ [] := by
  simp [label, Stage.name_ne_nil]

theorem label_plain (hphase : ∀ b ∈ e.phase, b ≠ 58 ∧ b ≠ Bytes.lf) :
    ∀ b ∈ e.label, b ≠ 58 ∧ b ≠ Bytes.lf := by
  intro b hb
  simp only [label, List.mem_append] at hb
  rcases hb with (hb | hb) | hb
  · exact ⟨(e.stage.name_plain b hb).1, (e.stage.name_plain b hb).2.1⟩
  · have hslash : Bytes.ofString "/" = [47] := message_literals.2.2.2.2.1
    simp only [hslash, List.mem_singleton] at hb
    subst hb
    decide
  · exact hphase b hb

/-- A message whose marker is followed by `TYPE: ` reads the line field after it, or else goes
on to search `PHASE: ` and what follows. -/
theorem parse?_message_eq (hphase : ∀ b ∈ e.phase, b ≠ 58 ∧ b ≠ Bytes.lf) :
    CompileMessage.parse? e.message =
      match CompileMessage.lineField? (e.lineText ++ e.flatCause) with
      | some k => if k ≤ CompileMessage.maxLine then some ⟨Bytes.trimBlank e.label, k⟩ else none
      | none => CompileMessage.parse? (e.phase ++ 58 :: 32 :: (e.lineText ++ e.flatCause)) := by
  -- everything between the marker's first byte and the phase holds no `C`
  have hskip : 67 ∉ CompileMessage.marker.tail ++ e.stage.name ++ Bytes.ofString "/" := by
    intro h
    simp only [List.mem_append] at h
    rcases h with (h | h) | h
    · rw [CompileMessage.marker_eq] at h
      revert h
      simp
    · exact (e.stage.name_plain 67 h).2.2 rfl
    · rw [message_literals.2.2.2.2.1] at h
      revert h
      simp
  unfold CompileMessage.parse?
  rw [message_eq, List.append_assoc, CompileMessage.find?_marker,
    CompileMessage.located_type _ label_ne_nil (label_plain hphase)]
  cases CompileMessage.lineField? (e.lineText ++ e.flatCause) with
  | some k => simp
  | none =>
    simp only [Option.map_none, Option.none_or]
    rw [show CompileMessage.marker.tail ++ (e.label ++ 58 :: 32 :: (e.lineText ++ e.flatCause)) =
        (CompileMessage.marker.tail ++ e.stage.name ++ Bytes.ofString "/") ++
          (e.phase ++ 58 :: 32 :: (e.lineText ++ e.flatCause)) by simp [label],
      CompileMessage.find?_append_of_not_mem _ hskip]

/-- **A fault without a line is read at its cause**: the message names the line its cause opens
with, or else whatever the search finds in `PHASE: CAUSE`. -/
theorem parse?_message_unlined (hphase : ∀ b ∈ e.phase, b ≠ 58 ∧ b ≠ Bytes.lf)
    (h0 : e.line = 0) :
    CompileMessage.parse? e.message =
      match CompileMessage.lineField? e.flatCause with
      | some k => if k ≤ CompileMessage.maxLine then some ⟨Bytes.trimBlank e.label, k⟩ else none
      | none => CompileMessage.parse? (e.phase ++ 58 :: 32 :: e.flatCause) := by
  have hline : e.lineText = [] := by simp [lineText, h0]
  rw [parse?_message_eq hphase, hline, List.nil_append]

/-- **A stage fault's message reads back.** For a phase without colon or line feed: a fault at a
line from 1 up to the largest 64-bit line number reads as its trimmed `STAGE/PHASE` and its
line; and a fault without a line reads as none when its cause, line feeds as blanks, opens with
no `DIGITS:` field and no marker stands in `PHASE: CAUSE`. -/
theorem parse?_message (e : StageFault) (hphase : ∀ b ∈ e.phase, b ≠ 58 ∧ b ≠ Bytes.lf) :
    (1 ≤ e.line → e.line ≤ CompileMessage.maxLine →
      CompileMessage.parse? e.message =
        some ⟨Bytes.trimBlank (e.stage.name ++ Bytes.ofString "/" ++ e.phase), e.line.toNat⟩) ∧
    (e.line = 0 → CompileMessage.lineField? e.flatCause = none →
      ¬ CompileMessage.marker <:+: e.phase ++ 58 :: 32 :: e.flatCause →
      CompileMessage.parse? e.message = none) := by
  refine ⟨fun h1 hmax => ?_, fun h0 hfield hmarker => ?_⟩
  · -- the line field is the numeral of the line, followed by its colon
    obtain ⟨k, hk0⟩ : ∃ k : Nat, e.line = k := ⟨e.line.toNat, (Int.toNat_of_nonneg (by omega)).symm⟩
    have hk : e.lineText = Bytes.ofNat k ++ [58, 32] := by
      have hne : ((k : Int) == 0) = false := by simp; omega
      rw [lineText, hk0, hne]
      rfl
    have hmax' : k ≤ CompileMessage.maxLine := by omega
    rw [parse?_message_eq hphase, hk, List.append_assoc, List.cons_append,
      CompileMessage.lineField?_ofNat]
    simp [hmax', label, hk0]
  · rw [parse?_message_unlined hphase h0, hfield]
    unfold CompileMessage.parse?
    cases hfind : CompileMessage.find? (e.phase ++ 58 :: 32 :: e.flatCause) with
    | none => rfl
    | some m => exact absurd (CompileMessage.marker_infix_of_find? hfind) hmarker

/-- The fault of the vertex stage's lowering at line 4, and the same fault without its line. -/
theorem parse?_message_sample :
    let e : StageFault := ⟨.vertex, Bytes.ofString "lowering", 4, Bytes.ofString "unknown\ntype"⟩
    CompileMessage.parse? e.message =
        some ⟨Bytes.trimBlank (Bytes.ofString "vertex/lowering"), 4⟩ ∧
      CompileMessage.parse? { e with line := 0 }.message = none := by
  intro e
  have hphase : ∀ b ∈ e.phase, b ≠ 58 ∧ b ≠ Bytes.lf := by
    rw [show e.phase = [108, 111, 119, 101, 114, 105, 110, 103] by cbv]
    simp [Bytes.lf]
  have hlabel : e.stage.name ++ Bytes.ofString "/" ++ e.phase = Bytes.ofString "vertex/lowering" := by
    cbv
  have hfield : CompileMessage.lineField? e.flatCause = none := by cbv
  have hmarker : ¬ CompileMessage.marker <:+: e.phase ++ 58 :: 32 :: e.flatCause :=
    CompileMessage.not_marker_infix (of_decide_eq_false (by cbv))
  refine ⟨?_, ?_⟩
  · have hline : e.line.toNat = 4 := rfl
    simpa [hlabel, hline] using (parse?_message e hphase).1 (by decide) (by decide)
  · exact (parse?_message { e with line := 0 } hphase).2 rfl hfield hmarker

/-- A fault without a line whose cause opens with digits and a colon is read as a fault at that
line: the cause `7: x` holds no marker, yet the message names line 7. -/
theorem parse?_message_digit_cause :
    let e : StageFault := ⟨.vertex, Bytes.ofString "parse", 0, Bytes.ofString "7: x"⟩
    ¬ CompileMessage.marker <:+: e.flatCause ∧
      CompileMessage.parse? e.message = some ⟨Bytes.ofString "vertex/parse", 7⟩ := by
  intro e
  have hphase : ∀ b ∈ e.phase, b ≠ 58 ∧ b ≠ Bytes.lf := by
    rw [show e.phase = [112, 97, 114, 115, 101] by cbv]
    simp [Bytes.lf]
  have hfield : CompileMessage.lineField? e.flatCause = some 7 := by cbv
  have htype : Bytes.trimBlank e.label = Bytes.ofString "vertex/parse" := by cbv
  have hmarker : ¬ CompileMessage.marker <:+: e.flatCause :=
    CompileMessage.not_marker_infix (of_decide_eq_false (by cbv))
  refine ⟨hmarker, ?_⟩
  rw [parse?_message_unlined hphase rfl, hfield, htype]
  simp [CompileMessage.maxLine]

end StageFault

end ShaderVariants
