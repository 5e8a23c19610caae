import ShaderVariants.Proofs.CacheFiles
/-!
# A cache answers as a ledger of its calls

Calls on one cache, in turn, from a directory that holds no files and that nothing else writes:
Puts, Gets, Stats, and changes in the writes the file system refuses (a disk that fills up).
The *ledger* of the calls keeps, for each key, the stage bytes last written into its data files
and whether a Put of the key finished (`Slot`). For keys that hold no path separator:

* **The files agree with the ledger** after every call (`Cache.Agrees`, `Cache.Agrees.call`);
* **Every answer is the ledger's** (`Cache.Store.run_answers_ledger`): a Get returns what the
  ledger of the calls before it finds, and Stats the hits and misses before it;
* **A Get hits exactly for a key that is well-formed UTF-8 and that some earlier Put stored
  without error** (`Cache.ledger_found_isSome_iff`).

So a cache is not a plain store. A key with a stray byte is never found: its metadata names the
key as JSON reads it back. And a Put that fails after its vertex write leaves that write behind:
a later Get returns the new vertex with the old fragment (`Cache.Store.get_after_put_misses_or_mixes`).
-/

namespace ShaderVariants

namespace Cache

/-! ## What a sequence of calls leaves -/

/-- What the calls so far leave a key with: the stage bytes last written into its data files,
and whether a Put of the key finished. -/
structure Slot where
  vertex : Option Bytes := none
  fragment : Option Bytes := none
  stored : Bool := false
  deriving DecidableEq, Repr

namespace Slot

/-- A slot after a Put of `p` that made the first `n` of its three writes. -/
def afterPut (sl : Slot) (p : Program) : Nat → Slot
  | 0 => sl
  | 1 => { sl with vertex := some p.vertex }
  | 2 => { sl with vertex := some p.vertex, fragment := some p.fragment }
  | _ => { vertex := some p.vertex, fragment := some p.fragment, stored := true }

/-- What a look-up of `k` finds in its slot: the stages last written, once a Put of `k` finished
and when `k` is well-formed UTF-8, so that the key JSON gives back is `k`. -/
def found (sl : Slot) (k : Bytes) : Option Program :=
  if sl.stored && Glyph.isUtf8 k then
    match sl.vertex, sl.fragment with
    | some v, some f => some { vertex := v, fragment := f }
    | _, _ => none
  else none

end Slot

/-- A call on a cache, or a change in the writes the file system refuses. -/
inductive Call where
  | put (k : Bytes) (p : Program)
  | get (k : Bytes)
  | stats
  | refuse (t : Table Bytes)

/-- What a call answered. -/
inductive Answer where
  | put (r : Except StoreFault Unit)
  | get (found : Option Program)
  | stats (hits misses : Nat)
  | refuse

/-- The key a call names. -/
def Call.key? : Call → Option Bytes
  | put k _ => some k
  | get k => some k
  | _ => none

namespace Store

/-- One call: its answer and the store after it. -/
def call (s : Store) : Call → Answer × Store
  | .put k p => (.put (s.put k p).1, (s.put k p).2)
  | .get k => (.get (s.get k).1, (s.get k).2)
  | .stats => (.stats s.hits s.misses, s)
  | .refuse t => (.refuse, { s with refused := t })

/-- Calls in turn: each with its answer, and the store after them all. -/
def run (s : Store) : List Call → List (Call × Answer) × Store
  | [] => ([], s)
  | c :: cs => ((c, (s.call c).1) :: ((s.call c).2.run cs).1, ((s.call c).2.run cs).2)

end Store

/-- How many of a Put's three writes its answer shows made: a failure names the file it could
not write, or the directory. -/
def writesMade (dir k : Bytes) : Except StoreFault Unit → Nat
  | .ok () => 3
  | .error (.refused path _) =>
    if path = Path.join dir (fragmentFile k) then 1
    else if path = Path.join dir (metaFile k) then 2
    else 0
  | .error _ => 0

/-- What each key holds. -/
abbrev Ledger := Bytes → Slot

/-- The ledger after one call with its answer: a Put updates its key's slot by the writes it
made. -/
def Ledger.record (dir : Bytes) (L : Ledger) : Call × Answer → Ledger
  | (.put k p, .put r) => Function.update L k ((L k).afterPut p (writesMade dir k r))
  | _ => L

/-- The ledger of a history of calls, from nothing stored. -/
def ledger (dir : Bytes) (h : List (Call × Answer)) : Ledger :=
  h.foldl (Ledger.record dir) fun _ => {}

/-- The Gets of a history that hit. -/
def hitsIn (h : List (Call × Answer)) : Nat :=
  h.countP fun ca => match ca.2 with
    | .get (some _) => true
    | _ => false

/-- The Gets of a history that missed. -/
def missesIn (h : List (Call × Answer)) : Nat :=
  h.countP fun ca => match ca.2 with
    | .get none => true
    | _ => false

/-! ## The files agree with the ledger -/

/-- The files of a store hold what a ledger says, for every key with no separator: its data
files the bytes last written into them, its metadata the entry's once a Put of it finished. -/
def Agrees (s : Store) (L : Ledger) : Prop :=
  ∀ k, Path.sep ∉ k →
    s.data.get? (Path.join s.dir (vertexFile k)) = (L k).vertex ∧
    s.data.get? (Path.join s.dir (fragmentFile k)) = (L k).fragment ∧
    s.metas.get? (Path.join s.dir (metaFile k)) = if (L k).stored then some (entryMeta k) else none

namespace Agrees

variable {s : Store} {L : Ledger} {k : Bytes}

theorem empty (dir : Bytes) (blocked : Bool) (refused : Table Bytes) :
    Agrees { dir, blocked, refused } fun _ => {} := by
  intro k _
  simp [Table.get?]

theorem setVertex (h : Agrees s L) (hk : Path.sep ∉ k) (v : Bytes) :
    Agrees { s with data := s.data.set (Path.join s.dir (vertexFile k)) v }
      (Function.update L k { L k with vertex := some v }) := by
  intro k' hk'
  obtain ⟨hv, hf, hm⟩ := h k' hk'
  have hfv : Path.join s.dir (fragmentFile k') ≠ Path.join s.dir (vertexFile k) :=
    join_entryName_ne s.dir hk' hk fragmentEnding_mem vertexEnding_mem
      (.inr vertexEnding_ne_fragmentEnding.symm)
  by_cases hkk : k' = k
  · subst hkk
    simpa [Table.get?_set_of_ne _ _ hfv] using ⟨hf, hm⟩
  · have hvv : Path.join s.dir (vertexFile k') ≠ Path.join s.dir (vertexFile k) :=
      join_entryName_ne s.dir hk' hk vertexEnding_mem vertexEnding_mem (.inl hkk)
    simpa [Function.update_of_ne hkk, Table.get?_set_of_ne _ _ hvv, Table.get?_set_of_ne _ _ hfv]
      using ⟨hv, hf, hm⟩

theorem setFragment (h : Agrees s L) (hk : Path.sep ∉ k) (f : Bytes) :
    Agrees { s with data := s.data.set (Path.join s.dir (fragmentFile k)) f }
      (Function.update L k { L k with fragment := some f }) := by
  intro k' hk'
  obtain ⟨hv, hf, hm⟩ := h k' hk'
  have hvf : Path.join s.dir (vertexFile k') ≠ Path.join s.dir (fragmentFile k) :=
    join_entryName_ne s.dir hk' hk vertexEnding_mem fragmentEnding_mem
      (.inr vertexEnding_ne_fragmentEnding)
  by_cases hkk : k' = k
  · subst hkk
    simpa [Table.get?_set_of_ne _ _ hvf] using ⟨hv, hm⟩
  · have hff : Path.join s.dir (fragmentFile k') ≠ Path.join s.dir (fragmentFile k) :=
      join_entryName_ne s.dir hk' hk fragmentEnding_mem fragmentEnding_mem (.inl hkk)
    simpa [Function.update_of_ne hkk, Table.get?_set_of_ne _ _ hvf, Table.get?_set_of_ne _ _ hff]
      using ⟨hv, hf, hm⟩

theorem setMeta (h : Agrees s L) (hk : Path.sep ∉ k) :
    Agrees { s with metas := s.metas.set (Path.join s.dir (metaFile k)) (entryMeta k) }
      (Function.update L k { L k with stored := true }) := by
  intro k' hk'
  obtain ⟨hv, hf, hm⟩ := h k' hk'
  by_cases hkk : k' = k
  · subst hkk
    simpa using ⟨hv, hf⟩
  · have hmm : Path.join s.dir (metaFile k') ≠ Path.join s.dir (metaFile k) :=
      join_entryName_ne s.dir hk' hk metaEnding_mem metaEnding_mem (.inl hkk)
    simpa [Function.update_of_ne hkk, Table.get?_set_of_ne _ _ hmm] using ⟨hv, hf, hm⟩

/-- **A Put keeps the files in agreement**, its key's slot updated by the writes the Put made:
none when the directory could not be created or the vertex file could not be written, the
vertex when the fragment file could not be, both data files when the metadata could not be,
and all three when it finished. -/
theorem put (h : Agrees s L) (hk : Path.sep ∉ k) (p : Program) :
    Agrees (s.put k p).2
      (Function.update L k ((L k).afterPut p (writesMade s.dir k (s.put k p).1))) := by
  have hvf : Path.join s.dir (vertexFile k) ≠ Path.join s.dir (fragmentFile k) :=
    join_entryName_ne s.dir hk hk vertexEnding_mem fragmentEnding_mem
      (.inr vertexEnding_ne_fragmentEnding)
  have hvm : Path.join s.dir (vertexFile k) ≠ Path.join s.dir (metaFile k) :=
    join_entryName_ne s.dir hk hk vertexEnding_mem metaEnding_mem (.inr vertexEnding_ne_metaEnding)
  have hmf : Path.join s.dir (metaFile k) ≠ Path.join s.dir (fragmentFile k) :=
    join_entryName_ne s.dir hk hk metaEnding_mem fragmentEnding_mem
      (.inr fragmentEnding_ne_metaEnding.symm)
  -- the files after each write the Put can stop at
  have h₁ := h.setVertex hk p.vertex
  have h₂ := h₁.setFragment hk p.fragment
  have h₃ := h₂.setMeta hk
  cases hb : s.blocked
  case true =>
    rw [Store.put_blocked p hb]
    simpa [writesMade, Slot.afterPut] using h
  cases hv : s.refused.get? (Path.join s.dir (vertexFile k)) with
  | some why =>
    rw [Store.put_vertex_refused hk p hb hv]
    simpa [writesMade, hvf, hvm, Slot.afterPut] using h
  | none =>
  cases hf : s.refused.get? (Path.join s.dir (fragmentFile k)) with
  | some why =>
    rw [Store.put_fragment_refused hk p hb hv hf]
    simpa [writesMade, Slot.afterPut] using h₁
  | none =>
  cases hm : s.refused.get? (Path.join s.dir (metaFile k)) with
  | some why =>
    rw [Store.put_meta_refused hk p hb hv hf hm]
    simpa [writesMade, hmf, Slot.afterPut] using h₂
  | none =>
    rw [Store.put_stored hk p hb hv hf hm]
    simpa [writesMade, Slot.afterPut] using h₃

/-- **A look-up finds what the ledger holds** for a key with no separator. -/
theorem lookup (h : Agrees s L) (hk : Path.sep ∉ k) : s.lookup k = (L k).found k := by
  obtain ⟨hv, hf, hm⟩ := h k hk
  cases hst : (L k).stored
  case false =>
    have hstart : s.read (.start k) = .done none := by simp [Store.read, hm, hst]
    rw [Store.lookup, hstart]
    simp [Store.read, Slot.found, hst]
  cases hu : Glyph.isUtf8 k
  case false =>
    -- the key reads back with U+FFFD in place of its stray bytes, so it is not the key asked for
    have hne : Glyph.scrub k ≠ k := Glyph.scrub_ne_of_not_isUtf8 hu
    have hstart : s.read (.start k) = .done none := by simp [Store.read, hm, hst, entryMeta, hne]
    rw [Store.lookup, hstart]
    simp [Store.read, Slot.found, hst, hu]
  have hstart : s.read (.start k) = .vertex (vertexFile k) (fragmentFile k) := by
    simp [Store.read, hm, hst, entryMeta_of_isUtf8 hu]
  rw [Store.lookup, hstart]
  cases hv' : (L k).vertex <;> cases hf' : (L k).fragment <;>
    simp [Store.read, hv, hf, hv', hf', Slot.found, hst, hu]

theorem get (h : Agrees s L) (k : Bytes) : Agrees (s.get k).2 L := by
  unfold Store.get
  split <;> exact h

theorem call (h : Agrees s L) {c : Call} (hc : ∀ k ∈ c.key?, Path.sep ∉ k) :
    Agrees (s.call c).2 (Ledger.record s.dir L (c, (s.call c).1)) := by
  cases c with
  | put k p => exact h.put (hc k rfl) p
  | get k => exact h.get k
  | stats => exact h
  | refuse t => exact h

end Agrees

namespace Store

variable {s : Store}

theorem call_dir (c : Call) : (s.call c).2.dir = s.dir := by
  cases c with
  | put k p => exact (put_keeps s k p).1
  | get k =>
    show (s.get k).2.dir = s.dir
    unfold get
    split <;> rfl
  | stats => rfl
  | refuse t => rfl

/-- A call counts a hit or a miss only when it is a Get that hit or missed. -/
theorem call_counts (s : Store) (c : Call) :
    (s.call c).2.hits = s.hits + hitsIn [(c, (s.call c).1)] ∧
      (s.call c).2.misses = s.misses + missesIn [(c, (s.call c).1)] := by
  cases c with
  | put k p =>
    obtain ⟨-, hh, hm⟩ := put_keeps s k p
    simp [call, hitsIn, missesIn, hh, hm]
  | get k =>
    show (s.get k).2.hits = _ ∧ (s.get k).2.misses = _
    unfold get
    split <;> simp [call, get, hitsIn, missesIn, *]
  | stats => simp [call, hitsIn, missesIn]
  | refuse t => simp [call, hitsIn, missesIn]

end Store

/-- **Every answer in a history is the ledger's**: in the calls a store runs, with keys that
hold no separator, each Get answers what the ledger of the calls before it finds for its key,
and each Stats the hits and misses counted before it. -/
theorem Agrees.answers {s : Store} {L : Ledger} (h : Agrees s L) {calls : List Call}
    (hcalls : ∀ c ∈ calls, ∀ k ∈ c.key?, Path.sep ∉ k) {pre post : List (Call × Answer)}
    {c : Call} {a : Answer} (hh : (s.run calls).1 = pre ++ (c, a) :: post) :
    (∀ k, c = .get k → a = .get (((pre.foldl (Ledger.record s.dir) L) k).found k)) ∧
      (c = .stats → a = .stats (s.hits + hitsIn pre) (s.misses + missesIn pre)) := by
  induction calls generalizing s L pre with
  | nil => simp [Store.run] at hh
  | cons c₀ cs ih =>
    have hc₀ := hcalls c₀ (by simp)
    simp only [Store.run] at hh
    cases pre with
    | nil =>
      -- the call answered now is the first one
      obtain ⟨⟨rfl, rfl⟩, -⟩ := List.cons.inj hh
      refine ⟨?_, ?_⟩
      · rintro k rfl
        simp [Store.call, Store.get_fst, h.lookup (hc₀ k rfl)]
      · rintro rfl
        simp [Store.call, hitsIn, missesIn]
    | cons x pre =>
      obtain ⟨rfl, hrest⟩ := List.cons.inj hh
      obtain ⟨hget, hstats⟩ := ih (h.call hc₀) (fun c hc => hcalls c (by simp [hc])) hrest
      obtain ⟨hh, hm⟩ := Store.call_counts s c₀
      rw [Store.call_dir] at hget
      refine ⟨hget, fun hc => ?_⟩
      rw [hstats hc, hh, hm]
      simp only [hitsIn, missesIn, List.countP_cons, List.countP_nil] at ⊢
      congr 1 <;> omega

/-! ## What the ledger finds -/

namespace Slot

variable {sl : Slot}

/-- A slot is whole when its stages are there once a Put finished. -/
def Whole (sl : Slot) : Prop := sl.stored = true → sl.vertex.isSome ∧ sl.fragment.isSome

theorem afterPut_stored (p : Program) (n : Nat) :
    (sl.afterPut p n).stored = (sl.stored || decide (3 ≤ n)) := by
  match n with
  | 0 | 1 | 2 => simp [afterPut]
  | n + 3 => simp [afterPut]

theorem Whole.afterPut (h : sl.Whole) (p : Program) (n : Nat) : (sl.afterPut p n).Whole := by
  match n with
  | 0 => exact h
  | 1 => intro hs; exact ⟨rfl, (h hs).2⟩
  | 2 | n + 3 => intro _; exact ⟨rfl, rfl⟩

theorem found_isSome_iff (h : sl.Whole) (k : Bytes) :
    (sl.found k).isSome ↔ sl.stored = true ∧ Glyph.isUtf8 k = true := by
  unfold found
  cases hs : sl.stored <;> cases hu : Glyph.isUtf8 k <;> simp only [Bool.and_self,
    Bool.and_false, Bool.false_and, if_false, if_true, Option.isSome_none, Bool.false_eq_true,
    false_and, and_false, and_self, iff_true]
  obtain ⟨hv, hf⟩ := h hs
  obtain ⟨v, hv⟩ := Option.isSome_iff_exists.1 hv
  obtain ⟨f, hf⟩ := Option.isSome_iff_exists.1 hf
  simp [hv, hf]

end Slot

/-- A Put's answer shows all three writes made exactly when it returned no error. -/
theorem writesMade_three_le_iff (dir k : Bytes) (r : Except StoreFault Unit) :
    3 ≤ writesMade dir k r ↔ r = .ok () := by
  rcases r with e | ⟨⟩
  · cases e with
    | refused path why => simp only [writesMade]; split_ifs <;> simp
    | blocked d => simp [writesMade]
    | noDirectory path => simp [writesMade]
  · simp [writesMade]

theorem foldl_record_stored (dir k : Bytes) (hist : List (Call × Answer)) (L : Ledger) :
    ((hist.foldl (Ledger.record dir) L) k).stored = true ↔
      (L k).stored = true ∨ ∃ p, (Call.put k p, Answer.put (.ok ())) ∈ hist := by
  induction hist generalizing L with
  | nil => simp
  | cons x hist ih =>
    rw [List.foldl_cons, ih]
    obtain ⟨c, a⟩ := x
    -- only a Put of `k` with its answer changes whether `k` is stored
    cases c <;> cases a <;> simp only [Ledger.record, List.mem_cons, Prod.mk.injEq,
      reduceCtorEq, false_and, false_or, and_false, Call.put.injEq, Answer.put.injEq]
    next k' p r =>
      by_cases hk : k = k'
      · subst hk
        simp only [Function.update_self, Slot.afterPut_stored, Bool.or_eq_true, decide_eq_true_eq,
          writesMade_three_le_iff, true_and]
        constructor
        · rintro ((hs | rfl) | ⟨q, hq⟩)
          · exact .inl hs
          · exact .inr ⟨p, .inl ⟨rfl, rfl⟩⟩
          · exact .inr ⟨q, .inr hq⟩
        · rintro (hs | ⟨q, ⟨rfl, rfl⟩ | hq⟩)
          · exact .inl (.inl hs)
          · exact .inl (.inr rfl)
          · exact .inr ⟨q, hq⟩
      · simp [hk]

/-- A recorded call keeps every slot whole: only a finished Put changes one, and it writes a
whole entry. -/
theorem Ledger.record_whole (dir : Bytes) {L : Ledger} (hL : ∀ k, (L k).Whole)
    (x : Call × Answer) (k : Bytes) : (Ledger.record dir L x k).Whole := by
  unfold Ledger.record
  split
  next k' p r =>
    by_cases hk : k = k'
    · subst hk
      simpa using (hL k).afterPut p _
    · simpa [hk] using hL k
  next => exact hL k

theorem foldl_record_whole (dir : Bytes) (hist : List (Call × Answer)) {L : Ledger}
    (hL : ∀ k, (L k).Whole) (k : Bytes) : ((hist.foldl (Ledger.record dir) L) k).Whole := by
  induction hist generalizing L with
  | nil => exact hL k
  | cons x hist ih => exact ih (Ledger.record_whole dir hL x)

/-- **A key is found exactly when it is well-formed UTF-8 and a Put of it finished.** -/
theorem ledger_found_isSome_iff (dir k : Bytes) (hist : List (Call × Answer)) :
    ((ledger dir hist k).found k).isSome ↔
      Glyph.isUtf8 k = true ∧ ∃ p, (Call.put k p, Answer.put (.ok ())) ∈ hist := by
  have hwhole : (ledger dir hist k).Whole :=
    foldl_record_whole dir hist (fun _ hs => absurd hs (by simp)) k
  rw [Slot.found_isSome_iff hwhole, ledger, foldl_record_stored]
  simp [and_comm]

/-- **A cache answers as the ledger of its calls.** Run any calls on a cache whose directory
holds no files, with keys that hold no separator, while the file system comes to refuse writes
or not: each Get answers what the ledger of the calls before it finds for its key, which is a
hit exactly when the key is well-formed UTF-8 and some earlier Put of it returned no error; and
each Stats counts the Gets before it that hit and that missed. The ledger keeps, for each key,
the stage bytes last written by a Put of it, so a Put that fails at its fragment or its metadata
write has still written the data before. -/
theorem Store.run_answers_ledger (dir : Bytes) (blocked : Bool) (refused : Table Bytes)
    {calls : List Call} (hcalls : ∀ c ∈ calls, ∀ k ∈ c.key?, Path.sep ∉ k)
    {pre post : List (Call × Answer)} {c : Call} {a : Answer}
    (h : (({ dir, blocked, refused } : Store).run calls).1 = pre ++ (c, a) :: post) :
    (∀ k, c = .get k → a = .get ((ledger dir pre k).found k) ∧
      (((ledger dir pre k).found k).isSome ↔
        Glyph.isUtf8 k = true ∧ ∃ p, (Call.put k p, Answer.put (.ok ())) ∈ pre)) ∧
      (c = .stats → a = .stats (hitsIn pre) (missesIn pre)) := by
  obtain ⟨hget, hstats⟩ := (Agrees.empty dir blocked refused).answers hcalls h
  refine ⟨fun k hk => ⟨hget k hk, ledger_found_isSome_iff dir k pre⟩, ?_⟩
  simpa using hstats


theorem Store.run_answers_ledger_sample :
    Answer.get ((({ dir := Bytes.ofString "c" } : Store).put (Bytes.ofString "k")
        { vertex := Bytes.ofString "V", fragment := Bytes.ofString "F" }).2.get
          (Bytes.ofString "k")).1 =
      .get ((ledger (Bytes.ofString "c")
        [(.put (Bytes.ofString "k") { vertex := Bytes.ofString "V", fragment := Bytes.ofString "F" },
          .put (({ dir := Bytes.ofString "c" } : Store).put (Bytes.ofString "k")
            { vertex := Bytes.ofString "V", fragment := Bytes.ofString "F" }).1)]
        (Bytes.ofString "k")).found (Bytes.ofString "k")) := by
  have hcalls : ∀ c ∈ [Call.put (Bytes.ofString "k")
      { vertex := Bytes.ofString "V", fragment := Bytes.ofString "F" }, Call.get (Bytes.ofString "k")],
      ∀ k ∈ c.key?, Path.sep ∉ k := by
    simp only [List.mem_cons, List.not_mem_nil, or_false]
    rintro c (rfl | rfl) k hk <;> simp only [Call.key?, Option.mem_def, Option.some.injEq] at hk <;>
      subst hk <;> exact of_decide_eq_false (by cbv)
  exact ((Store.run_answers_ledger (Bytes.ofString "c") false [] hcalls rfl).1 _ rfl).1

/-- A cache is not a store of every key, and a failed Put can change what a Get returns. A Put
under the one-byte key `0xFF` returns no error, yet a Get of the key misses: the metadata names
the key JSON reads back, `U+FFFD`. And after `k` holds `p₁`, a Put of `p₂` that the file system
stops at its fragment write fails, yet the next Get returns `p₂`'s vertex with `p₁`'s
fragment. -/
theorem Store.get_after_put_misses_or_mixes :
    let s : Store := { dir := Bytes.ofString "c" }
    let p₁ : Program := { vertex := Bytes.ofString "V1", fragment := Bytes.ofString "F1" }
    let p₂ : Program := { vertex := Bytes.ofString "V2", fragment := Bytes.ofString "F2" }
    let s₂ : Store := { (s.put (Bytes.ofString "k") p₁).2 with
      refused := [(Path.join s.dir (fragmentFile (Bytes.ofString "k")), Bytes.ofString "disk full")] }
    (s.put [0xFF] p₁).1 = .ok () ∧ ((s.put [0xFF] p₁).2.get [0xFF]).1 = none ∧
      (s₂.put (Bytes.ofString "k") p₂).1 =
        .error (.refused (Path.join s.dir (fragmentFile (Bytes.ofString "k")))
          (Bytes.ofString "disk full")) ∧
      ((s₂.put (Bytes.ofString "k") p₂).2.get (Bytes.ofString "k")).1 =
        some { vertex := p₂.vertex, fragment := p₁.fragment } := by
  intro s p₁ p₂ s₂
  have hff : Path.sep ∉ ([0xFF] : Bytes) := by decide
  have hk : Path.sep ∉ Bytes.ofString "k" := of_decide_eq_false (by cbv)
  have hnone : ∀ x, s.refused.get? x = none := fun _ => rfl
  have hput₁ := Store.put_stored hff p₁ rfl (hnone _) (hnone _) (hnone _)
  have hbad : Glyph.isUtf8 [0xFF] = false := by
    simp [Glyph.isUtf8, Glyph.decode, Glyph.lead, Glyph.isChar]
  have hgood : Glyph.isUtf8 (Bytes.ofString "k") = true :=
    Glyph.isUtf8_of_ascii (by simp [show Bytes.ofString "k" = [107] by cbv])
  have hA := Agrees.empty (Bytes.ofString "c") false []
  -- the stray byte: stored, but read back under another key
  have hA₁ := hA.put hff p₁
  rw [hput₁] at hA₁
  -- the second key: stored, then stopped at the fragment write of a second Put
  have hB₁ := hA.put hk p₁
  have hputk := Store.put_stored hk p₁ rfl (hnone _) (hnone _) (hnone _)
  have hs₂ : s₂.refused.get? (Path.join s₂.dir (fragmentFile (Bytes.ofString "k"))) =
      some (Bytes.ofString "disk full") := by
    simp [s₂, hputk, Table.get?]
  have hv₂ : s₂.refused.get? (Path.join s₂.dir (vertexFile (Bytes.ofString "k"))) = none := by
    have hne : Path.join s.dir (vertexFile (Bytes.ofString "k")) ≠
        Path.join s.dir (fragmentFile (Bytes.ofString "k")) :=
      join_entryName_ne s.dir hk hk vertexEnding_mem fragmentEnding_mem
        (.inr vertexEnding_ne_fragmentEnding)
    simp [s₂, hputk, Table.get?, Ne.symm hne]
  have hb₂ : s₂.blocked = false := by simp [s₂, s, hputk]
  have hw : (({ dir := Bytes.ofString "c" } : Store).put (Bytes.ofString "k") p₁).1 = .ok () :=
    congrArg Prod.fst hputk
  have hput₂ := Store.put_fragment_refused hk p₂ hb₂ hv₂ hs₂
  have hB₂ : Agrees s₂ _ := hB₁
  have hB₃ := hB₂.put hk p₂
  rw [hput₂] at hB₃
  refine ⟨by rw [hput₁], ?_, ?_, ?_⟩
  · rw [Store.get_fst, hput₁, hA₁.lookup hff]
    simp [writesMade, Slot.afterPut, Slot.found, hbad]
  · rw [hput₂]
    simp [s₂, hputk]
  · rw [Store.get_fst, hput₂, hB₃.lookup hk]
    simp [writesMade, Slot.afterPut, Slot.found, hgood, hw, s₂]

end Cache

end ShaderVariants
