import ShaderVariants.Proofs.CacheLedger
/-!
# Building through the cache

A caching compiler wraps an inner compiler: a build of a pair looks up the key of the pair's
expanded stages, reuses the program found there, and otherwise runs the inner compiler and stores
its program. A program read back from the cache names no path, so the build gives it the pair's
own (`Cache.build`).

* **Keys are plain file names** (`Cache.key_plain`): 64 lower-case hex digits, ASCII with no
  separator, so the ledger of a cache's calls describes the files of every key.
* **What a sequence of builds leaves in the cache** (`Cache.exists_accounts`): each data file
  holds a stage the inner compiler gave for a pair of its key, and a key's metadata is there
  exactly when an earlier build of that key stored a program.
* **A sequence of builds answers as the inner compiler** (`Cache.buildAll_answers`): from a cache
  with no files, when the pairs' different stage texts have different keys, a build hits exactly
  when an earlier build of the same stages stored a program, and then does not consult the inner
  compiler; a miss answers as a direct build, and a hit as a direct build whose program carries
  the pair's path.

So the cache is transparent for inner compilers whose programs name no path, or the pair's: a
program that names another path comes back from the cache under the pair's
(`Cache.buildAll_reused_path`).
-/

namespace ShaderVariants

namespace Cache

/-! ## §1 — Keys are plain file names -/

theorem hexDigit_plain {n : Nat} (hn : n < 16) :
    Sha256.hexDigit n < 0x80 ∧ Sha256.hexDigit n ≠ Path.sep := by
  have hall : ∀ m < 16, Sha256.hexDigit m < 0x80 ∧ Sha256.hexDigit m ≠ Path.sep := by
    decide
  exact hall n hn

/-- Every byte of a key is a hex digit: ASCII, and no separator. -/
theorem key_plain (id v f : Bytes) : ∀ b ∈ key id v f, b < 0x80 ∧ b ≠ Path.sep := by
  intro b hb
  simp only [key, Sha256.hex, List.mem_flatMap, List.mem_cons, List.not_mem_nil, or_false] at hb
  obtain ⟨x, -, rfl | rfl⟩ := hb
  · exact hexDigit_plain (by have := x.toNat_lt; omega)
  · exact hexDigit_plain (Nat.mod_lt _ (by decide))

theorem sep_not_mem_key (id v f : Bytes) : Path.sep ∉ key id v f :=
  fun h => (key_plain id v f _ h).2 rfl

theorem isUtf8_key (id v f : Bytes) : Glyph.isUtf8 (key id v f) = true :=
  Glyph.isUtf8_of_ascii fun b hb => (key_plain id v f b hb).1

/-! ## §2 — A look-up finds programs with no path -/

/-- What a look-up holds between its reads: a program found names no path. -/
def Reader.Pathless : Reader → Prop
  | .done (some q) => q.path = []
  | _ => True

theorem Store.read_pathless {s : Store} {r : Reader} (hr : r.Pathless) : (s.read r).Pathless := by
  cases r with
  | start k =>
    simp only [Store.read]
    split
    · split <;> trivial
    · trivial
  | vertex vf ff =>
    simp only [Store.read]
    split <;> trivial
  | fragment ff v =>
    simp only [Store.read]
    split
    · rfl
    · trivial
  | done r => simpa [Store.read] using hr

theorem Store.lookup_path {s : Store} {k : Bytes} {q : Program} (h : s.lookup k = some q) :
    q.path = [] := by
  have hp : (s.read (s.read (s.read (.start k)))).Pathless :=
    read_pathless (read_pathless (read_pathless trivial))
  unfold Store.lookup at h
  split at h
  next r hr =>
    rw [hr, h] at hp
    exact hp
  · simp at h

/-! ## §3 — One build through the cache -/

/-- The key of a pair's expanded stages under a compiler identity. -/
def pairKey (id : Bytes) (p : Pair) : Bytes :=
  key id p.vertex.expansion.text p.fragment.expansion.text

/-- The program an inner compiler gives for a pair's expanded stages, an absent one as an empty
one; none when it fails. -/
def innerProgram (inner : Compiler) (p : Pair) : Option Program :=
  match inner p.vertex.expansion.text p.fragment.expansion.text with
  | .ok prog => some (prog.getD {})
  | .error _ => none

/-- A pair built with the caching compiler of identity `id` around `inner`: the pair's build from
the cached compile's answer, and the cache after it. -/
def build (s : Store) (id : Bytes) (inner : Compiler) (p : Pair) :
    Except BuildFailure Program × Store :=
  let r := compile s id inner p.vertex.expansion.text p.fragment.expansion.text
  (p.build fun _ _ => r.1, r.2)

/-- Pairs built in turn with one caching compiler: each build's outcome, and the cache after
them all. -/
def buildAll (s : Store) (id : Bytes) (inner : Compiler) :
    List Pair → List (Except BuildFailure Program) × Store
  | [] => ([], s)
  | p :: ps => ((build s id inner p).1 :: (buildAll (build s id inner p).2 id inner ps).1,
      (buildAll (build s id inner p).2 id inner ps).2)

/-- The cache after the first `n` builds of a sequence. -/
def cacheAfter (s : Store) (id : Bytes) (inner : Compiler) (ps : List Pair) (n : Nat) : Store :=
  (buildAll s id inner (ps.take n)).2

/-- Whether the cache holds a program for a pair's stages. -/
def holds (s : Store) (id : Bytes) (p : Pair) : Bool := (s.lookup (pairKey id p)).isSome

/-- Whether a build of `p` stores a program: the cache holds none for its stages, the inner
compiler gives one, and the Put of it writes all three files. -/
def stores (s : Store) (id : Bytes) (inner : Compiler) (p : Pair) : Prop :=
  s.lookup (pairKey id p) = none ∧ ∃ prog, innerProgram inner p = some prog ∧
    ({ s with misses := s.misses + 1 }.put (pairKey id p) prog).1 = .ok ()

section Build

variable {s : Store} {id : Bytes} {p : Pair}

/-- A hit: the program found, under the pair's path, whatever the inner compiler. -/
theorem build_of_lookup_some {q : Program} (h : s.lookup (pairKey id p) = some q)
    (inner : Compiler) :
    build s id inner p = (.ok { q with path := p.path }, { s with hits := s.hits + 1 }) := by
  have hq := Store.lookup_path h
  unfold pairKey at h
  simp [build, compile, Store.get, h, Pair.build, hq]

/-- A miss: the direct build, with the inner compiler's program stored when it gives one. -/
theorem build_of_lookup_none (h : s.lookup (pairKey id p) = none) (inner : Compiler) :
    build s id inner p = (p.build inner, match innerProgram inner p with
      | some prog => ({ s with misses := s.misses + 1 }.put (pairKey id p) prog).2
      | none => { s with misses := s.misses + 1 }) := by
  unfold pairKey at h
  unfold build compile innerProgram pairKey
  cases hi : inner p.vertex.expansion.text p.fragment.expansion.text with
  | error e => cases e <;> simp [Store.get, h, hi, Pair.build]
  | ok prog => simp [Store.get, h, hi, Pair.build]

end Build

/-- A direct build of a pair whose stages the inner compiler compiles: its program, under the
pair's path when it names none. -/
theorem direct_build_of_innerProgram {inner : Compiler} {p : Pair} {prog : Program}
    (h : innerProgram inner p = some prog) :
    p.build inner = .ok (if prog.path.isEmpty then { prog with path := p.path } else prog) := by
  unfold innerProgram at h
  unfold Pair.build
  split at h
  next prog' hi =>
    simp only [Option.some.injEq] at h
    subst h
    simp [hi]
  · simp at h

/-- Pairs with the same stage texts get the same program. -/
theorem innerProgram_congr (inner : Compiler) {p q : Pair}
    (hv : q.vertex.expansion.text = p.vertex.expansion.text)
    (hf : q.fragment.expansion.text = p.fragment.expansion.text) :
    innerProgram inner q = innerProgram inner p := by
  simp [innerProgram, hv, hf]

/-! ## §4 — Sequences of builds -/

section Run

variable (id : Bytes) (inner : Compiler)

theorem buildAll_append (s : Store) (xs ys : List Pair) :
    buildAll s id inner (xs ++ ys) =
      ((buildAll s id inner xs).1 ++ (buildAll (buildAll s id inner xs).2 id inner ys).1,
        (buildAll (buildAll s id inner xs).2 id inner ys).2) := by
  induction xs generalizing s with
  | nil => rfl
  | cons x xs ih => simp [buildAll, ih]

theorem buildAll_concat (s : Store) (xs : List Pair) (p : Pair) :
    buildAll s id inner (xs ++ [p]) =
      ((buildAll s id inner xs).1 ++ [(build (buildAll s id inner xs).2 id inner p).1],
        (build (buildAll s id inner xs).2 id inner p).2) := by
  rw [buildAll_append]
  rfl

/-- The outcome of build `i` is the build of its pair from the cache the builds before it left. -/
theorem buildAll_getElem? (s : Store) {ps : List Pair} {i : Nat} {p : Pair} (hp : ps[i]? = some p) :
    (buildAll s id inner ps).1[i]? = some (build (cacheAfter s id inner ps i) id inner p).1 := by
  have hi : i < ps.length := (List.getElem?_eq_some_iff.1 hp).1
  have hsplit : ps = ps.take i ++ p :: ps.drop (i + 1) := by
    conv_lhs => rw [← List.take_append_drop i ps]
    rw [List.drop_eq_getElem_cons hi, (List.getElem?_eq_some_iff.1 hp).2]
  have hlen : (buildAll s id inner (ps.take i)).1.length = i := by
    have hl : ∀ (s' : Store) (xs : List Pair), (buildAll s' id inner xs).1.length = xs.length := by
      intro s' xs
      induction xs generalizing s' with
      | nil => rfl
      | cons x xs ih => simp [buildAll, ih]
    rw [hl, List.length_take, min_eq_left hi.le]
  conv_lhs => rw [hsplit, buildAll_append]
  rw [List.getElem?_append_right hlen.le, hlen, Nat.sub_self]
  rfl

/-- Some build of `pre` from `s0`, of a pair of key `k`, stored a program. -/
def StoredBy (s0 : Store) (pre : List Pair) (k : Bytes) : Prop :=
  ∃ j q, pre[j]? = some q ∧ pairKey id q = k ∧ stores (cacheAfter s0 id inner pre j) id inner q

theorem storedBy_nil (s0 : Store) (k : Bytes) : ¬ StoredBy id inner s0 [] k := by
  rintro ⟨j, q, hq, -⟩
  simp at hq

/-- A key is stored after one more build when it was before, or that build stored it. -/
theorem storedBy_concat (s0 : Store) (pre : List Pair) (p : Pair) (k : Bytes) :
    StoredBy id inner s0 (pre ++ [p]) k ↔
      StoredBy id inner s0 pre k ∨
        (pairKey id p = k ∧ stores (buildAll s0 id inner pre).2 id inner p) := by
  -- a build of `pre ++ [p]` is one of `pre`, from the same cache, or the last one
  have hcache : ∀ j ≤ pre.length,
      cacheAfter s0 id inner (pre ++ [p]) j = cacheAfter s0 id inner pre j := by
    intro j hj
    simp only [cacheAfter, List.take_append_of_le_length hj]
  constructor
  · rintro ⟨j, q, hq, hk, hs⟩
    rcases Nat.lt_or_ge j pre.length with hj | hj
    · rw [List.getElem?_append_left hj] at hq
      exact .inl ⟨j, q, hq, hk, hcache j hj.le ▸ hs⟩
    · rw [List.getElem?_append_right hj] at hq
      obtain ⟨hj', rfl⟩ : j - pre.length = 0 ∧ p = q := by
        cases h : j - pre.length <;> simp_all
      have hjl : j = pre.length := by omega
      subst hjl
      rw [hcache _ le_rfl, cacheAfter, List.take_length] at hs
      exact .inr ⟨hk, hs⟩
  · rintro (⟨j, q, hq, hk, hs⟩ | ⟨hk, hs⟩)
    · have hj : j < pre.length := (List.getElem?_eq_some_iff.1 hq).1
      refine ⟨j, q, ?_, hk, hcache j hj.le ▸ hs⟩
      rw [List.getElem?_append_left hj, hq]
    · refine ⟨pre.length, p, List.getElem?_concat_length, hk, ?_⟩
      rw [hcache _ le_rfl, cacheAfter, List.take_length]
      exact hs

/-- What the builds of `pre` from `s0` leave in a ledger of the cache: each data file holds the
stage the inner compiler gave for a pair of `pre` of its key; a key's Put finished exactly when
a build of `pre` of that key stored a program; and every slot is whole. -/
structure Accounts (s0 : Store) (pre : List Pair) (L : Ledger) : Prop where
  vertex : ∀ k b, (L k).vertex = some b →
    ∃ q ∈ pre, pairKey id q = k ∧ ∃ prog, innerProgram inner q = some prog ∧ prog.vertex = b
  fragment : ∀ k b, (L k).fragment = some b →
    ∃ q ∈ pre, pairKey id q = k ∧ ∃ prog, innerProgram inner q = some prog ∧ prog.fragment = b
  stored : ∀ k, (L k).stored = true ↔ StoredBy id inner s0 pre k
  whole : ∀ k, (L k).Whole

theorem accounts_nil (s0 : Store) : Accounts id inner s0 [] fun _ => {} where
  vertex _ _ h := by simp at h
  fragment _ _ h := by simp at h
  stored k := by simp [storedBy_nil]
  whole _ h := by simp at h

/-- A Put writes the program's stages, or leaves the slot's. -/
theorem Slot.afterPut_vertex (sl : Slot) (prog : Program) (n : Nat) :
    (sl.afterPut prog n).vertex = sl.vertex ∨ (sl.afterPut prog n).vertex = some prog.vertex := by
  match n with
  | 0 => exact .inl rfl
  | 1 | 2 | n + 3 => exact .inr rfl

theorem Slot.afterPut_fragment (sl : Slot) (prog : Program) (n : Nat) :
    (sl.afterPut prog n).fragment = sl.fragment ∨
      (sl.afterPut prog n).fragment = some prog.fragment := by
  match n with
  | 0 | 1 => exact .inl rfl
  | 2 | n + 3 => exact .inr rfl

/-- A build that reads the cache and leaves the ledger as it was keeps the accounts, when it
stores nothing. -/
theorem Accounts.concat_of_not_stores {s0 : Store} {pre : List Pair} {L : Ledger}
    (hA : Accounts id inner s0 pre L) {p : Pair}
    (hp : ¬ stores (buildAll s0 id inner pre).2 id inner p) :
    Accounts id inner s0 (pre ++ [p]) L where
  vertex k b h := by
    obtain ⟨q, hq, hrest⟩ := hA.vertex k b h
    exact ⟨q, List.mem_append_left _ hq, hrest⟩
  fragment k b h := by
    obtain ⟨q, hq, hrest⟩ := hA.fragment k b h
    exact ⟨q, List.mem_append_left _ hq, hrest⟩
  stored k := by
    rw [hA.stored k, storedBy_concat]
    exact ⟨.inl, fun h => h.resolve_right fun hs => hp hs.2⟩
  whole := hA.whole

/-- **The step lemma.** One more build keeps a ledger that agrees with the cache and accounts
for the builds. -/
theorem Accounts.concat {s0 : Store} {pre : List Pair} {L : Ledger}
    (hA : Accounts id inner s0 pre L) (hs : Agrees (buildAll s0 id inner pre).2 L) (p : Pair) :
    ∃ L', Agrees (buildAll s0 id inner (pre ++ [p])).2 L' ∧
      Accounts id inner s0 (pre ++ [p]) L' := by
  rw [buildAll_concat]
  set s := (buildAll s0 id inner pre).2 with hsdef
  set k := pairKey id p
  have hk : Path.sep ∉ k := sep_not_mem_key _ _ _
  cases hl : s.lookup k with
  | some q =>
    -- a hit only counts it
    have hget : (s.get k).2 = { s with hits := s.hits + 1 } := by simp [Store.get, hl]
    refine ⟨L, ?_, hA.concat_of_not_stores id inner fun hst => ?_⟩
    · rw [build_of_lookup_some hl, ← hget]
      exact hs.get k
    · rw [← hsdef, stores, hl] at hst
      exact absurd hst.1 (by simp)
  | none =>
    have hget : (s.get k).2 = { s with misses := s.misses + 1 } := by simp [Store.get, hl]
    rw [build_of_lookup_none hl]
    cases hprog : innerProgram inner p with
    | none =>
      -- the inner compiler failed: nothing is written
      refine ⟨L, ?_, hA.concat_of_not_stores id inner fun hst => ?_⟩
      · rw [← hget]
        exact hs.get k
      · obtain ⟨-, prog, hprog', -⟩ := hst
        simp [hprog] at hprog'
    | some prog =>
      -- the Put updates the key's slot by the writes it made
      set s' := { s with misses := s.misses + 1 }
      have hs' : Agrees s' L := hget ▸ hs.get k
      refine ⟨_, hs'.put hk prog, ?_⟩
      have hslot : ∀ k', k' ≠ k → (Function.update L k
          ((L k).afterPut prog (writesMade s'.dir k (s'.put k prog).1))) k' = L k' :=
        fun k' hne => Function.update_of_ne hne _ _
      refine ⟨fun k' b h => ?_, fun k' b h => ?_, fun k' => ?_, fun k' => ?_⟩
      · by_cases hkk : k' = k
        · subst hkk
          simp only [Function.update_self] at h
          rcases Slot.afterPut_vertex (L k) prog _ with h' | h'
          · obtain ⟨q, hq, hrest⟩ := hA.vertex _ b (h' ▸ h)
            exact ⟨q, List.mem_append_left _ hq, hrest⟩
          · rw [h', Option.some.injEq] at h
            exact ⟨p, by simp, rfl, prog, hprog, h⟩
        · obtain ⟨q, hq, hrest⟩ := hA.vertex k' b (hslot k' hkk ▸ h)
          exact ⟨q, List.mem_append_left _ hq, hrest⟩
      · by_cases hkk : k' = k
        · subst hkk
          simp only [Function.update_self] at h
          rcases Slot.afterPut_fragment (L k) prog _ with h' | h'
          · obtain ⟨q, hq, hrest⟩ := hA.fragment _ b (h' ▸ h)
            exact ⟨q, List.mem_append_left _ hq, hrest⟩
          · rw [h', Option.some.injEq] at h
            exact ⟨p, by simp, rfl, prog, hprog, h⟩
        · obtain ⟨q, hq, hrest⟩ := hA.fragment k' b (hslot k' hkk ▸ h)
          exact ⟨q, List.mem_append_left _ hq, hrest⟩
      · rw [storedBy_concat, ← hA.stored k']
        by_cases hkk : k' = k
        · subst hkk
          simp only [Function.update_self, Slot.afterPut_stored, Bool.or_eq_true,
            decide_eq_true_eq, writesMade_three_le_iff, stores, hprog, Option.some.injEq,
            exists_eq_left']
          exact or_congr_right ⟨fun h => ⟨rfl, hl, h⟩, fun h => h.2.2⟩
        · rw [hslot k' hkk]
          exact ⟨.inl, fun h => h.resolve_right fun hk => hkk hk.1.symm⟩
      · by_cases hkk : k' = k
        · rw [hkk, Function.update_self]
          exact (hA.whole k).afterPut prog _
        · exact hslot k' hkk ▸ hA.whole k'

/-- **The run lemma.** After any builds from a cache with no files, some ledger agrees with the
cache and accounts for the builds. -/
theorem exists_accounts (dir : Bytes) (blocked : Bool) (refused : Table Bytes) (pre : List Pair) :
    ∃ L, Agrees (buildAll { dir, blocked, refused } id inner pre).2 L ∧
      Accounts id inner { dir, blocked, refused } pre L := by
  induction pre using List.reverseRecOn with
  | nil => exact ⟨_, Agrees.empty dir blocked refused, accounts_nil id inner _⟩
  | append_singleton pre p ih =>
    obtain ⟨L, hs, hA⟩ := ih
    exact hA.concat id inner hs p

end Run

/-! ## §5 — Every build answers as the inner compiler -/

/-- A slot's look-up finds the stages last written into it. -/
theorem Slot.found_eq_some {sl : Slot} {k : Bytes} {q : Program} (h : sl.found k = some q) :
    ∃ v f, sl.vertex = some v ∧ sl.fragment = some f ∧ q = { vertex := v, fragment := f } := by
  unfold Slot.found at h
  split at h
  · split at h
    · next v f hv hf => exact ⟨v, f, hv, hf, (Option.some.inj h).symm⟩
    · simp at h
  · simp at h

/-- The direct build with the pair's path put on its program. -/
theorem direct_build_map_path {inner : Compiler} {p : Pair} {prog : Program}
    (h : innerProgram inner p = some prog) :
    (p.build inner).map (fun r => { r with path := p.path }) = .ok { prog with path := p.path } := by
  rw [direct_build_of_innerProgram h]
  split_ifs <;> rfl

/-- The direct build keeps the program's path when it names none or the pair's. -/
theorem direct_build_of_path {inner : Compiler} {p : Pair} {prog : Program}
    (h : innerProgram inner p = some prog) (hpath : prog.path = [] ∨ prog.path = p.path) :
    p.build inner = .ok { prog with path := p.path } := by
  rw [direct_build_of_innerProgram h]
  rcases hpath with hpath | hpath
  · simp [hpath]
  · split_ifs
    · rfl
    · rw [← hpath]

section Answers

variable (id : Bytes) (inner : Compiler) (dir : Bytes) (blocked : Bool) (refused : Table Bytes)

/-- After builds from a cache with no files, the cache holds a pair's stages exactly when an
earlier build of that key stored a program. -/
theorem holds_iff_storedBy (pre : List Pair) (p : Pair) :
    holds (buildAll { dir, blocked, refused } id inner pre).2 id p = true ↔
      StoredBy id inner { dir, blocked, refused } pre (pairKey id p) := by
  obtain ⟨L, hs, hA⟩ := exists_accounts id inner dir blocked refused pre
  have hlook : (buildAll { dir, blocked, refused } id inner pre).2.lookup (pairKey id p) =
      (L (pairKey id p)).found (pairKey id p) := hs.lookup (sep_not_mem_key _ _ _)
  rw [holds, hlook, Slot.found_isSome_iff (hA.whole _), ← hA.stored]
  simp [pairKey, isUtf8_key]

/-- A hit, when every earlier pair of the same key has the same stages, serves the program the
inner compiler gives for them, under the pair's path. -/
theorem build_of_holds (pre : List Pair) (p : Pair)
    (hkeys : ∀ q ∈ pre, pairKey id q = pairKey id p →
      q.vertex.expansion.text = p.vertex.expansion.text ∧
        q.fragment.expansion.text = p.fragment.expansion.text)
    (hh : holds (buildAll { dir, blocked, refused } id inner pre).2 id p = true) :
    ∃ prog, innerProgram inner p = some prog ∧
      (build (buildAll { dir, blocked, refused } id inner pre).2 id inner p).1 =
        .ok { prog with path := p.path } := by
  obtain ⟨L, hs, hA⟩ := exists_accounts id inner dir blocked refused pre
  have hlook := hs.lookup (sep_not_mem_key id p.vertex.expansion.text p.fragment.expansion.text)
  obtain ⟨q0, hq0⟩ := Option.isSome_iff_exists.1 hh
  have hfound := hq0
  rw [pairKey, hlook] at hfound
  obtain ⟨v, f, hv, hf, rfl⟩ := Slot.found_eq_some hfound
  -- each stage found was written from a pair of the same key, so of the same stages
  obtain ⟨q, hq, hkq, prog, hprog, rfl⟩ := hA.vertex _ v hv
  obtain ⟨q', hq', hkq', prog', hprog', rfl⟩ := hA.fragment _ f hf
  have htexts := hkeys q hq hkq
  have htexts' := hkeys q' hq' hkq'
  rw [innerProgram_congr inner htexts.1 htexts.2] at hprog
  rw [innerProgram_congr inner htexts'.1 htexts'.2, hprog, Option.some.injEq] at hprog'
  subst hprog'
  refine ⟨prog, hprog, ?_⟩
  rw [build_of_lookup_some hq0]

end Answers

/-- **Builds through the cache answer as the inner compiler, a reused program under the pair's
path.** Build pairs in turn through a caching compiler around any inner compiler, from a cache
directory with no files, when the pairs' different stage texts have different keys. Build `i`,
of pair `p`:
* is the build of `p` from the cache the builds before it left;
* hits exactly when an earlier build of the same stages stored a program (the inner compiler
  gave one and the cache wrote all its files), so a failure is never reused;
* on a hit does not consult the inner compiler;
* answers as the direct build on a miss, and on a hit as the direct build whose program carries
  the pair's path;
* answers as the direct build whenever the inner compiler's program names no path or the
  pair's. -/
theorem buildAll_answers (dir : Bytes) (blocked : Bool) (refused : Table Bytes) (id : Bytes)
    (inner : Compiler) (ps : List Pair)
    (hkeys : ∀ q ∈ ps, ∀ r ∈ ps, pairKey id q = pairKey id r →
      q.vertex.expansion.text = r.vertex.expansion.text ∧
        q.fragment.expansion.text = r.fragment.expansion.text)
    {i : Nat} {p : Pair} (hp : ps[i]? = some p) :
    let s := cacheAfter { dir, blocked, refused } id inner ps i
    (buildAll { dir, blocked, refused } id inner ps).1[i]? = some (build s id inner p).1 ∧
      (holds s id p = true ↔ ∃ j < i, ∃ q, ps[j]? = some q ∧
        q.vertex.expansion.text = p.vertex.expansion.text ∧
        q.fragment.expansion.text = p.fragment.expansion.text ∧
        stores (cacheAfter { dir, blocked, refused } id inner ps j) id inner q) ∧
      (holds s id p = true → ∀ inner' : Compiler, build s id inner' p = build s id inner p) ∧
      (build s id inner p).1 = (if holds s id p
        then (p.build inner).map (fun r => { r with path := p.path }) else p.build inner) ∧
      ((∀ prog, innerProgram inner p = some prog → prog.path = [] ∨ prog.path = p.path) →
        (build s id inner p).1 = p.build inner) := by
  intro s
  have hpre : ∀ q ∈ ps.take i, pairKey id q = pairKey id p →
      q.vertex.expansion.text = p.vertex.expansion.text ∧
        q.fragment.expansion.text = p.fragment.expansion.text :=
    fun q hq hk => hkeys q (List.mem_of_mem_take hq) p (List.mem_of_getElem? hp) hk
  have hhit : holds s id p = true → ∃ prog, innerProgram inner p = some prog ∧
      (build s id inner p).1 = .ok { prog with path := p.path } :=
    build_of_holds id inner dir blocked refused (ps.take i) p hpre
  have hmiss : holds s id p = false → (build s id inner p).1 = p.build inner := by
    intro h
    have hnone : s.lookup (pairKey id p) = none := by simpa [holds] using h
    rw [build_of_lookup_none hnone]
  -- a build of `ps.take i` is a build of `ps`, from the same cache
  have hcache : ∀ j < i, cacheAfter { dir, blocked, refused } id inner (ps.take i) j =
      cacheAfter { dir, blocked, refused } id inner ps j := by
    intro j hj
    simp only [cacheAfter, List.take_take, min_eq_left hj.le]
  refine ⟨buildAll_getElem? id inner _ hp, ?_, ?_, ?_, ?_⟩
  · show holds (buildAll _ id inner (ps.take i)).2 id p = true ↔ _
    rw [holds_iff_storedBy]
    constructor
    · rintro ⟨j, q, hq, hk, hst⟩
      rw [List.getElem?_take] at hq
      split_ifs at hq with hj
      obtain ⟨hv, hf⟩ := hkeys q (List.mem_of_getElem? hq) p (List.mem_of_getElem? hp) hk
      exact ⟨j, hj, q, hq, hv, hf, hcache j hj ▸ hst⟩
    · rintro ⟨j, hj, q, hq, hv, hf, hst⟩
      refine ⟨j, q, ?_, by simp only [pairKey, hv, hf], (hcache j hj).symm ▸ hst⟩
      rw [List.getElem?_take, if_pos hj, hq]
  · intro h inner'
    obtain ⟨q0, hq0⟩ := Option.isSome_iff_exists.1 h
    rw [build_of_lookup_some hq0, build_of_lookup_some hq0]
  · cases h : holds s id p
    · simp only [Bool.false_eq_true, if_false]
      exact hmiss h
    · obtain ⟨prog, hprog, hbuild⟩ := hhit h
      simp only [if_true]
      rw [hbuild, direct_build_map_path hprog]
  · intro hpath
    cases h : holds s id p
    · exact hmiss h
    · obtain ⟨prog, hprog, hbuild⟩ := hhit h
      rw [hbuild, direct_build_of_path hprog (hpath prog hprog)]

/-- A fresh cache stores the first program it is given. -/
theorem stores_fresh (dir id : Bytes) {inner : Compiler} {p : Pair} {prog : Program}
    (hprog : innerProgram inner p = some prog) : stores { dir } id inner p := by
  have hk : Path.sep ∉ pairKey id p := sep_not_mem_key _ _ _
  refine ⟨?_, prog, hprog, ?_⟩
  · rw [(Agrees.empty dir false []).lookup hk]
    rfl
  · show (({ dir, misses := 1 } : Store).put (pairKey id p) prog).1 = .ok ()
    rw [@Store.put_stored { dir, misses := 1 } _ hk prog rfl (by simp [Table.get?])
      (by simp [Table.get?]) (by simp [Table.get?])]

/-- The same pair built twice through a fresh cache: the second build reads the program back and
answers as the direct build. -/
theorem buildAll_answers_sample :
    let inner : Compiler := fun v f => .ok (some { vertex := v, fragment := f })
    let stage (st : Stage) (t : Bytes) : StageSource := ⟨st, t, t, ⟨t, [], []⟩⟩
    let p : Pair :=
      ⟨Bytes.ofString "s", stage .vertex (Bytes.ofString "v"), stage .fragment (Bytes.ofString "f")⟩
    let s0 : Store := { dir := Bytes.ofString "c" }
    holds (cacheAfter s0 (Bytes.ofString "id") inner [p, p] 1) (Bytes.ofString "id") p = true ∧
      (buildAll s0 (Bytes.ofString "id") inner [p, p]).1[1]? = some (p.build inner) := by
  intro inner stage p s0
  have hprog : innerProgram inner p = some { vertex := Bytes.ofString "v", fragment := Bytes.ofString "f" } := rfl
  obtain ⟨hat, hheld, -, -, hpath⟩ := buildAll_answers (Bytes.ofString "c") false []
    (Bytes.ofString "id") inner [p, p]
    (by
      intro q hq r hr _
      simp only [List.mem_cons, List.not_mem_nil, or_false, or_self] at hq hr
      subst hq hr
      exact ⟨rfl, rfl⟩)
    (show [p, p][1]? = some p from rfl)
  refine ⟨hheld.2 ⟨0, by decide, p, rfl, rfl, rfl, stores_fresh _ _ hprog⟩, ?_⟩
  rw [hat, hpath]
  intro prog hprog'
  rw [hprog, Option.some.injEq] at hprog'
  exact .inl (hprog' ▸ rfl)

/-- An inner compiler whose program names a path other than the pair's: the direct build keeps
that path, but the second build through the cache serves the program under the pair's. -/
theorem buildAll_reused_path :
    let inner : Compiler := fun _ _ =>
      .ok (some ⟨Bytes.ofString "q", Bytes.ofString "V", Bytes.ofString "F"⟩)
    let stage (st : Stage) : StageSource := ⟨st, [], [], ⟨[], [], []⟩⟩
    let p : Pair := ⟨Bytes.ofString "x", stage .vertex, stage .fragment⟩
    p.build inner = .ok ⟨Bytes.ofString "q", Bytes.ofString "V", Bytes.ofString "F"⟩ ∧
      (buildAll { dir := Bytes.ofString "c" } (Bytes.ofString "id") inner [p, p]).1 =
        [.ok ⟨Bytes.ofString "q", Bytes.ofString "V", Bytes.ofString "F"⟩,
          .ok ⟨Bytes.ofString "x", Bytes.ofString "V", Bytes.ofString "F"⟩] := by
  intro inner stage p
  have hprog : innerProgram inner p =
      some ⟨Bytes.ofString "q", Bytes.ofString "V", Bytes.ofString "F"⟩ := rfl
  have hdirect : p.build inner = .ok ⟨Bytes.ofString "q", Bytes.ofString "V", Bytes.ofString "F"⟩ := by
    have hq : (Bytes.ofString "q").isEmpty = false := by cbv
    rw [direct_build_of_innerProgram hprog, if_neg (by simp [hq])]
  refine ⟨hdirect, ?_⟩
  -- the first build misses and stores the program; the second finds it
  have hstores := stores_fresh (Bytes.ofString "c") (Bytes.ofString "id") hprog
  have hfirst : (build { dir := Bytes.ofString "c" } (Bytes.ofString "id") inner p).1 =
      p.build inner := by
    rw [build_of_lookup_none hstores.1]
  have hheld : holds (buildAll { dir := Bytes.ofString "c" } (Bytes.ofString "id") inner [p]).2
      (Bytes.ofString "id") p = true := by
    rw [holds_iff_storedBy, ← List.nil_append [p], storedBy_concat]
    exact .inr ⟨rfl, hstores⟩
  obtain ⟨prog, hprog', hsecond⟩ := build_of_holds (Bytes.ofString "id") inner (Bytes.ofString "c")
    false [] [p] p (fun q hq _ => by simp only [List.mem_singleton] at hq; rw [hq]; exact ⟨rfl, rfl⟩)
    hheld
  rw [hprog, Option.some.injEq] at hprog'
  subst hprog'
  have hone : (buildAll { dir := Bytes.ofString "c" } (Bytes.ofString "id") inner [p]).1 =
      [(build { dir := Bytes.ofString "c" } (Bytes.ofString "id") inner p).1] := rfl
  rw [show [p, p] = [p] ++ [p] from rfl, buildAll_concat, hsecond, hone, hfirst, hdirect]
  rfl

end Cache

end ShaderVariants
