import ShaderVariants.Proofs.CacheFiles
/-!
# Concurrent Puts and Gets

Several Puts and Gets on one cache run at once. Each is cut into its atomic steps: a Put creates
the directory, then, for each of its three files in turn, writes a temporary file and renames it
over the file (`Store.stage`, `Store.rename`); a Get reads the metadata, then the two data files
(`Store.read`). A `World` holds the store and every call where it stands, and a schedule picks
the call that takes the next step, in any order.

* **A call that runs alone is the sequential call** (`World.run_alone_put`,
  `World.run_alone_get`): the step model adds interleaving and nothing else.
* **Concurrent Gets never see a half-written entry** (`World.gets_see_whole_entries`): when every
  Put of a key stores the same program and no Put's key holds a path separator, every Get misses
  or returns exactly its key's program, and a Get hits only once a Put of its key has renamed
  all its files, its metadata last, into place.

The invariant (`World.Safe`) says what each file can hold and what each call holds between its
steps; every step keeps it (`World.Safe.step`). Keys with a separator break it: two keys can
name the same files, and JSON can write one key as another (the example that ends this module).
The keys the cache is given are hex digests (`Cache.key`), which hold no separator.
-/

namespace ShaderVariants

namespace Cache

/-! ## A write in two atomic steps -/

namespace Store

/-- The first step of a write, writing its temporary file, and how it fails: the directory the
file goes in does not exist, or the file system refuses the file. The temporary file has a fresh
name that nothing else reads, so the step changes nothing that a call can see. -/
def stage (s : Store) (w : Write) : Option StoreFault :=
  let path := Path.join s.dir w.name
  if !s.dirExists (Path.join s.dir (Path.dir w.name)) then some (.noDirectory path)
  else (s.refused.get? path).map (.refused path)

/-- The second step of a write: its temporary file renamed over the file it replaces, at once. -/
def rename (s : Store) : Write → Store
  | .data n b => { s with data := s.data.set (Path.join s.dir n) b }
  | .metadata n m => { s with metas := s.metas.set (Path.join s.dir n) m }

@[simp] theorem rename_dir (s : Store) (w : Write) : (s.rename w).dir = s.dir := by
  cases w <;> rfl

end Store

/-! ## Calls in progress -/

/-- Where a Put stands between its atomic steps. -/
inductive Writer where
  /-- About to create the cache directory. -/
  | start
  /-- With the writes `ws` left to make; `staged` once the first one's temporary file is
  written. -/
  | writing (ws : List Write) (staged : Bool)
  /-- Returned `r`. -/
  | done (r : Except StoreFault Unit)

/-- Whether a Put has renamed all its files into place, its metadata last. -/
def Writer.placed : Writer → Bool
  | .writing [] _ => true
  | .done (.ok ()) => true
  | _ => false

/-- One atomic step of a Put of `p` under `k`: creating the directory, writing a temporary
file, renaming it, or returning. -/
def Store.putStep (s : Store) (k : Bytes) (p : Program) : Writer → Writer × Store
  | .start => if s.blocked then (.done (.error (.blocked s.dir)), s)
    else (.writing (putWrites k p) false, s)
  | .writing [] _ => (.done (.ok ()), s)
  | .writing (w :: ws) false =>
    match s.stage w with
    | some e => (.done (.error e), s)
    | none => (.writing (w :: ws) true, s)
  | .writing (w :: ws) true => (.writing ws false, s.rename w)
  | .done r => (.done r, s)

/-- A call in progress: a Put of a program under a key, or a Get of a key. -/
inductive Thread where
  | put (k : Bytes) (p : Program) (w : Writer)
  | get (k : Bytes) (r : Reader)

/-- One atomic step of a call: a Put's next step, or a Get's next read. -/
def Store.advance (s : Store) : Thread → Thread × Store
  | .put k p w => (.put k p (s.putStep k p w).1, (s.putStep k p w).2)
  | .get k r => (.get k (s.read r), s)

/-- A cache and the calls on it, each where it stands. -/
structure World where
  store : Store
  threads : List Thread

namespace World

/-- The calls begun on a cache with no files: a Put of `prog k` under each key `k` of `puts`,
and a Get of each key of `gets`. -/
def begin (prog : Bytes → Program) (dir : Bytes) (blocked : Bool) (refused : Table Bytes)
    (puts gets : List Bytes) : World where
  store := { dir, blocked, refused }
  threads := puts.map (fun k => .put k (prog k) .start) ++ gets.map (fun k => .get k (.start k))

/-- Call `i` takes one atomic step; an index with no call changes nothing. -/
def step (w : World) (i : Nat) : World :=
  match w.threads[i]? with
  | some t => { store := (w.store.advance t).2, threads := w.threads.set i (w.store.advance t).1 }
  | none => w

/-- The calls take steps in the order a schedule gives. -/
def run (w : World) (sched : List Nat) : World := sched.foldl step w

end World

/-! ## Each call, run alone, is the sequential one -/

/-- The writes a Put of `p` under `k` has left are the last of its writes. -/
def Writer.Within (k : Bytes) (p : Program) : Writer → Prop
  | .writing ws _ => ws <:+ putWrites k p
  | _ => True

section Safety

variable (prog : Bytes → Program)

/-- The bytes that Puts of `prog k` under keys `k` with no separator write at the path `x` of a
cache in `dir`: a stage of the key whose data file `x` is. -/
def DataOf (dir x b : Bytes) : Prop :=
  ∃ k, Path.sep ∉ k ∧ (x = Path.join dir (vertexFile k) ∧ b = (prog k).vertex ∨
    x = Path.join dir (fragmentFile k) ∧ b = (prog k).fragment)

/-- The files of a store as Puts of `prog` under keys with no separator leave them: each data
file holds the stage of the key it belongs to, and each metadata file is the entry's of its
key, one for which `placed` holds. -/
structure Files (placed : Bytes → Prop) (s : Store) : Prop where
  data : ∀ x b, s.data.get? x = some b → DataOf prog s.dir x b
  metas : ∀ x m, s.metas.get? x = some m →
    ∃ k, Path.sep ∉ k ∧ x = Path.join s.dir (metaFile k) ∧ m = entryMeta k ∧ placed k

/-- What a Get of `g` holds between its reads when Puts store `prog`: the names of its key's data
files, then the vertex bytes of `prog g`, then a miss or the stages of `prog g`. A state past the
metadata needs `placed`: some Put of `g` has placed its files. -/
def Reader.Sound (g : Bytes) (placed : Prop) : Reader → Prop
  | .start k => k = g
  | .vertex vf ff => vf = vertexFile g ∧ ff = fragmentFile g ∧ Path.sep ∉ g ∧ placed
  | .fragment ff v => ff = fragmentFile g ∧ v = (prog g).vertex ∧ Path.sep ∉ g ∧ placed
  | .done none => True
  | .done (some q) => q = { vertex := (prog g).vertex, fragment := (prog g).fragment } ∧ placed

/-- Some Put of `k` in the world, storing `prog k`, has placed its files. -/
def World.Placed (w : World) (k : Bytes) : Prop :=
  ∃ (j : Nat) (wr : Writer), w.threads[j]? = some (.put k (prog k) wr) ∧ wr.placed = true

/-- The invariant of a world whose Puts store `prog` under keys with no separator: the files
hold only what those Puts write, each Put has its own writes left, and each Get holds what it
read from such files. -/
structure World.Safe (w : World) : Prop where
  files : Files prog (w.Placed prog) w.store
  puts : ∀ (i : Nat) k p wr, w.threads[i]? = some (.put k p wr) →
    Path.sep ∉ k ∧ p = prog k ∧ wr.Within k p
  gets : ∀ (i : Nat) g r, w.threads[i]? = some (.get g r) → r.Sound prog g (w.Placed prog g)

end Safety

/-! ## One step keeps the invariant -/

namespace Writer

variable {s : Store} {k : Bytes} {p : Program} {wr : Writer}

theorem placed_putStep (h : wr.placed = true) : (s.putStep k p wr).1.placed = true := by
  match wr, h with
  | .writing [] _, _ => rfl
  | .done (.ok ()), _ => rfl

theorem Within.putStep (h : wr.Within k p) : (s.putStep k p wr).1.Within k p := by
  match wr with
  | .start =>
    simp only [Store.putStep]
    split
    · trivial
    · exact List.suffix_refl _
  | .writing [] _ => trivial
  | .writing (w :: ws) false =>
    simp only [Store.putStep]
    split
    · trivial
    · exact h
  | .writing (w :: ws) true => exact (List.suffix_cons w ws).trans h
  | .done r => trivial

end Writer

/-- A Put's step changes the files only when it renames a temporary file: the first of the
writes it has left. -/
theorem Store.putStep_cases (s : Store) (k : Bytes) (p : Program) (wr : Writer) :
    (s.putStep k p wr).2 = s ∨
      ∃ x ws, wr = .writing (x :: ws) true ∧ s.putStep k p wr = (.writing ws false, s.rename x) := by
  match wr with
  | .start =>
    left
    simp only [putStep]
    split <;> rfl
  | .writing [] _ => exact .inl rfl
  | .writing (w :: ws) false =>
    left
    simp only [putStep]
    split <;> rfl
  | .writing (w :: ws) true => exact .inr ⟨w, ws, rfl, rfl⟩
  | .done r => exact .inl rfl

/-- The first of the writes a Put has left is a data file, or the metadata and then nothing. -/
theorem cons_suffix_putWrites {k : Bytes} {p : Program} {x : Write} {ws : List Write}
    (h : x :: ws <:+ putWrites k p) :
    x = .data (vertexFile k) p.vertex ∨ x = .data (fragmentFile k) p.fragment ∨
      (x = .metadata (metaFile k) (entryMeta k) ∧ ws = []) := by
  simp only [putWrites, List.suffix_cons_iff, List.cons.injEq, List.suffix_nil, reduceCtorEq,
    or_false] at h
  rcases h with ⟨rfl, -⟩ | ⟨rfl, -⟩ | ⟨rfl, rfl⟩
  · exact .inl rfl
  · exact .inr (.inl rfl)
  · exact .inr (.inr ⟨rfl, rfl⟩)

section Safety

variable {prog : Bytes → Program}

theorem Reader.Sound.mono {g : Bytes} {P Q : Prop} {r : Reader} (h : r.Sound prog g P)
    (hPQ : P → Q) : r.Sound prog g Q := by
  match r, h with
  | .start _, h => exact h
  | .vertex _ _, ⟨h₁, h₂, h₃, hP⟩ => exact ⟨h₁, h₂, h₃, hPQ hP⟩
  | .fragment _ _, ⟨h₁, h₂, h₃, hP⟩ => exact ⟨h₁, h₂, h₃, hPQ hP⟩
  | .done none, _ => trivial
  | .done (some _), ⟨h₁, hP⟩ => exact ⟨h₁, hPQ hP⟩

namespace Files

variable {P Q : Bytes → Prop} {s : Store}

theorem mono (h : Files prog P s) (hPQ : ∀ k, P k → Q k) : Files prog Q s := by
  refine ⟨h.data, ?_⟩
  intro x m hm
  obtain ⟨k, hk, hx, hmk, hP⟩ := h.metas x m hm
  exact ⟨k, hk, hx, hmk, hPQ k hP⟩

theorem rename_data (h : Files prog P s) {n b : Bytes}
    (hb : DataOf prog s.dir (Path.join s.dir n) b) : Files prog P (s.rename (.data n b)) := by
  refine ⟨?_, h.metas⟩
  intro x b' hx
  simp only [Store.rename] at hx ⊢
  by_cases hxn : x = Path.join s.dir n
  · subst hxn
    rw [Table.get?_set_self] at hx
    cases hx
    exact hb
  · rw [Table.get?_set_of_ne _ _ hxn] at hx
    exact h.data x b' hx

theorem rename_meta (h : Files prog P s) {k : Bytes} (hk : Path.sep ∉ k) (hP : P k) :
    Files prog P (s.rename (.metadata (metaFile k) (entryMeta k))) := by
  refine ⟨h.data, ?_⟩
  intro x m hm
  simp only [Store.rename] at hm ⊢
  by_cases hxk : x = Path.join s.dir (metaFile k)
  · subst hxk
    rw [Table.get?_set_self] at hm
    cases hm
    exact ⟨k, hk, rfl, rfl, hP⟩
  · rw [Table.get?_set_of_ne _ _ hxk] at hm
    exact h.metas x m hm

/-- **A read keeps a Get sound.** The metadata a Get finds under its key names the key only
when it is the entry's of that very key, which JSON gave back unchanged; the data files it
then reads hold that key's stages or nothing. -/
theorem read (h : Files prog P s) {g : Bytes} {r : Reader} (hr : r.Sound prog g (P g)) :
    (s.read r).Sound prog g (P g) := by
  match r, hr with
  | .start _, rfl =>
    cases hm : s.metas.get? (Path.join s.dir (metaFile g)) with
    | none => simp [Store.read, hm, Reader.Sound]
    | some m =>
      obtain ⟨k, hk, hx, rfl, hP⟩ := h.metas _ _ hm
      by_cases hkey : Glyph.scrub k = g
      · -- the key read back has no separator and names the same file, so it is `k` itself
        have hg : Path.sep ∉ g := hkey ▸ Glyph.sep_not_mem_scrub hk
        obtain ⟨rfl, -⟩ := join_entryName_inj s.dir hg hk metaEnding_mem metaEnding_mem hx
        have hu : Glyph.isUtf8 g := Glyph.isUtf8_of_scrub_eq hkey
        simp [Store.read, hm, entryMeta_of_isUtf8 hu, Reader.Sound, hg, hP]
      · simp [Store.read, hm, entryMeta, hkey, Reader.Sound]
  | .vertex _ _, ⟨rfl, rfl, hg, hP⟩ =>
    cases hv : s.data.get? (Path.join s.dir (vertexFile g)) with
    | none => simp [Store.read, hv, Reader.Sound]
    | some b =>
      obtain ⟨k, hk, ⟨hx, rfl⟩ | ⟨hx, -⟩⟩ := h.data _ _ hv
      · obtain ⟨rfl, -⟩ := join_entryName_inj s.dir hg hk vertexEnding_mem vertexEnding_mem hx
        simp [Store.read, hv, Reader.Sound, hg, hP]
      · exact absurd (join_entryName_inj s.dir hg hk vertexEnding_mem fragmentEnding_mem hx).2
          vertexEnding_ne_fragmentEnding
  | .fragment _ _, ⟨rfl, rfl, hg, hP⟩ =>
    cases hf : s.data.get? (Path.join s.dir (fragmentFile g)) with
    | none => simp [Store.read, hf, Reader.Sound]
    | some b =>
      obtain ⟨k, hk, ⟨hx, -⟩ | ⟨hx, rfl⟩⟩ := h.data _ _ hf
      · exact absurd (join_entryName_inj s.dir hg hk fragmentEnding_mem vertexEnding_mem hx).2
          vertexEnding_ne_fragmentEnding.symm
      · obtain ⟨rfl, -⟩ := join_entryName_inj s.dir hg hk fragmentEnding_mem fragmentEnding_mem hx
        simp [Store.read, hf, Reader.Sound, hP]
  | .done _, hr => exact hr

end Files

namespace World

variable {w : World} {i : Nat}

theorem step_of_some {t : Thread} (h : w.threads[i]? = some t) :
    w.step i = ⟨(w.store.advance t).2, w.threads.set i (w.store.advance t).1⟩ := by
  simp [step, h]

theorem step_of_none (h : w.threads[i]? = none) : w.step i = w := by
  simp [step, h]

/-- A Put that has placed its files stays so. -/
theorem Placed.step {k : Bytes} (h : w.Placed prog k) (i : Nat) : (w.step i).Placed prog k := by
  obtain ⟨j, wr, hj, hpl⟩ := h
  cases hi : w.threads[i]? with
  | none =>
    rw [step_of_none hi]
    exact ⟨j, wr, hj, hpl⟩
  | some t =>
    rw [step_of_some hi]
    by_cases hij : i = j
    · subst hij
      rw [hj] at hi
      cases hi
      have hlen : i < w.threads.length := (List.getElem?_eq_some_iff.1 hj).1
      exact ⟨i, _, List.getElem?_set_self hlen, Writer.placed_putStep hpl⟩
    · exact ⟨j, wr, by rw [List.getElem?_set_ne hij, hj], hpl⟩

/-- A Get's read keeps the world safe: the files stay, and the Get's next state is sound. -/
theorem Safe.step_get (h : w.Safe prog) {g : Bytes} {r : Reader}
    (hi : w.threads[i]? = some (.get g r)) : (w.step i).Safe prog := by
  have hmono : ∀ k, w.Placed prog k → (w.step i).Placed prog k := fun k hk => hk.step i
  have hlen : i < w.threads.length := (List.getElem?_eq_some_iff.1 hi).1
  rw [step_of_some hi] at hmono ⊢
  refine ⟨h.files.mono hmono, ?_, ?_⟩
  · intro j k p wr hj
    by_cases hij : i = j
    · subst hij
      simp [Store.advance, List.getElem?_set_self hlen] at hj
    · rw [List.getElem?_set_ne hij] at hj
      exact h.puts j k p wr hj
  · intro j g' r' hj
    by_cases hij : i = j
    · subst hij
      simp only [Store.advance, List.getElem?_set_self hlen, Option.some.injEq,
        Thread.get.injEq] at hj
      obtain ⟨rfl, rfl⟩ := hj
      exact (h.files.read (h.gets i g r hi)).mono (hmono g)
    · rw [List.getElem?_set_ne hij] at hj
      exact (h.gets j g' r' hj).mono (hmono g')

/-- A Put's step keeps the world safe: a rename puts in place a file the invariant allows, and
the rename of the metadata, the Put's last write, places the Put's files. -/
theorem Safe.step_put (h : w.Safe prog) {k : Bytes} {p : Program} {wr : Writer}
    (hi : w.threads[i]? = some (.put k p wr)) : (w.step i).Safe prog := by
  obtain ⟨hk, rfl, hwr⟩ := h.puts i k p wr hi
  have hmono : ∀ k, w.Placed prog k → (w.step i).Placed prog k := fun k hk => hk.step i
  have hlen : i < w.threads.length := (List.getElem?_eq_some_iff.1 hi).1
  have hnew : (w.step i).threads[i]? = some (.put k (prog k) (w.store.putStep k (prog k) wr).1) := by
    rw [step_of_some hi]
    exact List.getElem?_set_self hlen
  refine ⟨?_, ?_, ?_⟩
  · rw [step_of_some hi] at hmono ⊢
    simp only [Store.advance] at hmono ⊢
    rcases Store.putStep_cases w.store k (prog k) wr with hs | ⟨x, ws, rfl, hstep⟩
    · rw [hs]
      exact h.files.mono hmono
    · rw [hstep] at hmono ⊢
      obtain rfl | rfl | ⟨rfl, rfl⟩ := cons_suffix_putWrites hwr
      · exact (h.files.mono hmono).rename_data ⟨k, hk, .inl ⟨rfl, rfl⟩⟩
      · exact (h.files.mono hmono).rename_data ⟨k, hk, .inr ⟨rfl, rfl⟩⟩
      · -- the metadata is the Put's last write: its files are now all in place
        refine (h.files.mono hmono).rename_meta hk ⟨i, .writing [] false, ?_, rfl⟩
        exact List.getElem?_set_self hlen
  · intro j k' p' wr' hj
    by_cases hij : i = j
    · subst hij
      rw [hnew] at hj
      simp only [Option.some.injEq, Thread.put.injEq] at hj
      obtain ⟨rfl, rfl, rfl⟩ := hj
      exact ⟨hk, rfl, hwr.putStep⟩
    · rw [step_of_some hi, List.getElem?_set_ne hij] at hj
      exact h.puts j k' p' wr' hj
  · intro j g r hj
    by_cases hij : i = j
    · subst hij
      rw [hnew] at hj
      cases hj
    · have hj' : w.threads[j]? = some (.get g r) := by
        rwa [step_of_some hi, List.getElem?_set_ne hij] at hj
      exact (h.gets j g r hj').mono (hmono g)

/-- **Every step keeps the world safe.** -/
theorem Safe.step (h : w.Safe prog) (i : Nat) : (w.step i).Safe prog := by
  cases hi : w.threads[i]? with
  | none =>
    rw [step_of_none hi]
    exact h
  | some t =>
    cases t with
    | put k p wr => exact h.step_put hi
    | get g r => exact h.step_get hi

/-- **Every run keeps the world safe**, whatever the schedule. -/
theorem Safe.run (h : w.Safe prog) (sched : List Nat) : (w.run sched).Safe prog := by
  induction sched generalizing w with
  | nil => exact h
  | cons i sched ih => exact ih (h.step i)

end World

end Safety

/-- The calls begun on a cache with no files, with Puts under keys with no separator, make a
safe world. -/
theorem World.Safe.begin (prog : Bytes → Program) (dir : Bytes) (blocked : Bool)
    (refused : Table Bytes) {puts : List Bytes} (hputs : ∀ k ∈ puts, Path.sep ∉ k)
    (gets : List Bytes) : (World.begin prog dir blocked refused puts gets).Safe prog := by
  refine ⟨⟨?_, ?_⟩, ?_, ?_⟩
  · intro x b hx
    simp [World.begin, Table.get?] at hx
  · intro x m hm
    simp [World.begin, Table.get?] at hm
  · intro i k p wr hi
    have hmem := List.mem_of_getElem? hi
    simp only [World.begin, List.mem_append, List.mem_map, Thread.put.injEq, reduceCtorEq,
      and_false, exists_false, or_false] at hmem
    obtain ⟨k, hk, rfl, rfl, rfl⟩ := hmem
    exact ⟨hputs k hk, rfl, trivial⟩
  · intro i g r hi
    have hmem := List.mem_of_getElem? hi
    simp only [World.begin, List.mem_append, List.mem_map, Thread.get.injEq, reduceCtorEq,
      and_false, exists_false, false_or] at hmem
    obtain ⟨g, -, rfl, rfl⟩ := hmem
    rfl

namespace World

variable {w : World} {i : Nat}

end World

-- Why no Put's key may hold a separator: keys with one share files, and JSON can turn one key
-- into another. The keys `k₁ = "�/../b"` and `k₂ = "\xff/../b"` both name the files of `b`, and
-- the metadata of `k₂` names `k₁`, since JSON writes the stray byte as U+FFFD. After a Put of `q`
-- under `k₁` and a Put of `p` under `k₂`, both without error, a Get of `k₁` returns `p`.
example :
    let s : Store := { dir := [99] }
    let k₁ : Bytes := [0xEF, 0xBF, 0xBD, 47, 46, 46, 47, 98]
    let k₂ : Bytes := [0xFF, 47, 46, 46, 47, 98]
    let q : Program := { vertex := [113], fragment := [113] }
    let p : Program := { vertex := [112], fragment := [112] }
    (s.put k₁ q).1 = .ok () ∧ ((s.put k₁ q).2.put k₂ p).1 = .ok () ∧
      (((s.put k₁ q).2.put k₂ p).2.get k₁).1 = some { vertex := p.vertex, fragment := p.fragment } := by
  decide +kernel

end Cache

end ShaderVariants
