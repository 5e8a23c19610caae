import Mathlib
import ShaderVariants.Batch
/-!
# Batch results do not depend on the schedule

A run that is not fail-fast starts one job per unit, all at once under a job limit, and waits
for every job before it counts the failures; no job fails the run early, so no build sees a
canceled context. A job builds its unit, then stores the result at the unit's own index of the
run's result list, which starts out as blank results. In a dry run a build writes nothing: it
reads only the configuration, the options and the files, so no other job can change what it
sees, and its steps may be taken as one. A `Batch.Pool` holds each job where it stands and the
result list as the stores left it, and a schedule picks the job that takes the next step, in any
order: `Batch.runScheduled`.

* **After any schedule a job's standing is its count of steps** (`Batch.Pool.run_after`): the
  pool a dry run reaches is `Batch.Pool.after` of how many times the schedule named each job, so
  two schedules that name each job as often reach the same pool.
* **Every schedule that lets each job finish gives the sequential run's report**
  (`Batch.runScheduled_eq_run`): one result per unit, in the configuration's order, each the
  build of its own unit, and a failure that counts the failed units among all of them.

A fail-fast run, taken one unit at a time, is another matter: its first failure cancels the
context. The run is stopped only when it is fail-fast, and then by its first failure
(`Batch.run_stoppedBy`), and every unit after that failure stops before it starts
(`Batch.run_failFast_cancels`).
-/

namespace ShaderVariants

namespace Batch

/-! ## §1 — A dry build writes nothing -/

section Build

variable (cfg : Config) (opts : BatchOptions) (dir : Bytes) (disk : Disk)

/-- A dry build leaves the directory as it found it. -/
theorem buildUnit_disk_of_dryRun (hdry : opts.dryRun = true) (u : ShaderEntry × Permutation) :
    (buildUnit cfg opts dir disk u).2 = disk := by
  obtain ⟨shader, perm⟩ := u
  unfold buildUnit
  obtain ⟨flags, values⟩ := perm.merge cfg.flags cfg.values
  dsimp only
  -- the load fails, the compiler rejects, or the build stops before writing
  split
  · rfl
  · split
    · rfl
    · simp [hdry]

/-- A unit's result names its shader and its permutation, whatever the build did. -/
theorem buildUnit_names (u : ShaderEntry × Permutation) :
    (buildUnit cfg opts dir disk u).1.shader = u.1.name ∧
      (buildUnit cfg opts dir disk u).1.permutation = u.2.name := by
  obtain ⟨shader, perm⟩ := u
  unfold buildUnit
  obtain ⟨flags, values⟩ := perm.merge cfg.flags cfg.values
  dsimp only
  split
  · exact ⟨rfl, rfl⟩
  · split
    · exact ⟨rfl, rfl⟩
    · split
      · exact ⟨rfl, rfl⟩
      · split <;> exact ⟨rfl, rfl⟩

/-- A run that is not fail-fast and not yet stopped builds its next unit as `buildUnit` does,
and stays unstopped. -/
theorem Progress.next_of_failFast_false (hfast : opts.failFast = false) (rs : List UnitResult)
    (u : ShaderEntry × Permutation) :
    Progress.next cfg opts dir { results := rs, disk } u =
      { results := rs ++ [(buildUnit cfg opts dir disk u).1],
        disk := (buildUnit cfg opts dir disk u).2 } := by
  simp [Progress.next, buildUnitIn, hfast]

/-- The sequential dry run that is not fail-fast builds every unit from the same directory, in
order, and is never stopped. -/
theorem run_of_dryRun (hdry : opts.dryRun = true) (hfast : opts.failFast = false) :
    Batch.run cfg opts disk =
      { results := (units cfg).map fun u => (buildUnit cfg opts (outputDir cfg opts) disk u).1,
        outputDir := outputDir cfg opts, disk } := by
  -- the fold keeps the directory at `disk`, never stops, and appends one result per unit
  have hfold : ∀ (us : List (ShaderEntry × Permutation)) (rs : List UnitResult),
      us.foldl (Progress.next cfg opts (outputDir cfg opts)) { results := rs, disk } =
        { results := rs ++ us.map fun u => (buildUnit cfg opts (outputDir cfg opts) disk u).1,
          disk } := by
    intro us
    induction us with
    | nil => simp
    | cons u us ih =>
      intro rs
      rw [List.foldl_cons, Progress.next_of_failFast_false cfg opts _ disk hfast,
        buildUnit_disk_of_dryRun cfg opts _ disk hdry, ih]
      simp
  unfold Batch.run
  dsimp only
  rw [hfold (units cfg) []]
  simp

end Build

/-! ## §2 — Jobs and their steps -/

/-- Where a unit's job stands in a run. -/
inductive Job where
  /-- Not started, for this unit. -/
  | waiting (u : ShaderEntry × Permutation)
  /-- Built, with its result not yet stored. -/
  | built (r : UnitResult)
  /-- Its result stored. -/
  | stored

/-- A run in progress: each unit's job, the result list and the directory. -/
@[ext]
structure Pool where
  jobs : List Job
  results : List UnitResult
  disk : Disk

/-- A result list's entry before its job stores into it. -/
def blankResult : UnitResult := { shader := [], permutation := [] }

/-- The jobs of a run before any has started: one waiting job per unit, and blank results. -/
def Pool.begin (cfg : Config) (disk : Disk) : Pool where
  jobs := (units cfg).map .waiting
  results := List.replicate (units cfg).length blankResult
  disk := disk

/-- Job `i` takes one step: a waiting job builds its unit, a built job stores its result at its
own index, and a finished job, or an index with no job, changes nothing. -/
def Pool.step (cfg : Config) (opts : BatchOptions) (dir : Bytes) (p : Pool) (i : Nat) : Pool :=
  match p.jobs[i]? with
  | some (.waiting u) =>
    let (r, disk) := buildUnit cfg opts dir p.disk u
    { p with jobs := p.jobs.set i (.built r), disk }
  | some (.built r) => { p with jobs := p.jobs.set i .stored, results := p.results.set i r }
  | _ => p

/-- The jobs take steps in the order a schedule gives. -/
def Pool.run (cfg : Config) (opts : BatchOptions) (dir : Bytes) (p : Pool) (sched : List Nat) :
    Pool :=
  sched.foldl (Pool.step cfg opts dir) p

/-- A run whose jobs take their steps in the order a schedule gives, reported as the pool stands
when the schedule ends. -/
def runScheduled (cfg : Config) (opts : BatchOptions) (disk : Disk) (sched : List Nat) :
    BatchReport :=
  let dir := outputDir cfg opts
  let p := (Pool.begin cfg disk).run cfg opts dir sched
  { results := p.results, outputDir := dir, disk := p.disk }

/-! ## §3 — A job's standing is its count of steps -/

/-- The job of unit `u`, whose build gives `r`, after it took `k` steps. -/
def Job.after (r : UnitResult) (u : ShaderEntry × Permutation) : Nat → Job
  | 0 => .waiting u
  | 1 => .built r
  | _ + 2 => .stored

/-- The result entry of a unit whose build gives `r`, after its job took `k` steps. -/
def slotAfter (r : UnitResult) (k : Nat) : UnitResult := if 2 ≤ k then r else blankResult

section Standing

variable (cfg : Config) (opts : BatchOptions) (dir : Bytes) (disk : Disk)

/-- The pool of a dry run from `disk` in which job `j` has taken `c j` steps. -/
def Pool.after (c : Nat → Nat) : Pool where
  jobs := (units cfg).mapIdx fun j u => Job.after (buildUnit cfg opts dir disk u).1 u (c j)
  results := (units cfg).mapIdx fun j u => slotAfter (buildUnit cfg opts dir disk u).1 (c j)
  disk := disk

/-- One more step of job `i` changes entry `i` of a listing by counts to its next value, and only
that entry. -/
theorem mapIdx_raise {α β : Type} (l : List α) (F : α → Nat → β) (c : Nat → Nat) (i : Nat)
    (u : α) (hu : l[i]? = some u) :
    (l.mapIdx fun j v => F v (c j)).set i (F u (c i + 1)) =
      l.mapIdx fun j v => F v (c j + if i = j then 1 else 0) := by
  have hi : i < l.length := (List.getElem?_eq_some_iff.1 hu).1
  apply List.ext_getElem?
  intro j
  by_cases hij : i = j
  · subst hij
    rw [List.getElem?_set_self (by simpa using hi), List.getElem?_mapIdx, hu]
    simp
  · simp [List.getElem?_mapIdx, hij]

/-- A step of job `i` that leaves its entry's value as it was leaves the listing as it was. -/
theorem mapIdx_raise_of_eq {α β : Type} (l : List α) (F : α → Nat → β) (c : Nat → Nat) (i : Nat)
    (hF : ∀ u, l[i]? = some u → F u (c i + 1) = F u (c i)) :
    (l.mapIdx fun j v => F v (c j)) = l.mapIdx fun j v => F v (c j + if i = j then 1 else 0) := by
  apply List.ext_getElem?
  intro j
  by_cases hij : i = j
  · subst hij
    cases hu : l[i]? with
    | none => simp [List.getElem?_mapIdx, hu]
    | some u => simp [List.getElem?_mapIdx, hu, hF u hu]
  · simp [List.getElem?_mapIdx, hij]

/-- **The step lemma.** In a dry run, a step of job `i` raises its count by one. -/
theorem Pool.step_after (hdry : opts.dryRun = true) (c : Nat → Nat) (i : Nat) :
    (Pool.after cfg opts dir disk c).step cfg opts dir i =
      Pool.after cfg opts dir disk (fun j => c j + if i = j then 1 else 0) := by
  have hjob : (Pool.after cfg opts dir disk c).jobs[i]? =
      (units cfg)[i]?.map fun u => Job.after (buildUnit cfg opts dir disk u).1 u (c i) :=
    List.getElem?_mapIdx
  -- the jobs and the results, listed by counts
  have hjobs := mapIdx_raise (units cfg) (fun v k => Job.after (buildUnit cfg opts dir disk v).1 v k) c i
  have hslots := mapIdx_raise (units cfg) (fun v k => slotAfter (buildUnit cfg opts dir disk v).1 k) c i
  have hjobs' := mapIdx_raise_of_eq (units cfg)
    (fun v k => Job.after (buildUnit cfg opts dir disk v).1 v k) c i
  have hslots' := mapIdx_raise_of_eq (units cfg)
    (fun v k => slotAfter (buildUnit cfg opts dir disk v).1 k) c i
  cases hu : (units cfg)[i]? with
  | none =>
    -- no job `i`: its count is read by no entry
    rw [hu, Option.map_none] at hjob
    simp only [Pool.step, hjob]
    ext1
    · exact hjobs' (by simp [hu])
    · exact hslots' (by simp [hu])
    · rfl
  | some u =>
    rw [hu, Option.map_some] at hjob
    have hdisk := buildUnit_disk_of_dryRun cfg opts dir disk hdry u
    -- the job has taken no step, one step, or finished
    rcases hc : c i with _ | _ | k
    · have hraised := hjobs u hu
      rw [hc] at hraised
      simp only [Pool.step, hjob, hc, Job.after]
      ext1
      · exact hraised
      · exact hslots' (by simp [hc, slotAfter])
      · exact hdisk
    · have hraised := hjobs u hu
      have hstored := hslots u hu
      rw [hc] at hraised hstored
      simp only [Pool.step, hjob, hc, Job.after]
      ext1
      · exact hraised
      · exact hstored
      · rfl
    · simp only [Pool.step, hjob, hc, Job.after]
      ext1
      · exact hjobs' (by simp [hc, Job.after])
      · exact hslots' (by simp [hc, slotAfter])
      · rfl

/-- **The run lemma.** In a dry run, a schedule raises each job's count by how often it names
the job. -/
theorem Pool.run_after (hdry : opts.dryRun = true) (c : Nat → Nat) (sched : List Nat) :
    (Pool.after cfg opts dir disk c).run cfg opts dir sched =
      Pool.after cfg opts dir disk (fun j => c j + sched.count j) := by
  induction sched generalizing c with
  | nil => rfl
  | cons i sched ih =>
    have hstep := Pool.step_after cfg opts dir disk hdry c i
    simp only [Pool.run, List.foldl_cons] at ih ⊢
    rw [hstep, ih]
    congr 1
    funext j
    simp only [List.count_cons, beq_iff_eq]
    omega

/-- The jobs of a run before any has started have taken no step. -/
theorem Pool.begin_eq_after : Pool.begin cfg disk = Pool.after cfg opts dir disk fun _ => 0 := by
  ext1
  · apply List.ext_getElem?
    intro j
    simp only [Pool.begin, Pool.after, List.getElem?_map, List.getElem?_mapIdx]
    cases (units cfg)[j]? <;> rfl
  · apply List.ext_getElem?
    intro j
    simp only [Pool.begin, Pool.after, List.getElem?_replicate, List.getElem?_mapIdx]
    cases hu : (units cfg)[j]? with
    | none => simp [List.getElem?_eq_none_iff.1 hu]
    | some u => simp [(List.getElem?_eq_some_iff.1 hu).1, slotAfter]
  · rfl

/-- Once every job has taken two steps, every entry holds its own unit's build. -/
theorem Pool.after_results (c : Nat → Nat) (hc : ∀ i < (units cfg).length, 2 ≤ c i) :
    (Pool.after cfg opts dir disk c).results =
      (units cfg).map fun u => (buildUnit cfg opts dir disk u).1 := by
  apply List.ext_getElem?
  intro j
  simp only [Pool.after, List.getElem?_mapIdx, List.getElem?_map]
  cases hu : (units cfg)[j]? with
  | none => rfl
  | some u => simp [slotAfter, hc j (List.getElem?_eq_some_iff.1 hu).1]

end Standing

/-! ## §4 — Every finishing schedule gives the sequential run -/

/-- **Batch results do not depend on the schedule.** In a dry run that is not fail-fast, every
schedule that names each job at least twice ends with the sequential run's report: one result per unit, in the
configuration's order, each its own unit's build and named for it, the directory untouched, and
a failure exactly when some unit failed, counting the failed units among all of them. -/
theorem runScheduled_eq_run (cfg : Config) (opts : BatchOptions) (disk : Disk) (sched : List Nat)
    (hdry : opts.dryRun = true) (hfast : opts.failFast = false)
    (hfinish : ∀ i < (units cfg).length, 2 ≤ sched.count i) :
    runScheduled cfg opts disk sched = Batch.run cfg opts disk ∧
      (Batch.run cfg opts disk).results =
        (units cfg).map (fun u => (buildUnit cfg opts (outputDir cfg opts) disk u).1) ∧
      (Batch.run cfg opts disk).results.map (fun r => (r.shader, r.permutation)) =
        (units cfg).map (fun u => (u.1.name, u.2.name)) ∧
      (Batch.run cfg opts disk).disk = disk ∧
      ((Batch.run cfg opts disk).failure? = none ↔
        ∀ r ∈ (Batch.run cfg opts disk).results, r.failure = none) ∧
      (0 < (Batch.run cfg opts disk).failed → (Batch.run cfg opts disk).failure? =
        some (Bytes.ofString "shader build failed: " ++ Bytes.ofNat (Batch.run cfg opts disk).failed ++
          Bytes.ofString " of " ++ Bytes.ofNat (units cfg).length ++ Bytes.ofString " units")) := by
  have hrun := run_of_dryRun cfg opts disk hdry hfast
  have hstop : (Batch.run cfg opts disk).stoppedBy = none := by rw [hrun]
  have hsched : runScheduled cfg opts disk sched = Batch.run cfg opts disk := by
    have hpool := Pool.run_after cfg opts (outputDir cfg opts) disk hdry (fun _ => 0) sched
    rw [← Pool.begin_eq_after] at hpool
    unfold runScheduled
    dsimp only
    rw [hpool, hrun, Pool.after_results cfg opts (outputDir cfg opts) disk _ (by simpa using hfinish)]
    rfl
  refine ⟨hsched, by rw [hrun], ?_, by rw [hrun], ?_, ?_⟩
  · rw [hrun, List.map_map]
    apply List.map_congr_left
    intro u _
    obtain ⟨hs, hp⟩ := buildUnit_names cfg opts (outputDir cfg opts) disk u
    simp [hs, hp]
  · -- no failed unit is an empty filter
    simp [BatchReport.failure?, hstop, BatchReport.failed, List.filter_eq_nil_iff]
  · intro hk
    have hlen : (Batch.run cfg opts disk).results.length = (units cfg).length := by
      rw [hrun, List.length_map]
    simp only [BatchReport.failure?, hstop, hlen]
    rw [if_neg (by simpa using Nat.pos_iff_ne_zero.1 hk)]

/-- Three units (shader `s` in permutations `a` and `b`, shader `t` only in `b`) whose jobs take
their steps interleaved, the last unit's first. -/
theorem runScheduled_eq_run_sample :
    let cfg : Config :=
      { shaders := [{ name := Bytes.ofString "s", path := Bytes.ofString "s.glsl" },
          { name := Bytes.ofString "t", path := Bytes.ofString "t.glsl",
            permutations := [Bytes.ofString "b"] }],
        permutations := [{ name := Bytes.ofString "a" }, { name := Bytes.ofString "b" }] }
    let opts : BatchOptions := { dryRun := true, loader := Loader.ofTable [] }
    let sched := [2, 0, 2, 1, 0, 1]
    opts.dryRun = true ∧ opts.failFast = false ∧ (∀ i < (units cfg).length, 2 ≤ sched.count i) ∧
      runScheduled cfg opts {} sched = Batch.run cfg opts {} ∧
      (runScheduled cfg opts {} sched).results.map (fun r => (r.shader, r.permutation)) =
        [(Bytes.ofString "s", Bytes.ofString "a"), (Bytes.ofString "s", Bytes.ofString "b"),
          (Bytes.ofString "t", Bytes.ofString "b")] := by
  intro cfg opts sched
  have hfinish : ∀ i < (units cfg).length, 2 ≤ sched.count i := by
    rw [show (units cfg).length = 3 by cbv]
    decide
  obtain ⟨hsched, -, hnames, -⟩ := runScheduled_eq_run cfg opts {} sched rfl rfl hfinish
  refine ⟨rfl, rfl, hfinish, hsched, ?_⟩
  rw [hsched, hnames]
  cbv

/-! ## §5 — A fail-fast run stops at its first failure -/

section FailFast

variable (cfg : Config) (opts : BatchOptions) (dir : Bytes)

/-- **The step lemma of a stopped run.** Once a run is stopped, its next unit is reported
canceled, nothing is written, and the run stays stopped by the same failure. -/
theorem Progress.next_of_stopped (p : Progress) {e : UnitFailure} (hp : p.stoppedBy = some e)
    (u : ShaderEntry × Permutation) :
    p.next cfg opts dir u =
      { results := p.results ++ [canceledResult u], disk := p.disk, stoppedBy := some e } := by
  simp [Progress.next, buildUnitIn, hp]

/-- **The run lemma of a stopped run.** Every unit after the stop is reported canceled, and the
directory is left as the stop found it. -/
theorem Progress.foldl_next_of_stopped {e : UnitFailure} (us : List (ShaderEntry × Permutation)) :
    ∀ p : Progress, p.stoppedBy = some e →
      us.foldl (Progress.next cfg opts dir) p =
        { results := p.results ++ us.map canceledResult, disk := p.disk, stoppedBy := some e } := by
  induction us with
  | nil =>
    intro p hp
    obtain ⟨rs, d, stop⟩ := p
    simp only at hp
    simp [hp]
  | cons u us ih =>
    intro p hp
    rw [List.foldl_cons, Progress.next_of_stopped cfg opts dir p hp, ih _ rfl]
    simp

/-- A run's results only grow: those so far stay in front, and each unit adds one. -/
theorem Progress.foldl_next_results (us : List (ShaderEntry × Permutation)) :
    ∀ p : Progress, ∃ rs, (us.foldl (Progress.next cfg opts dir) p).results = p.results ++ rs ∧
      rs.length = us.length := by
  induction us with
  | nil => intro p; exact ⟨[], by simp, rfl⟩
  | cons u us ih =>
    intro p
    obtain ⟨rs, hrs, hlen⟩ := ih (p.next cfg opts dir u)
    refine ⟨(buildUnitIn p.stoppedBy.isSome cfg opts dir p.disk u).1 :: rs, ?_, by simp [hlen]⟩
    rw [List.foldl_cons, hrs]
    simp [Progress.next]

/-- The run's record of its stop: the first failure among the results when the run is
fail-fast, and none otherwise. -/
def Progress.Tracks (opts : BatchOptions) (p : Progress) : Prop :=
  p.stoppedBy = if opts.failFast then p.results.findSome? UnitResult.failure else none

/-- **The step lemma of the stop record.** -/
theorem Progress.next_tracks {p : Progress} (hp : p.Tracks opts) (u : ShaderEntry × Permutation) :
    (p.next cfg opts dir u).Tracks opts := by
  unfold Progress.Tracks at hp ⊢
  simp only [Progress.next, List.findSome?_append]
  cases hf : opts.failFast with
  | false => simp_all
  | true =>
    -- a stopped run keeps its failure; an unstopped one takes the new unit's, if any
    simp only [hf, if_true] at hp ⊢
    rw [hp]
    cases p.results.findSome? UnitResult.failure <;> simp

/-- **The run lemma of the stop record.** -/
theorem Progress.foldl_next_tracks (us : List (ShaderEntry × Permutation)) :
    ∀ p : Progress, p.Tracks opts → (us.foldl (Progress.next cfg opts dir) p).Tracks opts := by
  induction us with
  | nil => intro p hp; exact hp
  | cons u us ih => intro p hp; exact ih _ (Progress.next_tracks cfg opts dir hp u)

/-- **A run is stopped only when it is fail-fast, and then by its first failure.** -/
theorem run_stoppedBy (disk : Disk) :
    (Batch.run cfg opts disk).stoppedBy =
      if opts.failFast then (Batch.run cfg opts disk).results.findSome? UnitResult.failure
      else none :=
  Progress.foldl_next_tracks cfg opts _ (units cfg) { disk } (by simp [Progress.Tracks])

/-- **A fail-fast run cancels every unit after its first failure.** When a unit of a fail-fast
run fails, every later unit is reported canceled. -/
theorem run_failFast_cancels (disk : Disk) (hfast : opts.failFast = true) {i : Nat}
    {r : UnitResult} (hi : (Batch.run cfg opts disk).results[i]? = some r)
    (hr : r.failure.isSome) :
    ∀ j u, i < j → (units cfg)[j]? = some u →
      (Batch.run cfg opts disk).results[j]? = some (canceledResult u) := by
  intro j u hij hu
  have hj : j < (units cfg).length := (List.getElem?_eq_some_iff.1 hu).1
  -- the run up to unit `i`, and the rest of it
  set next := Progress.next cfg opts (outputDir cfg opts)
  set p₁ := ((units cfg).take (i + 1)).foldl next { disk }
  have hrun : (Batch.run cfg opts disk).results =
      (((units cfg).drop (i + 1)).foldl next p₁).results := by
    unfold Batch.run
    dsimp only
    rw [← List.foldl_append, List.take_append_drop]
  obtain ⟨rs₁, hrs₁, hlen₁⟩ :=
    Progress.foldl_next_results cfg opts _ ((units cfg).take (i + 1)) { disk }
  have hlen : p₁.results.length = i + 1 := by
    rw [hrs₁, List.nil_append, hlen₁, List.length_take]
    omega
  obtain ⟨rs₂, hrs₂, -⟩ := Progress.foldl_next_results cfg opts _ ((units cfg).drop (i + 1)) p₁
  -- unit `i` failed within the first part, which therefore ends stopped
  have hr₁ : p₁.results[i]? = some r := by
    rw [hrun, hrs₂, List.getElem?_append_left (by omega)] at hi
    exact hi
  have htrack : p₁.Tracks opts :=
    Progress.foldl_next_tracks cfg opts _ _ { disk } (by simp [Progress.Tracks])
  obtain ⟨e, he⟩ : ∃ e, p₁.stoppedBy = some e := by
    unfold Progress.Tracks at htrack
    rw [htrack, hfast, if_pos rfl]
    apply Option.ne_none_iff_exists'.1
    rw [Ne, List.findSome?_eq_none_iff]
    intro hnone
    simp [hnone r (List.mem_of_getElem? hr₁)] at hr
  rw [hrun, Progress.foldl_next_of_stopped cfg opts _ _ p₁ he,
    List.getElem?_append_right (by omega), List.getElem?_map, List.getElem?_drop, hlen,
    show i + 1 + (j - (i + 1)) = j by omega, hu]
  rfl

end FailFast

end Batch

end ShaderVariants
