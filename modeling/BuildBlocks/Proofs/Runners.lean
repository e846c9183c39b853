import BuildBlocks.Proofs.JobScript
import BuildBlocks.Proofs.Pool

/-!
# Runners and schedules

A runner is a pool's if what it leaves of a batch is what one of the schedules leaves
(`Job.Runner.IsPool`). Running the jobs one after another, up to the first that fails, is one of them
(`reaches_runAll`): every job makes all its accesses before the next one starts, and the batch notices a
failure before anything else happens. And every schedule is that of a runner
(`Job.Runner.exists_isPool`), so what is proved of all runners of this kind is proved of all schedules.
-/

namespace BuildBlocks

/-- A job that succeeds returns the path of its output. -/
theorem Job.output_of_run {w : Workspace} {options : Options} {job : Job} {output : Path}
    (h : (run w options job).outcome.result = .ok output) : output = job.output := by
  have hends := ends w options job
  rw [h] at hends
  generalize (run w options job).disk = left at hends
  cases hends
  rfl

namespace Batch

variable {w : Workspace} {options : Options} {jobs : List Job} {workers : Nat}

/-- The scripts of the jobs of a batch. -/
def scripts (w : Workspace) (options : Options) (jobs : List Job) (i : Fin jobs.length) :
    Program Path := Program.job w.settings options (jobs.get i)

/-- The report of a batch with a result. -/
def reportOf : Except Failure (List Path) → Pool.Report Path
  | .ok outputs => .outputs outputs
  | .error e => .failed e

/-- The jobs before the one at `k` have written their outputs, and the others have not started. -/
structure Halfway (jobs : List Job) (k : Nat) (s : Pool.State Path jobs.length) : Prop where
  stage : s.stage = .waiting
  before : ∀ i : Fin jobs.length, i.1 < k → s.status i = .finished (.ok (jobs.get i).output)
  after : ∀ i : Fin jobs.length, k ≤ i.1 → s.status i = .waiting

namespace Halfway

variable {k : Nat} {s : Pool.State Path jobs.length}

theorem not_running (h : Halfway jobs k s) (i : Fin jobs.length) (rest : Program Path) :
    s.status i ≠ .running rest := by
  rcases Nat.lt_or_ge i.1 k with hi | hi
  · rw [h.before i hi]
    nofun
  · rw [h.after i hi]
    nofun

section

variable (w options workers)

/-- All jobs have written their outputs. -/
theorem reaches_outputs (h : Halfway jobs jobs.length s) :
    ∃ s', Pool.Reaches workers (scripts w options jobs) s s' ∧ s'.disk = s.disk ∧
      s'.stage = .returned (.outputs (jobs.map Job.output)) := by
  have hfinished (i : Fin jobs.length) : s.status i = .finished (.ok (jobs.get i).output) :=
    h.before i i.2
  have hreport : Pool.report s.status = .outputs (jobs.map Job.output) := by
    rw [Pool.report_of_ok hfinished]
    exact congrArg _ (List.ext_getElem (by simp) fun i _ _ => by simp)
  have hstop : Pool.Step workers (scripts w options jobs) s { s with stage := .stopping } :=
    .stop h.stage (.inr fun i => ⟨_, hfinished i⟩)
  refine ⟨_, .head hstop (.single (.conclude rfl fun i => ?_)), rfl, congrArg _ hreport⟩
  simp [hfinished i, Pool.Status.isOver]

variable {i : Fin jobs.length}

/-- The next job has written its output. -/
theorem next (h : Halfway jobs i.1 s) (disk : Disk) :
    Halfway jobs (i.1 + 1) (s.move i (.finished (.ok (jobs.get i).output)) disk) where
  stage := h.stage
  before := by
    refine (s.forall_move_status_iff _ _ _ fun j status =>
      j.1 < i.1 + 1 → status = .finished (.ok (jobs.get j).output)).2
        ⟨fun _ => rfl, fun j hji hj => h.before j ?_⟩
    exact Nat.lt_of_le_of_ne (Nat.le_of_lt_succ hj) (Fin.val_ne_of_ne hji)
  after j hj := by
    have hji : j ≠ i := Fin.ne_of_gt (Fin.lt_def.2 hj)
    rw [Pool.State.move_status_of_ne _ _ _ _ hji]
    exact h.after j (Nat.le_of_succ_le hj)

/-- The next job fails: the jobs after it are cancelled. -/
theorem reaches_failed (h : Halfway jobs i.1 s) (e : Failure) (disk : Disk) :
    ∃ s', Pool.Reaches workers (scripts w options jobs) (s.move i (.finished (.error e)) disk) s' ∧
      s'.disk = disk ∧ s'.stage = .returned (.failed e) := by
  have hfree : ∀ j rest, (s.move i (.finished (.error e)) disk).status j ≠ .running rest :=
    (s.forall_move_status_iff _ _ _ fun _ status => ∀ rest, status ≠ .running rest).2
      ⟨nofun, fun j _ => h.not_running j⟩
  refine Pool.reaches_failed workers (scripts w options jobs)
    (s := s.move i (.finished (.error e)) disk) h.stage hfree (s.move_status i _ _) fun j hj => ?_
  rw [Pool.State.move_status_of_ne _ _ _ _ (Fin.ne_of_lt hj), h.before j (Fin.lt_def.1 hj)]
  exact ⟨nofun, rfl⟩

/-- The jobs that are left run one after another. -/
theorem reaches_runAll (hworkers : 0 < workers) {before after : List Job}
    (hjobs : jobs = before ++ after) (h : Halfway jobs before.length s) :
    ∃ s', Pool.Reaches workers (scripts w options jobs) s s' ∧
      s'.disk = (Job.runAll { w with disk := s.disk } options after).disk ∧
      s'.stage = .returned (reportOf
        ((Job.runAll { w with disk := s.disk } options after).outcome.result.map
          (before.map Job.output ++ ·))) := by
  induction after generalizing before s with
  | nil =>
    rw [List.append_nil] at hjobs
    subst hjobs
    obtain ⟨s', hreaches, hdisk, hreturned⟩ := h.reaches_outputs w options workers
    refine ⟨s', hreaches, hdisk, ?_⟩
    rw [hreturned]
    simp [Job.runAll, Except.map, reportOf]
  | cons job after ih =>
    have hlength : before.length < jobs.length := by simp [hjobs]
    have hjob : jobs.get ⟨before.length, hlength⟩ = job := List.getElem_of_append hjobs rfl
    have halone := Job.alone_script { w with disk := s.disk } options job
    -- no other job runs, so this one does what it does alone
    have hstep := Pool.reaches_of_waiting workers (scripts w options jobs) hworkers
      (h.after ⟨before.length, hlength⟩ le_rfl)
      (fun j hj => by rw [h.before j (Fin.lt_def.1 hj)]; nofun) h.not_running
    rw [scripts, hjob, halone] at hstep
    rw [Job.runAll]
    cases hresult : (Job.run { w with disk := s.disk } options job).outcome.result with
    | error e =>
      rw [hresult] at hstep
      obtain ⟨s', hreaches, hdisk, hreturned⟩ := reaches_failed w options workers
        (i := ⟨before.length, hlength⟩) h e
        (Job.run { w with disk := s.disk } options job).disk
      exact ⟨s', hstep.trans hreaches, hdisk, hreturned⟩
    | ok output =>
      obtain rfl := Job.output_of_run hresult
      rw [hresult] at hstep
      have hnext := next (i := ⟨before.length, hlength⟩) h
        (Job.run { w with disk := s.disk } options job).disk
      rw [hjob] at hnext
      obtain ⟨s', hreaches, hdisk, hreturned⟩ := ih
        (show jobs = (before ++ [job]) ++ after by
          rw [hjobs, List.append_assoc, List.singleton_append])
        (by rwa [List.length_append, List.length_singleton])
      rw [Pool.State.move_disk] at hdisk hreturned
      refine ⟨s', hstep.trans hreaches, hdisk, hreturned.trans (congrArg _ (congrArg _ ?_))⟩
      simp only [Outcome.result_bind, hresult, Except.bind, Outcome.result_pure]
      cases (Job.runAll { w with disk := (Job.run { w with disk := s.disk } options job).disk }
        options after).outcome.result <;> simp [Except.map]

end

end Halfway

/-- **One job after another** is a schedule, on any number of workers. -/
theorem reaches_runAll (w : Workspace) (options : Options) (jobs : List Job)
    (hworkers : 0 < workers) :
    ∃ s, Pool.Reaches workers (scripts w options jobs) (Pool.initial w.disk) s ∧
      s.disk = (Job.runAll w options jobs).disk ∧
      s.stage = .returned (reportOf (Job.runAll w options jobs).outcome.result) := by
  have hstart : Halfway jobs ([] : List Job).length (Pool.initial w.disk) :=
    ⟨rfl, nofun, fun _ _ => rfl⟩
  obtain ⟨s, hreaches, hdisk, hreturned⟩ :=
    hstart.reaches_runAll w options workers hworkers (List.nil_append jobs).symm
  refine ⟨s, hreaches, hdisk, hreturned.trans (congrArg _ (congrArg _ ?_))⟩
  show ((Job.runAll w options jobs).outcome.result).map _ = _
  cases (Job.runAll w options jobs).outcome.result <;> rfl

/-! ## Runners -/

/-- Some schedule of a batch passes through a disk. -/
def Occurs (w : Workspace) (options : Options) (jobs : List Job) (disk : Disk) : Prop :=
  ∃ workers, Pool.Occurs workers (scripts w options jobs) w.disk disk

theorem exists_reportOf_eq {s : Pool.State Path jobs.length}
    (h : Pool.Reaches workers (scripts w options jobs) (Pool.initial w.disk) s)
    {report : Pool.Report Path} (hreturned : s.stage = .returned report) :
    ∃ r, reportOf r = report := by
  cases report with
  | outputs outputs => exact ⟨.ok outputs, rfl⟩
  | failed e => exact ⟨.error e, rfl⟩
  | cancelled => exact absurd rfl (h.report_ne_cancelled hreturned)

end Batch

namespace Job.Runner

/-- Whether a runner is a pool's: of every batch it leaves the disk and the result that some schedule on
some number of workers comes to in the end. -/
def IsPool (runner : Runner) : Prop :=
  ∀ (w : Workspace) (options : Options) (jobs : List Job), ∃ workers s, 0 < workers ∧
    Pool.Reaches workers (Batch.scripts w options jobs) (Pool.initial w.disk) s ∧
      s.disk = (runner w options jobs).disk ∧
      s.stage = .returned (Batch.reportOf (runner w options jobs).outcome.result)

theorem isPool_runAll : IsPool runAll := fun w options jobs => by
  obtain ⟨s, hreaches, hdisk, hreturned⟩ := Batch.reaches_runAll w options jobs Nat.one_pos
  exact ⟨1, s, Nat.one_pos, hreaches, hdisk, hreturned⟩

variable {w : Workspace} {options : Options} {jobs : List Job}

/-- **Every schedule** that comes to its end is what a runner does with the batch. -/
theorem exists_isPool {workers : Nat} {s : Pool.State Path jobs.length} {report : Pool.Report Path}
    (hworkers : 0 < workers)
    (hreaches : Pool.Reaches workers (Batch.scripts w options jobs) (Pool.initial w.disk) s)
    (hreturned : s.stage = .returned report) :
    ∃ runner : Runner, runner.IsPool ∧ (runner w options jobs).disk = s.disk ∧
      Batch.reportOf (runner w options jobs).outcome.result = report := by
  classical
  obtain ⟨r, rfl⟩ := Batch.exists_reportOf_eq hreaches hreturned
  -- this batch is run as the schedule does, and any other one after another
  let runner : Runner := fun w' options' jobs' =>
    if (w', options', jobs') = (w, options, jobs) then ⟨s.disk, ⟨[], r⟩⟩
    else runAll w' options' jobs'
  have hthis : runner w options jobs = ⟨s.disk, ⟨[], r⟩⟩ := if_pos rfl
  refine ⟨runner, fun w' options' jobs' => ?_, by rw [hthis], by rw [hthis]⟩
  by_cases hsame : (w', options', jobs') = (w, options, jobs)
  · cases hsame
    rw [hthis]
    exact ⟨workers, s, hworkers, hreaches, rfl, hreturned⟩
  · have hother : runner w' options' jobs' = runAll w' options' jobs' := if_neg hsame
    rw [hother]
    exact isPool_runAll w' options' jobs'

end Job.Runner
end BuildBlocks
