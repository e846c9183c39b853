import BuildBlocks.Proofs.RelyGuarantee
import Mathlib.Data.DFinsupp.WellFounded
import Mathlib.Data.Fintype.EquivFin
import Mathlib.Data.List.OfFn

/-!
# A pool of workers

Jobs run on a number of workers that share a disk. Jobs start in the order in which they were handed
in, and a job that has started runs to its end. The batch waits until a job has failed or all have
finished, cancels the jobs that have not started, waits for the others and then reports: the failure
of the first job that failed, or the results in order.

Which job comes to its next access at what time is left open: whatever the order, a batch of scripts
that are sure of what they do comes to its end, and what it reports does not depend on the order
(`Invariant.inevitably_returned`).

## The architecture

* **`Step`**: what can happen next. **`Inevitably`**: what comes about in every order of steps.
* **`Orderly`**: jobs start in order, and none before one that failed is cancelled. Every batch is.
* **`Compatible`**: what one job may do to the disk is among what the others rely on.
* **`Invariant`**: every job that is not cancelled is still sure of its result. `Invariant.step` keeps
  it.
* **`Reaches.exists_leads_of_failed`**: whatever the scripts, a failure that is reported is that of a
  job, which came to it by accesses on disks that a schedule passes through.
* **`exists_step`**: the pool is never stuck; **`wellFounded_later`**: it cannot go on for ever.
-/

namespace BuildBlocks
namespace Pool

/-- How far a job is. -/
inductive Status (α : Type) where
  | waiting
  | running (rest : Program α)
  | finished (r : Except Failure α)
  | cancelled

/-- What a batch reports. -/
inductive Report (α : Type) where
  | outputs (outputs : List α)
  | failed (e : Failure)
  | cancelled

/-- How far a batch is: it waits for its jobs, or it cancels those that have not started, or it is
over. -/
inductive Stage (α : Type) where
  | waiting
  | stopping
  | returned (report : Report α)

/-- The disk, the jobs and the batch. -/
structure State (α : Type) (n : Nat) where
  disk : Disk
  status : Fin n → Status α
  stage : Stage α

variable {α : Type} {n : Nat}

namespace Status

/-- Whether a job occupies a worker. -/
def isRunning : Status α → Bool
  | .running _ => true
  | _ => false

/-- Whether nothing more happens to a job. -/
def isOver : Status α → Bool
  | .finished _ | .cancelled => true
  | _ => false

/-- Whether a job has been started. -/
def isStarted : Status α → Bool
  | .running _ | .finished _ => true
  | _ => false

/-- The failure of a job. -/
def failure? : Status α → Option Failure
  | .finished (.error e) => some e
  | _ => none

/-- The result of a job. -/
def output? : Status α → Option α
  | .finished (.ok a) => some a
  | _ => none

/-- What is left of a job, where `script` is the whole of it. -/
def rest? (script : Program α) : Status α → Option (Program α)
  | .waiting => some script
  | .running rest => some rest
  | .finished r => some (.done r)
  | .cancelled => none

end Status

/-- What is reported of jobs that are over: the first failure in their order, or the results if there
are all of them. -/
def report (status : Fin n → Status α) : Report α :=
  let statuses := List.ofFn status
  match statuses.findSome? Status.failure? with
  | some e => .failed e
  | none => match statuses.mapM Status.output? with
    | some outputs => .outputs outputs
    | none => .cancelled

/-- How many jobs occupy a worker. -/
def occupied (status : Fin n → Status α) : Nat :=
  (Finset.univ.filter fun i => (status i).isRunning).card

/-- A batch whose jobs have been handed in. -/
def initial (disk : Disk) : State α n := ⟨disk, fun _ => .waiting, .waiting⟩

namespace State

variable (s : State α n) (i : Fin n) (status : Status α) (disk : Disk)

/-- The state in which a job has come to another status, with the disk that it has left. -/
def move : State α n :=
  { s with disk := disk, status := Function.update s.status i status }

@[simp] theorem move_disk : (s.move i status disk).disk = disk := rfl

@[simp] theorem move_stage : (s.move i status disk).stage = s.stage := rfl

@[simp] theorem move_status : (s.move i status disk).status i = status :=
  Function.update_self _ _ _

theorem move_status_of_ne {j : Fin n} (h : j ≠ i) :
    (s.move i status disk).status j = s.status j :=
  Function.update_of_ne h _ _

theorem forall_move_status_iff (P : Fin n → Status α → Prop) :
    (∀ j, P j ((s.move i status disk).status j)) ↔ P i status ∧ ∀ j, j ≠ i → P j (s.status j) :=
  Function.forall_update_iff _ _

end State

/-- What can happen next. -/
inductive Step (workers : Nat) (scripts : Fin n → Program α) : State α n → State α n → Prop
  /-- A free worker starts the first job that waits. -/
  | start {s : State α n} {i : Fin n} (hwaiting : s.status i = .waiting)
      (hfirst : ∀ j < i, s.status j ≠ .waiting) (hfree : occupied s.status < workers) :
      Step workers scripts s (s.move i (.running (scripts i)) s.disk)
  /-- A running job makes its next access. -/
  | act {s : State α n} {i : Fin n} {a : Access} {next : a.Answer → Program α}
      (hrunning : s.status i = .running (.access a next)) :
      Step workers scripts s (s.move i (.running (next (a.answer s.disk))) (a.after s.disk))
  /-- A running job comes to its end. -/
  | finish {s : State α n} {i : Fin n} {r : Except Failure α}
      (hrunning : s.status i = .running (.done r)) :
      Step workers scripts s (s.move i (.finished r) s.disk)
  /-- The batch sees that a job has failed, or that all have finished. -/
  | stop {s : State α n} (hstage : s.stage = .waiting)
      (hseen : (∃ i e, s.status i = .finished (.error e)) ∨ ∀ i, ∃ r, s.status i = .finished r) :
      Step workers scripts s { s with stage := .stopping }
  /-- The batch cancels a job that has not started. -/
  | cancel {s : State α n} {i : Fin n} (hstage : s.stage = .stopping)
      (hwaiting : s.status i = .waiting) : Step workers scripts s (s.move i .cancelled s.disk)
  /-- The batch reports when all jobs are over. -/
  | conclude {s : State α n} (hstage : s.stage = .stopping) (hover : ∀ i, (s.status i).isOver) :
      Step workers scripts s { s with stage := .returned (report s.status) }

/-- Whatever happens next, and after that, a state with `P` is come to: no order of steps goes on for
ever without, and none is stuck before. -/
inductive Inevitably {σ : Type} (step : σ → σ → Prop) (P : σ → Prop) : σ → Prop
  | now {s : σ} (h : P s) : Inevitably step P s
  | next {s : σ} (hstep : ∃ s', step s s') (h : ∀ s', step s s' → Inevitably step P s') :
      Inevitably step P s

/-- A report agrees with the results that the jobs have alone: the results in order, with `Done` of
every job, or the failure of the first job that fails, with `Done` of every job before it. -/
inductive Agrees (results : Fin n → Except Failure α) (Done : Fin n → Prop) : Report α → Prop
  | outputs {outputs : Fin n → α} (hok : ∀ i, results i = .ok (outputs i)) (hdone : ∀ i, Done i) :
      Agrees results Done (.outputs (List.ofFn outputs))
  | failed {i : Fin n} {e : Failure} (herror : results i = .error e)
      (hbefore : ∀ j < i, (∃ a, results j = .ok a) ∧ Done j) : Agrees results Done (.failed e)

variable {workers : Nat} {scripts : Fin n → Program α} {s s' : State α n}

theorem Inevitably.mono {σ : Type} {step : σ → σ → Prop} {P Q : σ → Prop} {s : σ}
    (h : Inevitably step P s) (himp : ∀ s, P s → Q s) : Inevitably step Q s := by
  induction h with
  | now h => exact .now (himp _ h)
  | next hstep _ ih => exact .next hstep ih

/-! ## A batch comes to an end -/

namespace Status

/-- What becomes of a job, the later status first. -/
inductive Later : Status α → Status α → Prop
  | start {script : Program α} : Later (.running script) .waiting
  | cancel : Later .cancelled .waiting
  | act {a : Access} {next : a.Answer → Program α} {answer : a.Answer} :
      Later (.running (next answer)) (.running (.access a next))
  | finish {r : Except Failure α} : Later (.finished r) (.running (.done r))

/-- A script makes finitely many accesses, whatever it is told. -/
theorem acc_running (rest : Program α) : Acc Later (Status.running rest) := by
  induction rest with
  | done r =>
    refine ⟨_, fun status h => ?_⟩
    cases h
    exact ⟨_, fun _ h => by cases h⟩
  | access a next ih =>
    refine ⟨_, fun status h => ?_⟩
    cases h
    exact ih _

theorem wellFounded_later : WellFounded (@Later α) := by
  refine ⟨fun status => ?_⟩
  cases status with
  | running rest => exact acc_running rest
  | finished | cancelled => exact ⟨_, fun _ h => by cases h⟩
  | waiting =>
    refine ⟨_, fun status h => ?_⟩
    cases h with
    | start => exact acc_running _
    | cancel => exact ⟨_, fun _ h => by cases h⟩

end Status

namespace Stage

/-- What becomes of a batch, the later stage first. -/
inductive Later : Stage α → Stage α → Prop
  | stop : Later .stopping .waiting
  | conclude {report : Report α} : Later (.returned report) .stopping

theorem wellFounded_later : WellFounded (@Later α) := by
  have hstopping : Acc Later (Stage.stopping : Stage α) := ⟨_, fun stage h => by
    cases h
    exact ⟨_, fun _ h => by cases h⟩⟩
  refine ⟨fun stage => ?_⟩
  cases stage with
  | returned => exact ⟨_, fun _ h => by cases h⟩
  | stopping => exact hstopping
  | waiting =>
    refine ⟨_, fun stage h => ?_⟩
    cases h
    exact hstopping

end Stage

/-- The batch is at a later stage, or one of its jobs is at a later status. -/
def Later (s' s : State α n) : Prop :=
  Prod.Lex Stage.Later (Pi.Lex (· < ·) Status.Later) (s'.stage, s'.status) (s.stage, s.status)

theorem wellFounded_later : WellFounded (@Later α n) :=
  InvImage.wf (fun s : State α n => (s.stage, s.status)) <| WellFounded.prod_lex
    Stage.wellFounded_later (Pi.Lex.wellFounded (· < ·) fun _ => Status.wellFounded_later)

theorem later_move {i : Fin n} {status : Status α} {disk : Disk}
    (h : Status.Later status (s.status i)) : Later (s.move i status disk) s := by
  refine .right _ ⟨i, fun j hj => s.move_status_of_ne i status disk hj.ne, ?_⟩
  rwa [State.move_status]

theorem Step.later (h : Step workers scripts s s') : Later s' s := by
  cases h with
  | start hwaiting => exact later_move (hwaiting ▸ .start)
  | act hrunning => exact later_move (hrunning ▸ .act)
  | finish hrunning => exact later_move (hrunning ▸ .finish)
  | cancel _ hwaiting => exact later_move (hwaiting ▸ .cancel)
  | stop hstage => exact .left _ _ (hstage ▸ .stop)
  | conclude hstage => exact .left _ _ (hstage ▸ .conclude)

/-! ## A batch is never stuck -/

theorem occupied_eq_zero {status : Fin n → Status α} (h : ∀ i rest, status i ≠ .running rest) :
    occupied status = 0 := by
  rw [occupied, Finset.card_eq_zero, Finset.filter_eq_empty_iff]
  intro i _ hi
  cases hstatus : status i with
  | running rest => exact h i rest hstatus
  | waiting | finished | cancelled => simp [hstatus, Status.isRunning] at hi

theorem exists_step (hworkers : 0 < workers) (hstage : ∀ report, s.stage ≠ .returned report)
    (hcancelled : s.stage = .waiting → ∀ i, s.status i ≠ .cancelled) :
    ∃ s', Step workers scripts s s' := by
  by_cases hrunning : ∃ i rest, s.status i = .running rest
  · obtain ⟨i, rest, hrest⟩ := hrunning
    cases rest with
    | done r => exact ⟨_, .finish hrest⟩
    | access a next => exact ⟨_, .act hrest⟩
  by_cases hwaiting : ∃ i, s.status i = .waiting
  · cases hs : s.stage with
    | returned report => exact absurd hs (hstage report)
    | stopping =>
      obtain ⟨i, hi⟩ := hwaiting
      exact ⟨_, .cancel hs hi⟩
    | waiting =>
      -- no worker is occupied, so the first job that waits can start
      obtain ⟨i, hi, hmin⟩ := WellFounded.has_min wellFounded_lt {i | s.status i = .waiting} hwaiting
      refine ⟨_, .start hi (fun j hj hjw => hmin j hjw hj) ?_⟩
      rwa [occupied_eq_zero fun j rest hj => hrunning ⟨j, rest, hj⟩]
  have hover (i : Fin n) : (s.status i).isOver := by
    cases hstatus : s.status i with
    | waiting => exact absurd ⟨i, hstatus⟩ hwaiting
    | running rest => exact absurd ⟨i, rest, hstatus⟩ hrunning
    | finished | cancelled => rfl
  cases hs : s.stage with
  | returned report => exact absurd hs (hstage report)
  | stopping => exact ⟨_, .conclude hs hover⟩
  | waiting =>
    refine ⟨_, .stop hs (.inr fun i => ?_)⟩
    have hi := hover i
    cases hstatus : s.status i with
    | finished r => exact ⟨r, rfl⟩
    | cancelled => exact absurd hstatus (hcancelled hs i)
    | waiting | running => simp [hstatus, Status.isOver] at hi

/-! ## What is reported -/

theorem report_of_ok {outputs : Fin n → α} {status : Fin n → Status α}
    (h : ∀ i, status i = .finished (.ok (outputs i))) :
    report status = .outputs (List.ofFn outputs) := by
  have hall (l : List α) : (l.map fun a => Status.finished (.ok a)).mapM Status.output? = some l := by
    induction l with
    | nil => rfl
    | cons a l ih => simp [Status.output?, ih]
  have hnone (l : List α) :
      (l.map fun a => Status.finished (.ok a)).findSome? Status.failure? = none := by
    simp [List.findSome?_eq_none_iff, Status.failure?]
  have hstatus : List.ofFn status = (List.ofFn outputs).map fun a => .finished (.ok a) := by
    rw [List.map_ofFn]
    exact congrArg List.ofFn (funext h)
  simp only [report, hstatus, hnone, hall]

theorem report_of_failed {status : Fin n → Status α} {i : Fin n} {e : Failure}
    (h : status i = .finished (.error e)) (hbefore : ∀ j < i, (status j).failure? = none) :
    report status = .failed e := by
  have hfirst : (List.ofFn status).findSome? Status.failure? = some e := by
    have hi : i.1 < (List.ofFn status).length := by simp
    refine List.findSome?_eq_some_iff.2 ⟨(List.ofFn status).take i, status i,
      (List.ofFn status).drop (i + 1), ?_, by rw [h]; rfl, fun x hx => ?_⟩
    · rw [← List.getElem_ofFn hi, ← List.drop_eq_getElem_cons hi, List.take_append_drop]
    · obtain ⟨k, hk, rfl⟩ := List.mem_iff_getElem.1 hx
      rw [List.length_take, List.length_ofFn] at hk
      rw [List.getElem_take, List.getElem_ofFn]
      exact hbefore ⟨k, _⟩ (Fin.lt_def.2 (lt_min_iff.1 hk).1)
  simp only [report, hfirst]

/-- Every job is over, as is known of its script, and jobs were cancelled only after one that failed:
then the report agrees with the results. -/
theorem agrees_report {results : Fin n → Except Failure α} {Done : Fin n → Prop}
    {status : Fin n → Status α} (hover : ∀ i, (status i).isOver)
    (hfinished : ∀ i r, status i = .finished r → r = results i ∧ ∀ a, r = .ok a → Done i)
    (hseen : (∀ i, ∃ r, status i = .finished r) ∨
      ∃ i e, status i = .finished (.error e) ∧ ∀ j ≤ i, status j ≠ .cancelled) :
    Agrees results Done (report status) := by
  by_cases hfailed : ∃ i e, status i = .finished (.error e)
  · -- the first job that failed
    obtain ⟨i, ⟨e, hi⟩, hmin⟩ :=
      WellFounded.has_min wellFounded_lt {i | ∃ e, status i = .finished (.error e)} hfailed
    -- no job before it was cancelled: only jobs behind a failed one are
    have hbefore (j : Fin n) (hj : j < i) : ∃ a, status j = .finished (.ok a) := by
      have hcancelled : status j ≠ .cancelled := by
        rcases hseen with hall | ⟨k, e', hk, hnot⟩
        · obtain ⟨r, hr⟩ := hall j
          rw [hr]
          nofun
        · exact hnot j (hj.le.trans (not_lt.1 (hmin k ⟨e', hk⟩)))
      cases hstatus : status j with
      | finished r =>
        cases r with
        | ok a => exact ⟨a, rfl⟩
        | error e' => exact absurd hj (hmin j ⟨e', hstatus⟩)
      | cancelled => exact absurd hstatus hcancelled
      | waiting | running => simpa [hstatus, Status.isOver] using hover j
    rw [report_of_failed hi fun j hj => by obtain ⟨a, ha⟩ := hbefore j hj; rw [ha]; rfl]
    refine .failed (hfinished i _ hi).1.symm fun j hj => ?_
    obtain ⟨a, ha⟩ := hbefore j hj
    exact ⟨⟨a, (hfinished j _ ha).1.symm⟩, (hfinished j _ ha).2 a rfl⟩
  · have hok (i : Fin n) : ∃ a, status i = .finished (.ok a) := by
      rcases hseen with hall | ⟨k, e, hk, -⟩
      · obtain ⟨r, hr⟩ := hall i
        cases r with
        | ok a => exact ⟨a, hr⟩
        | error e => exact absurd ⟨i, e, hr⟩ hfailed
      · exact absurd ⟨k, e, hk⟩ hfailed
    choose outputs houtputs using hok
    rw [report_of_ok houtputs]
    exact .outputs (fun i => (hfinished i _ (houtputs i)).1.symm)
      fun i => (hfinished i _ (houtputs i)).2 _ rfl

/-! ## What is known of every batch -/

/-- What holds of every batch, whatever its scripts do: jobs start in order, the batch stops waiting for
a reason, and it reports what has become of its jobs. -/
structure Orderly (s : State α n) : Prop where
  waits : s.stage = .waiting → ∀ i, s.status i ≠ .cancelled ∧
    (s.status i = .waiting → ∀ j > i, s.status j = .waiting)
  stops : s.stage ≠ .waiting → (∀ i, ∃ r, s.status i = .finished r) ∨
    ∃ i e, s.status i = .finished (.error e) ∧ ∀ j ≤ i, (s.status j).isStarted
  returns : ∀ r, s.stage = .returned r → r = report s.status ∧ ∀ i, (s.status i).isOver

namespace Orderly

theorem initial (disk : Disk) : Orderly (initial disk : State α n) where
  waits _ _ := ⟨nofun, fun _ _ _ => rfl⟩
  stops h := absurd rfl h
  returns := nofun

/-- While the batch waits, the jobs before one that has finished have been started. -/
theorem isStarted_of_le (h : Orderly s) (hstage : s.stage = .waiting) {i j : Fin n}
    {r : Except Failure α} (hi : s.status i = .finished r) (hj : j ≤ i) : (s.status j).isStarted := by
  obtain ⟨hcancelled, hwaits⟩ := h.waits hstage j
  cases hstatus : s.status j with
  | running | finished => rfl
  | cancelled => exact absurd hstatus hcancelled
  | waiting =>
    rcases hj.eq_or_lt with rfl | hlt
    · rw [hi] at hstatus
      cases hstatus
    · have hiw := hwaits hstatus i hlt
      rw [hi] at hiw
      cases hiw

/-- A job starts or goes on. -/
theorem move (h : Orderly s) {i : Fin n} {status : Status α} (disk : Disk)
    (hopen : (s.status i).isOver = false) (hstarted : status.isStarted)
    (hfirst : s.status i = .waiting → ∀ j < i, s.status j ≠ .waiting) :
    Orderly (s.move i status disk) where
  -- a job that starts is the first of those that wait, so none of them is left before it
  waits hstage j := by
    by_cases hj : j = i
    · subst hj
      rw [State.move_status]
      exact ⟨fun hc => by simp [hc, Status.isStarted] at hstarted,
        fun hw => by simp [hw, Status.isStarted] at hstarted⟩
    · rw [State.move_status_of_ne _ _ _ _ hj]
      refine ⟨(h.waits hstage j).1, fun hw k hk => ?_⟩
      have hwk := (h.waits hstage j).2 hw k hk
      rwa [State.move_status_of_ne]
      rintro rfl
      exact hfirst hwk j hk hw
  -- what stopped the batch is over, so it is not the job that moves
  stops hstage := by
    rcases h.stops hstage with hall | ⟨k, e, hk, hbefore⟩
    · obtain ⟨r, hr⟩ := hall i
      simp [hr, Status.isOver] at hopen
    · have hki : k ≠ i := by
        rintro rfl
        simp [hk, Status.isOver] at hopen
      refine .inr ⟨k, e, by rwa [State.move_status_of_ne _ _ _ _ hki], fun j hj => ?_⟩
      by_cases hji : j = i
      · rwa [hji, State.move_status]
      · rw [State.move_status_of_ne _ _ _ _ hji]
        exact hbefore j hj
  returns r hstage := by
    have hover := (h.returns r hstage).2 i
    rw [hopen] at hover
    cases hover

/-- A job that has not started is cancelled. It stands behind one that failed. -/
theorem cancel (h : Orderly s) {i : Fin n} (hstage : s.stage = .stopping)
    (hwaiting : s.status i = .waiting) : Orderly (s.move i .cancelled s.disk) where
  waits hwaits := by
    rw [State.move_stage, hstage] at hwaits
    cases hwaits
  stops _ := by
    rcases h.stops (by rw [hstage]; nofun) with hall | ⟨k, e, hk, hbefore⟩
    · obtain ⟨r, hr⟩ := hall i
      rw [hwaiting] at hr
      cases hr
    · have hne (j : Fin n) (hj : j ≤ k) : j ≠ i := by
        rintro rfl
        simpa [hwaiting, Status.isStarted] using hbefore j hj
      refine .inr ⟨k, e, by rwa [State.move_status_of_ne _ _ _ _ (hne k le_rfl)], fun j hj => ?_⟩
      rw [State.move_status_of_ne _ _ _ _ (hne j hj)]
      exact hbefore j hj
  returns r hreturned := by
    rw [State.move_stage, hstage] at hreturned
    cases hreturned

/-- **A step** keeps the order. -/
theorem step (h : Orderly s) (hstep : Step workers scripts s s') : Orderly s' := by
  cases hstep with
  | start hwaiting hfirst _ => exact h.move _ (by rw [hwaiting]; rfl) rfl fun _ => hfirst
  | act hrunning | finish hrunning =>
    refine h.move _ (by rw [hrunning]; rfl) rfl fun hw => ?_
    rw [hrunning] at hw
    cases hw
  | stop hstage hseen =>
    refine ⟨nofun, fun _ => hseen.symm.imp id ?_, nofun⟩
    rintro ⟨i, e, hi⟩
    exact ⟨i, e, hi, fun j hj => h.isStarted_of_le hstage hi hj⟩
  | cancel hstage hwaiting => exact h.cancel hstage hwaiting
  | conclude hstage hover =>
    refine ⟨nofun, fun _ => h.stops (by rw [hstage]; nofun), fun r hreport => ?_⟩
    cases hreport
    exact ⟨rfl, hover⟩

/-- Only jobs behind one that has failed are cancelled. -/
theorem finished_or_failed (h : Orderly s) (hstage : s.stage ≠ .waiting) :
    (∀ i, ∃ r, s.status i = .finished r) ∨
      ∃ i e, s.status i = .finished (.error e) ∧ ∀ j ≤ i, s.status j ≠ .cancelled := by
  refine (h.stops hstage).imp id ?_
  rintro ⟨i, e, hi, hstarted⟩
  refine ⟨i, e, hi, fun j hj hcancelled => ?_⟩
  simpa [hcancelled, Status.isStarted] using hstarted j hj

end Orderly

/-! ## What is sure of the jobs of a batch -/

section

variable {R G : Fin n → Disk → Disk → Prop} {results : Fin n → Except Failure α}
  {Done : Fin n → Disk → Prop}

/-- The jobs of a batch suit each other: `R i` is what the others may do to the disk while the job at
`i` runs, and `G i` what this job does. -/
structure Compatible (R G : Fin n → Disk → Disk → Prop) : Prop where
  refl : ∀ i d, R i d d
  trans : ∀ i d d' d'', R i d d' → R i d' d'' → R i d d''
  others : ∀ i j d d', i ≠ j → G i d d' → R j d d'

/-- What is known of a batch whose scripts are sure of their results: every job that is not cancelled
is still sure of its own. -/
structure Invariant (scripts : Fin n → Program α) (R G : Fin n → Disk → Disk → Prop)
    (results : Fin n → Except Failure α) (Done : Fin n → Disk → Prop) (s : State α n) : Prop
    extends Orderly s where
  sure : ∀ i rest, (s.status i).rest? (scripts i) = some rest → rest.Sure (R i) (G i)
    (fun r d => r = results i ∧ ∀ a, r = .ok a → Done i d) s.disk

theorem Invariant.initial {disk : Disk} (h : ∀ i, (scripts i).Sure (R i) (G i)
      (fun r d => r = results i ∧ ∀ a, r = .ok a → Done i d) disk) :
    Invariant scripts R G results Done (initial disk) where
  toOrderly := .initial disk
  sure i rest hrest := by
    cases hrest
    exact h i

namespace Invariant

variable (hsuit : Compatible R G)

include hsuit

/-- One job goes on; the others are as sure as they were. -/
theorem sure_move (h : Invariant scripts R G results Done s) {i : Fin n} {status : Status α}
    {disk : Disk} (hchange : ∀ j, i ≠ j → R j s.disk disk)
    (hi : ∀ rest, status.rest? (scripts i) = some rest → rest.Sure (R i) (G i)
      (fun r d => r = results i ∧ ∀ a, r = .ok a → Done i d) disk) (j : Fin n) (rest : Program α)
    (hrest : ((s.move i status disk).status j).rest? (scripts j) = some rest) :
    rest.Sure (R j) (G j) (fun r d => r = results j ∧ ∀ a, r = .ok a → Done j d) disk := by
  by_cases hj : j = i
  · subst hj
    rw [State.move_status] at hrest
    exact hi rest hrest
  · rw [State.move_status_of_ne _ _ _ _ hj] at hrest
    exact (h.sure j rest hrest).of_rely (hsuit.trans j) (hchange j (Ne.symm hj))

/-- **A step** keeps what is sure of a batch. -/
theorem step (h : Invariant scripts R G results Done s) (hstep : Step workers scripts s s') :
    Invariant scripts R G results Done s' := by
  refine ⟨h.toOrderly.step hstep, ?_⟩
  cases hstep with
  | @start i hwaiting _ _ =>
    refine h.sure_move hsuit (fun j _ => hsuit.refl j _) fun rest hrest => ?_
    cases hrest
    exact h.sure i _ (by rw [hwaiting]; rfl)
  | @act i a next hrunning =>
    -- the access is one that the job is sure of, so the others put up with it
    have hsure := h.sure i (.access a next) (by rw [hrunning]; rfl) s.disk (hsuit.refl i _)
    refine h.sure_move hsuit (fun j hj => hsuit.others i j _ _ hj hsure.1) fun rest hrest => ?_
    cases hrest
    exact hsure.2
  | @finish i r hrunning =>
    refine h.sure_move hsuit (fun j _ => hsuit.refl j _) fun rest hrest => ?_
    cases hrest
    exact h.sure i _ (by rw [hrunning]; rfl)
  | cancel => exact h.sure_move hsuit (fun j _ => hsuit.refl j _) nofun
  | stop | conclude => exact h.sure

/-- What a batch reports agrees with the results that its jobs are sure of. -/
theorem agrees (h : Invariant scripts R G results Done s) {r : Report α}
    (hreturned : s.stage = .returned r) : Agrees results (Done · s.disk) r := by
  obtain ⟨rfl, hover⟩ := h.returns r hreturned
  refine agrees_report hover (fun i r hr => ?_) (h.finished_or_failed (by rw [hreturned]; nofun))
  exact h.sure i (.done r) (by rw [hr]; rfl) s.disk (hsuit.refl i _)

/-- **Whatever the order of steps**, a batch of scripts that are sure of their results comes to its
end, and its report agrees with these results. -/
theorem inevitably_returned (hworkers : 0 < workers) (h : Invariant scripts R G results Done s) :
    Inevitably (Step workers scripts)
      (fun s => ∃ report, s.stage = .returned report ∧ Agrees results (Done · s.disk) report) s := by
  induction s using wellFounded_later.induction with
  | _ s ih =>
    by_cases hreturned : ∃ report, s.stage = .returned report
    · obtain ⟨report, hreport⟩ := hreturned
      exact .now ⟨report, hreport, h.agrees hsuit hreport⟩
    · refine .next (exists_step hworkers (fun report hreport => hreturned ⟨report, hreport⟩)
        fun hwaiting i => (h.waits hwaiting i).1) fun s' hstep => ?_
      exact ih s' hstep.later (h.step hsuit hstep)

end Invariant

end

/-! ## Schedules -/

/-- Some order of steps leads from one state to another. -/
def Reaches (workers : Nat) (scripts : Fin n → Program α) : State α n → State α n → Prop :=
  Relation.ReflTransGen (Step workers scripts)

theorem State.move_move (s : State α n) (i : Fin n) (status status' : Status α)
    (disk disk' : Disk) : (s.move i status disk).move i status' disk' = s.move i status' disk' :=
  congrArg (State.mk disk' · s.stage) (Function.update_idem _ _ _)

section

variable (workers scripts)

/-- A running job makes all its accesses while no other makes any. -/
theorem reaches_finished {i : Fin n} {rest : Program α} (h : s.status i = .running rest) :
    Reaches workers scripts s
      (s.move i (.finished (rest.alone s.disk).1) (rest.alone s.disk).2) := by
  induction rest generalizing s with
  | done r => exact .single (.finish h)
  | access a next ih =>
    have hrest := ih (a.answer s.disk)
      (s := s.move i (.running (next (a.answer s.disk))) (a.after s.disk)) (s.move_status i _ _)
    rw [State.move_move] at hrest
    exact .head (.act h) hrest

/-- The first job that waits is started and makes all its accesses while no other makes any. -/
theorem reaches_of_waiting (hworkers : 0 < workers) {i : Fin n} (hwaiting : s.status i = .waiting)
    (hfirst : ∀ j < i, s.status j ≠ .waiting) (hfree : ∀ j rest, s.status j ≠ .running rest) :
    Reaches workers scripts s
      (s.move i (.finished ((scripts i).alone s.disk).1) ((scripts i).alone s.disk).2) := by
  have hrest := reaches_finished workers scripts (s.move_status i (.running (scripts i)) s.disk)
  rw [State.move_disk, State.move_move] at hrest
  exact .head (.start hwaiting hfirst (by rwa [occupied_eq_zero hfree])) hrest

/-- A batch that has stopped waiting cancels the jobs that have not started, and reports. -/
theorem reaches_returned (hstage : s.stage = .stopping)
    (hfree : ∀ i rest, s.status i ≠ .running rest) :
    ∃ s', Reaches workers scripts s s' ∧ s'.disk = s.disk ∧
      s'.stage = .returned (report s'.status) ∧
      ∀ i, s.status i ≠ .waiting → s'.status i = s.status i := by
  -- each cancelled job leaves one fewer that waits
  induction s using wellFounded_later.induction with
  | _ s ih =>
    by_cases hwaiting : ∃ i, s.status i = .waiting
    · obtain ⟨i, hi⟩ := hwaiting
      have hcancel : Step workers scripts s (s.move i .cancelled s.disk) := .cancel hstage hi
      have hfree' : ∀ j rest, (s.move i .cancelled s.disk).status j ≠ .running rest :=
        (s.forall_move_status_iff _ _ _ fun _ status => ∀ rest, status ≠ .running rest).2
          ⟨nofun, fun j _ => hfree j⟩
      obtain ⟨s', hreaches, hdisk, hreturned, hsame⟩ := ih _ hcancel.later hstage hfree'
      refine ⟨s', .head hcancel hreaches, hdisk, hreturned, fun j hj => ?_⟩
      have hne : j ≠ i := by
        rintro rfl
        exact hj hi
      rw [hsame j (by rwa [State.move_status_of_ne _ _ _ _ hne]), State.move_status_of_ne _ _ _ _ hne]
    · have hover (i : Fin n) : (s.status i).isOver := by
        cases hstatus : s.status i with
        | waiting => exact absurd ⟨i, hstatus⟩ hwaiting
        | running rest => exact absurd hstatus (hfree i rest)
        | finished | cancelled => rfl
      exact ⟨_, .single (.conclude hstage hover), rfl, rfl, fun _ _ => rfl⟩

/-- A batch that waits sees the failure of a job, before which none has failed or waits. -/
theorem reaches_failed (hstage : s.stage = .waiting) (hfree : ∀ i rest, s.status i ≠ .running rest)
    {i : Fin n} {e : Failure} (hi : s.status i = .finished (.error e))
    (hbefore : ∀ j < i, s.status j ≠ .waiting ∧ (s.status j).failure? = none) :
    ∃ s', Reaches workers scripts s s' ∧ s'.disk = s.disk ∧ s'.stage = .returned (.failed e) := by
  have hstop : Step workers scripts s { s with stage := .stopping } := .stop hstage (.inl ⟨i, e, hi⟩)
  obtain ⟨s', hreaches, hdisk, hreturned, hsame⟩ :=
    reaches_returned workers scripts (s := { s with stage := .stopping }) rfl hfree
  refine ⟨s', .head hstop hreaches, hdisk, hreturned.trans (congrArg _ ?_)⟩
  refine report_of_failed ((hsame i ?_).trans hi) fun j hj => ?_
  · show s.status i ≠ _
    rw [hi]
    nofun
  · rw [hsame j (hbefore j hj).1]
    exact (hbefore j hj).2

end

/-! ## What is known after every schedule -/

section

variable {disk : Disk}

/-- Some schedule of the batch passes through a disk. -/
def Occurs (workers : Nat) (scripts : Fin n → Program α) (disk d : Disk) : Prop :=
  ∃ s, Reaches workers scripts (initial disk) s ∧ s.disk = d

theorem Reaches.orderly (h : Reaches workers scripts (initial disk) s) : Orderly s := by
  induction h with
  | refl => exact .initial disk
  | tail _ hstep ih => exact ih.step hstep

/-- No schedule ends with a report that jobs were cancelled: one that failed is before them. -/
theorem Reaches.report_ne_cancelled (h : Reaches workers scripts (initial disk) s) {r : Report α}
    (hreturned : s.stage = .returned r) : r ≠ .cancelled := by
  obtain ⟨rfl, hover⟩ := h.orderly.returns r hreturned
  -- the report agrees with what has become of the jobs, whatever it is
  let results (i : Fin n) : Except Failure α := match s.status i with
    | .finished r => r
    | _ => .error .noWorkers
  have hagrees : Agrees results (fun _ => True) (report s.status) :=
    agrees_report hover (fun i r hr => ⟨by simp only [results, hr], fun _ _ => trivial⟩)
      (h.orderly.finished_or_failed (by rw [hreturned]; nofun))
  intro hcancelled
  rw [hcancelled] at hagrees
  cases hagrees

end

end Pool
end BuildBlocks
