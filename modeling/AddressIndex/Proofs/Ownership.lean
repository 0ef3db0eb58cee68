import AddressIndex.Proofs.Execution
import AddressIndex.Proofs.Jobs
import AddressIndex.Proofs.Pages
import AddressIndex.Proofs.Poll
import Mathlib.Data.List.Pairwise

/-! Who holds a job. A claim reads and writes in two steps, and between them any others may come; so
a candidate can be out of date. But a take only succeeds on a job that is still pending, and an
update only on a job held by the tag of its worker. So from the take on, until the worker's own
update, the row stays as the worker was given it. -/

namespace AddressIndex

open Store (Database Tables Query Numbered)

/-- Whether the effect writes to the jobs. -/
def Effect.WritesJobs : Effect → Prop
  | .query q => q.WritesJobs
  | _ => False

/-- An effect that indexing an address may have: what it writes is written for the address, and it
leaves the jobs alone. -/
def Effect.Indexes (address : String) : Effect → Prop
  | .query (.append other _) | .query (.save other _) | .query (.mark other _) => other = address
  | .query (.lease _ _ _) => True
  | .query _ => False
  | _ => True

theorem Effect.Indexes.not_writesJobs {address : String} {effect : Effect}
    (h : effect.Indexes address) : ¬ effect.WritesJobs := by
  cases effect with
  | query q =>
    cases q with
    | addJob | take | updateJob => exact h.elim
    | _ => exact id
  | _ => exact id

/-- The event gives a job to a claimer. -/
def Event.Grants (ev : Event) (job : Job) : Prop :=
  ∃ id worker owner, ev = ⟨.query (.take id worker owner), .ok (some job)⟩

/-- The two events do not give away the same job. -/
def Event.Apart (ev later : Event) : Prop :=
  ∀ job job', ev.Grants job → later.Grants job' → job.id ≠ job'.id

/-- The event is an update of the job numbered `id`, whatever came of it. -/
def Event.Updates (ev : Event) (id : Int) : Prop :=
  ∃ word worker owner, ev.effect = .query (.updateJob id word worker owner)

/-- The job that a worker holds after an event, if it held `held` before. -/
def Event.holding (held : Option Job) (ev : Event) : Option Job :=
  match ev with
  | ⟨.query (.take _ _ _), .ok (some job)⟩ => some job
  | ⟨.query (.updateJob _ _ _ _), _⟩ => none
  | _ => held

theorem Event.holding_of_not_writes {held : Option Job} {ev : Event}
    (h : ¬ ev.effect.WritesJobs) : ev.holding held = held := by
  obtain ⟨effect, reply⟩ := ev
  cases effect with
  | query q =>
    cases q with
    | addJob | take | updateJob => exact absurd trivial h
    | _ => rfl
  | _ => rfl

theorem Event.of_holding {held : Option Job} {ev : Event} {job : Job}
    (h : ev.holding held = some job) :
    ev.Grants job ∨ (held = some job ∧ ∀ id, ¬ ev.Updates id) := by
  unfold Event.holding at h
  split at h
  next id worker owner job' =>
    cases h
    exact .inl ⟨id, worker, owner, rfl⟩
  next => cases h
  next hupdate =>
    refine .inr ⟨h, ?_⟩
    rintro id ⟨word, worker, owner, heffect⟩
    obtain ⟨effect, reply⟩ := ev
    dsimp only at heffect
    subst heffect
    exact hupdate _ _ _ _ _ rfl

/-- The job that a worker holds: the last one it was given, if it has not updated it since. -/
def Trace.held (t : Trace) : Option Job := t.foldl (fun held ev => ev.holding held) none

namespace Trace

@[simp] theorem held_nil : held [] = none := rfl

theorem held_snoc (t : Trace) (ev : Event) : held (t ++ [ev]) = ev.holding (held t) := by
  simp [held]

theorem held_snoc_of_not_writes {t : Trace} {ev : Event} (h : ¬ ev.effect.WritesJobs) :
    held (t ++ [ev]) = held t := by
  rw [held_snoc, Event.holding_of_not_writes h]

theorem held_granted (t : Trace) (id : Int) (worker : Option Int) (owner : Option String)
    (job : Job) : held (t ++ [⟨.query (.take id worker owner), .ok (some job)⟩]) = some job :=
  held_snoc _ _

theorem granted_of_held {t : Trace} {job : Job} (h : t.held = some job) :
    ∃ ev ∈ t, ev.Grants job := by
  induction t using List.reverseRecOn with
  | nil => cases h
  | append_singleton t ev ih =>
    rw [Trace.held_snoc] at h
    rcases Event.of_holding h with hgrants | ⟨hbefore, -⟩
    · exact ⟨ev, by simp, hgrants⟩
    · obtain ⟨ev', hev', hgrants⟩ := ih hbefore
      exact ⟨ev', List.mem_append_left _ hev', hgrants⟩

theorem held_append_of_not_writes {t₁ t₂ : Trace} (h : ∀ ev ∈ t₂, ¬ ev.effect.WritesJobs) :
    held (t₁ ++ t₂) = held t₁ := by
  induction t₂ generalizing t₁ with
  | nil => rw [List.append_nil]
  | cons ev t₂ ih =>
    obtain ⟨hev, hrest⟩ := List.forall_mem_cons.mp h
    rw [List.append_cons, ih hrest, held_snoc_of_not_writes hev]

end Trace

/-! ### Claims -/

namespace Store

open Attempt (runs_bind_ok runs_query_ok)

variable {worker : Option Int} {owner : Option String} {t : Trace}

/-- An attempt of a claim that came too late. -/
def lateTry (worker : Option Int) (owner : Option String) (id : Int) : Trace :=
  [⟨.query .candidate, .ok (some id)⟩, ⟨.query (.take id worker owner), .ok none⟩]

/-- A claim that gives a job was given it in its last step. -/
theorem runs_claimWithin_some {left : Nat} {job : Job}
    (h : (claimWithin worker owner left).run.Runs t (.ok (some job))) :
    ∃ done id, t = done ++ [⟨.query (.take id worker owner), .ok (some job)⟩] := by
  induction left generalizing t with
  | zero =>
    obtain ⟨-, hsame⟩ := Attempt.runs_pure.mp h
    cases hsame
  | succ left ih =>
    rw [claimWithin] at h
    obtain ⟨t₁, t₂, candidate, rfl, -, hrest⟩ := runs_bind_ok.mp h
    cases candidate with
    | none =>
      obtain ⟨-, hsame⟩ := Attempt.runs_pure.mp hrest
      cases hsame
    | some id =>
      obtain ⟨t₃, t₄, taken, rfl, htake, hlast⟩ := runs_bind_ok.mp hrest
      obtain rfl := runs_query_ok.mp htake
      cases taken with
      | some job' =>
        obtain ⟨rfl, hsame⟩ := Attempt.runs_pure.mp hlast
        cases hsame
        exact ⟨t₁, id, by rw [List.append_nil]⟩
      | none =>
        obtain ⟨done, id', rfl⟩ := ih hlast
        exact ⟨_, id', by rw [← List.append_assoc, ← List.append_assoc]⟩

/-- A claim that gives none found no candidate at last, or came too late in all its attempts. -/
theorem runs_claimWithin_none {left : Nat}
    (h : (claimWithin worker owner left).run.Runs t (.ok none)) :
    ∃ tries : List Int,
      (tries.length < left ∧
        t = tries.flatMap (lateTry worker owner) ++ [⟨.query .candidate, .ok none⟩]) ∨
      (tries.length = left ∧ t = tries.flatMap (lateTry worker owner)) := by
  induction left generalizing t with
  | zero =>
    obtain ⟨rfl, _⟩ := Attempt.runs_pure.mp h
    exact ⟨[], .inr ⟨rfl, rfl⟩⟩
  | succ left ih =>
    rw [claimWithin] at h
    obtain ⟨t₁, t₂, candidate, rfl, hcandidate, hrest⟩ := runs_bind_ok.mp h
    obtain rfl := runs_query_ok.mp hcandidate
    cases candidate with
    | none =>
      obtain ⟨rfl, _⟩ := Attempt.runs_pure.mp hrest
      exact ⟨[], .inl ⟨Nat.succ_pos left, rfl⟩⟩
    | some id =>
      obtain ⟨t₃, t₄, taken, rfl, htake, hlast⟩ := runs_bind_ok.mp hrest
      obtain rfl := runs_query_ok.mp htake
      cases taken with
      | some job =>
        obtain ⟨_, hsame⟩ := Attempt.runs_pure.mp hlast
        cases hsame
      | none =>
        obtain ⟨tries, ⟨hlength, rfl⟩ | ⟨hlength, rfl⟩⟩ := ih hlast
        · exact ⟨id :: tries, .inl ⟨Nat.succ_lt_succ hlength, rfl⟩⟩
        · exact ⟨id :: tries, .inr ⟨congrArg _ hlength, rfl⟩⟩

end Store

/-! ### What a worker heeds -/

namespace Worker

open Attempt (runs_bind_ok runs_query_ok)

variable {config : Config} {past : Trace}

/-- While it held the job, a worker indexed the job's address without a fault. -/
def HasIndexed (limits : Limits) (past : Trace) (job : Job) : Prop :=
  ∃ before t later counts, past = before ++ (t ++ later) ∧ before.held = some job ∧
    (index limits job.address).run.Runs t (.ok counts)

/-- A worker takes a job only as the last step of a claim and when it holds none. It updates only
the job that it holds, to say how it ended, and both under its own tag; it calls the job ready only
when it has indexed it. What it writes besides is for the address of the job that it holds. It
hands in no address. -/
def Heedful (config : Config) (past : Trace) : Effect → Prop
  | .query (.take id worker owner) =>
    worker = some config.id ∧ owner = some config.owner ∧ past.held = none ∧
      ∃ before claim, past = before ++ claim ∧ ∀ job,
        (Store.claim worker owner).run.Runs
          (claim ++ [⟨.query (.take id worker owner), .ok (some job)⟩]) (.ok (some job))
  | .query (.updateJob id word worker owner) =>
    worker = some config.id ∧ owner = some config.owner ∧
      ∃ job status, past.held = some job ∧ job.id = id ∧ word = JobStatus.word status ∧
        (status = .error ∨ status = .ready ∧ HasIndexed config.limits past job)
  | .query (.append address _) | .query (.save address _) | .query (.mark address _) =>
    ∃ job, past.held = some job ∧ job.address = address
  | .query (.addJob _) => False
  | _ => True

theorem heedful_of_indexes {effect : Effect} {job : Job} (h : effect.Indexes job.address)
    (hheld : past.held = some job) : Heedful config past effect := by
  cases effect with
  | query q =>
    cases q with
    | append | save | mark => exact ⟨job, hheld, h.symm⟩
    | addJob | take | updateJob => exact h.elim
    | _ => trivial
  | _ => trivial

theorem indexes_of_quiet {effect : Effect} (address : String) (h : effect.isCall = false) :
    effect.Indexes address := by
  cases effect with
  | query _ => simp at h
  | _ => trivial

theorem keeps_held (held : Option Job) : Keeps (Heedful config) fun past => past.held = held := by
  intro past effect quiet h
  constructor
  · cases effect with
    | query _ => simp at quiet
    | _ => trivial
  · intro reply
    rw [Trace.held_snoc_of_not_writes (indexes_of_quiet "" quiet).not_writesJobs, h]

/-- While a job is indexed its worker holds it. -/
theorem keeps_held_indexing {job : Job} (past : Trace) (effect : Effect)
    (h : effect.Indexes job.address) (hheld : past.held = some job) :
    Heedful config past effect ∧ ∀ reply, Trace.held (past ++ [⟨effect, reply⟩]) = some job := by
  refine ⟨heedful_of_indexes h hheld, fun reply => ?_⟩
  rw [Trace.held_snoc_of_not_writes h.not_writesJobs, hheld]

theorem only_indexes {limits : Limits} {address : String} :
    (index limits address).run.Only fun effect => effect.Indexes address :=
  only_index (fun _ => trivial) (fun _ _ => trivial) (fun _ => trivial) (fun _ => rfl)
    (fun _ => trivial) (fun _ => rfl) (fun _ => rfl) fun _ => trivial

/-- The rest of a claim, after `done` of it. -/
theorem heeds_claimWithin {left : Nat} {before done : Trace} (hpast : past = before ++ done)
    (hrest : ∀ t r,
      (Store.claimWithin (some config.id) (some config.owner) left).run.Runs t r →
      (Store.claim (some config.id) (some config.owner)).run.Runs (done ++ t) r)
    (hheld : past.held = none) :
    (Store.claimWithin (some config.id) (some config.owner) left).run.Heeds (Heedful config) past
      fun r past =>
        match r with
        | .ok (some job) => past.held = some job
        | _ => past.held = none := by
  induction left generalizing past done with
  | zero => exact hheld
  | succ left ih =>
    rw [Store.claimWithin] at hrest ⊢
    rw [Attempt.heeds_bind]
    have hsnoc (reply : Except Store.Fault (Option Int)) :
        Trace.held (past ++ [⟨.query .candidate, reply⟩]) = none := by
      rw [Trace.held_snoc_of_not_writes id, hheld]
    refine Attempt.heeds_query trivial (fun candidate => ?_) fun _ => hsnoc _
    cases candidate with
    | none => exact hsnoc _
    | some id =>
      dsimp only
      rw [Attempt.heeds_bind]
      -- what goes on from here goes on a run of the whole claim
      have hclaim (taken : Option Job) (t : Trace) (r : Except Fault (Option Job))
          (h : (taken.elim (Store.claimWithin (some config.id) (some config.owner) left)
            fun job => pure (some job)).run.Runs t r) :
          (Store.claim (some config.id) (some config.owner)).run.Runs
            (done ++ [⟨.query .candidate, .ok (some id)⟩,
              ⟨.query (.take id (some config.id) (some config.owner)), .ok taken⟩] ++ t) r := by
        rw [List.append_assoc]
        refine hrest _ _ (Attempt.runs_bind.mpr (.inl ⟨[⟨.query .candidate, .ok (some id)⟩],
          [⟨.query (.take id (some config.id) (some config.owner)), .ok taken⟩] ++ t, some id, rfl,
          runs_query_ok.mpr rfl, ?_⟩))
        refine Attempt.runs_bind.mpr (.inl ⟨_, t, taken, rfl, runs_query_ok.mpr rfl, ?_⟩)
        cases taken <;> exact h
      refine Attempt.heeds_query ⟨rfl, rfl, hsnoc _, before,
        done ++ [⟨.query .candidate, .ok (some id)⟩], by rw [hpast, List.append_assoc],
        fun job => ?_⟩ (fun taken => ?_) fun _ => ?_
      · simpa using hclaim (some job) [] (.ok (some job)) (Attempt.runs_pure.mpr ⟨rfl, rfl⟩)
      · cases taken with
        | some job => exact Trace.held_granted _ _ _ _ _
        | none =>
          refine ih ?_ (hclaim none) ?_
          · rw [hpast]
            simp
          · rw [Trace.held_snoc]
            exact hsnoc _
      · rw [Trace.held_snoc]
        exact hsnoc _

theorem heedful_course : Course config (Heedful config) (fun past => past.held = none)
    (fun job past => past.held = some job)
    (fun job status past => past.held = some job ∧
      (status = .error ∨ status = .ready ∧ HasIndexed config.limits past job)) where
  keepsIdle := keeps_held none
  keepsBusy job := keeps_held (some job)
  keepsEnded job status past effect quiet h := by
    obtain ⟨hheld, hended⟩ := h
    obtain ⟨allowed, later⟩ := keeps_held (some job) past effect quiet hheld
    refine ⟨allowed, fun reply => ⟨later reply, hended.imp_right fun ⟨hready, hindexed⟩ => ?_⟩⟩
    obtain ⟨before, t, after, counts, rfl, hrest⟩ := hindexed
    exact ⟨hready, before, t, after ++ [⟨effect, reply⟩], counts, by simp, hrest⟩
  claims past h := heeds_claimWithin (List.append_nil past).symm (fun _ _ h => h) h
  indexes job past h := by
    refine only_indexes.heeds_of_known keeps_held_indexing h fun t r hruns held => ?_
    cases r with
    | ok counts => exact ⟨held, .inr ⟨rfl, past, t, [], counts, by simp, h, hruns⟩⟩
    | error _ => exact ⟨held, .inl rfl⟩
  updates job status past h :=
    Attempt.heeds_query ⟨rfl, rfl, job, status, h.1, rfl, rfl, h.2⟩
      (fun _ => Trace.held_snoc _ _) fun _ => Trace.held_snoc _ _

end Worker

/-! ### Workers among others -/

section Pool

variable {ι : Type} [DecidableEq ι] {answers : Answers} {database : Database}
  {config : ι → Worker.Config} {limit : ι → Nat} {state : ι → Worker.State}
  {pool pool' : Pool ι (Except Fault Unit × Worker.State)} {history : History ι}

theorem Pool.Reaches.heedful {i : ι} {ev : Event}
    (r : Pool.Reaches answers (Worker.pool database config limit state) history pool)
    (step : pool.Step answers (some i, ev) pool') :
    Worker.Heedful (config i) (history.own i) ev.effect :=
  r.heeds (Worker.heedful_course.heeds_run (limit i) Trace.held_nil) step

/-- What is written of jobs in a step: an address is handed in, or a worker heeds its rules. -/
theorem Pool.Step.writes {who : Option ι} {q : Query} {reply : Except Store.Fault q.Reply}
    (r : Pool.Reaches answers (Worker.pool database config limit state) history pool)
    (step : pool.Step answers (who, ⟨.query q, reply⟩) pool') :
    (∃ address, q = .addJob address) ∨
      ∃ i, who = some i ∧ Worker.Heedful (config i) (history.own i) (.query q) := by
  cases who with
  | none =>
    cases step
    exact .inl ⟨_, rfl⟩
  | some i => exact .inr ⟨i, rfl, r.heedful step⟩

theorem Worker.Heedful.status {config : Worker.Config} {past : Trace} {id : Int} {word : String}
    {worker : Option Int} {owner : Option String}
    (h : Worker.Heedful config past (.query (.updateJob id word worker owner))) :
    JobStatus.ofWord? word ≠ some .pending := by
  obtain ⟨-, -, job, status, -, -, rfl, rfl | ⟨rfl, -⟩⟩ := h <;> simp [JobStatus.ofWord?_word]

theorem Worker.Heedful.holding {config : Worker.Config} {past : Trace} {ev : Event} {job : Job}
    (h : Worker.Heedful config past ev.effect) (hheld : past.held = some job)
    (hother : ¬ ev.Updates job.id) : ev.holding past.held = some job := by
  rw [hheld]
  unfold Event.holding
  split
  · obtain ⟨-, -, hnone, -⟩ := h
    rw [hheld] at hnone
    cases hnone
  next id word worker owner _ =>
    obtain ⟨-, -, job', -, hjob', rfl, -⟩ := h
    rw [hheld] at hjob'
    cases hjob'
    exact absurd ⟨word, worker, owner, rfl⟩ hother
  · rfl

/-- Who writes to the history of an address holds a job for it. -/
theorem Worker.Heedful.writes {config : Worker.Config} {past : Trace} {effect : Effect}
    {address : String} (h : Worker.Heedful config past effect)
    (hwrites : effect.WritesHistory address) :
    ∃ job, past.held = some job ∧ job.address = address := by
  cases effect with
  | query q =>
    cases q with
    | append | mark =>
      obtain ⟨job, hheld, haddress⟩ := h
      exact ⟨job, hheld, haddress.trans hwrites⟩
    | _ => exact hwrites.elim
  | _ => exact hwrites.elim

/-- What an update finds that names an owner. -/
theorem Job.heldBy_some {job : Job} {worker : Option Int} {owner : String}
    (h : job.heldBy worker (some owner)) : job.status = .indexing ∧ job.owner = some owner := by
  simp only [heldBy, Option.isNone_some, Bool.false_or, Bool.and_eq_true, decide_eq_true_eq] at h
  exact ⟨h.1.1, h.2⟩

variable {who : Option ι} {ev : Event}

theorem Event.Happens.numbered {before after : Database} (h : ev.Happens answers before after)
    (hnumbered : Numbered before.tables.jobs) : Numbered after.tables.jobs := by
  rcases h.cases with ⟨q, _, now, -, -, hafter⟩ | ⟨-, rfl⟩
  · rw [hafter]
    exact Query.next_numbered hnumbered
  · exact hnumbered

/-- The addresses that have jobs keep them. -/
theorem Event.Happens.address_stays {before after : Database} {address : String}
    (h : ev.Happens answers before after) (hnumbered : Numbered before.tables.jobs)
    (hjob : ∃ job ∈ before.tables.jobs, job.address = address) :
    ∃ job ∈ after.tables.jobs, job.address = address := by
  rcases h.cases with ⟨q, _, now, -, -, hafter⟩ | ⟨-, rfl⟩
  · rw [hafter]
    exact Query.address_stays hnumbered hjob
  · exact hjob

theorem Pool.Reaches.numbered {ρ : Type} {start pool : Pool ι ρ} {history : History ι}
    (r : Pool.Reaches answers start history pool) (h : Numbered start.database.tables.jobs) :
    Numbered pool.database.tables.jobs :=
  r.keeps (P := fun tables => Numbered tables.jobs) h fun _ _ _ happens => happens.numbered

theorem Pool.Reaches.addresses {ρ : Type} {start pool : Pool ι ρ} {history : History ι}
    (r : Pool.Reaches answers start history pool) (hnumbered : Numbered start.database.tables.jobs)
    (h : (start.database.tables.jobs.map (·.address)).Nodup) :
    (pool.database.tables.jobs.map (·.address)).Nodup := by
  refine (r.keeps (P := fun tables => Numbered tables.jobs ∧ (tables.jobs.map (·.address)).Nodup)
    ⟨hnumbered, h⟩ fun ev before after happens h => ⟨happens.numbered h.1, ?_⟩).2
  rcases happens.cases with ⟨q, _, now, -, -, hafter⟩ | ⟨-, rfl⟩
  · rw [hafter]
    exact Query.next_addresses h.1 h.2
  · exact h.2

/-- A job that is given away was pending, and bears the tags of the worker from then on. -/
theorem Pool.Step.grants {job : Job}
    (r : Pool.Reaches answers (Worker.pool database config limit state) history pool)
    (step : pool.Step answers (who, ev) pool') (hgrants : ev.Grants job) :
    ∃ i old, who = some i ∧ old ∈ pool.database.tables.jobs ∧ old.status = .pending ∧
      job = { old with
        status := .indexing
        worker := some (config i).id
        owner := some (config i).owner
        updated := job.updated } ∧
      job ∈ pool'.database.tables.jobs := by
  obtain ⟨id, worker, owner, rfl⟩ := hgrants
  obtain ⟨now, hreply, hafter⟩ := Event.Happens.of_reply step.happens
  obtain ⟨old, hold, rfl, hpending, hjob⟩ := Query.granted_some hreply.symm
  rcases step.writes r with ⟨_, ⟨⟩⟩ | ⟨i, rfl, rfl, rfl, -⟩
  refine ⟨i, old, rfl, hold, hpending, by rw [hjob], ?_⟩
  rw [hafter]
  exact Query.mem_next_take hreply.symm

/-- What a step does to the row of a job: nothing, or a worker is given it, or the worker that
holds it says how it ended. -/
theorem Pool.Step.row {row : Job} (hnumbered : Numbered pool.database.tables.jobs)
    (r : Pool.Reaches answers (Worker.pool database config limit state) history pool)
    (step : pool.Step answers (who, ev) pool') (hrow : row ∈ pool.database.tables.jobs) :
    row ∈ pool'.database.tables.jobs ∨
      (row.status = .pending ∧
        ∃ job ∈ pool'.database.tables.jobs, ev.Grants job ∧ job.id = row.id) ∨
      ∃ i, who = some i ∧ ev.Updates row.id ∧ row.status = .indexing ∧
        row.owner = some (config i).owner ∧ ∃ row' ∈ pool'.database.tables.jobs,
          row'.id = row.id ∧ row'.address = row.address ∧ row'.status ≠ .pending := by
  have happens : ev.Happens answers pool.database pool'.database := step.happens
  rcases happens.cases with ⟨q, reply, now, rfl, hreply, hafter⟩ | ⟨-, hafter⟩
  · rw [hafter]
    obtain h | ⟨worker, owner, rfl, hpending, h⟩ |
      ⟨word, worker, owner, status, rfl, hword, hheld, h⟩ :=
        Query.job_stays q now hnumbered hrow
    · exact .inl h
    · refine .inr (.inl ⟨hpending, _, h, ⟨row.id, worker, owner, ?_⟩, rfl⟩)
      rw [hreply, Query.answer, Query.granted_of_pending hnumbered hrow hpending]
    · -- an update bears the tag of its worker
      rcases step.writes r with ⟨_, ⟨⟩⟩ | ⟨i, rfl, heedful⟩
      obtain ⟨-, rfl, -⟩ := id heedful
      obtain ⟨hindexing, howner⟩ := Job.heldBy_some hheld
      refine .inr (.inr ⟨i, rfl, ⟨word, worker, _, rfl⟩, hindexing, howner, _, h, rfl, rfl, ?_⟩)
      rintro rfl
      exact heedful.status hword
  · rw [hafter]
    exact .inl hrow

/-- What is true of the jobs that were given away: none of them is pending, and none was given away
twice. -/
structure Granted (history : History ι) (jobs : List Job) : Prop where
  numbered : Numbered jobs
  taken : ∀ entry ∈ history, ∀ job, entry.2.Grants job →
    ∃ row ∈ jobs, row.id = job.id ∧ row.address = job.address ∧ row.status ≠ .pending
  once : history.Pairwise fun entry later => entry.2.Apart later.2

theorem Granted.step (inv : Granted history pool.database.tables.jobs)
    (r : Pool.Reaches answers (Worker.pool database config limit state) history pool)
    (step : pool.Step answers (who, ev) pool') :
    Granted (history ++ [(who, ev)]) pool'.database.tables.jobs where
  numbered := step.happens.numbered inv.numbered
  taken entry hentry job hgrants := by
    rcases List.mem_append.mp hentry with hentry | hentry
    · obtain ⟨row, hrow, hid, haddress, hstatus⟩ := inv.taken entry hentry job hgrants
      obtain h | ⟨hpending, -⟩ | ⟨_, _, _, _, _, row', hrow', hid', haddress', hstatus'⟩ :=
        step.row inv.numbered r hrow
      · exact ⟨row, h, hid, haddress, hstatus⟩
      · exact absurd hpending hstatus
      · exact ⟨row', hrow', hid'.trans hid, haddress'.trans haddress, hstatus'⟩
    · obtain rfl := List.mem_singleton.mp hentry
      obtain ⟨_, _, _, _, _, hjob, hmem⟩ := step.grants r hgrants
      refine ⟨job, hmem, rfl, rfl, ?_⟩
      rw [hjob]
      exact nofun
  once := by
    refine List.pairwise_append.mpr ⟨inv.once, List.pairwise_singleton _ _, ?_⟩
    intro entry hentry later hlater job job' hbefore hgrants hsame
    obtain rfl := List.mem_singleton.mp hlater
    -- a job that is given away was pending, and those that were given away are not
    obtain ⟨i, old, -, hold, hpending, hjob, -⟩ := step.grants r hgrants
    obtain ⟨row, hrow, hid, -, hstatus⟩ := inv.taken entry hentry job hbefore
    have : row.id = old.id := by rw [hid, hsame, hjob]
    obtain rfl := inv.numbered.eq_of_id hrow hold this
    exact hstatus hpending

theorem Granted.reached (hnumbered : Numbered database.tables.jobs)
    (r : Pool.Reaches answers (Worker.pool database config limit state) history pool) :
    Granted history pool.database.tables.jobs := by
  induction r with
  | refl => exact ⟨hnumbered, (fun _ h => nomatch h), .nil⟩
  | step r step ih => exact ih.step r step

omit [DecidableEq ι] in
/-- Two events that give away one job are the same. -/
theorem Granted.unique {jobs : List Job} {entry later : Option ι × Event} {job job' : Job}
    (inv : Granted history jobs) (hentry : entry ∈ history) (hlater : later ∈ history)
    (hgrants : entry.2.Grants job) (hgrants' : later.2.Grants job') (hid : job.id = job'.id) :
    entry = later := by
  have symm : Std.Symm fun entry later : Option ι × Event => entry.2.Apart later.2 :=
    ⟨fun _ _ h job job' hx hy hsame => h job' job hy hx hsame.symm⟩
  by_contra hne
  exact inv.once.forall hentry hlater hne job job' hgrants hgrants' hid

/-- The row of a job that a worker holds. -/
theorem Pool.Reaches.row_of_held {i : ι} {job : Job} (hnumbered : Numbered database.tables.jobs)
    (r : Pool.Reaches answers (Worker.pool database config limit state) history pool)
    (hheld : (history.own i).held = some job) :
    ∃ row ∈ pool.database.tables.jobs, row.id = job.id ∧ row.address = job.address := by
  obtain ⟨ev, hev, hgrants⟩ := Trace.granted_of_held hheld
  obtain ⟨row, hrow, hid, haddress, -⟩ :=
    (Granted.reached hnumbered r).taken _ (History.mem_own.mp hev) job hgrants
  exact ⟨row, hrow, hid, haddress⟩

/-- Two workers do not hold one job. -/
theorem Pool.Reaches.held_once {i j : ι} {job job' : Job}
    (hnumbered : Numbered database.tables.jobs)
    (r : Pool.Reaches answers (Worker.pool database config limit state) history pool)
    (hheld : (history.own i).held = some job) (hheld' : (history.own j).held = some job')
    (hid : job.id = job'.id) : i = j := by
  obtain ⟨ev, hev, hgrants⟩ := Trace.granted_of_held hheld
  obtain ⟨ev', hev', hgrants'⟩ := Trace.granted_of_held hheld'
  have hentry := (Granted.reached hnumbered r).unique (History.mem_own.mp hev)
    (History.mem_own.mp hev') hgrants hgrants' hid
  exact Option.some.inj (congrArg Prod.fst hentry)

/-- Jobs stand in their rows as the workers that hold them were given them. -/
def Exclusive (config : ι → Worker.Config) (history : History ι) (jobs : List Job) : Prop :=
  ∀ i job, (history.own i).held = some job → job ∈ jobs ∧ job.status = .indexing ∧
    job.worker = some (config i).id ∧ job.owner = some (config i).owner

/-- A job that a worker holds stays as it is until the worker's own update. -/
theorem Exclusive.held_of_step (howners : ∀ i j, (config i).owner = (config j).owner → i = j)
    {i : ι} {job : Job} (inv : Exclusive config history pool.database.tables.jobs)
    (hnumbered : Numbered pool.database.tables.jobs)
    (r : Pool.Reaches answers (Worker.pool database config limit state) history pool)
    (step : pool.Step answers (who, ev) pool') (hheld : (history.own i).held = some job)
    (hother : who = some i → ¬ ev.Updates job.id) : job ∈ pool'.database.tables.jobs := by
  obtain ⟨hjob, hindexing, -, howner⟩ := inv i job hheld
  rcases step.row hnumbered r hjob with h | ⟨hpending, -⟩ | ⟨j, rfl, hupdates, -, hsame, -⟩
  · exact h
  · rw [hindexing] at hpending
    cases hpending
  · obtain rfl := howners i j (Option.some.inj (howner.symm.trans hsame))
    exact absurd hupdates (hother rfl)

theorem Exclusive.step (howners : ∀ i j, (config i).owner = (config j).owner → i = j)
    (inv : Exclusive config history pool.database.tables.jobs)
    (hnumbered : Numbered pool.database.tables.jobs)
    (r : Pool.Reaches answers (Worker.pool database config limit state) history pool)
    (step : pool.Step answers (who, ev) pool') :
    Exclusive config (history ++ [(who, ev)]) pool'.database.tables.jobs := by
  intro i job hheld
  by_cases hwho : who = some i
  · subst hwho
    rw [History.own_concat_self, Trace.held_snoc] at hheld
    -- in its own step the worker is given the job, or it held it before and does not update it
    rcases Event.of_holding hheld with hgrants | ⟨hbefore, hother⟩
    · obtain ⟨j, old, hj, -, -, hjob, hmem⟩ := step.grants r hgrants
      obtain rfl := Option.some.inj hj
      rw [hjob] at hmem ⊢
      exact ⟨hmem, rfl, rfl, rfl⟩
    · exact ⟨inv.held_of_step howners hnumbered r step hbefore fun _ => hother _,
        (inv i job hbefore).2⟩
  · rw [History.own_concat_of_ne hwho] at hheld
    exact ⟨inv.held_of_step howners hnumbered r step hheld fun h => absurd h hwho,
      (inv i job hheld).2⟩

theorem Exclusive.reached (howners : ∀ i j, (config i).owner = (config j).owner → i = j)
    (hnumbered : Numbered database.tables.jobs)
    (r : Pool.Reaches answers (Worker.pool database config limit state) history pool) :
    Exclusive config history pool.database.tables.jobs := by
  induction r with
  | refl => exact fun _ _ h => nomatch h
  | step r step ih => exact ih.step howners (r.numbered hnumbered) r step

/-! ### Claims among others -/

/-- With the last step of the history a claim of worker `i` ends and gives `result`. -/
def History.Returns (config : ι → Worker.Config) (history : History ι) (i : ι)
    (result : Option Job) : Prop :=
  ∃ init ev before claim, history = init ++ [(some i, ev)] ∧ history.own i = before ++ claim ∧
    (Store.claim (some (config i).id) (some (config i).owner)).run.Runs claim (.ok result)

/-- Worker `i` found the job numbered `id` pending and came to take it, but between the two steps
the job was given to another. -/
def History.Overtaken (history : History ι) (i : ι) (id : Int) : Prop :=
  ∃ first between last worker owner,
    history = first ++ (some i, ⟨.query .candidate, .ok (some id)⟩) ::
      (between ++ (some i, ⟨.query (.take id worker owner), .ok none⟩) :: last) ∧
    History.own i between = [] ∧ ∃ entry ∈ between, ∃ job, entry.2.Grants job ∧ job.id = id

/-- A claim that gives a job was granted it in this step. -/
theorem History.Returns.grants {init : History ι} {entry : Option ι × Event} {i : ι} {job : Job}
    (h : History.Returns config (init ++ [entry]) i (some job)) :
    entry.1 = some i ∧ entry.2.Grants job := by
  obtain ⟨init', ev, before, claim, hhistory, hown, hclaim⟩ := h
  obtain ⟨rfl, hentry⟩ := List.append_inj' hhistory rfl
  obtain rfl := List.singleton_inj.mp hentry
  obtain ⟨done, id, rfl⟩ := Store.runs_claimWithin_some hclaim
  rw [History.own_concat_self, ← List.append_assoc] at hown
  obtain ⟨-, hev⟩ := List.append_inj' hown rfl
  obtain rfl := List.singleton_inj.mp hev
  exact ⟨rfl, id, _, _, rfl⟩

/-- A job that turns from pending to another status was given to a claim, which returns it. -/
theorem Pool.Step.returns {old new : Job}
    (hnumbered : Numbered pool.database.tables.jobs)
    (r : Pool.Reaches answers (Worker.pool database config limit state) history pool)
    (step : pool.Step answers (who, ev) pool') (hold : old ∈ pool.database.tables.jobs)
    (hpending : old.status = .pending) (hnew : new ∈ pool'.database.tables.jobs)
    (hid : new.id = old.id) (hstatus : new.status ≠ .pending) :
    ∃ i, who = some i ∧ History.Returns config (history ++ [(who, ev)]) i (some new) := by
  have hnumbered' := step.happens.numbered hnumbered
  rcases step.row hnumbered r hold with h | ⟨-, job, hjob, hgrants, hsame⟩ | ⟨_, _, _, hindexing, _⟩
  · obtain rfl := hnumbered'.eq_of_id hnew h hid
    exact absurd hpending hstatus
  · obtain rfl := hnumbered'.eq_of_id hnew hjob (hid.trans hsame.symm)
    obtain ⟨id, worker, owner, rfl⟩ := hgrants
    rcases step.writes r with ⟨_, ⟨⟩⟩ | ⟨i, rfl, rfl, rfl, -, before, claim, hpast, hclaim⟩
    refine ⟨i, rfl, history, _, before, _, rfl, ?_, hclaim new⟩
    rw [History.own_concat_self, hpast, List.append_assoc]
  · rw [hpending] at hindexing
    cases hindexing

/-- A pending job stays pending until it is given to one. -/
theorem Pool.Reaches.pending_or_granted {h₁ h₂ : History ι}
    {mid : Pool ι (Except Fault Unit × Worker.State)} {row : Job}
    (hnumbered : Numbered mid.database.tables.jobs)
    (r₁ : Pool.Reaches answers (Worker.pool database config limit state) h₁ mid)
    (r₂ : Pool.Reaches answers mid h₂ pool) (hrow : row ∈ mid.database.tables.jobs)
    (hpending : row.status = .pending) :
    row ∈ pool.database.tables.jobs ∨
      ∃ entry ∈ h₂, ∃ job, entry.2.Grants job ∧ job.id = row.id := by
  induction r₂ with
  | refl => exact .inl hrow
  | @step h₂ pool pool' entry r₂ step ih =>
    rcases ih with hrow | ⟨entry, hentry, hgranted⟩
    · obtain h | ⟨-, job, -, hgrants, hid⟩ | ⟨_, _, _, hindexing, _⟩ :=
        step.row (r₂.numbered hnumbered) (r₁.trans r₂) hrow
      · exact .inl h
      · exact .inr ⟨entry, by simp, job, hgrants, hid⟩
      · rw [hpending] at hindexing
        cases hindexing
    · exact .inr ⟨entry, List.mem_append_left _ hentry, hgranted⟩

/-- A worker that comes too late was overtaken. -/
theorem Pool.Reaches.overtaken {i : ι} {id : Int} {worker : Option Int} {owner : Option String}
    {t₁ t₂ : Trace} (hnumbered : Numbered database.tables.jobs)
    (r : Pool.Reaches answers (Worker.pool database config limit state) history pool)
    (hown : history.own i = t₁ ++ Store.lateTry worker owner id ++ t₂) :
    history.Overtaken i id := by
  rw [Store.lateTry, List.append_assoc, List.cons_append] at hown
  obtain ⟨first, rest, rfl, -, hrest⟩ := History.own_split hown
  rw [List.singleton_append, ← List.nil_append (_ :: t₂)] at hrest
  obtain ⟨between, last, rfl, hbetween, -⟩ := History.own_split hrest
  refine ⟨first, between, last, worker, owner, rfl, hbetween, ?_⟩
  obtain ⟨before, found, r₁, look, r₂⟩ := r.split_at
  obtain ⟨found', after, r₃, take, -⟩ := r₂.split_at
  -- the look found the job pending, and nobody but a claim changes that
  obtain ⟨_, hcandidate, hfound⟩ := Event.Happens.of_reply look.happens
  obtain ⟨row, hrow, rfl⟩ := Option.map_eq_some_iff.mp hcandidate.symm
  obtain ⟨hmem, hpending⟩ := Store.oldestPending_some hrow
  have hnumbered' := look.happens.numbered (r₁.numbered hnumbered)
  have hmem' : row ∈ found.database.tables.jobs := by
    rw [hfound]
    exact hmem
  rcases (r₁.step look).pending_or_granted hnumbered' r₃ hmem' hpending with hstays | hgranted
  · obtain ⟨_, htaken, -⟩ := Event.Happens.of_reply take.happens
    exact absurd hpending (Query.granted_none (r₃.numbered hnumbered') htaken.symm row hstays rfl)
  · exact hgranted

/-- A worker goes on holding a job that it was given until it updates it. -/
theorem Pool.Reaches.held_of_returns {h₁ h₂ : History ι} {i : ι} {job : Job}
    {mid : Pool ι (Except Fault Unit × Worker.State)}
    (r₁ : Pool.Reaches answers (Worker.pool database config limit state) h₁ mid)
    (r₂ : Pool.Reaches answers mid h₂ pool) (hreturns : History.Returns config h₁ i (some job))
    (hother : ∀ ev ∈ History.own i h₂, ¬ ev.Updates job.id) :
    (History.own i (h₁ ++ h₂)).held = some job := by
  induction r₂ with
  | refl =>
    obtain ⟨init, ev, _, _, rfl, -, -⟩ := id hreturns
    obtain ⟨-, id, worker, owner, rfl⟩ := hreturns.grants
    rw [List.append_nil, History.own_concat_self]
    exact Trace.held_granted _ _ _ _ _
  | @step h₂ pool pool' entry r₂ step ih =>
    obtain ⟨who, ev⟩ := entry
    rw [← List.append_assoc]
    by_cases hwho : who = some i
    · subst hwho
      rw [History.own_concat_self] at hother ⊢
      obtain ⟨hbefore, hlast⟩ := List.forall_mem_append.mp hother
      rw [Trace.held_snoc]
      exact ((r₁.trans r₂).heedful step).holding (ih hbefore)
        (hlast ev (List.mem_singleton_self ev))
    · rw [History.own_concat_of_ne hwho] at hother ⊢
      exact ih hother

/-- A claim that returns a job was given it in a step of its own. -/
theorem Pool.Reaches.returns_once {h₁ h₂ : History ι} {i j : ι} {job job' : Job}
    (hnumbered : Numbered database.tables.jobs)
    (r : Pool.Reaches answers (Worker.pool database config limit state) h₂ pool)
    (hsub : h₁ <+: h₂) (hreturns₁ : History.Returns config h₁ i (some job))
    (hreturns₂ : History.Returns config h₂ j (some job')) (hid : job.id = job'.id) : h₁ = h₂ := by
  obtain ⟨init₁, ev₁, _, _, rfl, -, -⟩ := id hreturns₁
  obtain ⟨init₂, ev₂, _, _, rfl, -, -⟩ := id hreturns₂
  rcases List.prefix_concat_iff.mp hsub with hsame | hbefore
  · exact hsame
  have hmem : (some i, ev₁) ∈ init₂ :=
    hbefore.subset (List.mem_append_right _ List.mem_cons_self)
  refine absurd hid ((List.pairwise_append.mp (Granted.reached hnumbered r).once).2.2 _ hmem _
    List.mem_cons_self job job' hreturns₁.grants.2 hreturns₂.grants.2)

/-- A claim that gives none saw no pending job, or was overtaken in all its attempts. -/
theorem Pool.Reaches.returns_none {i : ι} (hnumbered : Numbered database.tables.jobs)
    (r : Pool.Reaches answers (Worker.pool database config limit state) history pool)
    (h : History.Returns config history i none) :
    (∃ init seen, history = init ++ [(some i, ⟨.query .candidate, .ok none⟩)] ∧
      Pool.Reaches answers (Worker.pool database config limit state) init seen ∧
      ∀ job ∈ seen.database.tables.jobs, job.status ≠ .pending) ∨
    ∃ (before : Trace) (tries : List Int), tries.length = Store.claimAttempts ∧
      history.own i = before ++
        tries.flatMap (Store.lateTry (some (config i).id) (some (config i).owner)) ∧
      ∀ id ∈ tries, history.Overtaken i id := by
  obtain ⟨init, ev, before, claim, rfl, hown, hclaim⟩ := h
  obtain ⟨tries, ⟨-, rfl⟩ | ⟨hlength, rfl⟩⟩ := Store.runs_claimWithin_none hclaim
  · rw [History.own_concat_self, ← List.append_assoc] at hown
    obtain ⟨-, hev⟩ := List.append_inj' hown rfl
    obtain rfl := List.singleton_inj.mp hev
    obtain ⟨seen, r₁, r₂⟩ := r.split
    obtain ⟨_, hcandidate, -⟩ := Event.Happens.of_reply r₂.single.happens
    refine .inl ⟨init, seen, rfl, r₁, Store.oldestPending_none ?_⟩
    exact Option.map_eq_none_iff.mp hcandidate.symm
  · refine .inr ⟨before, tries, hlength, hown, fun id hid => ?_⟩
    obtain ⟨front, back, rfl⟩ := List.append_of_mem hid
    rw [List.flatMap_append, List.flatMap_cons, ← List.append_assoc, ← List.append_assoc] at hown
    exact r.overtaken hnumbered hown

/-- Whoever comes when: a job that turns from pending was given to a claim, which returns it; a
claim that returns a job was given it while pending, and it bears the tags of the claim's worker; no
two claims return one job; from a claim on, until the update by the worker of the claim, the row
stays as it was returned; and a claim gives none only if it saw no pending job, or was overtaken in
all its attempts. -/
theorem Pool.Reaches.claims_exclusive (hnumbered : Numbered database.tables.jobs)
    (howners : ∀ i j, (config i).owner = (config j).owner → i = j)
    (r : Pool.Reaches answers (Worker.pool database config limit state) history pool) :
    (∀ who ev pool', pool.Step answers (who, ev) pool' →
      ∀ old ∈ pool.database.tables.jobs, old.status = .pending →
      ∀ new ∈ pool'.database.tables.jobs, new.id = old.id → new.status ≠ .pending →
      ∃ i, who = some i ∧ History.Returns config (history ++ [(who, ev)]) i (some new)) ∧
    (∀ (h : History ι) i job, h <+: history → History.Returns config h i (some job) →
      job.status = .indexing ∧ job.worker = some (config i).id ∧
        job.owner = some (config i).owner ∧
        ∃ init seen entry, h = init ++ [entry] ∧
          Pool.Reaches answers (Worker.pool database config limit state) init seen ∧
          ∃ old ∈ seen.database.tables.jobs, old.id = job.id ∧ old.status = .pending) ∧
    (∀ (h₁ h₂ : History ι) i j job job', h₁ <+: history → h₂ <+: history →
      History.Returns config h₁ i (some job) → History.Returns config h₂ j (some job') →
      job.id = job'.id → h₁ = h₂ ∧ i = j) ∧
    (∀ (h₁ h₂ : History ι) i job, history = h₁ ++ h₂ → History.Returns config h₁ i (some job) →
      (∀ ev ∈ History.own i h₂, ¬ ev.Updates job.id) → job ∈ pool.database.tables.jobs) ∧
    ∀ (h : History ι) i, h <+: history → History.Returns config h i none →
      (∃ init seen, h = init ++ [(some i, ⟨.query .candidate, .ok none⟩)] ∧
        Pool.Reaches answers (Worker.pool database config limit state) init seen ∧
        ∀ job ∈ seen.database.tables.jobs, job.status ≠ .pending) ∨
      ∃ (before : Trace) (tries : List Int), tries.length = Store.claimAttempts ∧
        History.own i h = before ++
          tries.flatMap (Store.lateTry (some (config i).id) (some (config i).owner)) ∧
        ∀ id ∈ tries, History.Overtaken h i id := by
  refine ⟨?_, ?_, ?_, ?_, ?_⟩
  · intro who ev pool' step old hold hpending new hnew hid hstatus
    exact step.returns (r.numbered hnumbered) r hold hpending hnew hid hstatus
  · intro h i job hsub hreturns
    obtain ⟨later, rfl⟩ := hsub
    obtain ⟨mid, r₁, -⟩ := r.split
    obtain ⟨init, ev, _, _, rfl, -, -⟩ := id hreturns
    obtain ⟨seen, r₂, r₃⟩ := r₁.split
    obtain ⟨j, old, hj, hold, hpending, hjob, -⟩ := r₃.single.grants r₂ hreturns.grants.2
    obtain rfl := Option.some.inj hj
    have hid : old.id = job.id := by rw [hjob]
    exact ⟨by rw [hjob], by rw [hjob], by rw [hjob], init, seen, _, rfl, r₂, old, hold, hid,
      hpending⟩
  · intro h₁ h₂ i j job job' hsub₁ hsub₂ hreturns₁ hreturns₂ hid
    have hsame : h₁ = h₂ := by
      -- both are prefixes of the history, so one of them is a prefix of the other
      rcases List.prefix_or_prefix_of_prefix hsub₁ hsub₂ with hsub | hsub
      · obtain ⟨later, rfl⟩ := hsub₂
        obtain ⟨mid, r₁, -⟩ := r.split
        exact r₁.returns_once hnumbered hsub hreturns₁ hreturns₂ hid
      · obtain ⟨later, rfl⟩ := hsub₁
        obtain ⟨mid, r₁, -⟩ := r.split
        exact (r₁.returns_once hnumbered hsub hreturns₂ hreturns₁ hid.symm).symm
    subst hsame
    obtain ⟨init, ev, _, _, rfl, -, -⟩ := id hreturns₁
    exact ⟨rfl, Option.some.inj (hreturns₁.grants.1.symm.trans hreturns₂.grants.1)⟩
  · intro h₁ h₂ i job hhistory hreturns hother
    subst hhistory
    obtain ⟨mid, r₁, r₂⟩ := r.split
    have hheld := r₁.held_of_returns r₂ hreturns hother
    exact (Exclusive.reached howners hnumbered r i job hheld).1
  · intro h i hsub hreturns
    obtain ⟨later, rfl⟩ := hsub
    obtain ⟨mid, r₁, -⟩ := r.split
    exact r₁.returns_none hnumbered hreturns

end Pool

set_option maxRecDepth 20000 in
/-- Two workers find the same job and both come to take it: the first has it, the second looks again
and finds none. -/
theorem claims_exclusive_of_two :
    ∃ history pool, Pool.Reaches (fun request answer => answer = Sample.node request)
        (Worker.pool (.ready .blank) Sample.config (fun _ => 3) fun _ => Sample.state)
        history pool ∧
      pool.database.tables.jobs.map (·.owner) = [some "first"] ∧
      ∀ (h₁ h₂ : History (Fin 2)) i j job job', h₁ <+: history → h₂ <+: history →
        History.Returns Sample.config h₁ i (some job) →
        History.Returns Sample.config h₂ j (some job') → job.id = job'.id → h₁ = h₂ ∧ i = j := by
  obtain ⟨history, r⟩ := reaches_turns (Sample.within (.ready .blank)) Sample.workers
    (.handIn "A" :: (List.replicate 20 [.work 0, .work 1]).flatten)
  refine ⟨history, _, r, by decide +kernel, ?_⟩
  exact (Pool.Reaches.claims_exclusive .blank Sample.config_owner_injective r).2.2.1

end AddressIndex
