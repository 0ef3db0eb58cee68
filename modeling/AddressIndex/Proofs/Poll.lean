import AddressIndex.Proofs.Pool
import AddressIndex.Proofs.Trace
import AddressIndex.Worker.Basic

/-! The course of a worker. It is idle, or it indexes a job that it claimed, or it has indexed one
and is about to record how that ended. `run_heeds` reduces what a worker heeds in a run of any
length to what it heeds in a claim, in the indexing of one job, and in one update; what it does
besides calls on nobody. -/

namespace AddressIndex.Worker

/-- What is known of the past stays known while nobody is called on. -/
def Keeps (ok : Trace → Effect → Prop) (known : Trace → Prop) : Prop :=
  ∀ past effect, effect.isCall = false → known past →
    ok past effect ∧ ∀ reply, known (past ++ [⟨effect, reply⟩])

section Heeds

variable {ok : Trace → Effect → Prop} {known : Trace → Prop} {past : Trace} {s : State}

theorem Keeps.heeds {α : Type} {p : Program α} (keeps : Keeps ok known)
    (quiet : p.Only fun effect => effect.isCall = false) (h : known past) :
    p.Heeds ok past fun _ past => known past :=
  quiet.heeds_of_known keeps h fun _ _ _ h => h

/-- A line logged by an actor. -/
theorem Keeps.heeds_log {line : Log.Line} {post : Except Fault Unit × State → Trace → Prop}
    (keeps : Keeps ok known) (h : known past) (hpost : ∀ past, known past → post (.ok (), s) past) :
    ((log line).run.run s).Heeds ok past post := by
  obtain ⟨allowed, later⟩ := keeps past (.log .worker line) rfl h
  exact Actor.heeds_ofAttempt.mpr (Attempt.heeds_log allowed (hpost _ (later ())))

theorem only_jitter (b : Backoff) : b.jitter.run.Only fun effect => effect.isCall = false := by
  unfold Backoff.jitter
  split
  · exact Attempt.only_bind ⟨rfl, fun _ => trivial⟩ fun _ => Attempt.only_pure _
  · exact Attempt.only_pure 0

theorem only_pause : Actor.Only (fun effect => effect.isCall = false) pause := by
  refine Actor.only_bind (Actor.only_focus ?_) fun _ => Actor.only_pure ()
  refine Actor.only_bind ?_ fun wait => ?_
  · apply Actor.only_bind Actor.only_get
    intro b
    apply Actor.only_bind (Actor.only_ofAttempt (only_jitter b))
    intro jitter
    split
    · exact Actor.only_bind (Actor.only_set _) fun _ => Actor.only_pure _
    · exact Actor.only_throw _
  · split
    · refine Actor.only_bind (Actor.only_ofAttempt (Attempt.only_sleep rfl)) fun _ => ?_
      exact Actor.only_pure _
    · exact Actor.only_throw _

variable {idle : Trace → Prop} {busy : Job → Trace → Prop} {ended : Job → JobStatus → Trace → Prop}
  {config : Config}

/-- What a worker heeds in the three parts of a poll that call on others. -/
structure Course (config : Config) (ok : Trace → Effect → Prop) (idle : Trace → Prop)
    (busy : Job → Trace → Prop) (ended : Job → JobStatus → Trace → Prop) : Prop where
  keepsIdle : Keeps ok idle
  keepsBusy (job : Job) : Keeps ok (busy job)
  keepsEnded (job : Job) (status : JobStatus) : Keeps ok (ended job status)
  claims (past : Trace) : idle past →
    (Store.claim (some config.id) (some config.owner)).run.Heeds ok past fun r past =>
      match r with
      | .ok (some job) => busy job past
      | _ => idle past
  indexes (job : Job) (past : Trace) : busy job past →
    (index config.limits job.address).run.Heeds ok past fun r past =>
      match r with
      | .ok _ => ended job .ready past
      | .error _ => ended job .error past
  updates (job : Job) (status : JobStatus) (past : Trace) : ended job status past →
    (Attempt.query
      (.updateJob job.id status.word (some config.id) (some config.owner))).run.Heeds ok past
        fun _ past => idle past

namespace Course

variable (course : Course config ok idle busy ended)

include course

theorem heeds_claimJob (h : idle past) :
    ((claimJob config).run.run s).Heeds ok past fun r past =>
      match r.1 with
      | .ok (some job) => busy job past
      | _ => idle past := by
  unfold claimJob
  rw [Actor.heeds_bind, Actor.heeds_result, Actor.heeds_ofAttempt]
  apply (course.claims past h).mono
  intro r past h
  cases r with
  | ok job => cases job <;> exact h
  | error fault =>
    dsimp only
    rw [Actor.heeds_bind]
    exact course.keepsIdle.heeds_log h fun past h => h

theorem heeds_indexJob {job : Job} (h : busy job past) :
    ((indexJob config job).run.run s).Heeds ok past fun r past =>
      match r.1 with
      | .ok status => ended job status past
      | .error _ => False := by
  unfold indexJob
  rw [Actor.heeds_bind, Actor.heeds_ofAttempt, Attempt.heeds_lift]
  apply (course.indexes job past h).mono
  intro r past h
  cases r with
  | ok counts =>
    dsimp only
    rw [Actor.heeds_bind]
    apply (course.keepsEnded job .ready).heeds_log h
    intro past h
    dsimp only
    rw [Actor.heeds_bind, Actor.heeds_modify]
    exact h
  | error abort =>
    dsimp only
    rw [Actor.heeds_bind, Actor.heeds_modify]
    dsimp only
    rw [Actor.heeds_bind]
    exact (course.keepsEnded job .error).heeds_log h fun past h => h

theorem heeds_recordStatus {job : Job} {status : JobStatus} (h : ended job status past) :
    ((recordStatus config job status).run.run s).Heeds ok past fun r past =>
      r.1.isOk ∧ idle past := by
  unfold recordStatus
  dsimp only
  rw [Actor.heeds_bind, Actor.heeds_result, Actor.heeds_ofAttempt]
  apply (course.updates job status past h).mono
  intro r past h
  rcases r with _ | _ | _
  · exact course.keepsIdle.heeds_log h fun past h => ⟨rfl, h⟩
  · exact course.keepsIdle.heeds_log h fun past h => ⟨rfl, h⟩
  · exact ⟨rfl, h⟩

theorem heeds_processJob {job : Job} (h : busy job past) :
    ((processJob config job).run.run s).Heeds ok past fun r past => r.1.isOk ∧ idle past := by
  unfold processJob
  rw [Actor.heeds_bind]
  apply (course.heeds_indexJob h).mono
  intro r past h
  obtain ⟨_ | status, s⟩ := r
  · exact h.elim
  dsimp only at h ⊢
  rw [Actor.heeds_bind]
  apply (course.heeds_recordStatus h).mono
  intro r past h
  obtain ⟨_ | _, s⟩ := r
  · exact absurd h.1 (by simp [Except.isOk, Except.toBool])
  dsimp only
  rw [Actor.heeds_bind, Actor.heeds_modify]
  exact ⟨rfl, h.2⟩

theorem heeds_runOnce (h : idle past) :
    ((runOnce config).run.run s).Heeds ok past fun _ past => idle past := by
  unfold runOnce
  rw [Actor.heeds_bind]
  apply (course.heeds_claimJob h).mono
  intro r past h
  obtain ⟨_ | _ | job, s⟩ := r
  · exact h
  · dsimp only at h ⊢
    rw [Actor.heeds_bind, Actor.heeds_modify]
    dsimp only
    rw [Actor.heeds_bind, Actor.heeds_modify]
    dsimp only
    rw [Actor.heeds_bind]
    apply (course.keepsIdle.heeds (only_pause _) h).mono
    intro r past h
    obtain ⟨_ | _, s⟩ := r
    · exact h
    dsimp only
    rw [Actor.heeds_bind, Actor.heeds_modify]
    exact h
  · dsimp only at h ⊢
    rw [Actor.heeds_bind, Actor.heeds_modify]
    dsimp only
    rw [Actor.heeds_bind, Actor.heeds_modify]
    dsimp only
    rw [Actor.heeds_bind]
    apply (course.keepsBusy job).heeds_log h
    intro past h
    dsimp only
    rw [Actor.heeds_bind, Actor.heeds_result]
    apply (course.heeds_processJob h).mono
    intro r past h
    dsimp only
    rw [Actor.heeds_bind, Actor.heeds_modify]
    dsimp only
    split <;> exact h.2

theorem heeds_poll (limit : Nat) (h : idle past) :
    ((poll config limit).run.run s).Heeds ok past fun _ past => idle past := by
  induction limit generalizing past s with
  | zero => exact h
  | succ left ih =>
    unfold poll
    rw [Actor.heeds_bind, Actor.heeds_ofAttempt]
    have quiet : Attempt.stopping.run.Only fun effect => effect.isCall = false :=
      ⟨rfl, fun _ => trivial⟩
    apply (course.keepsIdle.heeds quiet h).mono
    intro r past h
    rcases r with _ | _ | _
    · exact h
    · dsimp only
      rw [if_neg Bool.false_ne_true, Actor.heeds_bind, Actor.heeds_result]
      apply (course.heeds_runOnce h).mono
      intro r past h
      obtain ⟨fault | _, s⟩ := r
      · dsimp only
        rw [Actor.heeds_bind, Actor.heeds_modify]
        dsimp only
        rw [Actor.heeds_bind]
        exact course.keepsIdle.heeds_log h fun past h => ih h
      · exact ih h
    · exact h

/-- What a worker heeds in a run of any length. -/
theorem heeds_run (limit : Nat) (h : idle past) :
    ((run config limit).run.run s).Heeds ok past fun _ past => idle past := by
  unfold run
  rw [Actor.heeds_bind]
  apply course.keepsIdle.heeds_log h
  intro past h
  dsimp only
  rw [Actor.heeds_bind]
  apply (course.heeds_poll limit h).mono
  intro r past h
  obtain ⟨_ | _, s⟩ := r
  · exact h
  dsimp only
  rw [Actor.heeds_bind, Actor.heeds_get]
  exact course.keepsIdle.heeds_log h fun past h => h

end Course

end Heeds

/-- Workers on one database, each at the beginning of a run. -/
def pool {ι : Type} (database : Store.Database) (config : ι → Config) (limit : ι → Nat)
    (state : ι → State) : Pool ι (Except Fault Unit × State) :=
  ⟨database, fun i => (run (config i) (limit i)).run.run (state i)⟩

end AddressIndex.Worker
