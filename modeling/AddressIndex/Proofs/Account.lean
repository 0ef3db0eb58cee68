import AddressIndex.Proofs.Calls
import AddressIndex.Proofs.Ownership

/-! The account that a worker gives of a run. Whatever the replies are, a run ends without a fault
and is made of polls. In a poll the claim gives no job, or the worker indexes the one that it gave,
and attempts one update of its status after that. The counters tell how many polls there were of
each kind. -/

namespace AddressIndex

open Store (Database Query)

/-- Whether the effect is an attempt to update a job's status. -/
def Effect.isUpdate : Effect → Bool
  | .query (.updateJob _ _ _ _) => true
  | _ => false

/-- The attempts in a trace to update a job's status. -/
def Trace.updates (t : Trace) : Trace := t.filter (·.effect.isUpdate)

namespace Trace

@[simp] theorem updates_append (t₁ t₂ : Trace) : updates (t₁ ++ t₂) = updates t₁ ++ updates t₂ :=
  List.filter_append t₁ t₂

theorem updates_eq_nil {t : Trace} (h : ∀ ev ∈ t, ev.effect.isUpdate = false) : updates t = [] :=
  List.filter_eq_nil_iff.mpr fun ev hev => by simp [h ev hev]

/-- Who calls on nobody attempts no update. -/
theorem updates_of_calls {t : Trace} (h : t.calls = []) : updates t = [] := by
  refine updates_eq_nil fun ev hev => ?_
  have hquiet : ¬ ev.effect.isCall := List.filter_eq_nil_iff.mp h ev hev
  cases heffect : ev.effect with
  | query q =>
    rw [heffect] at hquiet
    exact absurd rfl hquiet
  | _ => rfl

end Trace

namespace Worker

variable {config : Config} {s : State} {t : Trace} {job : Job} {status : JobStatus}

/-! ### What is done in a poll -/

/-- The update by which a worker records a job's status. -/
def Config.update (config : Config) (job : Job) (status : JobStatus) : Query :=
  .updateJob job.id status.word (some config.id) (some config.owner)

/-- What the stages do to an address, and the status that this gives its job. -/
inductive Pipeline (limits : Limits) (address : String) : Trace → JobStatus → Prop
  | ready {t₁ t₂ : Trace} {signatures : SignatureSync} {transactions : TransactionSync}
      (first : (syncSignatures limits address).run.Runs t₁ (.ok signatures))
      (second : (syncTransactions limits address).run.Runs t₂ (.ok transactions)) :
      Pipeline limits address (t₁ ++ t₂) .ready
  | firstFails {t₁ : Trace} {fault : Fault}
      (first : (syncSignatures limits address).run.Runs t₁ (.error fault)) :
      Pipeline limits address t₁ .error
  | secondFails {t₁ t₂ : Trace} {signatures : SignatureSync} {fault : Fault}
      (first : (syncSignatures limits address).run.Runs t₁ (.ok signatures))
      (second : (syncTransactions limits address).run.Runs t₂ (.error fault)) :
      Pipeline limits address (t₁ ++ t₂) .error

/-- What came of a poll: there was no job, or there was one whose status was to be recorded. -/
inductive Polled where
  | idle
  | worked (job : Job) (status : JobStatus) (recorded : Except Store.Fault Bool)

namespace Polled

def isIdle : Polled → Bool
  | .idle => true
  | .worked _ _ _ => false

/-- Whether a job got the status. -/
def gave (status : JobStatus) : Polled → Bool
  | .idle => false
  | .worked _ given _ => given = status

/-- The attempts to update a job's status. -/
def updates (config : Config) : Polled → Trace
  | .idle => []
  | .worked job status recorded => [⟨.query (config.update job status), recorded⟩]

end Polled

/-- What a worker does in a poll, in this order; between the parts it calls on nobody. -/
inductive Polls (config : Config) : Polled → Trace → Prop
  | idle {claim rest : Trace} {ended : Except Fault (Option Job)}
      (claims : (Store.claim (some config.id) (some config.owner)).run.Runs claim ended)
      (none : ended.toOption.join = none) (quiet : rest.calls = []) :
      Polls config .idle (claim ++ rest)
  | worked {claim start work finish rest : Trace} {job : Job} {status : JobStatus}
      {recorded : Except Store.Fault Bool}
      (claims : (Store.claim (some config.id) (some config.owner)).run.Runs claim (.ok (some job)))
      (starts : start.calls = []) (works : Pipeline config.limits job.address work status)
      (finishes : finish.calls = []) (quiet : rest.calls = []) :
      Polls config (.worked job status recorded)
        (claim ++ start ++ work ++ finish ++
          ⟨.query (config.update job status), recorded⟩ :: rest)

/-- The counters of a worker before and after, and by how much they differ. -/
structure State.Counts (before after : State) (ready failed idle : Nat) : Prop where
  ready : after.jobsReady = before.jobsReady + ready
  failed : after.jobsFailed = before.jobsFailed + failed
  idle : after.idlePolls = before.idlePolls + idle

theorem State.Counts.trans {first mid last : State} {ready failed idle ready' failed' idle' : Nat}
    (h : first.Counts mid ready failed idle) (h' : mid.Counts last ready' failed' idle') :
    first.Counts last (ready + ready') (failed + failed') (idle + idle') where
  ready := by rw [h'.ready, h.ready, Nat.add_assoc]
  failed := by rw [h'.failed, h.failed, Nat.add_assoc]
  idle := by rw [h'.idle, h.idle, Nat.add_assoc]

/-! ### Parts of a poll -/

theorem runs_log {line : Log.Line} {r : Except Fault Unit × State} :
    ((log line).run.run s).Runs t r ↔ t = [⟨.log .worker line, ()⟩] ∧ r = (.ok (), s) := by
  rw [log, Actor.runs_ofAttempt, Attempt.runs_log, Prod.ext_iff]
  exact ⟨fun ⟨⟨hr, ht⟩, hs⟩ => ⟨ht, hr, hs⟩, fun ⟨ht, hr, hs⟩ => ⟨⟨hr, ht⟩, hs⟩⟩

theorem runs_log_bind {α : Type} {line : Log.Line} {f : Unit → Actor State α}
    {r : Except Fault α × State} :
    ((log line >>= f).run.run s).Runs t r ↔
      ∃ t' : Trace, t = ⟨.log .worker line, ()⟩ :: t' ∧ ((f ()).run.run s).Runs t' r := by
  rw [Actor.runs_bind]
  constructor
  · rintro (⟨t₁, t₂, _, mid, rfl, hlog, hrest⟩ | ⟨e, mid, -, hlog⟩)
    · obtain ⟨rfl, hmid⟩ := runs_log.mp hlog
      cases hmid
      exact ⟨t₂, rfl, hrest⟩
    · obtain ⟨-, ⟨⟩⟩ := runs_log.mp hlog
  · rintro ⟨t', rfl, hrest⟩
    exact .inl ⟨_, t', (), s, rfl, runs_log.mpr ⟨rfl, rfl⟩, hrest⟩

theorem runs_claimJob {r : Except Fault (Option Job) × State}
    (h : ((claimJob config).run.run s).Runs t r) :
    ∃ claim rest ended, t = claim ++ rest ∧ rest.calls = [] ∧ rest.pauses = [] ∧
      (Store.claim (some config.id) (some config.owner)).run.Runs claim ended ∧
      r = (.ok ended.toOption.join, s) := by
  unfold claimJob at h
  obtain ⟨claim, rest, ended, mid, rfl, hclaim, hrest⟩ := Actor.runs_result_bind.mp h
  obtain ⟨hruns, rfl⟩ := Actor.runs_ofAttempt.mp hclaim
  refine ⟨claim, rest, ended, rfl, ?_, ?_, hruns, ?_⟩
  all_goals
    cases ended with
    | ok found =>
      obtain ⟨rfl, rfl⟩ := Actor.runs_pure.mp hrest
      rfl
    | error fault =>
      obtain ⟨t', rfl, hpure⟩ := runs_log_bind.mp hrest
      obtain ⟨rfl, rfl⟩ := Actor.runs_pure.mp hpure
      rfl

theorem pipeline_of_index {limits : Limits} {address : String}
    {r : Except Abort (SignatureSync × TransactionSync)}
    (h : (index limits address).run.Runs t r) :
    Pipeline limits address t (if r.isOk then .ready else .error) := by
  unfold index at h
  rcases Attempt.runs_bind.mp h with ⟨t₁, t₂, signatures, rfl, hfirst, hrest⟩ | ⟨abort, rfl, hfirst⟩
  · have hfirst := runs_runStage_ok hfirst
    rcases Attempt.runs_bind.mp hrest with
      ⟨t₃, t₄, transactions, rfl, hsecond, hpure⟩ | ⟨abort, rfl, hsecond⟩
    · obtain ⟨rfl, rfl⟩ := Attempt.runs_pure.mp hpure
      rw [List.append_nil]
      exact .ready hfirst (runs_runStage_ok hsecond)
    · obtain ⟨ended, hruns, hsame⟩ := runs_runStage.mp hsecond
      cases ended with
      | ok transactions => cases hsame
      | error fault => exact .secondFails hfirst hruns
  · obtain ⟨ended, hruns, hsame⟩ := runs_runStage.mp hfirst
    cases ended with
    | ok signatures => cases hsame
    | error fault => exact .firstFails hruns

theorem Pipeline.updates {limits : Limits} {address : String}
    (h : Pipeline limits address t status) : t.updates = [] := by
  have hfirst : (syncSignatures limits address).run.Only fun effect => effect.isUpdate = false :=
    only_syncPages (fun _ => rfl) (fun _ _ => rfl) (fun _ => rfl) (fun _ => rfl) _ _ _
  have hsecond : (syncTransactions limits address).run.Only fun effect => effect.isUpdate = false :=
    only_syncTransactions (fun _ => rfl) (fun _ _ => rfl) (fun _ => rfl) (fun _ => rfl)
      (fun _ => rfl) fun _ => rfl
  cases h with
  | ready first second | secondFails first second =>
    rw [Trace.updates_append, Trace.updates_eq_nil (hfirst.runs first),
      Trace.updates_eq_nil (hsecond.runs second), List.append_nil]
  | firstFails first => exact Trace.updates_eq_nil (hfirst.runs first)

theorem runs_indexJob {r : Except Fault JobStatus × State}
    (h : ((indexJob config job).run.run s).Runs t r) :
    ∃ work finish status after, t = work ++ finish ∧ finish.calls = [] ∧
      Pipeline config.limits job.address work status ∧ r = (.ok status, after) ∧
      s.Counts after (decide (status = .ready)).toNat (decide (status = .error)).toNat 0 := by
  unfold indexJob at h
  rcases Actor.runs_bind.mp h with
    ⟨work, finish, ended, mid, rfl, hindex, hrest⟩ | ⟨e, mid, -, hindex⟩
  · obtain ⟨hlift, rfl⟩ := Actor.runs_ofAttempt.mp hindex
    obtain ⟨ended, ⟨⟩, hruns⟩ := Attempt.runs_lift.mp hlift
    have hpipeline := pipeline_of_index hruns
    cases ended with
    | ok counts =>
      obtain ⟨t', rfl, hend⟩ := runs_log_bind.mp hrest
      rw [Actor.runs_modify_bind] at hend
      obtain ⟨rfl, rfl⟩ := Actor.runs_pure.mp hend
      exact ⟨work, _, .ready, _, rfl, rfl, hpipeline, rfl, ⟨rfl, rfl, rfl⟩⟩
    | error abort =>
      dsimp only at hrest
      rw [Actor.runs_modify_bind] at hrest
      obtain ⟨t', rfl, hend⟩ := runs_log_bind.mp hrest
      obtain ⟨rfl, rfl⟩ := Actor.runs_pure.mp hend
      exact ⟨work, _, .error, _, rfl, rfl, hpipeline, rfl, ⟨rfl, rfl, rfl⟩⟩
  · obtain ⟨hlift, -⟩ := Actor.runs_ofAttempt.mp hindex
    obtain ⟨ended, ⟨⟩, -⟩ := Attempt.runs_lift.mp hlift

theorem runs_recordStatus {r : Except Fault Unit × State}
    (h : ((recordStatus config job status).run.run s).Runs t r) :
    ∃ (recorded : Except Store.Fault Bool) (rest : Trace),
      t = ⟨.query (config.update job status), recorded⟩ :: rest ∧ rest.calls = [] ∧
      r = (.ok (), s) := by
  unfold recordStatus at h
  obtain ⟨t₁, rest, ended, mid, rfl, hupdate, hrest⟩ := Actor.runs_result_bind.mp h
  obtain ⟨hruns, rfl⟩ := Actor.runs_ofAttempt.mp hupdate
  rcases Attempt.runs_query.mp hruns with ⟨reply, hended, rfl⟩ | ⟨fault, hended, rfl⟩
  · cases hended
    refine ⟨.ok reply, rest, rfl, ?_⟩
    cases reply with
    | true =>
      obtain ⟨rfl, rfl⟩ := Actor.runs_pure.mp hrest
      exact ⟨rfl, rfl⟩
    | false =>
      obtain ⟨rfl, rfl⟩ := runs_log.mp hrest
      exact ⟨rfl, rfl⟩
  · cases hended
    obtain ⟨rfl, rfl⟩ := runs_log.mp hrest
    exact ⟨.error fault, _, rfl, rfl, rfl⟩

theorem runs_processJob {r : Except Fault JobStatus × State}
    (h : ((processJob config job).run.run s).Runs t r) :
    ∃ work finish status, ∃ (recorded : Except Store.Fault Bool) (rest : Trace) (after : State),
      t = work ++ finish ++ ⟨.query (config.update job status), recorded⟩ :: rest ∧
      finish.calls = [] ∧ rest.calls = [] ∧ Pipeline config.limits job.address work status ∧
      r = (.ok status, after) ∧
      s.Counts after (decide (status = .ready)).toNat (decide (status = .error)).toNat 0 := by
  unfold processJob at h
  rcases Actor.runs_bind.mp h with ⟨t₁, t₂, status, mid, rfl, hindex, hrest⟩ | ⟨e, mid, -, hindex⟩
  · obtain ⟨work, finish, _, _, rfl, hquiet, hpipeline, hsame, hcounts⟩ := runs_indexJob hindex
    cases hsame
    rcases Actor.runs_bind.mp hrest with ⟨t₃, t₄, _, mid', rfl, hrecord, hend⟩ | ⟨e, _, -, hrecord⟩
    · obtain ⟨recorded, rest, rfl, hquiet', hsame⟩ := runs_recordStatus hrecord
      cases hsame
      rw [Actor.runs_modify_bind] at hend
      obtain ⟨rfl, rfl⟩ := Actor.runs_pure.mp hend
      refine ⟨work, finish, status, recorded, rest, _, ?_, hquiet, hquiet', hpipeline, rfl,
        ⟨hcounts.ready, hcounts.failed, hcounts.idle⟩⟩
      rw [List.append_nil]
    · obtain ⟨_, _, -, -, ⟨⟩⟩ := runs_recordStatus hrecord
  · obtain ⟨_, _, _, _, -, -, -, ⟨⟩, -⟩ := runs_indexJob hindex

/-- A wait changes nothing of a worker but its delay. -/
theorem runs_pause_waits {r : Except Fault Unit × State} (h : (pause.run.run s).Runs t r) :
    ∃ ended backoff, (Backoff.pause.run.run s.backoff).Runs t (ended, backoff) ∧
      r = (ended.map fun _ => (), { s with backoff }) := by
  unfold pause at h
  rcases Actor.runs_bind.mp h with ⟨t₁, t₂, _, mid, rfl, hfocus, hpure⟩ | ⟨e, mid, rfl, hfocus⟩
  · obtain ⟨rfl, rfl⟩ := Actor.runs_pure.mp hpure
    obtain ⟨backoff, hmid, hwaits⟩ := Actor.runs_focus.mp hfocus
    obtain rfl : mid = { s with backoff } := hmid
    rw [List.append_nil]
    exact ⟨_, backoff, hwaits, rfl⟩
  · obtain ⟨backoff, hmid, hwaits⟩ := Actor.runs_focus.mp hfocus
    obtain rfl : mid = { s with backoff } := hmid
    exact ⟨_, backoff, hwaits, rfl⟩

/-- A wait calls on nobody and counts nothing. -/
theorem runs_pause {r : Except Fault Unit × State} (h : (pause.run.run s).Runs t r) :
    t.calls = [] ∧ s.Counts r.2 0 0 0 := by
  constructor
  · refine List.filter_eq_nil_iff.mpr fun ev hev => ?_
    rw [(only_pause s).runs h ev hev]
    exact Bool.false_ne_true
  · obtain ⟨_, backoff, -, rfl⟩ := runs_pause_waits h
    exact ⟨rfl, rfl, rfl⟩

/-! ### Polls -/

theorem Polls.quiet {polled : Polled} {rest : Trace} (h : Polls config polled t)
    (hrest : rest.calls = []) : Polls config polled (t ++ rest) := by
  cases h with
  | idle claims none quiet =>
    rw [List.append_assoc]
    exact .idle claims none (by rw [Trace.calls_append, quiet, hrest, List.append_nil])
  | worked claims starts works finishes quiet =>
    rw [List.append_assoc, List.cons_append]
    exact .worked claims starts works finishes
      (by rw [Trace.calls_append, quiet, hrest, List.append_nil])

/-- The one update of a poll is that of the job that was worked on. -/
theorem Polls.updates {polled : Polled} (h : Polls config polled t) :
    t.updates = polled.updates config := by
  have hclaim {claim : Trace} {ended : Except Fault (Option Job)}
      (claims : (Store.claim (some config.id) (some config.owner)).run.Runs claim ended) :
      claim.updates = [] := by
    have honly : (Store.claim (some config.id) (some config.owner)).run.Only
        fun effect => effect.isUpdate = false := Store.only_claim rfl fun _ => rfl
    exact Trace.updates_eq_nil (honly.runs claims)
  cases h with
  | idle claims none quiet =>
    rw [Trace.updates_append, hclaim claims, Trace.updates_of_calls quiet]
    rfl
  | @worked claim start work finish rest job status recorded claims starts works finishes quiet =>
    have hlast : Trace.updates (⟨.query (config.update job status), recorded⟩ :: rest) =
        ⟨.query (config.update job status), recorded⟩ :: rest.updates := rfl
    simp only [Trace.updates_append, hclaim claims, Trace.updates_of_calls starts, works.updates,
      Trace.updates_of_calls finishes, hlast, Trace.updates_of_calls quiet, List.nil_append]
    rfl

/-- What a poll does when there is no job. -/
def restOfIdle : Actor State Bool := do
  modify fun s => { s with idlePolls := s.idlePolls + 1 }
  modify (State.enter .backoffWait)
  pause
  modify (State.enter .idle)
  pure false

/-- What a poll does with a job. -/
def restOfWorked (config : Config) (job : Job) : Actor State Bool := do
  modify fun s => { s with backoff := s.backoff.reset }
  modify (State.enter .processing)
  log (claimed config job)
  let result ← (processJob config job).result
  modify (State.enter .idle)
  match result with
  | .ok _ => pure true
  | .error fault => throw fault

theorem runOnce_eq : runOnce config = claimJob config >>= fun found =>
    match found with
    | none => restOfIdle
    | some job => restOfWorked config job := rfl

theorem runs_restOfIdle {r : Except Fault Bool × State} (h : (restOfIdle.run.run s).Runs t r) :
    t.calls = [] ∧ s.Counts r.2 0 0 1 := by
  unfold restOfIdle at h
  rw [Actor.runs_modify_bind, Actor.runs_modify_bind] at h
  rcases Actor.runs_bind.mp h with ⟨t₁, t₂, _, mid, rfl, hpause, hend⟩ | ⟨e, mid, rfl, hpause⟩
  · obtain ⟨hquiet, hcounts⟩ := runs_pause hpause
    rw [Actor.runs_modify_bind] at hend
    obtain ⟨rfl, rfl⟩ := Actor.runs_pure.mp hend
    rw [List.append_nil]
    exact ⟨hquiet, hcounts.ready, hcounts.failed, hcounts.idle⟩
  · obtain ⟨hquiet, hcounts⟩ := runs_pause hpause
    exact ⟨hquiet, hcounts.ready, hcounts.failed, hcounts.idle⟩

theorem runs_restOfWorked {r : Except Fault Bool × State}
    (h : ((restOfWorked config job).run.run s).Runs t r) :
    ∃ start work finish status, ∃ (recorded : Except Store.Fault Bool) (rest : Trace),
      t = start ++ work ++ finish ++ ⟨.query (config.update job status), recorded⟩ :: rest ∧
      start.calls = [] ∧ finish.calls = [] ∧ rest.calls = [] ∧
      Pipeline config.limits job.address work status ∧ r.1 = .ok true ∧
      s.Counts r.2 (decide (status = .ready)).toNat (decide (status = .error)).toNat 0 := by
  unfold restOfWorked at h
  rw [Actor.runs_modify_bind, Actor.runs_modify_bind] at h
  obtain ⟨t₁, rfl, hafter⟩ := runs_log_bind.mp h
  obtain ⟨t₂, t₃, ended, mid, rfl, hprocess, hend⟩ := Actor.runs_result_bind.mp hafter
  obtain ⟨work, finish, status, recorded, rest, after, rfl, hfinish, hquiet, hpipeline, hsame,
    hcounts⟩ := runs_processJob hprocess
  cases hsame
  rw [Actor.runs_modify_bind] at hend
  obtain ⟨rfl, rfl⟩ := Actor.runs_pure.mp hend
  refine ⟨[⟨.log .worker (claimed config job), ()⟩], work, finish, status, recorded, rest, ?_, rfl,
    hfinish, hquiet, hpipeline, rfl, ⟨hcounts.ready, hcounts.failed, hcounts.idle⟩⟩
  simp

/-- What one poll does and counts, whether it ends with a fault or not. -/
theorem runs_runOnce {r : Except Fault Bool × State}
    (h : ((runOnce config).run.run s).Runs t r) :
    ∃ polled, Polls config polled t ∧ s.Counts r.2 (polled.gave .ready).toNat
      (polled.gave .error).toNat polled.isIdle.toNat := by
  rw [runOnce_eq] at h
  rcases Actor.runs_bind.mp h with ⟨t₁, t₂, found, mid, rfl, hclaim, hrest⟩ | ⟨e, mid, -, hclaim⟩
  · obtain ⟨claim, logged, ended, rfl, hlogged, -, hruns, hsame⟩ := runs_claimJob hclaim
    cases hsame
    cases hfound : ended.toOption.join with
    | none =>
      rw [hfound] at hrest
      obtain ⟨hquiet, hcounts⟩ := runs_restOfIdle hrest
      have hpolls := Polls.idle hruns hfound hlogged
      exact ⟨.idle, hpolls.quiet hquiet, hcounts⟩
    | some job =>
      rw [hfound] at hrest
      obtain ⟨start, work, finish, status, recorded, rest, rfl, hstart, hfinish, hquiet, hpipeline,
        -, hcounts⟩ := runs_restOfWorked hrest
      have hgiven : ended = .ok (some job) := by
        cases ended with
        | error fault => cases hfound
        | ok found => exact congrArg Except.ok hfound
      have hstarts : (logged ++ start).calls = [] := by
        rw [Trace.calls_append, hlogged, hstart]
        rfl
      have hpolls : Polls config (.worked job status recorded) _ :=
        .worked (hgiven ▸ hruns) hstarts hpipeline hfinish hquiet
      refine ⟨.worked job status recorded, ?_, hcounts⟩
      simpa only [List.append_assoc] using hpolls
  · obtain ⟨_, _, _, -, -, -, -, ⟨⟩⟩ := runs_claimJob hclaim

/-! ### Runs -/

/-- Polls in a row, each after a look at whether the service is to stop. -/
def inTurn (polls : List (Polled × Trace)) : Trace :=
  polls.flatMap fun poll => ⟨.stopping, false⟩ :: poll.2

/-- What a run does and counts. -/
structure Account (config : Config) (limit : Nat) (before after : State) (t : Trace)
    (polls : List (Polled × Trace)) : Prop where
  /-- Polls come in a row until there were as many as there may be, or the service is to stop. -/
  trace : ∃ last : Trace, (last = [] ∧ polls.length = limit ∨
      last = [⟨.stopping, true⟩] ∧ polls.length < limit) ∧
    t = ⟨.log .worker (started config), ()⟩ :: (inTurn polls ++ last) ++
      [⟨.log .worker (stopped config after), ()⟩]
  each : ∀ poll ∈ polls, Polls config poll.1 poll.2
  ready : after.jobsReady = before.jobsReady + polls.countP (·.1.gave .ready)
  failed : after.jobsFailed = before.jobsFailed + polls.countP (·.1.gave .error)
  idle : after.idlePolls = before.idlePolls + polls.countP (·.1.isIdle)
  /-- Each job that a claim gave is counted once. -/
  taken : after.jobsReady + after.jobsFailed =
    before.jobsReady + before.jobsFailed + polls.countP (!·.1.isIdle)
  /-- One update is attempted of each job that a claim gave. -/
  updates : t.updates = polls.flatMap (·.1.updates config)
  /-- Whatever the database, an attempt that did not come through leaves it. -/
  lost : ∀ poll ∈ polls, ∀ job status recorded, poll.1 = .worked job status recorded →
    recorded ≠ .ok true → ∀ clock db db',
      (config.update job status).Goes clock db recorded db' → db' = db

theorem Polls.gave {polled : Polled} (h : Polls config polled t) :
    (polled.gave .ready).toNat + (polled.gave .error).toNat = (!polled.isIdle).toNat := by
  cases h with
  | idle => rfl
  | worked _ _ works _ _ => cases works <;> rfl

/-- An update that did not come through leaves the database. -/
theorem Config.update_lost {recorded : Except Store.Fault Bool} {clock : Instant}
    {db db' : Database} (hlost : recorded ≠ .ok true)
    (h : (config.update job status).Goes clock db recorded db') : db' = db := by
  cases recorded with
  | error fault => exact h.error
  | ok done =>
    have hdone : done = false := Bool.eq_false_iff.mpr fun htrue => hlost (congrArg _ htrue)
    subst hdone
    have hheld : Query.held job.id (some config.id) (some config.owner) db.tables.jobs = false :=
      h.answers.1.symm
    refine h.unchanged (fun hcreate => by cases hcreate) ?_
    simp only [Config.update, Query.next, hheld, Bool.false_eq_true, if_false]
    split <;> rfl

theorem countP_cons_toNat {α : Type} {p : α → Bool} {x : α} {xs : List α} :
    (x :: xs).countP p = (p x).toNat + xs.countP p := by
  rw [List.countP_cons, Nat.add_comm]
  cases p x <;> rfl

/-- A look, and then a poll before the others. A fault is noted, and the others go on as they do
without one. -/
theorem runs_poll_succ {limit : Nat} {r : Except Fault Unit × State}
    (h : ((poll config (limit + 1)).run.run s).Runs t r) :
    (t = [⟨.stopping, true⟩] ∧ r = (.ok (), s)) ∨
      ∃ (once noted rest : Trace) (ended : Except Fault Bool) (after : State)
        (lastError : Option String), t = ⟨.stopping, false⟩ :: (once ++ noted ++ rest) ∧
        ((runOnce config).run.run s).Runs once (ended, after) ∧ noted.calls = [] ∧
        noted.pauses = [] ∧ ((poll config limit).run.run { after with lastError }).Runs rest r := by
  unfold poll at h
  rcases Actor.runs_bind.mp h with ⟨t₁, t₂, stop, mid, rfl, hlook, hrest⟩ | ⟨e, mid, -, hlook⟩
  · obtain ⟨hstop, rfl⟩ := Actor.runs_ofAttempt.mp hlook
    obtain ⟨stop, ⟨⟩, rfl⟩ := Attempt.runs_perform.mp hstop
    cases stop with
    | true =>
      obtain ⟨rfl, rfl⟩ := Actor.runs_pure.mp hrest
      exact .inl ⟨rfl, rfl⟩
    | false =>
      rw [if_neg Bool.false_ne_true] at hrest
      obtain ⟨once, t₃, ended, after, rfl, honce, hlater⟩ := Actor.runs_result_bind.mp hrest
      cases ended with
      | ok found =>
        exact .inr ⟨once, [], t₃, _, after, after.lastError, by simp, honce, rfl, rfl, hlater⟩
      | error fault =>
        dsimp only at hlater
        rw [Actor.runs_modify_bind] at hlater
        obtain ⟨rest, rfl, hgoes⟩ := runs_log_bind.mp hlater
        exact .inr ⟨once, [⟨.log .worker (iterationFailed config fault), ()⟩], rest, _, after,
          some fault.message, by simp, honce, rfl, rfl, hgoes⟩
  · obtain ⟨hstop, -⟩ := Actor.runs_ofAttempt.mp hlook
    obtain ⟨_, ⟨⟩, -⟩ := Attempt.runs_perform.mp hstop

theorem runs_poll {limit : Nat} {r : Except Fault Unit × State}
    (h : ((poll config limit).run.run s).Runs t r) :
    r.1 = .ok () ∧ ∃ polls last, t = inTurn polls ++ last ∧
      (last = [] ∧ polls.length = limit ∨ last = [⟨.stopping, true⟩] ∧ polls.length < limit) ∧
      (∀ poll ∈ polls, Polls config poll.1 poll.2) ∧
      s.Counts r.2 (polls.countP (·.1.gave .ready)) (polls.countP (·.1.gave .error))
        (polls.countP (·.1.isIdle)) := by
  induction limit generalizing s t with
  | zero =>
    obtain ⟨rfl, rfl⟩ := Actor.runs_pure.mp h
    exact ⟨rfl, [], [], rfl, .inl ⟨rfl, rfl⟩, List.forall_mem_nil _, ⟨rfl, rfl, rfl⟩⟩
  | succ limit ih =>
    rcases runs_poll_succ h with
      ⟨rfl, rfl⟩ | ⟨once, noted, rest, ended, after, lastError, rfl, honce, hnoted, -, hgoes⟩
    · exact ⟨rfl, [], _, rfl, .inr ⟨rfl, Nat.succ_pos _⟩, List.forall_mem_nil _, ⟨rfl, rfl, rfl⟩⟩
    · obtain ⟨polled, hpolls, hcounts⟩ := runs_runOnce honce
      obtain ⟨hok, polls, last, rfl, hlast, hall, hcounts'⟩ := ih hgoes
      have hnext : after.Counts { after with lastError } 0 0 0 := ⟨rfl, rfl, rfl⟩
      refine ⟨hok, (polled, once ++ noted) :: polls, last, ?_, ?_, ?_, ?_⟩
      · simp [inTurn]
      · simpa using hlast
      · exact List.forall_mem_cons.mpr ⟨hpolls.quiet hnoted, hall⟩
      · have hcounted := (hcounts.trans hnext).trans hcounts'
        simp only [countP_cons_toNat]
        exact hcounted

/-- A run is polls between two lines, and ends without a fault. -/
theorem runs_run {limit : Nat} {r : Except Fault Unit × State}
    (h : ((run config limit).run.run s).Runs t r) :
    r.1 = .ok () ∧ ∃ polled, t = ⟨.log .worker (started config), ()⟩ :: polled ++
        [⟨.log .worker (stopped config r.2), ()⟩] ∧
      ((poll config limit).run.run s).Runs polled (.ok (), r.2) := by
  unfold run at h
  obtain ⟨t₁, rfl, hrest⟩ := runs_log_bind.mp h
  rcases Actor.runs_bind.mp hrest with ⟨t₂, t₃, _, mid, rfl, hpolls, hend⟩ | ⟨e, mid, -, hpolls⟩
  · rw [Actor.runs_get_bind] at hend
    obtain ⟨rfl, rfl⟩ := runs_log.mp hend
    exact ⟨rfl, t₂, rfl, hpolls⟩
  · obtain ⟨⟨⟩, -⟩ := runs_poll hpolls

theorem updates_inTurn {polls : List (Polled × Trace)}
    (h : ∀ poll ∈ polls, Polls config poll.1 poll.2) :
    (inTurn polls).updates = polls.flatMap (·.1.updates config) := by
  induction polls with
  | nil => rfl
  | cons poll polls ih =>
    obtain ⟨hpoll, hpolls⟩ := List.forall_mem_cons.mp h
    have hlook (t : Trace) : Trace.updates (⟨.stopping, false⟩ :: t) = t.updates := rfl
    rw [List.flatMap_cons, ← ih hpolls, ← hpoll.updates, inTurn, List.flatMap_cons,
      List.cons_append, hlook, Trace.updates_append]
    rfl

theorem countP_gave {polls : List (Polled × Trace)}
    (h : ∀ poll ∈ polls, Polls config poll.1 poll.2) :
    polls.countP (·.1.gave .ready) + polls.countP (·.1.gave .error) =
      polls.countP (!·.1.isIdle) := by
  induction polls with
  | nil => rfl
  | cons poll polls ih =>
    obtain ⟨hpoll, hpolls⟩ := List.forall_mem_cons.mp h
    simp only [countP_cons_toNat]
    have hone := hpoll.gave
    have hrest := ih hpolls
    omega

/-- Whatever the replies are, a run ends without a fault and gives an account of its polls. -/
theorem run_accounts_for_jobs {limit : Nat} {r : Except Fault Unit × State}
    (h : ((run config limit).run.run s).Runs t r) :
    r.1 = .ok () ∧ ∃ polls, Account config limit s r.2 t polls := by
  obtain ⟨hok, polled, rfl, hpolled⟩ := runs_run h
  obtain ⟨-, polls, last, rfl, hlast, hall, hcounts⟩ := runs_poll hpolled
  refine ⟨hok, polls, ⟨last, hlast, rfl⟩, hall, hcounts.ready, hcounts.failed, hcounts.idle, ?_, ?_,
    ?_⟩
  · have hready := hcounts.ready
    have hfailed := hcounts.failed
    have htaken := countP_gave hall
    dsimp only at hready hfailed ⊢
    omega
  · have hnone : last.updates = [] := by
      rcases hlast with ⟨rfl, -⟩ | ⟨rfl, -⟩ <;> rfl
    have hends : Trace.updates [⟨.log .worker (stopped config r.2), ()⟩] = [] := rfl
    have hbegins (t : Trace) :
        Trace.updates (⟨.log .worker (started config), ()⟩ :: t) = t.updates := rfl
    rw [List.cons_append, hbegins, Trace.updates_append, Trace.updates_append, hnone, hends,
      updates_inTurn hall, List.append_nil, List.append_nil]
  · intro poll _ job status recorded _ hlost clock db db' hgoes
    exact Config.update_lost hlost hgoes

/-- A run of two polls in which the status of the one job is not stored: it is counted, and the
worker goes on to a poll without a job. -/
theorem run_accounts_for_jobs_of_lost_update :
    ∃ t after polls,
      ((run (Sample.config 0) 2).run.run Sample.state).Runs t (.ok (), after) ∧
      Account (Sample.config 0) 2 Sample.state after t polls ∧
      (after.jobsReady, after.jobsFailed, after.idlePolls) = (1, 0, 1) ∧ t.updates.length = 1 := by
  let tables : Store.Tables := { Store.Tables.blank with
    jobs := [⟨1, "A", .pending, none, none, 0, 0⟩] }
  let w : World := { Sample.world (.ready tables) with
    broken := [(.updateJob, .database .updateJob)] }
  let p := (run (Sample.config 0) 2).run.run Sample.state
  have hcounts : ((p.run w).1.2.jobsReady, (p.run w).1.2.jobsFailed, (p.run w).1.2.idlePolls) =
      (1, 0, 1) := by
    decide +kernel
  have hupdates : (p.trace w).updates.length = 1 := by decide +kernel
  have hruns := p.runs_trace w
  generalize (p.run w).1 = ended at hruns hcounts
  generalize p.trace w = t at hruns hupdates
  obtain ⟨ended, after⟩ := ended
  obtain ⟨rfl, polls, haccount⟩ := run_accounts_for_jobs hruns
  exact ⟨t, after, polls, hruns, haccount, hcounts, hupdates⟩

end Worker

end AddressIndex
