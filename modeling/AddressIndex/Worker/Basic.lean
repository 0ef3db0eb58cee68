import AddressIndex.Backoff
import AddressIndex.Store.Claim
import AddressIndex.Worker.Pipeline

/-!
A worker. It claims a job, indexes the job's address and records how that ended; when there is
nothing to claim it waits. No failure of a job, of the store or of the node stops it.
-/

namespace AddressIndex.Worker

inductive Phase where
  | idle | processing | backoffWait
deriving DecidableEq, Repr

def Phase.word : Phase → String
  | .idle => "idle"
  | .processing => "processing"
  | .backoffWait => "backoff_wait"

/-- Who a worker is and what it keeps to. -/
structure Config where
  id : Int
  owner : String
  limits : Limits

/-- What a worker tells of itself. -/
structure State where
  phase : Phase
  jobsReady : Nat
  jobsFailed : Nat
  idlePolls : Nat
  lastJob : Option Int
  lastError : Option String
  /-- The latest phases, the newest last. -/
  history : List Phase
  backoff : Backoff

namespace State

def start (backoff : Backoff.Config) : State :=
  ⟨.idle, 0, 0, 0, none, none, [], .start backoff⟩

/-- How many phases are remembered. -/
def remembered : Nat := 64

def enter (phase : Phase) (s : State) : State :=
  let history := s.history ++ [phase]
  { s with phase, history := history.drop (history.length - remembered) }

end State

def log (line : Log.Line) : Actor State Unit := Actor.ofAttempt (Attempt.log .worker line)

/-! ### Jobs -/

def completed (signatures : SignatureSync) (transactions : TransactionSync) : Log.Line :=
  ⟨.info, "job_pipeline_completed", [
    ("pages", .int signatures.pages),
    ("signatures_received", .int signatures.received),
    ("signatures_inserted", .int signatures.inserted),
    ("processed", .int transactions.processed),
    ("failed", .int transactions.failed),
    ("transactions", .int transactions.transactions),
    ("token_transfers", .int transactions.transfers)]⟩

def aborted (abort : Abort) : Log.Line :=
  ⟨.error, "job_pipeline_aborted", [
    ("stage", .str abort.stage),
    ("error", .str abort.message)]⟩

def notUpdated (status : JobStatus) : Log.Line :=
  ⟨.warning, "job_status_not_updated", [("status", .str status.word)]⟩

def updateFailed (status : JobStatus) (fault : Fault) : Log.Line :=
  ⟨.exception, "job_status_update_failed", [
    ("status", .str status.word),
    ("error", .str fault.message)]⟩

/-- Indexes a job's address; tells the status that this gives the job. -/
def indexJob (config : Config) (job : Job) : Actor State JobStatus := do
  let result ← Actor.ofAttempt (ExceptT.lift (index config.limits job.address).run)
  match result with
  | .ok (signatures, transactions) =>
    log (completed signatures transactions)
    modify fun s => { s with jobsReady := s.jobsReady + 1 }
    pure .ready
  | .error abort =>
    modify fun s => { s with jobsFailed := s.jobsFailed + 1, lastError := abort.message }
    log (aborted abort)
    pure .error

/-- Records a job's status. The job may have been lost to another, and the store may fail; the
worker notes it and goes on. -/
def recordStatus (config : Config) (job : Job) (status : JobStatus) : Actor State Unit := do
  let update := Attempt.query (.updateJob job.id status.word (some config.id) (some config.owner))
  match ← (Actor.ofAttempt update).result with
  | .ok true => pure ()
  | .ok false => log (notUpdated status)
  | .error fault => log (updateFailed status fault)

/-- Indexes a claimed job and records its status, which it tells. -/
def processJob (config : Config) (job : Job) : Actor State JobStatus := do
  let status ← indexJob config job
  recordStatus config job status
  modify fun s => { s with lastJob := some job.id }
  pure status

/-! ### Polls -/

def claimFailed (config : Config) (fault : Fault) : Log.Line :=
  ⟨.warning, "job_claim_failed", [
    ("worker_id", .int config.id),
    ("error", .str fault.message)]⟩

def claimed (config : Config) (job : Job) : Log.Line :=
  ⟨.info, "job_claimed", [
    ("worker_id", .int config.id),
    ("job_id", .int job.id),
    ("address", .str (Log.mask job.address))]⟩

/-- Claims a job; a claim that fails gives none. -/
def claimJob (config : Config) : Actor State (Option Job) := do
  match ← (Actor.ofAttempt (Store.claim (some config.id) (some config.owner))).result with
  | .ok job => pure job
  | .error fault =>
    log (claimFailed config fault)
    pure none

def pause : Actor State Unit := do
  let _ ← Backoff.pause.focus State.backoff fun backoff s => { s with backoff }

/-- One poll: a job if there is one, else a wait. Tells whether there was a job. -/
def runOnce (config : Config) : Actor State Bool := do
  match ← claimJob config with
  | none =>
    modify fun s => { s with idlePolls := s.idlePolls + 1 }
    modify (State.enter .backoffWait)
    pause
    modify (State.enter .idle)
    pure false
  | some job =>
    modify fun s => { s with backoff := s.backoff.reset }
    modify (State.enter .processing)
    log (claimed config job)
    let result ← (processJob config job).result
    modify (State.enter .idle)
    match result with
    | .ok _ => pure true
    | .error fault => throw fault

/-! ### Runs -/

def started (config : Config) : Log.Line :=
  ⟨.info, "worker_started", [("worker_id", .int config.id), ("owner", .str config.owner)]⟩

def stopped (config : Config) (s : State) : Log.Line :=
  ⟨.info, "worker_stopped", [
    ("worker_id", .int config.id),
    ("jobs_ready", .int s.jobsReady),
    ("jobs_failed", .int s.jobsFailed)]⟩

def iterationFailed (config : Config) (fault : Fault) : Log.Line :=
  ⟨.exception, "worker_iteration_failed", [
    ("worker_id", .int config.id),
    ("error", .str fault.message)]⟩

/-- At most as many polls, until the service is to stop. A poll that fails is noted. -/
def poll (config : Config) : Nat → Actor State Unit
  | 0 => pure ()
  | left + 1 => do
    if ← Actor.ofAttempt Attempt.stopping then pure ()
    else
      match ← (runOnce config).result with
      | .ok _ => pure ()
      | .error fault =>
        modify fun s => { s with lastError := fault.message }
        log (iterationFailed config fault)
      poll config left

/-- A run of at most `limit` polls. -/
def run (config : Config) (limit : Nat) : Actor State Unit := do
  log (started config)
  poll config limit
  log (stopped config (← get))

end AddressIndex.Worker
