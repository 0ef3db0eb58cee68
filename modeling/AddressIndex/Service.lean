import AddressIndex.Config.Driver
import AddressIndex.Config.Settings
import AddressIndex.Config.Url
import AddressIndex.Rpc.Client
import AddressIndex.Worker.Basic

/-!
Setting up the service: from an environment to a database with tables, a client of the node and
workers. The service runs either as a pool of workers alone or with its interface over HTTP.
-/

namespace AddressIndex.Service

/-- Why the service does not start. -/
inductive StartFault where
  | settings (fault : SettingsFault)
  | database (fault : DatabaseFault)
  | store (fault : Store.Fault)
  | client (fault : Rpc.ClientFault)
  | batch (fault : Batch.ConfigFault)
  | backoff (fault : Backoff.ConfigFault)
  | redaction (fault : Url.RedactFault)
deriving DecidableEq, Repr

namespace StartFault

def kind : StartFault → FaultKind
  | .settings _ | .client _ | .batch _ | .backoff _ => .badValue
  | .database fault => fault.kind
  | .store fault => fault.kind
  | .redaction fault => fault.kind

def message : StartFault → String
  | .settings fault => fault.message
  | .database fault => fault.message
  | .store fault => fault.message
  | .client fault => fault.message
  | .batch fault => fault.message
  | .backoff fault => fault.message
  | .redaction fault => fault.message

end StartFault

/-- What the workers share. -/
structure Setup where
  settings : Settings
  client : Rpc.Client
  batch : Batch.Config
  backoff : Backoff.Config

/-- The parts that settings make. -/
def Setup.of (settings : Settings) : Except StartFault Setup := do
  let client ← (Rpc.Client.of settings.nodeUrl settings.pageSize).mapError .client
  let batch ← (Batch.Config.of settings.chunkSize settings.concurrency settings.chunkDelay).mapError
    .batch
  let backoff ← (Backoff.Config.of settings.backoffLeast settings.backoffGreatest
    settings.backoffMultiplier).mapError .backoff
  pure ⟨settings, client, batch, backoff⟩

namespace Setup

def limits (setup : Setup) : Worker.Limits where
  client := setup.client
  maxPages := setup.settings.maxPages
  pageDelay := setup.settings.pageDelay
  leaseLimit := setup.settings.leaseLimit
  batch := setup.batch

/-- The worker of a number; `tag` tells its process apart from others. -/
def worker (setup : Setup) (tag : String) (id : Nat) : Worker.Config :=
  ⟨id, tag ++ "/" ++ toString id, setup.limits⟩

/-- The workers, numbered from one. -/
def workers (setup : Setup) (tag : String) : List Worker.Config :=
  (List.range setup.settings.workerCount.toNat).map fun i => setup.worker tag (i + 1)

/-- Lets the first worker poll `polls` times, enough for as many jobs. -/
def workOff (setup : Setup) (tag : String) (polls : Nat) : Program Unit := do
  let _ ← Worker.run (setup.worker tag 1) polls (.start setup.backoff)
  pure ()

/-- What is told when the pool starts, with URLs as log lines show them. -/
def starting (setup : Setup) : Except StartFault Log.Line := do
  let node ← (Url.redact setup.settings.nodeUrl).mapError .redaction
  let database ← (Url.redact setup.settings.databaseUrl).mapError .redaction
  pure ⟨.info, "runtime_pool_starting", [
    ("rpc_url", .str node),
    ("database_url", .str database),
    ("worker_count", .int setup.settings.workerCount)]⟩

end Setup

/-- How the interface over HTTP is served. -/
structure Server where
  host : String
  number : Int
  logLevel : String
deriving DecidableEq, Repr

def Setup.server (setup : Setup) (env : Environment) : Server where
  host := setup.settings.host
  number := setup.settings.serverPort
  logLevel := Text.lower ((env.get? "LOG_LEVEL").getD "info")

/-- A step of the start, which ends it if it fails. -/
def step {α : Type} (result : Except StartFault α) : ExceptT StartFault Program α :=
  ExceptT.mk (pure result)

/-- Creates the tables. -/
def createTables : ExceptT StartFault Program Unit :=
  ExceptT.mk do
    match ← Program.perform (.query .create) with
    | .ok _ => pure (.ok ())
    | .error fault => pure (.error (.store fault))

/-- Sets the service up. -/
def setUp (env : Environment) : ExceptT StartFault Program Setup := do
  let settings ← step ((Settings.read env).mapError .settings)
  let _ ← step ((DatabaseUrl.dialect settings.databaseUrl).mapError .database)
  createTables
  step (Setup.of settings)

/-- Sets a pool of workers up, and tells so. -/
def setUpPool (env : Environment) : ExceptT StartFault Program Setup := do
  let setup ← setUp env
  let line ← step setup.starting
  ExceptT.lift (Program.perform (.log .worker line))
  pure setup

end AddressIndex.Service
