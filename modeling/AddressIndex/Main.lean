import AddressIndex.Log.Render
import AddressIndex.Service
import Std.Time.DateTime.Timestamp

/-!
The command line: indexes the addresses given as arguments, with the settings of the environment.

The node is reached over the standard streams. A request goes out as one line, and the next line
that comes in is the reply, an object with its status and its text. Log lines go to standard error,
and in the end each address is written with how its job ended.
-/

namespace AddressIndex.Main

/-! ### The environment -/

/-- The variables that the service reads. -/
def variableNames : List String := [
  "SOLANA_RPC_URL", "HELIUS_API_KEY", "DATABASE_URL", "INDEXER_DB_PATH", "RPC_URL", "WORKER_COUNT",
  "SIGNATURE_PAGE_SIZE", "MAX_SIGNATURE_PAGES", "SIGNATURE_PAGE_DELAY_SEC", "TX_CHUNK_SIZE",
  "TX_CONCURRENCY", "TX_CHUNK_DELAY_SEC", "LEASE_LIMIT", "BACKOFF_MIN_MS", "BACKOFF_MAX_MS",
  "BACKOFF_MULTIPLIER", "REQUEST_TIMEOUT_SEC", "API_HOST", "API_PORT", "LOG_LEVEL", "LOG_FORMAT",
  "PYTHON_DOTENV_DISABLED"]

/-- The variables that are set, and those that a file in the working directory adds. -/
def readEnvironment : IO (Except Environment.FileFault Environment) := do
  let entries ← variableNames.filterMapM fun name => do
    pure ((← IO.getEnv name).map fun value => (name, value))
  let file ← try some <$> IO.FS.readFile ".env" catch _ => pure none
  pure (Environment.withFile ⟨entries⟩ file)

/-! ### Effects -/

/-- What programs run on: the standard streams, and a database that lives as long as they run. -/
structure Host where
  input : IO.FS.Stream
  output : IO.FS.Stream
  database : IO.Ref Store.Database
  /-- How many requests went out. -/
  requests : IO.Ref Nat
  logs : Log.Setup

def Host.create (logs : Log.Setup) : IO Host := do
  pure {
    input := ← IO.getStdin
    output := ← IO.getStdout
    database := ← IO.mkRef .bare
    requests := ← IO.mkRef 0
    logs }

/-- The answer that a line is; a line that is no reply counts as a failure of the network. -/
def answerOf (line : String) : Rpc.Answer :=
  match Json.read (Text.spelled line) with
  | .ok v =>
    let fields := v.fields?.getD []
    match (fields.get "status").int?, fields.get "text" with
    | some status, .str text => .reply status text
    | _, _ => .unreachable "no reply"
  | .error _ => .unreachable "no reply"

/-- Seconds as whole milliseconds, as many as a pause can have. -/
def milliseconds (seconds : Binary64) : UInt32 :=
  let n := ((seconds.mul (.ofInt 1000)).truncate?.getD 0).toNat
  UInt32.ofNat (min n (UInt32.size - 1))

/-- The name of a part of the service in log lines. -/
def sourceName : Log.Source → String
  | .client => "client"
  | .fetcher => "fetcher"
  | .worker => "worker"

namespace Host

def writeLine (host : Host) (line : String) : IO Unit := do
  host.output.putStrLn line
  host.output.flush

/-- Carries an effect out. -/
def perform (host : Host) : (effect : Effect) → IO effect.Reply
  | .ask request => do
    let number ← host.requests.modifyGet fun n => (n + 1, n + 1)
    host.writeLine ((request.body number).print Json.compact)
    pure (answerOf (← host.input.getLine))
  | .query q => do
    let now ← Std.Time.Timestamp.now
    let clock : Instant := .whole now.toSecondsSinceUnixEpoch.val
    host.database.modifyGet fun database => (q.perform clock).run.run database
  | .sleep seconds =>
    if Clock.longestPause.lt seconds then pure (.error .pauseTooLong)
    else do
      IO.sleep (milliseconds seconds)
      pure (.ok ())
  | .log source line =>
    match host.logs.render? (sourceName source) [] line with
    | .ok (some (.record fields)) => IO.eprintln ((Json.obj fields).print Json.ascii)
    | .ok (some (.text text)) => IO.eprintln text
    | .ok none => pure ()
    | .error fault => IO.eprintln fault.message
  | .draw greatest => do
    pure (Fin.ofNat (greatest + 1) (← IO.rand 0 greatest))
  | .stopping => pure false

/-- Runs a program. -/
def run {α : Type} (host : Host) : Program α → IO α
  | .done value => pure value
  | .act effect next => do
    let reply ← host.perform effect
    host.run (next reply)

end Host

/-! ### The command -/

/-- Tells why nothing can be done; the exit code is 1. -/
def refuse (message : String) : IO UInt32 := do
  IO.eprintln message
  pure 1

/-- Indexes addresses; tells the exit code. -/
def index (addresses : List String) : IO UInt32 := do
  let env ← match ← readEnvironment with
    | .ok env => pure env
    | .error fault => return ← refuse fault.message
  let logs ← match Log.Setup.of none none env with
    | .ok logs => pure logs
    | .error fault => return ← refuse fault.message
  let host ← Host.create logs
  match ← host.run (Service.setUpPool env).run with
  | .error fault => refuse fault.message
  | .ok setup =>
    for address in addresses do
      let _ ← host.run (Attempt.query (.addJob address)).run
    host.run (setup.workOff "local" addresses.length)
    for job in (← host.database.get).tables.jobs do
      host.writeLine (job.address ++ " " ++ job.status.word)
    pure 0

end AddressIndex.Main

def main (addresses : List String) : IO UInt32 := AddressIndex.Main.index addresses
