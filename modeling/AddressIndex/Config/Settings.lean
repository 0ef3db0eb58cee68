import AddressIndex.Config.Environment
import AddressIndex.Fault.Kind
import AddressIndex.Text.Numeral

/-!
The settings of the service. Each has a default, and a variable of its name in capitals sets it;
numbers are read first, in order, and then the values are checked.
-/

namespace AddressIndex

inductive SettingsFault where
  | numeral (error : Text.NumeralError)
  | workerCount
  | pageSize
  | maxPages
  | batch
  | leaseLimit
  | backoffBounds
  | backoffMultiplier
deriving DecidableEq, Repr

def SettingsFault.message : SettingsFault → String
  | .numeral error => error.message
  | .workerCount => "worker_count must be >= 1"
  | .pageSize => "signature_page_size must be between 1 and 1000"
  | .maxPages => "max_signature_pages must be >= 1"
  | .batch => "tx_chunk_size and tx_concurrency must be >= 1"
  | .leaseLimit => "lease_limit must be >= 1"
  | .backoffBounds => "backoff bounds must satisfy 1 <= min <= max"
  | .backoffMultiplier => "backoff_multiplier must be >= 1.0"

structure Settings where
  nodeUrl : String
  databaseUrl : String
  workerCount : Int
  pageSize : Int
  maxPages : Int
  pageDelay : Binary64
  chunkSize : Int
  concurrency : Int
  chunkDelay : Binary64
  leaseLimit : Int
  backoffLeast : Int
  backoffGreatest : Int
  backoffMultiplier : Binary64
  requestTimeout : Binary64
  host : String
  serverPort : Int
deriving DecidableEq

namespace Settings

/-- A decimal number with three places. -/
def thousandths (n : Nat) : Binary64 := .ofDecimal false n (-3)

/-- The settings with all defaults but the endpoints. -/
def defaults (nodeUrl databaseUrl : String) : Settings where
  nodeUrl
  databaseUrl
  workerCount := 4
  pageSize := 1000
  maxPages := 500
  pageDelay := thousandths 125
  chunkSize := 10
  concurrency := 10
  chunkDelay := thousandths 1150
  leaseLimit := 100
  backoffLeast := 500
  backoffGreatest := 30000
  backoffMultiplier := thousandths 2000
  requestTimeout := thousandths 30000
  host := "127.0.0.1"
  serverPort := 8080

/-- The settings, if every one of them can be kept to; else what is wrong with the first that
cannot. A multiplier is refused only if it is below one. -/
def check (s : Settings) : Except SettingsFault Settings :=
  if s.workerCount < 1 then throw .workerCount
  else if s.pageSize < 1 ∨ 1000 < s.pageSize then throw .pageSize
  else if s.maxPages < 1 then throw .maxPages
  else if s.chunkSize < 1 ∨ s.concurrency < 1 then throw .batch
  else if s.leaseLimit < 1 then throw .leaseLimit
  else if s.backoffLeast < 1 ∨ s.backoffGreatest < s.backoffLeast then throw .backoffBounds
  else if s.backoffMultiplier.lt .one then throw .backoffMultiplier
  else pure s

/-- An integer variable, or the default. -/
def integer (env : Environment) (name : String) (default : Int) : Except SettingsFault Int :=
  match env.value? name with
  | none => pure default
  | some s => (Text.readInt s).mapError .numeral

/-- A number variable, or the default. -/
def number (env : Environment) (name : String) (default : Binary64) :
    Except SettingsFault Binary64 :=
  match env.value? name with
  | none => pure default
  | some s => (Text.readFloat s).mapError .numeral

/-- The settings that an environment makes, before they are checked. -/
def ofEnvironment (env : Environment) : Except SettingsFault Settings := do
  let nodeUrl := (env.value? "RPC_URL").getD env.nodeUrl
  let databaseUrl := (env.value? "DATABASE_URL").getD env.databaseUrl
  let standard := defaults nodeUrl databaseUrl
  let workerCount ← integer env "WORKER_COUNT" standard.workerCount
  let pageSize ← integer env "SIGNATURE_PAGE_SIZE" standard.pageSize
  let maxPages ← integer env "MAX_SIGNATURE_PAGES" standard.maxPages
  let pageDelay ← number env "SIGNATURE_PAGE_DELAY_SEC" standard.pageDelay
  let chunkSize ← integer env "TX_CHUNK_SIZE" standard.chunkSize
  let concurrency ← integer env "TX_CONCURRENCY" standard.concurrency
  let chunkDelay ← number env "TX_CHUNK_DELAY_SEC" standard.chunkDelay
  let leaseLimit ← integer env "LEASE_LIMIT" standard.leaseLimit
  let backoffLeast ← integer env "BACKOFF_MIN_MS" standard.backoffLeast
  let backoffGreatest ← integer env "BACKOFF_MAX_MS" standard.backoffGreatest
  let backoffMultiplier ← number env "BACKOFF_MULTIPLIER" standard.backoffMultiplier
  let requestTimeout ← number env "REQUEST_TIMEOUT_SEC" standard.requestTimeout
  let host := (env.value? "API_HOST").getD standard.host
  let serverPort ← integer env "API_PORT" standard.serverPort
  pure {
    nodeUrl, databaseUrl, workerCount, pageSize, maxPages, pageDelay, chunkSize, concurrency,
    chunkDelay, leaseLimit, backoffLeast, backoffGreatest, backoffMultiplier, requestTimeout, host,
    serverPort }

/-- The settings that an environment makes. -/
def read (env : Environment) : Except SettingsFault Settings := do
  (← ofEnvironment env).check

end Settings

end AddressIndex
