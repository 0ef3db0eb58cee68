import AddressIndex.Pieces
import AddressIndex.Rpc.Fetch
import AddressIndex.Transfer.Indexed

/-!
Fetching many transactions. Signatures are fetched chunk by chunk with a pause after each chunk, and
the failure of one never touches another: what failed is reported beside what was fetched. Then the
fetched transactions are indexed.
-/

namespace AddressIndex.Batch

inductive ConfigFault where
  | chunkSize
  | concurrency
deriving DecidableEq, Repr

def ConfigFault.message : ConfigFault → String
  | .chunkSize => "chunk_size must be >= 1"
  | .concurrency => "concurrency must be >= 1"

/-- How fetches are batched. How many of a chunk run at once changes no result. -/
structure Config where
  chunkSize : Nat
  concurrency : Nat
  delay : Binary64
  chunkSize_pos : 0 < chunkSize

/-- A configuration; a delay that is not above zero is none. -/
def Config.of (chunkSize concurrency : Int) (delay : Binary64) : Except ConfigFault Config :=
  if h : 1 ≤ chunkSize then
    if concurrency < 1 then throw .concurrency
    else pure {
      chunkSize := chunkSize.toNat
      concurrency := (min concurrency chunkSize).toNat
      delay := if Binary64.zero.lt delay then delay else .zero
      chunkSize_pos := by omega }
  else throw .chunkSize

/-- The fetched transactions and the failed fetches, each with the signature asked for. -/
structure Fetched where
  successes : List (String × Transaction)
  failures : List (String × Rpc.FetchError)

structure Result where
  succeeded : List Indexed
  processed : List String
  failed : List String
  errors : List Rpc.FetchError

def Result.hasFailures (result : Result) : Bool := !result.errors.isEmpty

/-- Fetches one signature. A fault of the client counts as a failure of this signature alone, and
so does a transaction that is not the one asked for. -/
def fetchOne (fetch : String → Attempt Rpc.Outcome) (signature : String) : Program Rpc.Outcome := do
  match ← (fetch signature).run with
  | .ok (.fetched tx) =>
    if tx.signature = signature then pure (.fetched tx)
    else pure (.failed ⟨signature, .swapped tx.signature⟩)
  | .ok (.failed error) => pure (.failed error)
  | .error fault => pure (.failed ⟨signature, .unforeseen fault.kind fault.message⟩)

/-- The outcomes of a chunk, told apart. -/
def Fetched.ofOutcomes : List (String × Rpc.Outcome) → Fetched
  | [] => ⟨[], []⟩
  | (signature, outcome) :: rest =>
    let fetched := ofOutcomes rest
    match outcome with
    | .fetched tx => { fetched with successes := (signature, tx) :: fetched.successes }
    | .failed error => { fetched with failures := (signature, error) :: fetched.failures }

/-- What was fetched before, and then more. -/
def Fetched.append (x y : Fetched) : Fetched :=
  ⟨x.successes ++ y.successes, x.failures ++ y.failures⟩

def codeJson (error : Rpc.FetchError) : Json := (error.code?.map (·.toJson)).getD .null

def chunkReceived (index : Nat) (chunk total : Fetched) : Log.Line :=
  ⟨.info, "tx_chunk_received", [
    ("chunk_index", .int index),
    ("chunk_len", .int (chunk.successes.length + chunk.failures.length)),
    ("chunk_success", .int chunk.successes.length),
    ("chunk_failed", .int chunk.failures.length),
    ("total_success", .int total.successes.length),
    ("total_failed", .int total.failures.length)]⟩

def chunkFailed (index : Nat) (error : Rpc.FetchError) : Log.Line :=
  ⟨.warning, "tx_chunk_partial_failure", [
    ("chunk_index", .int index),
    ("signature", .str (Log.mask error.signature)),
    ("kind", .str error.kind.word),
    ("status_code", .ofInt? error.status?),
    ("rpc_code", codeJson error),
    ("error", .str error.message)]⟩

/-- Adds the outcomes of a chunk to what was fetched before, reports the chunk and pauses. -/
def closeChunk (config : Config) (before : Fetched) (chunk : List String × Nat)
    (outcomes : List Rpc.Outcome) : Attempt Fetched := do
  let (signatures, index) := chunk
  let fetched := Fetched.ofOutcomes (signatures.zip outcomes)
  let total := before.append fetched
  Attempt.log .fetcher (chunkReceived index fetched total)
  match fetched.failures with
  | (_, error) :: _ => Attempt.log .fetcher (chunkFailed index error)
  | [] => pure ()
  Attempt.sleep config.delay
  pure total

/-- Fetches one chunk and pauses. -/
def fetchChunk (fetch : String → Attempt Rpc.Outcome) (config : Config) (before : Fetched)
    (chunk : List String × Nat) : Attempt Fetched := do
  let outcomes ← chunk.1.mapM fun signature => ExceptT.lift (fetchOne fetch signature)
  closeChunk config before chunk outcomes

/-- Indexes a fetched transaction under the signature asked for. -/
def indexOne (fetched : String × Transaction) : Attempt Indexed := do
  (BalanceDelta.warnings fetched.2).forM (Attempt.log .fetcher)
  match Indexed.ofTransaction fetched.2 fetched.1 with
  | .ok indexed => pure indexed
  | .error fault => throw (.arithmetic fault)

def normalized (succeeded : List Indexed) : Log.Line :=
  ⟨.debug, "tx_batch_normalized", [
    ("total_transfers", .int (total (succeeded.map (·.deltas.length)))),
    ("total_token_changes", .int (total (succeeded.map (·.transfers.length))))]⟩

def leftForRetry (error : Rpc.FetchError) (failed succeeded : Nat) : Log.Line :=
  ⟨.warning, "tx_batch_failures_left_for_retry", [
    ("failed_total", .int failed),
    ("success_total", .int succeeded),
    ("signature", .str (Log.mask error.signature)),
    ("status_code", .ofInt? error.status?),
    ("rpc_code", codeJson error),
    ("error", .str error.message)]⟩

/-- Indexes what was fetched, and reports it with what failed. -/
def conclude (fetched : Fetched) : Attempt Result := do
  let succeeded ← fetched.successes.mapM indexOne
  Attempt.log .fetcher (normalized succeeded)
  let errors := fetched.failures.map (·.2)
  match errors with
  | error :: _ => Attempt.log .fetcher (leftForRetry error errors.length succeeded.length)
  | [] => pure ()
  pure ⟨succeeded, fetched.successes.map (·.1), fetched.failures.map (·.1), errors⟩

/-- The chunks of a batch, numbered. -/
def chunksOf (config : Config) (signatures : List String) : List (List String × Nat) :=
  (pieces config.chunkSize signatures).zipIdx

/-- Fetches the signatures and indexes what was fetched. -/
def fetchMany (fetch : String → Attempt Rpc.Outcome) (config : Config) (signatures : List String) :
    Attempt Result := do
  if signatures.isEmpty then return ⟨[], [], [], []⟩
  let fetched ← (chunksOf config signatures).foldlM (fetchChunk fetch config) ⟨[], []⟩
  conclude fetched

end AddressIndex.Batch
