import AddressIndex.Batch
import AddressIndex.Rpc.Page

/-!
Indexing one address. First the pages of its history are stored, from the newest signature back;
then its unprocessed signatures are leased, fetched, saved and marked until none is left but those
that failed.
-/

namespace AddressIndex.Worker

/-- The client of a pipeline, and the limits that it keeps to. -/
structure Limits where
  client : Rpc.Client
  maxPages : Int
  pageDelay : Binary64
  leaseLimit : Int
  batch : Batch.Config

/-! ### Signatures -/

structure SignatureSync where
  pages : Nat
  received : Nat
  inserted : Nat
  capReached : Bool
deriving DecidableEq, Repr

def capReached (sync : SignatureSync) : Log.Line :=
  ⟨.warning, "signature_sync_page_cap_reached", [
    ("pages", .int sync.pages),
    ("received", .int sync.received)]⟩

def pageStored (sync : SignatureSync) (length : Nat) : Log.Line :=
  ⟨.info, "signatures_page_stored", [
    ("page", .int sync.pages),
    ("page_len", .int length),
    ("total", .int sync.received)]⟩

/-- The next page; none if the history has been read to its end. -/
def nextPage (limits : Limits) (address : String) (before : Option String) :
    Attempt (Option Rpc.Page) :=
  tryCatch (some <$> Rpc.Page.fetch limits.client address before) fun fault =>
    match fault with
    | .rpc (.emptyPage _) => pure none
    | fault => throw fault

/-- Stores the records of a page; tells how many were new. -/
def storePage (address : String) (records : List SignatureRecord) : Attempt Nat :=
  if records.isEmpty then pure 0 else Attempt.query (.append address records)

/-- Stores at most as many pages as are left, from the bound `before` back. A page that is not full
is the last one. -/
def syncPages (limits : Limits) (address : String) :
    Nat → Option String → SignatureSync → Attempt SignatureSync
  | 0, _, sync => do
    Attempt.log .worker (capReached sync)
    pure { sync with capReached := true }
  | left + 1, before, sync => do
    match ← nextPage limits address before with
    | none => pure sync
    | some page =>
      let inserted ← storePage address page.records
      let sync := { sync with
        pages := sync.pages + 1
        received := sync.received + page.records.length
        inserted := sync.inserted + inserted }
      Attempt.log .worker (pageStored sync page.records.length)
      if page.records.length < limits.client.pageSize || page.cursor.isNone then pure sync
      else
        Attempt.sleep limits.pageDelay
        syncPages limits address left page.cursor sync

def syncSignatures (limits : Limits) (address : String) : Attempt SignatureSync :=
  syncPages limits address limits.maxPages.toNat none ⟨0, 0, 0, false⟩

/-! ### Transactions -/

structure TransactionSync where
  passes : Nat
  processed : Nat
  failed : Nat
  transactions : Nat
  transfers : Nat
deriving DecidableEq, Repr

def softFailures (pass : Nat) (batch : Batch.Result) : Log.Line :=
  ⟨.warning, "transaction_sync_soft_failures", [
    ("pass_index", .int pass),
    ("failed", .int batch.failed.length),
    ("sample_error", .ofText? (batch.errors.head?.map (·.message)))]⟩

/-- Saves what was fetched, with the transfers seen from the address. -/
def saveBatch (address : String) (batch : Batch.Result) : Attempt Store.SaveCount :=
  if batch.succeeded.isEmpty then pure ⟨0, 0, 0⟩
  else Attempt.query (.save address (batch.succeeded.map (·.direct address)))

def markBatch (address : String) (batch : Batch.Result) : Attempt Unit :=
  if batch.processed.isEmpty then pure ()
  else do
    let _ ← Attempt.query (.mark address batch.processed)
    pure ()

/-- Fetches leased signatures; what was fetched is saved and then marked. -/
def runPass (limits : Limits) (address : String) (leased : List String) (sync : TransactionSync) :
    Attempt (Batch.Result × TransactionSync) := do
  let pass := sync.passes + 1
  let batch ← Batch.fetchMany (Rpc.Outcome.fetch limits.client) limits.batch leased
  let saved ← saveBatch address batch
  markBatch address batch
  if !batch.failed.isEmpty then
    Attempt.log .worker (softFailures pass batch)
  pure (batch, {
    passes := pass
    processed := sync.processed + batch.processed.length
    failed := sync.failed + batch.failed.length
    transactions := sync.transactions + saved.transactions
    transfers := sync.transfers + saved.transfers })

/-- Works off leases until one is empty. A signature that failed is not leased again, so each pass
leaves fewer signatures, and `left` passes do for as many. -/
def drain (limits : Limits) (address : String) :
    Nat → List String → List String → TransactionSync → Attempt TransactionSync
  | 0, _, _, sync => pure sync
  | left + 1, leased, failed, sync => do
    if leased.isEmpty then pure sync
    else
      let (batch, sync) ← runPass limits address leased sync
      let failed := failed ++ batch.failed
      let lease ← Attempt.query (.lease address limits.leaseLimit failed)
      drain limits address left lease.signatures failed sync

def syncTransactions (limits : Limits) (address : String) : Attempt TransactionSync := do
  let lease ← Attempt.query (.lease address limits.leaseLimit [])
  drain limits address lease.waiting lease.signatures [] ⟨0, 0, 0, 0, 0⟩

/-! ### Stages -/

/-- A stage that a fault ended. -/
structure Abort where
  stage : String
  cause : Fault

def Abort.message (abort : Abort) : String := abort.stage ++ ": " ++ abort.cause.message

/-- Runs a stage; a fault in it is named for the stage. -/
def runStage {α : Type} (stage : String) (attempt : Attempt α) : ExceptT Abort Program α :=
  ExceptT.mk do
    match ← attempt.run with
    | .ok value => pure (.ok value)
    | .error cause => pure (.error ⟨stage, cause⟩)

/-- Both stages, for one address. -/
def index (limits : Limits) (address : String) :
    ExceptT Abort Program (SignatureSync × TransactionSync) := do
  let signatures ← runStage "signature_sync" (syncSignatures limits address)
  let transactions ← runStage "transaction_sync" (syncTransactions limits address)
  pure (signatures, transactions)

end AddressIndex.Worker
