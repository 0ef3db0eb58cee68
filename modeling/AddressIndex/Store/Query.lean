import AddressIndex.Clock
import AddressIndex.Store.Statement
import AddressIndex.Text.Blank

/-!
The operations of the store. A query is one operation, or one of the two steps of a claim, and each
happens as a whole or not at all. What is added goes by natural keys, so an operation that is done
again after a crash changes nothing.
-/

namespace AddressIndex.Store

inductive Query where
  /-- Creates the tables that are missing. -/
  | create
  /-- Adds signatures to the history of an address. -/
  | append (address : String) (records : List SignatureRecord)
  /-- Asks for signatures to process, at most `limit` of them. -/
  | lease (address : String) (limit : Int) (exclude : List String)
  /-- Marks signatures as processed. -/
  | mark (address : String) (signatures : List String)
  | countSignatures (address : String) (processed : Option Bool)
  /-- Adds transactions with what was derived from them. -/
  | save (address : String) (transactions : List Indexed)
  | transfers (address : String) (signature : Option String)
  | balances (address : String) (signature : Option String)
  | countTransactions (address : String)
  /-- Adds a pending job, unless the address has one. -/
  | addJob (address : String)
  | job (id : Int)
  /-- The first step of a claim: looks for the oldest pending job. -/
  | candidate
  /-- The second step of a claim: takes a job, if it is still pending. -/
  | take (id : Int) (worker : Option Int) (owner : Option String)
  /-- Moves an indexing job to another status, if it is held as required. -/
  | updateJob (id : Int) (status : String) (worker : Option Int) (owner : Option String)

/-- Leased signatures, and how many there are without the limit. -/
structure Lease where
  signatures : List String
  waiting : Nat
deriving DecidableEq, Repr

/-- How many rows a save added to each table. -/
structure SaveCount where
  transactions : Nat
  balances : Nat
  transfers : Nat
deriving DecidableEq, Repr

namespace Query

/-- The operation that a query is part of. -/
def operation : Query → Operation
  | .create => .create
  | .append _ _ => .append
  | .lease _ _ _ => .lease
  | .mark _ _ => .mark
  | .countSignatures _ _ => .countSignatures
  | .save _ _ => .save
  | .transfers _ _ => .transfers
  | .balances _ _ => .balances
  | .countTransactions _ => .countTransactions
  | .addJob _ => .addJob
  | .job _ => .job
  | .candidate | .take _ _ _ => .claim
  | .updateJob _ _ _ _ => .updateJob

/-- What a query answers if it does not fail. -/
def Reply : Query → Type
  | .create => Unit
  | .append _ _ | .mark _ _ | .countSignatures _ _ | .countTransactions _ => Nat
  | .lease _ _ _ => Lease
  | .save _ _ => SaveCount
  | .transfers _ _ => List TransferRow
  | .balances _ _ => List BalanceDelta
  | .addJob _ => Job × Bool
  | .job _ => Option Job
  | .candidate => Option Int
  | .take _ _ _ => Option Job
  | .updateJob _ _ _ _ => Bool

end Query

/-- Steps on a database, up to the first that fails. -/
abbrev Action (α : Type) := ExceptT Fault (StateM Database) α

namespace Action

/-- A session as one unit. -/
def transact {α : Type} (op : Operation) (session : Session α) : Action α :=
  fun db => db.transact op session

/-- The time in whole seconds. -/
def now (clock : Instant) : Action Int :=
  match clock.seconds with
  | .ok n => pure n
  | .error fault => throw (.clock fault)

def create : Action Unit := do
  match ← get with
  | .ready _ => pure ()
  | .bare => set (Database.ready .blank)
  | .unreachable => throw (.database .create)

def append (clock : Instant) (address : String) (records : List SignatureRecord) : Action Nat := do
  let now ← now clock
  let rows := records.map fun record => ⟨address, record, false, now⟩
  if rows.isEmpty then pure 0
  else transact .append (Session.insert Tables.signatureTable rows)

def lease (address : String) (limit : Int) (exclude : List String) : Action Lease :=
  transact .lease do
    -- besides the limit it is told how many rows to skip
    Session.passBounded .lease
      (.text address :: exclude.map .text ++ [.integer limit, .integer 0])
    let waiting := leaseOrder (← get).signatures address exclude
    pure ⟨limited limit waiting, waiting.length⟩

def mark (address : String) (signatures : List String) : Action Nat :=
  if signatures.isEmpty then pure 0
  else transact .mark do
    let counts ← (pieces nameSize signatures).mapM (Session.markPiece address)
    pure (total counts)

def countSignatures (address : String) (processed : Option Bool) : Action Nat :=
  transact .countSignatures do
    Session.passParameters [.text address]
    pure ((← get).signatures.countP fun row =>
      row.owner = address && (processed.isNone || processed = some row.processed))

def save (clock : Instant) (address : String) (transactions : List Indexed) : Action SaveCount :=
  if transactions.isEmpty then pure ⟨0, 0, 0⟩
  else do
    let now ← now clock
    transact .save do
      let added ← Session.insert Tables.transactionTable
        (transactions.map (.ofIndexed address now))
      let balances ← Session.insert Tables.balanceTable
        (transactions.flatMap (BalanceRow.ofIndexed address))
      let transfers ← Session.insert Tables.transferTable
        (transactions.flatMap (TransferRow.ofIndexed address))
      pure ⟨added, balances, transfers⟩

def transfers (address : String) (signature : Option String) : Action (List TransferRow) :=
  transact .transfers do
    Session.passParameters (.text address :: Parameter.text? signature)
    pure ((← get).transfers.filter fun row =>
      row.owner = address && (signature.isNone || signature = some row.signature))

def balances (address : String) (signature : Option String) : Action (List BalanceDelta) :=
  transact .balances do
    Session.passParameters (.text address :: Parameter.text? signature)
    let rows := (← get).balances.filter fun row =>
      row.owner = address && (signature.isNone || signature = some row.signature)
    pure (rows.map (·.change))

def countTransactions (address : String) : Action Nat :=
  transact .countTransactions do
    Session.passParameters [.text address]
    pure ((← get).transactions.countP fun row => row.owner = address)

/-- Jobs are numbered from one on. An address that has a job keeps it. -/
def addJob (clock : Instant) (address : String) : Action (Job × Bool) := do
  let address := Text.trim address
  if address.isEmpty then throw .emptyAddress
  let now ← now clock
  transact .addJob do
    Session.passParameters [.text address, .integer now]
    let tables ← get
    match tables.jobs.find? (·.address = address) with
    | some job => pure (job, false)
    | none =>
      let job : Job := ⟨tables.jobs.length + 1, address, .pending, none, none, now, now⟩
      set { tables with jobs := tables.jobs ++ [job] }
      pure (job, true)

def job (id : Int) : Action (Option Job) :=
  transact .job do
    Session.passParameters [.integer id]
    pure ((← get).jobs.find? (·.id = id))

def candidate : Action (Option Int) :=
  transact .claim do
    pure ((oldestPending (← get).jobs).map (·.id))

def take (clock : Instant) (id : Int) (worker : Option Int) (owner : Option String) :
    Action (Option Job) := do
  let now ← now clock
  transact .claim do
    Session.passParameters
      (Parameter.integer? worker ++ Parameter.text? owner ++ [.integer now, .integer id])
    let tables ← get
    match tables.jobs.find? (·.id = id) with
    | some job =>
      if job.status = .pending then
        let taken := { job with status := .indexing, worker, owner, updated := now }
        set { tables with jobs := changeJob tables.jobs id fun _ => taken }
        pure (some taken)
      else pure none
    | none => pure none

def updateJob (clock : Instant) (id : Int) (status : String) (worker : Option Int)
    (owner : Option String) : Action Bool :=
  match JobStatus.ofWord? status with
  | none => throw (.unknownStatus status)
  | some status => do
    let now ← now clock
    transact .updateJob do
      Session.passParameters
        ([.integer now, .integer id] ++ Parameter.integer? worker ++ Parameter.text? owner)
      let tables ← get
      match tables.jobs.find? (·.id = id) with
      | some job =>
        if job.heldBy worker owner then
          set { tables with
            jobs := changeJob tables.jobs id fun job => { job with status, updated := now } }
          pure true
        else pure false
      | none => pure false

end Action

/-- What a query does, at the time that the clock shows. -/
def Query.perform (clock : Instant) : (query : Query) → Action query.Reply
  | .create => Action.create
  | .append address records => Action.append clock address records
  | .lease address limit exclude => Action.lease address limit exclude
  | .mark address signatures => Action.mark address signatures
  | .countSignatures address processed => Action.countSignatures address processed
  | .save address transactions => Action.save clock address transactions
  | .transfers address signature => Action.transfers address signature
  | .balances address signature => Action.balances address signature
  | .countTransactions address => Action.countTransactions address
  | .addJob address => Action.addJob clock address
  | .job id => Action.job id
  | .candidate => Action.candidate
  | .take id worker owner => Action.take clock id worker owner
  | .updateJob id status worker owner => Action.updateJob clock id status worker owner

end AddressIndex.Store
