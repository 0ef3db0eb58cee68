import AddressIndex.Pieces
import AddressIndex.Store.Session

/-!
Statements on the tables of signatures and transactions. Rows are added by their keys, so what is
there already stays as it is; a long list of rows or names takes several statements.
-/

namespace AddressIndex.Store

/-- A table among the tables, the key of its rows and the values they pass to a statement. -/
structure Table (α κ : Type) where
  rows : Tables → List α
  put : List α → Tables → Tables
  key : α → κ
  parameters : α → List Parameter

namespace Tables

def signatureTable : Table SignatureRow String where
  rows := (·.signatures)
  put rows tables := { tables with signatures := rows }
  key := SignatureRow.key
  parameters := SignatureRow.parameters

def transactionTable : Table TransactionRow (String × String) where
  rows := (·.transactions)
  put rows tables := { tables with transactions := rows }
  key := TransactionRow.key
  parameters := TransactionRow.parameters

def balanceTable : Table BalanceRow (String × String × String) where
  rows := (·.balances)
  put rows tables := { tables with balances := rows }
  key := BalanceRow.key
  parameters := BalanceRow.parameters

def transferTable : Table TransferRow (String × String × Int × Int) where
  rows := (·.transfers)
  put rows tables := { tables with transfers := rows }
  key := TransferRow.key
  parameters := TransferRow.parameters

end Tables

namespace Session

variable {α κ : Type} [DecidableEq κ]

/-- One statement that inserts rows; tells how many were new. -/
def insertPiece (table : Table α κ) (new : List α) : Session Nat := do
  passParameters (new.flatMap table.parameters)
  let before := table.rows (← get)
  let after := insertAll table.key before new
  modify (table.put after)
  pure (after.length - before.length)

/-- Inserts rows piece by piece; tells how many were new. -/
def insert (table : Table α κ) (new : List α) : Session Nat := do
  let counts ← (pieces insertSize new).mapM (insertPiece table)
  pure (total counts)

end Session

/-! ### Signatures -/

/-- Whether a signature row is still to be processed for `owner`. -/
def SignatureRow.isWaiting (row : SignatureRow) (owner : String) : Bool :=
  row.owner = owner && !row.processed

/-- Whether `a` goes before `b` in a lease, or beside it: newer blocks first, unknown ones last. -/
def SignatureRow.leasedBefore (a b : SignatureRow) : Bool :=
  match a.record.blockTime, b.record.blockTime with
  | some x, some y => y ≤ x
  | none, some _ => false
  | _, none => true

/-- The waiting signatures of `owner` outside `exclude`, in lease order; rows of one time in the
order in which they came. -/
def leaseOrder (rows : List SignatureRow) (owner : String) (exclude : List String) : List String :=
  let eligible := rows.filter fun row =>
    row.isWaiting owner && !exclude.contains row.record.signature
  (eligible.mergeSort SignatureRow.leasedBefore).map (·.record.signature)

/-- The first of `xs`, up to a limit; a negative limit is none. -/
def limited {α : Type} (limit : Int) (xs : List α) : List α :=
  if limit < 0 then xs else xs.take limit.toNat

/-- The signature rows with those of `owner` among `names` processed. -/
def markRows (rows : List SignatureRow) (owner : String) (names : List String) :
    List SignatureRow :=
  rows.map fun row =>
    if row.isWaiting owner && names.contains row.record.signature then
      { row with processed := true }
    else row

/-- One statement that marks signatures; tells how many were not marked before. -/
def Session.markPiece (owner : String) (names : List String) : Session Nat := do
  passParameters (.text owner :: names.map .text)
  let tables ← get
  let rows := tables.signatures
  set { tables with signatures := markRows rows owner names }
  pure (rows.countP fun row => row.isWaiting owner && names.contains row.record.signature)

/-! ### Jobs -/

/-- The job that is claimed next. -/
def oldest : List Job → Option Job
  | [] => none
  | job :: rest =>
    match oldest rest with
    | some other => if other.before job then some other else some job
    | none => some job

def oldestPending (jobs : List Job) : Option Job := oldest (jobs.filter (·.status = .pending))

/-- The jobs with the one numbered `id` changed. -/
def changeJob (jobs : List Job) (id : Int) (change : Job → Job) : List Job :=
  jobs.map fun job => if job.id = id then change job else job

end AddressIndex.Store
