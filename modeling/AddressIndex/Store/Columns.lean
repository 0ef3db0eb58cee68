import AddressIndex.Store.Session

/-!
The columns of the tables by name, with the values that rows have in them. The amount of a transfer
is kept as a text, since it may be greater than any integer that the database holds.
-/

namespace AddressIndex.Store

/-- The columns that a transfer has wherever it is shown. -/
def transferColumns (t : Transfer) : Fields := [
  ("transfer_type", .str t.kind.word),
  ("asset_type", .str t.asset.word),
  ("instruction_idx", .int t.position.index),
  ("token_mint", .ofText? t.mint),
  ("token_program", .ofText? t.program),
  ("source_owner", .ofText? t.sourceOwner),
  ("destination_owner", .ofText? t.destinationOwner),
  ("source_token_account", .ofText? t.sourceAccount),
  ("destination_token_account", .ofText? t.destinationAccount),
  ("amount_ui", (t.display.map .float).getD .null),
  ("decimals", .ofInt? t.decimals),
  ("direction", .str t.direction.word),
  ("authority", .ofText? t.authority),
  ("inner_idx", .ofInt? t.position.inner)]

def SignatureRow.columns (row : SignatureRow) : Fields := [
  ("owner_address", .str row.owner),
  ("signature", .str row.record.signature),
  ("block_time", .ofInt? row.record.blockTime),
  ("slot", .ofInt? row.record.slot),
  ("is_processed", .bool row.processed),
  ("created_at", .int row.created)]

def TransactionRow.columns (row : TransactionRow) : Fields := [
  ("owner_address", .str row.owner),
  ("signature", .str row.signature),
  ("slot", .int row.slot),
  ("block_time", .ofInt? row.blockTime),
  ("err", .ofText? row.failure),
  ("fee", .int row.fee),
  ("compute_units", .ofInt? row.computeUnits),
  ("num_signers", .int row.signers),
  ("num_instructions", .int row.instructions),
  ("created_at", .int row.created)]

def BalanceRow.columns (row : BalanceRow) : Fields := [
  ("owner_address", .str row.owner),
  ("signature", .str row.signature),
  ("account_address", .str row.change.account),
  ("delta", .int row.change.delta),
  ("slot", .int row.slot),
  ("block_time", .ofInt? row.blockTime)]

namespace TransferRow

/-- A row as a list of transfers has it. -/
def listed (row : TransferRow) (amount : Json) : Fields :=
  [("tracked_owner", .str row.owner), ("signature", .str row.signature), ("slot", .int row.slot),
    ("block_time", .ofInt? row.blockTime), ("amount_raw", amount)] ++ transferColumns row.transfer

def columns (row : TransferRow) : Fields :=
  ("inner_idx_key", .int row.innerKey) :: row.listed (.str (toString row.transfer.amount))

end TransferRow

end AddressIndex.Store

namespace AddressIndex

def Job.columns (job : Job) : Fields := [
  ("address", .str job.address),
  ("status", .str job.status.word),
  ("worker_id", .ofInt? job.worker),
  ("claimed_by", .ofText? job.owner),
  ("created_at", .int job.created),
  ("updated_at", .int job.updated)]

/-- The rows of a table by the names of its columns. -/
def Store.Tables.columns (tables : Store.Tables) : String → List Fields
  | "signatures" => tables.signatures.map (·.columns)
  | "transactions" => tables.transactions.map (·.columns)
  | "balance_changes" => tables.balances.map (·.columns)
  | "token_transfers" => tables.transfers.map (·.columns)
  | "jobs" => tables.jobs.map (·.columns)
  | _ => []

end AddressIndex
