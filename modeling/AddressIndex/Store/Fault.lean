import AddressIndex.Fault.Arithmetic
import AddressIndex.Text.Writable

/-!
Why an operation on the database fails, and the names by which operations are reported.
-/

namespace AddressIndex.Store

inductive Operation where
  | create
  | append
  | lease
  | mark
  | countSignatures
  | save
  | transfers
  | balances
  | countTransactions
  | addJob
  | job
  | claim
  | updateJob
deriving DecidableEq, Repr

/-- The name of an operation. -/
def Operation.word : Operation → String
  | .create => "init_db"
  | .append => "append_signatures"
  | .lease => "lease_unprocessed_signatures"
  | .mark => "mark_signatures_processed"
  | .countSignatures => "count_signatures"
  | .save => "save_transaction_data"
  | .transfers => "list_token_transfers"
  | .balances => "list_balance_changes"
  | .countTransactions => "count_transactions"
  | .addJob => "add_job"
  | .job => "get_job"
  | .claim => "claim_pending_job"
  | .updateJob => "update_job_status"

def Operation.all : List Operation :=
  [.create, .append, .lease, .mark, .countSignatures, .save, .transfers, .balances,
    .countTransactions, .addJob, .job, .claim, .updateJob]

/-- The operation of that name. -/
def Operation.ofWord? (name : String) : Option Operation := all.find? (·.word = name)

inductive Fault where
  /-- The database itself refused the operation. -/
  | database (operation : Operation)
  /-- An integer of more than 64 bits. -/
  | integerTooLarge
  /-- A text with halves of characters, which UTF-8 cannot write. -/
  | unencodable (text : String)
  | emptyAddress
  | unknownStatus (word : String)
  /-- The clock shows no time in seconds. -/
  | clock (fault : ArithmeticFault)
  /-- The store reports a failure of its own. -/
  | refused (detail : String)
  /-- A fault that no store should have. -/
  | unforeseen (detail : String)
deriving DecidableEq, Repr

namespace Fault

def kind : Fault → FaultKind
  | .database _ | .refused _ => .store
  | .integerTooLarge => .overflow
  | .unencodable _ => .unencodable
  | .emptyAddress | .unknownStatus _ | .unforeseen _ => .badValue
  | .clock fault => fault.kind

def message : Fault → String
  | .database operation => operation.word ++ " failed"
  | .integerTooLarge => "Python int too large to convert to SQLite INTEGER"
  | .unencodable s => Text.Encoding.utf8.refusalMessage s
  | .emptyAddress => "address must be non-empty"
  | .unknownStatus word => "unknown job status: " ++ word
  | .clock fault => fault.message
  | .refused detail | .unforeseen detail => detail

end Fault

end AddressIndex.Store
