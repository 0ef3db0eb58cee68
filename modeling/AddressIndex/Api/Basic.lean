import AddressIndex.Api.Body
import AddressIndex.Base58
import AddressIndex.Program

/-!
What the service does over HTTP: an address is handed in for indexing, and a job is asked after.
Nothing is indexed here; workers take the jobs up on their own.
-/

namespace AddressIndex.Api

open Http

/-! ### Addresses -/

/-- An address without blanks around it, if it denotes a key. -/
def validAddress? (address : String) : Option String :=
  let address := Text.trim address
  if Base58.isKey address then some address else none

def invalidAddressText : String := "Invalid Solana address"

def invalidAddress : Response := .detail 422 invalidAddressText

def storeUnavailable : Response := .detail 503 "Job store unavailable"

/-- The response to a fault: the store may be unavailable, all else is unforeseen. -/
def faultResponse (fault : Fault) : Response :=
  if fault.kind = .store then storeUnavailable else .unforeseen

/-! ### Handing in an address -/

/-- The job that an address has, and whether it is new. -/
def accepted (job : Job) (created : Bool) : Response :=
  ⟨if created then 201 else 200, .json (.obj [
    ("job_id", .int job.id),
    ("address", .str job.address),
    ("status", .str job.status.word),
    ("created", .bool created)])⟩

/-- Adds a job for the address of a body, unless the address has one. -/
def analyze (body : Option String) : Program Response := do
  match addressOf body with
  | .error fault => pure fault.response
  | .ok address =>
    match validAddress? address with
    | none => pure invalidAddress
    | some address =>
      match ← (Attempt.query (.addJob address)).run with
      | .ok (job, created) => pure (accepted job created)
      | .error fault => pure (faultResponse fault)

/-! ### Asking after a job -/

def jobNotFound (id : Int) : Response := .detail 404 ("Job " ++ toString id ++ " not found")

def jobFound (job : Job) : Response :=
  ⟨200, .json (.obj [
    ("job_id", .int job.id),
    ("address", .str job.address),
    ("status", .str job.status.word),
    ("updated_at", .int job.updated)])⟩

/-- Tells how a job stands. -/
def showJob (id : Int) : Program Response := do
  match ← (Attempt.query (.job id)).run with
  | .ok (some job) => pure (jobFound job)
  | .ok none => pure (jobNotFound id)
  | .error fault => pure (faultResponse fault)

/-! ### The start -/

/-- What the service does when it starts: it creates the tables, and goes on if that fails. -/
def startUp : Program Unit := do
  let _ ← (Attempt.query .create).run
  pure ()

end AddressIndex.Api
