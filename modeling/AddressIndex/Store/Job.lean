/-!
Jobs: one address to index each. A job waits as pending, is indexing while a worker holds it, and
ends as ready or with an error.
-/

namespace AddressIndex

inductive JobStatus where
  | pending | indexing | ready | error
deriving DecidableEq, Repr

namespace JobStatus

def word : JobStatus → String
  | .pending => "pending"
  | .indexing => "indexing"
  | .ready => "ready"
  | .error => "error"

/-- The status that a word names. -/
def ofWord? : String → Option JobStatus
  | "pending" => some .pending
  | "indexing" => some .indexing
  | "ready" => some .ready
  | "error" => some .error
  | _ => none

theorem ofWord?_word (status : JobStatus) : ofWord? status.word = some status := by
  cases status <;> rfl

end JobStatus

/-- A job; `worker` and `owner` are those of the claim that took it. -/
structure Job where
  id : Int
  address : String
  status : JobStatus
  worker : Option Int
  owner : Option String
  created : Int
  updated : Int
deriving DecidableEq, Repr

namespace Job

def integers (job : Job) : List Int := job.worker.toList ++ [job.id, job.created, job.updated]

/-- Whether `a` is claimed before `b`: by age, then by number. -/
def before (a b : Job) : Bool := a.created < b.created ∨ (a.created = b.created ∧ a.id < b.id)

/-- Whether the job is indexing and held as required; what is not given is not required. -/
def heldBy (job : Job) (worker : Option Int) (owner : Option String) : Bool :=
  job.status = .indexing && (worker.isNone || job.worker = worker) &&
    (owner.isNone || job.owner = owner)

end Job

end AddressIndex
