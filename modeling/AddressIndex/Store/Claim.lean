import AddressIndex.Program

/-!
Claiming a job. A claimer looks for the oldest pending job and then takes it, in two steps between
which another one may take it; the claimer that comes too late looks again, a few times.
-/

namespace AddressIndex.Store

/-- How often a claimer looks for a job. -/
def claimAttempts : Nat := 3

/-- Claims a job for a worker; none if there is none to claim, or if all attempts came too late. -/
def claimWithin (worker : Option Int) (owner : Option String) : Nat → Attempt (Option Job)
  | 0 => pure none
  | left + 1 => do
    match ← Attempt.query .candidate with
    | none => pure none
    | some id =>
      match ← Attempt.query (.take id worker owner) with
      | some job => pure (some job)
      | none => claimWithin worker owner left

def claim (worker : Option Int) (owner : Option String) : Attempt (Option Job) :=
  claimWithin worker owner claimAttempts

end AddressIndex.Store
