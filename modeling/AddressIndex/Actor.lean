import AddressIndex.Program

/-!
Actors: attempts with a state of their own. The state outlives a fault, so what an actor noted
before it failed is still there after.
-/

namespace AddressIndex

abbrev Actor (σ α : Type) := ExceptT Fault (StateT σ Program) α

namespace Actor

variable {σ τ α : Type}

/-- An attempt, which leaves the state as it is. -/
def ofAttempt (attempt : Attempt α) : Actor σ α :=
  fun state => do
    let result ← attempt.run
    pure (result, state)

/-- An actor on a part of the state. -/
def focus (part : σ → τ) (put : τ → σ → σ) (actor : Actor τ α) : Actor σ α :=
  fun state => do
    let (result, inner) ← actor (part state)
    pure (result, put inner state)

/-- Lets a fault be a result. -/
def result (actor : Actor σ α) : Actor σ (Except Fault α) :=
  fun state => do
    let (result, state) ← actor state
    pure (.ok result, state)

end Actor

end AddressIndex
