import AddressIndex.Actor

/-!
Waiting longer and longer while there is nothing to do. A wait is half the current delay and a
random share of the other half; then the delay grows by a factor, within its bounds. All delays are
in milliseconds.
-/

namespace AddressIndex

namespace Backoff

inductive ConfigFault where
  | bounds
  | multiplier
deriving DecidableEq, Repr

def ConfigFault.message : ConfigFault → String
  | .bounds => "backoff bounds must satisfy 1 <= min_ms <= max_ms"
  | .multiplier => "multiplier must be >= 1.0"

structure Config where
  least : Int
  greatest : Int
  multiplier : Binary64
  least_pos : 1 ≤ least
  least_le : least ≤ greatest

/-- A configuration; the multiplier is refused only if it is below one. -/
def Config.of (least greatest : Int) (multiplier : Binary64) : Except ConfigFault Config :=
  if h : 1 ≤ least ∧ least ≤ greatest then
    if multiplier.lt .one then throw .multiplier
    else pure ⟨least, greatest, multiplier, h.1, h.2⟩
  else throw .bounds

end Backoff

/-- A delay between its bounds. -/
structure Backoff where
  config : Backoff.Config
  current : Int

namespace Backoff

def start (config : Config) : Backoff := ⟨config, config.least⟩

/-- Back to the least delay. -/
def reset (b : Backoff) : Backoff := { b with current := b.config.least }

/-- Half of the delay, the part of a wait that is not left to chance. -/
def half (b : Backoff) : Int := b.current.fdiv 2

/-- The wait that `jitter` makes of the delay. -/
def wait (b : Backoff) (jitter : Nat) : Int := max 1 (b.half + jitter)

/-- The delay times the multiplier, rounded and kept within the bounds. -/
def grow (b : Backoff) : Except ArithmeticFault Backoff := do
  let current ← Binary64.ofInteger b.current
  let product ← (current.mul b.config.multiplier).toInteger
  pure { b with current := min b.config.greatest (max b.config.least product) }

/-- A number below half of the delay; none is drawn if that half is zero. -/
def jitter (b : Backoff) : Attempt Nat :=
  if 0 < b.half then Attempt.draw (b.half.toNat - 1) else pure 0

/-- The next wait; the delay grows. -/
def step : Actor Backoff Int := do
  let b ← get
  let jitter ← Actor.ofAttempt b.jitter
  match b.grow with
  | .ok grown =>
    set grown
    pure (b.wait jitter)
  | .error fault => throw (.arithmetic fault)

/-- A wait in seconds. -/
def seconds (wait : Int) : Except ArithmeticFault Binary64 := do
  let wait ← Binary64.ofInteger wait
  pure (wait.div (.ofInt 1000))

/-- Waits, and tells for how many seconds. -/
def pause : Actor Backoff Binary64 := do
  let wait ← step
  match seconds wait with
  | .ok seconds =>
    Actor.ofAttempt (Attempt.sleep seconds)
    pure seconds
  | .error fault => throw (.arithmetic fault)

end Backoff

end AddressIndex
