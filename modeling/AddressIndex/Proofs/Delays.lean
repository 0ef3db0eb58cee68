import AddressIndex.Proofs.Backoff
import Mathlib.Data.List.Induction

/-! Calls on a delay, one after another. Some may fail, and others may follow all the same. Whatever
is called, the delay stays between its bounds, a sleep is drawn from the delay before its call, and
a reset is forgotten only when the next sleep is given. -/

namespace AddressIndex.Backoff

inductive Call where
  | step | pause | reset
deriving DecidableEq, Repr

namespace Call

def Reply : Call → Type
  | .step => Int
  | .pause => Binary64
  | .reset => Unit

def actor : (call : Call) → Actor Backoff call.Reply
  | .step => Backoff.step
  | .pause => Backoff.pause
  | .reset => modify Backoff.reset

end Call

/-- A call that was made: the delay before it, what it did and how it ended, and the delay after. -/
structure Made where
  call : Call
  before : Backoff
  trace : Trace
  result : Except Fault call.Reply
  after : Backoff

namespace Made

/-- The call goes so. -/
def Goes (made : Made) : Prop :=
  (made.call.actor.run.run made.before).Runs made.trace (made.result, made.after)

/-- The call gives a sleep, in milliseconds, that is drawn from the delay before it. A step answers
the sleep. A pause is asleep for as many seconds, and answers them unless that is too long. -/
inductive Gives : Made → Int → Prop
  | step {b grown : Backoff} {t : Trace} {jitter : Nat} (draws : b.Draws t jitter) :
      Gives ⟨.step, b, t, .ok (b.wait jitter), grown⟩ (b.wait jitter)
  | pause {b grown : Backoff} {drawn : Trace} {jitter : Nat} (draws : b.Draws drawn jitter)
      (reply : Except ArithmeticFault Unit) :
      Gives ⟨.pause, b,
        drawn ++ [⟨.sleep ((Binary64.ofInt (b.wait jitter)).div (.ofInt 1000)), reply⟩],
        (reply.mapError .arithmetic).map
          fun _ => (Binary64.ofInt (b.wait jitter)).div (.ofInt 1000), grown⟩ (b.wait jitter)

/-- The call draws from the delay before it and fails without a sleep. -/
inductive Fails : Made → Prop
  | step {b : Backoff} {t : Trace} {jitter : Nat} (draws : b.Draws t jitter)
      (fault : ArithmeticFault) : Fails ⟨.step, b, t, .error (.arithmetic fault), b⟩
  | pause {b : Backoff} {t : Trace} {jitter : Nat} (draws : b.Draws t jitter)
      (fault : ArithmeticFault) : Fails ⟨.pause, b, t, .error (.arithmetic fault), b⟩

variable {made : Made} {wait : Int}

theorem Gives.isWait (h : made.Gives wait) : made.before.IsWait wait := by
  cases h with
  | step draws => exact draws.isWait
  | pause draws _ => exact draws.isWait

theorem Fails.unchanged (h : made.Fails) : made.after = made.before := by
  cases h <;> rfl

theorem Goes.of_reset {b b' : Backoff} {t : Trace} {r : Except Fault Unit}
    (h : Goes ⟨.reset, b, t, r, b'⟩) : b' = b.reset := by
  obtain ⟨-, hsame⟩ := Program.runs_pure.mp h
  exact (Prod.mk.inj hsame).2

/-- A call resets the delay, or gives a sleep and the delay grows, or fails since it cannot grow. -/
theorem Goes.cases (h : made.Goes) (hcurrent : 1 ≤ made.before.current) :
    (made.call = .reset ∧ made.after = made.before.reset) ∨
      (made.call ≠ .reset ∧ ∃ wait, made.Gives wait ∧ made.before.grow = .ok made.after) ∨
      (made.call ≠ .reset ∧ made.Fails ∧ ¬ made.before.Fits) := by
  obtain ⟨call, b, t, r, b'⟩ := made
  change (call.actor.run.run b).Runs t (r, b') at h
  cases call with
  | reset => exact .inl ⟨rfl, Goes.of_reset h⟩
  | step =>
    obtain ⟨jitter, hdraws, hsame⟩ := runs_step_iff.mp h
    unfold stepped at hsame
    cases hgrow : b.grow with
    | ok grown =>
      rw [hgrow] at hsame
      cases hsame
      exact .inr (.inl ⟨nofun, _, .step hdraws, rfl⟩)
    | error fault =>
      rw [hgrow] at hsame
      cases hsame
      exact .inr (.inr ⟨nofun, .step hdraws fault, not_fits_of_grow hgrow⟩)
  | pause =>
    obtain ⟨drawn, jitter, hdraws, hended⟩ := (runs_pause_iff (b := b) hcurrent).mp h
    cases hgrow : b.grow with
    | ok grown =>
      rw [hgrow] at hended
      obtain ⟨reply, rfl, hsame⟩ := hended
      cases hsame
      exact .inr (.inl ⟨nofun, _, .pause hdraws reply, rfl⟩)
    | error fault =>
      rw [hgrow] at hended
      obtain ⟨rfl, hsame⟩ := hended
      cases hsame
      exact .inr (.inr ⟨nofun, .pause hdraws fault, not_fits_of_grow hgrow⟩)

theorem Goes.reached {config : Config} (h : made.Goes) (hbefore : Reached config made.before) :
    Reached config made.after := by
  obtain ⟨call, b, t, r, b'⟩ := made
  cases call with
  | reset =>
    rw [h.of_reset]
    exact .reset hbefore
  | step => exact .step hbefore h
  | pause => exact .pause hbefore h

end Made

/-- Calls on a new delay, one after another, the latest last. One that fails ends nothing. -/
inductive Calls (config : Config) : List Made → Backoff → Prop
  | start : Calls config [] (.start config)
  | next {made : List Made} {last : Made} (earlier : Calls config made last.before)
      (goes : last.Goes) : Calls config (made ++ [last]) last.after

namespace Calls

variable {config : Config} {made earlier between later : List Made} {last reset : Made}
  {b : Backoff}

theorem reached (h : Calls config made b) : Reached config b := by
  induction h with
  | start => exact .start
  | next _ goes ih => exact goes.reached ih

theorem of_concat (h : Calls config (made ++ [last]) b) :
    Calls config made last.before ∧ last.Goes ∧ b = last.after := by
  generalize hall : made ++ [last] = all at h
  cases h with
  | start => simp at hall
  | next earlier goes =>
    obtain ⟨rfl, hlast⟩ := List.append_inj' hall rfl
    obtain rfl := List.singleton_inj.mp hlast
    exact ⟨earlier, goes, rfl⟩

/-- What was called before some call, and how that call went. -/
theorem of_append (h : Calls config (earlier ++ last :: later) b) :
    Calls config earlier last.before ∧ last.Goes := by
  induction later using List.reverseRecOn generalizing b with
  | nil =>
    obtain ⟨hearlier, hgoes, -⟩ := h.of_concat
    exact ⟨hearlier, hgoes⟩
  | append_singleton later _ ih =>
    rw [← List.cons_append, ← List.append_assoc] at h
    exact ih h.of_concat.1

/-- Until a sleep is given after a reset, the delay is as a new one. -/
theorem of_reset (h : Calls config (earlier ++ reset :: between) b) (hreset : reset.call = .reset)
    (hbetween : ∀ m ∈ between, ∀ wait, ¬ m.Gives wait) : b = .start config := by
  induction between using List.reverseRecOn generalizing b with
  | nil =>
    obtain ⟨hearlier, hgoes, rfl⟩ := h.of_concat
    have hwithin := hearlier.reached.within
    rcases hgoes.cases hwithin.pos with ⟨-, hafter⟩ | ⟨hcall, -⟩ | ⟨hcall, -⟩
    · rw [hafter, ← hwithin.same]
      rfl
    · exact absurd hreset hcall
    · exact absurd hreset hcall
  | append_singleton between last ih =>
    rw [← List.cons_append, ← List.append_assoc] at h
    obtain ⟨hearlier, hgoes, rfl⟩ := h.of_concat
    have hbefore := ih hearlier fun m hm => hbetween m (List.mem_append_left _ hm)
    have hquiet := hbetween last (List.mem_append_right _ List.mem_cons_self)
    have hpos := hearlier.reached.within.pos
    rcases hgoes.cases hpos with ⟨-, hafter⟩ | ⟨-, _, hgives, -⟩ | ⟨-, hfails, -⟩
    · rw [hafter, hbefore]
      rfl
    · exact absurd hgives (hquiet _)
    · rw [hfails.unchanged, hbefore]

end Calls

theorem Config.of_eq_ok {least greatest : Int} {multiplier : Binary64} {config : Config}
    (h : Config.of least greatest multiplier = .ok config) :
    config.least = least ∧ config.greatest = greatest ∧ config.multiplier = multiplier := by
  unfold Config.of at h
  split_ifs at h
  cases h
  exact ⟨rfl, rfl, rfl⟩

/-- Bounds of a delay under every sequence of calls. After each call, one that fails too, the delay
is within its bounds. A call that does not reset gives a sleep just if the delay can grow; the sleep
is from half of the delay before the call up to one less than that delay, at least one and at most
the greatest delay. After a reset the next sleep is drawn from the least delay, whatever calls came
before and whatever calls gave no sleep in between. -/
theorem Calls.sleeps_within_bounds {least greatest : Int} {multiplier : Binary64} {config : Config}
    (hconfig : Config.of least greatest multiplier = .ok config) {made : List Made} {b : Backoff}
    (h : Calls config made b) :
    (∀ m ∈ made,
      (least ≤ m.after.current ∧ m.after.current ≤ greatest) ∧
      (m.call = .reset ∨ ((∃ wait, m.Gives wait) ∧ m.before.Fits) ∨ (m.Fails ∧ ¬ m.before.Fits)) ∧
      ∀ wait, m.Gives wait →
        max 1 (m.before.current.fdiv 2) ≤ wait ∧ wait ≤ max 1 (m.before.current - 1) ∧
          1 ≤ wait ∧ wait ≤ greatest) ∧
    ∀ earlier reset between next later, made = earlier ++ reset :: (between ++ next :: later) →
      reset.call = .reset → (∀ m ∈ between, ∀ wait, ¬ m.Gives wait) →
        next.before.current = least := by
  obtain ⟨rfl, rfl, -⟩ := Config.of_eq_ok hconfig
  constructor
  · intro m hm
    obtain ⟨earlier, later, rfl⟩ := List.append_of_mem hm
    obtain ⟨hearlier, hgoes⟩ := h.of_append
    have hbefore := hearlier.reached.within
    have hafter := (hgoes.reached hearlier.reached).within
    refine ⟨⟨hafter.least, hafter.greatest⟩, ?_, fun wait hgives => ?_⟩
    · have hgone := hgoes.cases hbefore.pos
      rcases hgone with ⟨hcall, -⟩ | ⟨-, wait, hgives, hgrow⟩ | ⟨-, hfails, hfits⟩
      · exact .inl hcall
      · exact .inr (.inl ⟨⟨wait, hgives⟩, fits_of_grow hgrow⟩)
      · exact .inr (.inr ⟨hfails, hfits⟩)
    · obtain ⟨hleast, hhalf, hbelow⟩ := hgives.isWait
      have hpos := hbefore.pos
      have hgreatest := hbefore.greatest
      unfold half at hhalf
      exact ⟨by omega, hbelow, hleast, by omega⟩
  · rintro earlier reset between next later rfl hreset hbetween
    rw [← List.cons_append, ← List.append_assoc] at h
    have hnew := h.of_append.1.of_reset hreset hbetween
    rw [hnew]
    rfl

/-- A delay of three to ten milliseconds that doubles. -/
def twofold (current : Int) : Backoff :=
  ⟨⟨3, 10, ⟨0x4000000000000000⟩, by decide, by decide⟩, current⟩

def firstStep : Made := ⟨.step, twofold 3, [⟨.draw 0, (0 : Fin 1)⟩], .ok (1 : Int), twofold 6⟩

/-- The clock cannot time it. -/
def longPause : Made :=
  ⟨.pause, twofold 6,
    [⟨.draw 2, (2 : Fin 3)⟩,
      ⟨.sleep ((Binary64.ofInt 5).div (.ofInt 1000)), .error .pauseTooLong⟩],
    .error (.arithmetic .pauseTooLong), twofold 10⟩

def lastReset : Made := ⟨.reset, twofold 10, [], .ok (), twofold 3⟩

/-- The delay is doubled, kept below its bound although the pause fails, and reset. A sleep after
that is drawn from three milliseconds again. -/
theorem Calls.sleeps_within_bounds_of_four :
    let made := [firstStep, longPause, lastReset, firstStep]
    Config.of 3 10 ⟨0x4000000000000000⟩ = .ok (twofold 3).config ∧
      Calls (twofold 3).config made (twofold 6) ∧
      longPause.after.current ≤ 10 ∧ longPause.Gives 5 ∧
      max 1 (longPause.before.current.fdiv 2) ≤ 5 ∧ 5 ≤ max 1 (longPause.before.current - 1) ∧
      firstStep.before.current = 3 := by
  intro made
  have hconfig : Config.of 3 10 ⟨0x4000000000000000⟩ = .ok (twofold 3).config := by rfl
  have hdrawn : (twofold 6).Draws [⟨.draw 2, (2 : Fin 3)⟩] 2 :=
    Draws.number (b := twofold 6) (by decide) (2 : Fin 3)
  have hstep : firstStep.Goes :=
    runs_step_iff.mpr ⟨0, Draws.number (b := twofold 3) (by decide) (0 : Fin 1), by rfl⟩
  have hpause : longPause.Goes := by
    refine (runs_pause_iff (b := twofold 6) (by decide)).mpr ⟨_, 2, hdrawn, ?_⟩
    have hgrow : (twofold 6).grow = .ok (twofold 10) := by rfl
    rw [hgrow]
    exact ⟨.error .pauseTooLong, rfl, rfl⟩
  have hreset : lastReset.Goes := .done _
  have hmade : Calls (twofold 3).config made (twofold 6) :=
    (((Calls.start.next hstep).next hpause).next hreset).next hstep
  have hgives : longPause.Gives 5 := .pause hdrawn (.error .pauseTooLong)
  obtain ⟨hbounds, hresets⟩ := sleeps_within_bounds hconfig hmade
  obtain ⟨hwithin, -, hsleep⟩ := hbounds longPause (by simp [made])
  obtain ⟨hleast, hmost, -⟩ := hsleep 5 hgives
  exact ⟨hconfig, hmade, hwithin.2, hgives, hleast, hmost,
    hresets [firstStep, longPause] lastReset [] firstStep [] rfl rfl (by simp)⟩

end AddressIndex.Backoff
