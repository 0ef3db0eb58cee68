import AddressIndex.Backoff
import AddressIndex.Clock
import AddressIndex.Proofs.Products
import AddressIndex.Proofs.Trace

/-! Delays that grow. A delay stays between its bounds whatever is done with it. It can grow while
its product with the multiplier is a finite number, and a wait whose delay cannot grow fails before
it pauses; so the multiplier decides, and one that is infinite or no number at all leaves no delay
that can grow. -/

namespace AddressIndex.Backoff

variable {b b' : Backoff} {t : Trace}

/-- Whether the delay can grow. -/
def Fits (b : Backoff) : Prop := ((Binary64.ofInt b.current).mul b.config.multiplier).isFinite

theorem isFinite_of_fits (h : b.Fits) : (Binary64.ofInt b.current).isFinite :=
  (Binary64.isFinite_mul.mp h).1

theorem ofInteger_of_isFinite {n : Int} (h : (Binary64.ofInt n).isFinite) :
    Binary64.ofInteger n = .ok (.ofInt n) := if_pos h

theorem grow_of_fits (h : b.Fits) : ∃ product,
    b.grow = .ok { b with current := min b.config.greatest (max b.config.least product) } := by
  obtain ⟨product, hproduct⟩ := Binary64.toInteger_of_isFinite h
  refine ⟨product, ?_⟩
  unfold grow
  rw [ofInteger_of_isFinite (isFinite_of_fits h)]
  exact Except.bind_eq_ok.mpr ⟨_, rfl, Except.bind_eq_ok.mpr ⟨product, hproduct, rfl⟩⟩

theorem fits_of_grow (h : b.grow = .ok b') : b.Fits := by
  unfold grow at h
  obtain ⟨current, hcurrent, hrest⟩ := Except.bind_eq_ok.mp h
  obtain ⟨product, hproduct, -⟩ := Except.bind_eq_ok.mp hrest
  obtain ⟨rfl, -⟩ := Binary64.isFinite_of_ofInteger hcurrent
  by_contra hfits
  obtain ⟨fault, hfault⟩ := Binary64.toInteger_of_not_isFinite hfits
  rw [hfault] at hproduct
  cases hproduct

theorem not_fits_of_grow {fault : ArithmeticFault} (h : b.grow = .error fault) : ¬ b.Fits := by
  intro hfits
  obtain ⟨product, hgrow⟩ := grow_of_fits hfits
  rw [hgrow] at h
  cases h

/-- With the same multiplier, smaller delays can grow if a greater one can. -/
theorem Fits.mono (h : b'.Fits) (hconfig : b.config = b'.config) (hleast : 0 ≤ b.current)
    (hle : b.current ≤ b'.current) : b.Fits := by
  unfold Fits
  rw [hconfig]
  exact Binary64.isFinite_mul_mono (Binary64.magnitude_ofInt_mono (by omega)) h

theorem not_fits_of_multiplier (h : ¬ b.config.multiplier.isFinite) : ¬ b.Fits :=
  Binary64.not_isFinite_mul (.inr h)

/-! ### Waits -/

/-- The waits that a delay can give. -/
structure IsWait (b : Backoff) (wait : Int) : Prop where
  least : 1 ≤ wait
  half : b.half ≤ wait
  below : wait ≤ max 1 (b.current - 1)

theorem isWait_wait {jitter : Nat} (h : jitter = 0 ∨ jitter + 1 ≤ b.half) :
    b.IsWait (b.wait jitter) := by
  have hhalf : 2 * b.half ≤ b.current := by
    unfold half
    have htwo := Int.mul_fdiv_add_fmod b.current 2
    have hrest := Int.fmod_nonneg_of_pos b.current (show (0 : Int) < 2 by decide)
    omega
  unfold wait
  exact ⟨by omega, by omega, by omega⟩

/-- What is drawn for a wait: a number below half of the delay, or nothing if that half is zero. -/
inductive Draws (b : Backoff) : Trace → Nat → Prop
  | nothing (small : ¬ 0 < b.half) : Draws b [] 0
  | number (large : 0 < b.half) (jitter : Fin (b.half.toNat - 1 + 1)) :
      Draws b [⟨.draw (b.half.toNat - 1), jitter⟩] jitter.val

theorem Draws.quiet {jitter : Nat} (h : b.Draws t jitter) : t.pauses = [] := by
  cases h <;> rfl

theorem Draws.isWait {jitter : Nat} (h : b.Draws t jitter) : b.IsWait (b.wait jitter) := by
  cases h with
  | nothing _ => exact isWait_wait (.inl rfl)
  | number large jitter =>
    have hdrawn := jitter.isLt
    exact isWait_wait (.inr (by omega))

theorem runs_jitter {r : Except Fault Nat} :
    b.jitter.run.Runs t r ↔ ∃ jitter, b.Draws t jitter ∧ r = .ok jitter := by
  unfold jitter
  split
  next hhalf =>
    unfold Attempt.draw
    constructor
    · intro h
      rcases Attempt.runs_bind.mp h with ⟨t₁, t₂, drawn, rfl, hdraw, hpure⟩ | ⟨_, -, hdraw⟩
      · obtain ⟨drawn, ⟨⟩, rfl⟩ := Attempt.runs_perform.mp hdraw
        obtain ⟨rfl, rfl⟩ := Attempt.runs_pure.mp hpure
        exact ⟨drawn.val, .number hhalf drawn, rfl⟩
      · obtain ⟨_, ⟨⟩, -⟩ := Attempt.runs_perform.mp hdraw
    · rintro ⟨_, ⟨⟩ | ⟨-, drawn⟩, rfl⟩
      · contradiction
      · exact Attempt.runs_bind.mpr (.inl ⟨_, [], drawn, rfl,
          Attempt.runs_perform.mpr ⟨drawn, rfl, rfl⟩, Attempt.runs_pure.mpr ⟨rfl, rfl⟩⟩)
  next hhalf =>
    rw [Attempt.runs_pure]
    constructor
    · rintro ⟨rfl, rfl⟩
      exact ⟨0, .nothing hhalf, rfl⟩
    · rintro ⟨_, ⟨⟩ | ⟨large, _⟩, rfl⟩
      · exact ⟨rfl, rfl⟩
      · contradiction

/-- What a step comes to for which `jitter` was drawn. -/
def stepped (b : Backoff) (jitter : Nat) : Except Fault Int × Backoff :=
  match b.grow with
  | .ok grown => (.ok (b.wait jitter), grown)
  | .error fault => (.error (.arithmetic fault), b)

theorem runs_step_iff {r : Except Fault Int × Backoff} :
    (step.run.run b).Runs t r ↔ ∃ jitter, b.Draws t jitter ∧ r = b.stepped jitter := by
  have hrest (jitter : Nat) (t : Trace) (r : Except Fault Int × Backoff) :
      (((match b.grow with
        | .ok grown => do
          set grown
          pure (b.wait jitter)
        | .error fault => throw (.arithmetic fault)) : Actor Backoff Int).run.run b).Runs t r ↔
          t = [] ∧ r = b.stepped jitter := by
    unfold stepped
    cases b.grow with
    | ok grown => exact Actor.runs_pure
    | error fault => exact Actor.runs_throw
  unfold step
  rw [Actor.runs_get_bind, Actor.runs_bind]
  constructor
  · rintro (⟨t₁, t₂, jitter, mid, rfl, hjitter, h⟩ | ⟨e, mid, -, hjitter⟩)
    · obtain ⟨hruns, rfl⟩ := Actor.runs_ofAttempt.mp hjitter
      obtain ⟨jitter, hdraws, ⟨⟩⟩ := runs_jitter.mp hruns
      obtain ⟨rfl, rfl⟩ := (hrest jitter t₂ r).mp h
      rw [List.append_nil]
      exact ⟨jitter, hdraws, rfl⟩
    · obtain ⟨hruns, -⟩ := Actor.runs_ofAttempt.mp hjitter
      obtain ⟨_, -, ⟨⟩⟩ := runs_jitter.mp hruns
  · rintro ⟨jitter, hdraws, rfl⟩
    have hruns := runs_jitter.mpr ⟨jitter, hdraws, rfl⟩
    exact .inl ⟨t, [], jitter, b, (List.append_nil t).symm,
      Actor.runs_ofAttempt.mpr ⟨hruns, rfl⟩, (hrest jitter [] _).mpr ⟨rfl, rfl⟩⟩

/-- What a step gives: a wait, and the delay that has grown, or the fault that kept it from
growing. Nothing pauses. -/
theorem runs_step {r : Except Fault Int × Backoff} (h : (step.run.run b).Runs t r) :
    t.pauses = [] ∧ ((∃ wait grown, b.grow = .ok grown ∧ b.IsWait wait ∧ r = (.ok wait, grown)) ∨
      ∃ fault, b.grow = .error fault ∧ r = (.error (.arithmetic fault), b)) := by
  obtain ⟨jitter, hdraws, rfl⟩ := runs_step_iff.mp h
  refine ⟨hdraws.quiet, ?_⟩
  unfold stepped
  cases b.grow with
  | ok grown => exact .inl ⟨_, grown, rfl, hdraws.isWait, rfl⟩
  | error fault => exact .inr ⟨fault, rfl, rfl⟩

/-- A wait of a delay that can grow is a number of seconds. -/
theorem seconds_of_isWait {wait : Int} (h : b.IsWait wait) (hfits : b.Fits)
    (hcurrent : 1 ≤ b.current) : seconds wait = .ok ((Binary64.ofInt wait).div (.ofInt 1000)) := by
  have hbelow := h.below
  have hleast := h.least
  have hfinite : (Binary64.ofInt wait).isFinite := by
    refine decide_eq_true (Nat.lt_of_le_of_lt ?_ (of_decide_eq_true (isFinite_of_fits hfits)))
    exact Binary64.magnitude_ofInt_mono (by omega)
  unfold seconds
  rw [ofInteger_of_isFinite hfinite]
  rfl

/-- How a wait goes: it is one pause at its end, or the delay cannot grow and nothing pauses. -/
inductive Waits (b : Backoff) : Trace → Except Fault Binary64 × Backoff → Prop
  | paused {before : Trace} {grown : Backoff} {wait : Int} {reply : Except ArithmeticFault Unit}
      (quiet : before.pauses = []) (grows : b.grow = .ok grown) (waits : b.IsWait wait) :
      Waits b (before ++ [⟨.sleep ((Binary64.ofInt wait).div (.ofInt 1000)), reply⟩])
        ((reply.mapError .arithmetic).map fun _ => (Binary64.ofInt wait).div (.ofInt 1000), grown)
  | failed {t : Trace} {fault : ArithmeticFault} (quiet : t.pauses = [])
      (stays : b.grow = .error fault) : Waits b t (.error (.arithmetic fault), b)

theorem runs_slept {seconds : Binary64} {r : Except Fault Binary64 × Backoff} :
    ((do
      Actor.ofAttempt (Attempt.sleep seconds)
      pure seconds : Actor Backoff Binary64).run.run b).Runs t r ↔
      ∃ reply, t = [⟨.sleep seconds, reply⟩] ∧
        r = ((reply.mapError .arithmetic).map fun _ => seconds, b) := by
  rw [Actor.runs_bind]
  constructor
  · rintro (⟨t₁, t₂, _, mid, rfl, hsleep, hpure⟩ | ⟨e, mid, rfl, hsleep⟩)
    · obtain ⟨hruns, rfl⟩ := Actor.runs_ofAttempt.mp hsleep
      obtain ⟨reply, rfl, hreply⟩ := Attempt.runs_sleep.mp hruns
      obtain ⟨rfl, rfl⟩ := Actor.runs_pure.mp hpure
      dsimp only at hreply
      exact ⟨reply, rfl, by rw [← hreply]; rfl⟩
    · obtain ⟨hruns, rfl⟩ := Actor.runs_ofAttempt.mp hsleep
      obtain ⟨reply, rfl, hreply⟩ := Attempt.runs_sleep.mp hruns
      dsimp only at hreply
      exact ⟨reply, rfl, by rw [← hreply]; rfl⟩
  · rintro ⟨reply, rfl, rfl⟩
    have hsleep := Attempt.runs_sleep.mpr ⟨reply, rfl, rfl⟩
    cases reply with
    | ok _ => exact .inl ⟨_, [], (), b, rfl, Actor.runs_ofAttempt.mpr ⟨hsleep, rfl⟩,
        Actor.runs_pure.mpr ⟨rfl, rfl⟩⟩
    | error fault => exact .inr ⟨_, b, rfl, Actor.runs_ofAttempt.mpr ⟨hsleep, rfl⟩⟩

/-- A pause draws as a step does. Then it sleeps for the wait, unless the delay cannot grow. -/
theorem runs_pause_iff {r : Except Fault Binary64 × Backoff} (hcurrent : 1 ≤ b.current) :
    (pause.run.run b).Runs t r ↔ ∃ drawn jitter, b.Draws drawn jitter ∧
      match b.grow with
      | .ok grown => ∃ reply : Except ArithmeticFault Unit,
        t = drawn ++ [⟨.sleep ((Binary64.ofInt (b.wait jitter)).div (.ofInt 1000)), reply⟩] ∧
          r = ((reply.mapError .arithmetic).map
            fun _ => (Binary64.ofInt (b.wait jitter)).div (.ofInt 1000), grown)
      | .error fault => t = drawn ∧ r = (.error (.arithmetic fault), b) := by
  unfold pause
  rw [Actor.runs_bind]
  cases hgrow : b.grow with
  | ok grown =>
    have hstepped (jitter : Nat) : b.stepped jitter = (.ok (b.wait jitter), grown) := by
      rw [stepped, hgrow]
    constructor
    · rintro (⟨t₁, t₂, wait, mid, rfl, hstep, hrest⟩ | ⟨e, mid, rfl, hstep⟩)
      · obtain ⟨jitter, hdraws, hsame⟩ := runs_step_iff.mp hstep
        cases hsame.trans (hstepped jitter)
        rw [seconds_of_isWait hdraws.isWait (fits_of_grow hgrow) hcurrent] at hrest
        obtain ⟨reply, rfl, rfl⟩ := runs_slept.mp hrest
        exact ⟨t₁, jitter, hdraws, reply, rfl, rfl⟩
      · obtain ⟨jitter, -, hsame⟩ := runs_step_iff.mp hstep
        cases hsame.trans (hstepped jitter)
    · rintro ⟨drawn, jitter, hdraws, reply, rfl, rfl⟩
      refine .inl ⟨drawn, _, b.wait jitter, grown, rfl,
        runs_step_iff.mpr ⟨jitter, hdraws, (hstepped jitter).symm⟩, ?_⟩
      rw [seconds_of_isWait hdraws.isWait (fits_of_grow hgrow) hcurrent]
      exact runs_slept.mpr ⟨reply, rfl, rfl⟩
  | error fault =>
    have hstepped (jitter : Nat) : b.stepped jitter = (.error (.arithmetic fault), b) := by
      rw [stepped, hgrow]
    constructor
    · rintro (⟨t₁, t₂, wait, mid, rfl, hstep, hrest⟩ | ⟨e, mid, rfl, hstep⟩)
      · obtain ⟨jitter, -, hsame⟩ := runs_step_iff.mp hstep
        cases hsame.trans (hstepped jitter)
      · obtain ⟨jitter, hdraws, hsame⟩ := runs_step_iff.mp hstep
        cases hsame.trans (hstepped jitter)
        exact ⟨t, jitter, hdraws, rfl, rfl⟩
    · rintro ⟨drawn, jitter, hdraws, rfl, rfl⟩
      exact .inr ⟨_, b, rfl, runs_step_iff.mpr ⟨jitter, hdraws, (hstepped jitter).symm⟩⟩

theorem runs_pause {r : Except Fault Binary64 × Backoff} (hcurrent : 1 ≤ b.current)
    (h : (pause.run.run b).Runs t r) : b.Waits t r := by
  obtain ⟨drawn, jitter, hdraws, h⟩ := (runs_pause_iff hcurrent).mp h
  cases hgrow : b.grow with
  | ok grown =>
    rw [hgrow] at h
    obtain ⟨reply, rfl, rfl⟩ := h
    exact .paused hdraws.quiet hgrow hdraws.isWait
  | error fault =>
    rw [hgrow] at h
    obtain ⟨rfl, rfl⟩ := h
    exact .failed hdraws.quiet hgrow

/-! ### Reached delays -/

/-- The delays that steps, waits and resets lead to, whether they fail or not. -/
inductive Reached (config : Config) : Backoff → Prop
  | start : Reached config (.start config)
  | reset {b : Backoff} (before : Reached config b) : Reached config b.reset
  | step {b b' : Backoff} {t : Trace} {r : Except Fault Int} (before : Reached config b)
      (runs : (step.run.run b).Runs t (r, b')) : Reached config b'
  | pause {b b' : Backoff} {t : Trace} {r : Except Fault Binary64} (before : Reached config b)
      (runs : (pause.run.run b).Runs t (r, b')) : Reached config b'

/-- A delay within its bounds. -/
structure Within (config : Config) (b : Backoff) : Prop where
  same : b.config = config
  least : config.least ≤ b.current
  greatest : b.current ≤ config.greatest

variable {config : Config}

theorem Within.start (config : Config) : Within config (.start config) :=
  ⟨rfl, Int.le_refl _, config.least_le⟩

theorem Within.pos (h : Within config b) : 1 ≤ b.current := config.least_pos.trans h.least

theorem Within.grow (h : Within config b) (hgrow : b.grow = .ok b') : Within config b' := by
  obtain ⟨rfl, -, -⟩ := h
  obtain ⟨product, hproduct⟩ := grow_of_fits (fits_of_grow hgrow)
  cases hgrow.symm.trans hproduct
  have hbounds := b.config.least_le
  exact ⟨rfl, by dsimp only; omega, by dsimp only; omega⟩

theorem Reached.within (h : Reached config b) : Within config b := by
  induction h with
  | start => exact .start config
  | reset _ ih =>
    obtain ⟨rfl, -, -⟩ := ih
    exact .start _
  | step _ hruns ih =>
    obtain ⟨-, ⟨_, _, hgrow, -, ⟨⟩⟩ | ⟨_, -, ⟨⟩⟩⟩ := runs_step hruns
    · exact ih.grow hgrow
    · exact ih
  | pause _ hruns ih =>
    cases runs_pause ih.pos hruns with
    | paused _ hgrow _ => exact ih.grow hgrow
    | failed _ _ => exact ih

/-- If the greatest delay can grow, all can. -/
theorem Within.fits (h : Within config b)
    (hgreatest : ((Binary64.ofInt config.greatest).mul config.multiplier).isFinite) : b.Fits := by
  have hfits : Fits ⟨config, config.greatest⟩ := hgreatest
  exact hfits.mono h.same (by have := h.pos; omega) h.greatest

/-! ### Waits that a clock can time -/

/-- The longest wait that a clock can time, in milliseconds. -/
def longestWait : Int := 9223372036000

theorem longestPause_not_lt {wait : Int} (hleast : 1 ≤ wait) (h : wait ≤ longestWait) :
    Clock.longestPause.lt ((Binary64.ofInt wait).div (.ofInt 1000)) = false := by
  unfold longestWait at h
  have hlongest : (Binary64.ofInt longestWait).isFinite := by decide +kernel
  have hmagnitude : (Binary64.ofInt wait).magnitude ≤ (Binary64.ofInt longestWait).magnitude :=
    Binary64.magnitude_ofInt_mono (by unfold longestWait; omega)
  have hfinite : (Binary64.ofInt wait).isFinite :=
    decide_eq_true (hmagnitude.trans_lt (of_decide_eq_true hlongest))
  have hthousand : (Binary64.ofInt 1000).isFinite := by decide +kernel
  have hcount : Binary64.countOf (Binary64.ofInt 1000).magnitude ≠ 0 := by decide +kernel
  have hquotient : Binary64.nearestMagnitude
      (Binary64.countOf (Binary64.ofInt longestWait).magnitude)
      (Binary64.countOf (Binary64.ofInt 1000).magnitude) = Clock.longestPause.magnitude := by
    decide +kernel
  rw [Binary64.div_of_isFinite hfinite hthousand hcount]
  refine Binary64.lt_of_magnitude (Binary64.negative_ofRatio _ _ _) ?_ ?_
  · rw [Binary64.negative_ofRatio, Binary64.ofInt, Binary64.negative_ofRatio, Binary64.ofInt,
      Binary64.negative_ofRatio]
    simp
    omega
  · rw [Binary64.ofRatio, Binary64.magnitude_ofMagnitude (Binary64.nearestMagnitude_lt_sign _ _),
      ← hquotient]
    exact Binary64.nearestMagnitude_mono hcount hcount
      (Nat.mul_le_mul_right _ (Binary64.countOf_mono hmagnitude))

end AddressIndex.Backoff
