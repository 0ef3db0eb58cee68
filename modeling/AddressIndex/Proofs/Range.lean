import AddressIndex.Fault.Arithmetic
import AddressIndex.Proofs.Faults
import Mathlib.Tactic.Ring

/-! The range of floating numbers. A quotient of whole numbers rounds to a finite number exactly
when it lies below the middle between the greatest number and the next power of two, and to zero
exactly when it is at most half the least number. Both are told without fractions: in `num / den`
the least number goes `num * grain` times into `den`, and a unit whose last bit has place `p` is
`2 ^ p` times the least number. -/

namespace AddressIndex.Binary64

/-! ### Rounding to a whole number -/

theorem le_roundHalfEven {n d k : Nat} (hd : 0 < d) (h : k * d ≤ n) : k ≤ roundHalfEven n d := by
  have hq : k ≤ n / d := (Nat.le_div_iff_mul_le hd).mpr h
  unfold roundHalfEven
  dsimp only
  split <;> omega

/-- What lies below the middle above `q` rounds to `q` or less; the middle does so if `q` is
even. -/
theorem roundHalfEven_le {n d q : Nat} (hd : 0 < d) :
    roundHalfEven n d ≤ q ↔ 2 * n + q % 2 ≤ (2 * q + 1) * d := by
  have hn := Nat.div_add_mod n d
  have hr := Nat.mod_lt n hd
  have hmiddle : (2 * q + 1) * d = 2 * (d * q) + d := by ring
  rw [hmiddle]
  unfold roundHalfEven
  dsimp only
  rcases Nat.lt_trichotomy (n / d) q with h | h | h
  · have : d * (n / d) + d ≤ d * q := Nat.mul_le_mul_left d h
    split <;> omega
  · rw [h] at hn ⊢
    split <;> simp_all <;> omega
  · have : d * q + d ≤ d * (n / d) := Nat.mul_le_mul_left d h
    split <;> omega

theorem roundHalfEven_scale {k : Nat} (hk : 0 < k) (n d : Nat) :
    roundHalfEven (k * n) (k * d) = roundHalfEven n d := by
  unfold roundHalfEven
  simp only [Nat.mul_div_mul_left _ _ hk, Nat.mul_mod_mul_left, Nat.mul_left_comm 2 k,
    Nat.mul_lt_mul_left hk, Nat.mul_right_inj (Nat.ne_of_gt hk)]

/-! ### The place of the last bit -/

/-- How many of the least number make one. -/
def grain : Nat := Nat.pow 2 1074

/-- The exponent stands behind a name, so that the power is never evaluated. -/
theorem grain_eq {n : Nat} (h : n = 1074) : grain = 2 ^ n := by
  unfold grain
  rw [← h]
  rfl

theorem grain_pos : 0 < grain := by
  unfold grain
  generalize 1074 = n
  exact Nat.two_pow_pos n

/-- A fraction in units of a power of two, brought to whole numbers. -/
theorem inUnits_scale (num den : Nat) {e : Int} (he : -1074 ≤ e) :
    ∃ k, 0 < k ∧ num * grain = k * (inUnits num den e).1 ∧
      den * 2 ^ (e + 1074).toNat = k * (inUnits num den e).2 := by
  unfold inUnits
  by_cases h : 0 ≤ e
  · refine ⟨grain, grain_pos, ?_, ?_⟩
    · rw [if_pos h, Nat.mul_comm]
    · rw [if_pos h, grain_eq (show (e + 1074).toNat - e.toNat = 1074 by omega)]
      dsimp only [Nat.pow_eq]
      rw [Nat.mul_left_comm, ← pow_add, Nat.sub_add_cancel (by omega)]
  · refine ⟨2 ^ (e + 1074).toNat, Nat.two_pow_pos _, ?_, ?_⟩
    · rw [if_neg h, grain_eq (show (e + 1074).toNat + (-e).toNat = 1074 by omega), pow_add]
      exact Nat.mul_left_comm num _ _
    · rw [if_neg h, Nat.mul_comm]

/-- The last bit of the number nearest to `num / den` is worth `2 ^ place num den / grain`. -/
def place (num den : Nat) : Nat := (unitExponent num den + 1074).toNat

theorem mul_two_pow_lt {m n a b : Nat} (hn : n ≠ 0) (h : m.log2 + a < n.log2 + b) :
    m * 2 ^ a < n * 2 ^ b := calc
  m * 2 ^ a < 2 ^ (m.log2 + 1) * 2 ^ a :=
    Nat.mul_lt_mul_of_pos_right Nat.lt_log2_self (Nat.two_pow_pos _)
  _ = 2 ^ (m.log2 + 1 + a) := (pow_add ..).symm
  _ ≤ 2 ^ (n.log2 + b) := Nat.pow_le_pow_right (by decide) (by omega)
  _ = 2 ^ n.log2 * 2 ^ b := pow_add ..
  _ ≤ n * 2 ^ b := Nat.mul_le_mul_right _ (Nat.log2_self_le hn)

/-- A number has less than `2 ^ 53` units, and at least `2 ^ 52` unless its last bit is at the least
place. -/
theorem place_spec {num den : Nat} (hnum : num ≠ 0) (hden : den ≠ 0) :
    -1074 ≤ unitExponent num den ∧
      num * grain < 2 ^ 53 * (den * 2 ^ place num den) ∧
      (place num den = 0 ∨ 2 ^ 52 * (den * 2 ^ place num den) ≤ num * grain) := by
  -- the logarithms give the place, or the one below it
  let low := max ((num.log2 : Int) - den.log2 - 53) (-1074)
  have hlow : -1074 ≤ low := le_max_right _ _
  obtain ⟨k, hk, hnum', hden'⟩ := inUnits_scale num den hlow
  have hpos : 0 < den * 2 ^ (low + 1074).toNat :=
    Nat.mul_pos (Nat.pos_of_ne_zero hden) (Nat.two_pow_pos _)
  have hfits : (inUnits num den low).1 / (inUnits num den low).2 < 2 * exponentWeight ↔
      num * grain < 2 ^ 53 * (den * 2 ^ (low + 1074).toNat) := by
    rw [← Nat.mul_div_mul_left _ _ hk, ← hnum', ← hden', Nat.div_lt_iff_lt_mul hpos]
    rfl
  have hunit : unitExponent num den =
      if num * grain < 2 ^ 53 * (den * 2 ^ (low + 1074).toNat) then low else low + 1 :=
    if_congr hfits rfl rfl
  -- behind a name the power of the grain is never evaluated
  obtain ⟨n, hn⟩ : ∃ n, n = 1074 := ⟨1074, rfl⟩
  have hbelow : num * grain < den * 2 ^ ((low + 1074).toNat + 54) := by
    rw [grain_eq hn]
    exact mul_two_pow_lt hden (by omega)
  have habove : low = -1074 ∨ den * 2 ^ ((low + 1074).toNat + 52) < num * grain := by
    by_cases h : low = -1074
    · exact .inl h
    · rw [grain_eq hn]
      exact .inr (mul_two_pow_lt hnum (by omega))
  have hunits (j : Nat) : den * 2 ^ ((low + 1074).toNat + j) =
      2 ^ j * (den * 2 ^ (low + 1074).toNat) := by
    rw [pow_add]
    ring
  rw [hunits] at hbelow habove
  unfold place
  rw [hunit]
  split
  next h => exact ⟨hlow, h, habove.imp (by omega) Nat.le_of_lt⟩
  next h =>
    have hnext : (low + 1 + 1074).toNat = (low + 1074).toNat + 1 := by omega
    rw [hnext, hunits]
    exact ⟨by omega, by omega, .inr (by omega)⟩

/-- The magnitude of a number: its place, and its units rounded. -/
theorem nearestMagnitude_eq {num den : Nat} (hnum : num ≠ 0) (hden : den ≠ 0) :
    nearestMagnitude num den = min infiniteMagnitude (place num den * exponentWeight +
      roundHalfEven (num * grain) (den * 2 ^ place num den)) := by
  obtain ⟨k, hk, hnum', hden'⟩ := inUnits_scale num den (place_spec hnum hden).1
  unfold place
  rw [hnum', hden', roundHalfEven_scale hk]
  exact if_neg hnum

/-! ### The greatest and the least number -/

/-- The middle between the greatest number and the next power of two. -/
def bound : Nat := (Nat.pow 2 54 - 1) * Nat.pow 2 970

theorem bound_pos : 0 < bound := by
  unfold bound
  generalize 970 = n
  exact Nat.mul_pos (by decide) (Nat.two_pow_pos n)

theorem bound_mul_grain : bound * (grain * 2) = (2 ^ 54 - 1) * 2 ^ 2045 := by
  have hsum : 2045 = 970 + (1074 + 1) := rfl
  unfold bound grain
  generalize 2045 = a at hsum ⊢
  generalize 970 = b at hsum ⊢
  generalize 1074 = c at hsum ⊢
  rw [Nat.mul_assoc, hsum, pow_add, pow_succ]
  rfl

theorem lt_bound_mul {num den : Nat} :
    num < bound * den ↔ 2 * (num * grain) + 1 ≤ (2 ^ 54 - 1) * (den * 2 ^ 2045) := by
  have hleft : 2 * (num * grain) = num * (grain * 2) := by ring
  have hright : (2 ^ 54 - 1) * (den * 2 ^ 2045) = bound * den * (grain * 2) := by
    rw [Nat.mul_left_comm, ← bound_mul_grain]
    ring
  rw [hleft, hright, Nat.succ_le_iff, Nat.mul_lt_mul_right (Nat.mul_pos grain_pos (by decide))]

theorem two_mul_units_le (den : Nat) {p q : Nat} (h : p < q) :
    2 * (den * 2 ^ p) ≤ den * 2 ^ q := calc
  2 * (den * 2 ^ p) = den * 2 ^ (p + 1) := by ring
  _ ≤ den * 2 ^ q := Nat.mul_le_mul_left den (Nat.pow_le_pow_right (by decide) h)

/-- The number nearest to a quotient is finite if the quotient is below the bound. -/
theorem nearestMagnitude_lt_infinite {num den : Nat} (hden : den ≠ 0) :
    nearestMagnitude num den < infiniteMagnitude ↔ num < bound * den := by
  have hpos : 0 < den := Nat.pos_of_ne_zero hden
  by_cases hnum : num = 0
  · have hbound : 0 < bound * den := Nat.mul_pos bound_pos hpos
    simp [hnum, nearestMagnitude, hbound, infiniteMagnitude]
  obtain ⟨-, hbelow, habove⟩ := place_spec hnum hden
  rw [nearestMagnitude_eq hnum hden, lt_bound_mul, infiniteMagnitude, exponentWeight]
  generalize place num den = p at hbelow habove ⊢
  generalize num * grain = n at hbelow habove ⊢
  have hunit : 0 < den * 2 ^ p := Nat.mul_pos hpos (Nat.two_pow_pos _)
  have hround {q : Nat} := roundHalfEven_le (n := n) (q := q) hunit
  -- the greatest number has its last bit at place 2045: below this place even a number that rounds
  -- up to the next place is finite, and above it none is
  rcases Nat.lt_trichotomy p 2045 with h | rfl | h
  · have hless := two_mul_units_le den h
    have hmost := hround.mpr (show 2 * n + 2 ^ 53 % 2 ≤ (2 * 2 ^ 53 + 1) * (den * 2 ^ p) by omega)
    generalize den * 2 ^ 2045 = d at *
    omega
  · have hmost := hround (q := 2 ^ 53 - 1)
    generalize den * 2 ^ 2045 = d at *
    omega
  · have hmore := two_mul_units_le den h
    have hleast := le_roundHalfEven hunit (habove.resolve_left (by omega))
    generalize den * 2 ^ 2045 = d at *
    omega

/-- The number nearest to a quotient is zero if the quotient is at most half the least number. -/
theorem nearestMagnitude_eq_zero {num den : Nat} (hden : den ≠ 0) :
    nearestMagnitude num den = 0 ↔ 2 * (num * grain) ≤ den := by
  have hpos : 0 < den := Nat.pos_of_ne_zero hden
  by_cases hnum : num = 0
  · simp [hnum, nearestMagnitude]
  obtain ⟨-, hbelow, habove⟩ := place_spec hnum hden
  rw [nearestMagnitude_eq hnum hden, infiniteMagnitude, exponentWeight]
  generalize place num den = p at hbelow habove ⊢
  generalize num * grain = n at hbelow habove ⊢
  rcases Nat.eq_zero_or_pos p with rfl | h
  · have hround := roundHalfEven_le (n := n) (q := 0) (show 0 < den * 2 ^ 0 by omega)
    omega
  · have hmore := two_mul_units_le den h
    omega

/-! ### Numbers made from whole numbers -/

theorem magnitude_ofMagnitude {negative : Bool} {m : Nat} (h : m < signWeight) :
    (ofMagnitude negative m).magnitude = m := by
  unfold signWeight at h
  cases negative <;> simp [ofMagnitude, magnitude, signWeight] <;> omega

theorem nearestMagnitude_lt_sign (num den : Nat) : nearestMagnitude num den < signWeight := by
  unfold nearestMagnitude
  split
  · decide
  · exact Nat.lt_of_le_of_lt (Nat.min_le_left _ _) (by decide)

theorem isFinite_ofRatio {negative : Bool} {num den : Nat} (hden : den ≠ 0) :
    (ofRatio negative num den).isFinite ↔ num < bound * den := by
  rw [isFinite, ofRatio, magnitude_ofMagnitude (nearestMagnitude_lt_sign num den),
    decide_eq_true_iff]
  exact nearestMagnitude_lt_infinite hden

theorem isZero_ofRatio {negative : Bool} {num den : Nat} (hden : den ≠ 0) :
    (ofRatio negative num den).isZero ↔ 2 * (num * grain) ≤ den := by
  rw [isZero, ofRatio, magnitude_ofMagnitude (nearestMagnitude_lt_sign num den), beq_iff_eq]
  exact nearestMagnitude_eq_zero hden

/-- What is not finite is refused with a fault. -/
theorem refused {x : Binary64} {fault other : ArithmeticFault} :
    (if x.isFinite then pure x else throw fault : Except ArithmeticFault Binary64) = .error other ↔
      other = fault ∧ ¬ x.isFinite := by
  split
  next h => exact ⟨nofun, fun h' => absurd h h'.2⟩
  next h => exact ⟨fun h' => ⟨(Except.error.inj h').symm, h⟩, fun h' => h'.1 ▸ rfl⟩

theorem ofQuotient_eq_error {n : Int} {d : Nat} {fault : ArithmeticFault} (hd : d ≠ 0) :
    ofQuotient n d = .error fault ↔ fault = .quotientTooLarge ∧ bound * d ≤ n.natAbs := by
  refine refused.trans ?_
  rw [isFinite_ofRatio hd, Nat.not_lt]

theorem ofInteger_eq_error {n : Int} {fault : ArithmeticFault} :
    ofInteger n = .error fault ↔ fault = .integerTooLarge ∧ bound ≤ n.natAbs := by
  refine refused.trans ?_
  rw [ofInt, isFinite_ofRatio Nat.one_ne_zero, Nat.mul_one, Nat.not_lt]

/-! ### Powers of ten -/

theorem ten_pow_ne_zero (n : Nat) : Nat.pow 10 n ≠ 0 := Nat.ne_of_gt (Nat.pow_pos (by decide))

/-- A power of ten reaches twice the grain at its 324th. -/
theorem two_mul_grain_le {n : Nat} : 2 * grain ≤ Nat.pow 10 n ↔ 324 ≤ n := by
  obtain ⟨last, hlast⟩ : ∃ last, last = 323 := ⟨323, rfl⟩
  have hbefore : Nat.pow 10 last < 2 * grain := by subst hlast; decide +kernel
  have hreached : 2 * grain ≤ Nat.pow 10 (last + 1) := by subst hlast; decide +kernel
  have hmono (a b : Nat) (h : a ≤ b) : Nat.pow 10 a ≤ Nat.pow 10 b :=
    Nat.pow_le_pow_right (by decide) h
  constructor
  · intro h
    by_contra hn
    have hearlier := hmono n last (by omega)
    omega
  · intro h
    have hlater := hmono (last + 1) n (by omega)
    omega

/-- The power of ten with exponent `-n` is zero from the 324th on. -/
theorem isZero_ofDecimal {n : Nat} : (ofDecimal false 1 (-n)).isZero ↔ 324 ≤ n := by
  have hone : Nat.log2 1 = 0 := by decide
  unfold ofDecimal
  rw [if_neg Nat.one_ne_zero, if_neg (by omega), hone]
  by_cases hfar : -(n : Int) + (0 : Nat) < -1200
  · rw [if_pos hfar]
    exact ⟨fun _ => by omega, fun _ => rfl⟩
  rw [if_neg hfar]
  by_cases hzero : 0 ≤ -(n : Int)
  · obtain rfl : n = 0 := by omega
    decide +kernel
  · have hpow : (-(-(n : Int))).toNat = n := by omega
    rw [if_neg hzero, hpow, isZero_ofRatio (ten_pow_ne_zero n), Nat.one_mul]
    exact two_mul_grain_le

theorem tenthPower_eq_error {n : Nat} {fault : ArithmeticFault} :
    tenthPower n = .error fault ↔ fault = .integerTooLarge ∧ bound ≤ n := by
  unfold tenthPower
  rw [Except.bind_eq_error, ofInteger_eq_error, Int.natAbs_natCast]
  exact or_iff_left fun ⟨_, _, h⟩ => nomatch h

theorem isZero_tenthPower {n : Nat} {power : Binary64} (h : tenthPower n = .ok power) :
    power.isZero ↔ 324 ≤ n := by
  obtain ⟨_, -, hpower⟩ := Except.bind_eq_ok.mp h
  rw [← Except.ok.inj hpower]
  exact isZero_ofDecimal

theorem divideInteger_eq_error {n : Int} {y : Binary64} {fault : ArithmeticFault}
    (hn : n.natAbs < bound) :
    divideInteger n y = .error fault ↔ y.isZero ∧ fault = .divisionByZero := by
  unfold divideInteger
  cases hx : ofInteger n with
  | error _ => exact absurd (ofInteger_eq_error.mp hx).2 (Nat.not_le_of_lt hn)
  | ok x =>
    change (if y.isZero then Except.error ArithmeticFault.divisionByZero else .ok (x.div y)) = _ ↔ _
    split
    next hzero => exact ⟨fun h => ⟨hzero, (Except.error.inj h).symm⟩, fun h => h.2 ▸ rfl⟩
    next hzero => exact ⟨nofun, fun h => absurd h.1 hzero⟩

end AddressIndex.Binary64
