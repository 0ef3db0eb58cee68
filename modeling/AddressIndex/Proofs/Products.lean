import AddressIndex.Proofs.Range

/-! Products and quotients of floating numbers. A finite number is so many of the least one; a
product is that of these counts, rounded once, and a quotient likewise. Rounding keeps the order of
fractions, so a product is finite if one of a greater factor is. -/

namespace AddressIndex.Binary64

/-! ### Rounding keeps the order -/

theorem roundHalfEven_mono {n d n' d' : Nat} (hd : 0 < d) (hd' : 0 < d') (h : n * d' ≤ n' * d) :
    roundHalfEven n d ≤ roundHalfEven n' d' := by
  obtain ⟨q, hq⟩ : ∃ q, roundHalfEven n' d' = q := ⟨_, rfl⟩
  have hmiddle : 2 * n' + q % 2 ≤ (2 * q + 1) * d' := (roundHalfEven_le hd').mp hq.le
  have hleft : 2 * n * d' ≤ 2 * n' * d := by
    rw [Nat.mul_assoc, Nat.mul_assoc]
    exact Nat.mul_le_mul_left 2 h
  have hswap : (2 * q + 1) * d' * d = (2 * q + 1) * d * d' := Nat.mul_right_comm _ _ _
  rw [hq, roundHalfEven_le hd]
  -- below the middle is kept as well as at most the middle
  rcases Nat.mod_two_eq_zero_or_one q with heven | hodd
  · rw [heven, Nat.add_zero] at hmiddle ⊢
    exact Nat.le_of_mul_le_mul_right (hleft.trans (hswap ▸ Nat.mul_le_mul_right d hmiddle)) hd'
  · rw [hodd, Nat.succ_le_iff] at hmiddle ⊢
    have hless : 2 * n' * d < (2 * q + 1) * d' * d := Nat.mul_lt_mul_of_pos_right hmiddle hd
    exact Nat.lt_of_mul_lt_mul_right (hleft.trans_lt (hswap ▸ hless))

theorem place_mono {num den num' den' : Nat} (hnum : num ≠ 0) (hden : den ≠ 0) (hnum' : num' ≠ 0)
    (hden' : den' ≠ 0) (h : num * den' ≤ num' * den) : place num den ≤ place num' den' := by
  obtain ⟨-, -, habove⟩ := place_spec hnum hden
  obtain ⟨-, hbelow, -⟩ := place_spec hnum' hden'
  by_contra hless
  have hleast := habove.resolve_left (by omega)
  have hmore := two_mul_units_le den' (Nat.lt_of_not_le hless)
  generalize place num den = p at *
  generalize place num' den' = p' at *
  have hpos : 0 < den := Nat.pos_of_ne_zero hden
  have hbound : num' * grain < 2 ^ 52 * (den' * 2 ^ p) := by omega
  have hcross : 2 ^ 52 * (den * 2 ^ p) * den' < 2 ^ 52 * (den' * 2 ^ p) * den := calc
    2 ^ 52 * (den * 2 ^ p) * den' ≤ num * grain * den' := Nat.mul_le_mul_right den' hleast
    _ = num * den' * grain := Nat.mul_right_comm _ _ _
    _ ≤ num' * den * grain := Nat.mul_le_mul_right grain h
    _ = num' * grain * den := Nat.mul_right_comm _ _ _
    _ < 2 ^ 52 * (den' * 2 ^ p) * den := Nat.mul_lt_mul_of_pos_right hbound hpos
  exact hcross.ne (by ring)

theorem nearestMagnitude_mono {num den num' den' : Nat} (hden : den ≠ 0) (hden' : den' ≠ 0)
    (h : num * den' ≤ num' * den) : nearestMagnitude num den ≤ nearestMagnitude num' den' := by
  by_cases hnum : num = 0
  · rw [hnum]
    exact Nat.zero_le _
  have hnum' : num' ≠ 0 := by
    rintro rfl
    have hpos := Nat.mul_pos (Nat.pos_of_ne_zero hnum) (Nat.pos_of_ne_zero hden')
    omega
  have hplace := place_mono hnum hden hnum' hden' h
  obtain ⟨-, hbelow, -⟩ := place_spec hnum hden
  obtain ⟨-, -, habove⟩ := place_spec hnum' hden'
  rw [nearestMagnitude_eq hnum hden, nearestMagnitude_eq hnum' hden', exponentWeight]
  refine min_le_min_left _ ?_
  generalize place num den = p at *
  generalize place num' den' = p' at *
  have hunit : 0 < den * 2 ^ p := Nat.mul_pos (Nat.pos_of_ne_zero hden) (Nat.two_pow_pos _)
  have hunit' : 0 < den' * 2 ^ p' := Nat.mul_pos (Nat.pos_of_ne_zero hden') (Nat.two_pow_pos _)
  rcases Nat.lt_or_eq_of_le hplace with hless | rfl
  · -- a number fills at most its own place, and one of a greater place fills the place before it
    have hmost := (roundHalfEven_le hunit).mpr
      (show 2 * (num * grain) + 2 ^ 53 % 2 ≤ (2 * 2 ^ 53 + 1) * (den * 2 ^ p) by omega)
    have hleast := le_roundHalfEven hunit' (habove.resolve_left (by omega))
    omega
  · refine Nat.add_le_add_left (roundHalfEven_mono hunit hunit' ?_) _
    calc num * grain * (den' * 2 ^ p) = num * den' * (grain * 2 ^ p) := by ring
      _ ≤ num' * den * (grain * 2 ^ p) := Nat.mul_le_mul_right _ h
      _ = num' * grain * (den * 2 ^ p) := by ring

theorem nearestMagnitude_congr {num den num' den' : Nat} (hden : den ≠ 0) (hden' : den' ≠ 0)
    (h : num * den' = num' * den) : nearestMagnitude num den = nearestMagnitude num' den' :=
  Nat.le_antisymm (nearestMagnitude_mono hden hden' h.le) (nearestMagnitude_mono hden' hden h.ge)

/-! ### Counts of the least number -/

/-- How many of the least number the number with magnitude bits `m` is. -/
def countOf (m : Nat) : Nat :=
  if m / exponentWeight = 0 then m % exponentWeight
  else (exponentWeight + m % exponentWeight) * 2 ^ (m / exponentWeight - 1)

theorem countOf_mono {m m' : Nat} (h : m ≤ m') : countOf m ≤ countOf m' := by
  have hrest : m % exponentWeight < exponentWeight := Nat.mod_lt _ (by decide)
  have hquotient : m / exponentWeight ≤ m' / exponentWeight := Nat.div_le_div_right h
  have hm := Nat.div_add_mod m exponentWeight
  have hm' := Nat.div_add_mod m' exponentWeight
  unfold countOf
  generalize m / exponentWeight = b at *
  generalize m' / exponentWeight = b' at *
  generalize m % exponentWeight = f at *
  generalize m' % exponentWeight = f' at *
  rcases Nat.lt_or_eq_of_le hquotient with hless | rfl
  · rw [if_neg (show b' ≠ 0 by omega)]
    have hnext : exponentWeight * 2 ^ (b' - 1) ≤ (exponentWeight + f') * 2 ^ (b' - 1) :=
      Nat.mul_le_mul_right _ (Nat.le_add_right _ _)
    refine Nat.le_trans ?_ hnext
    split
    next => exact hrest.le.trans (Nat.le_mul_of_pos_right _ (Nat.two_pow_pos _))
    next hb =>
      calc (exponentWeight + f) * 2 ^ (b - 1) ≤ exponentWeight * 2 * 2 ^ (b - 1) :=
            Nat.mul_le_mul_right _ (by omega)
        _ = exponentWeight * 2 ^ (b - 1 + 1) := by rw [Nat.mul_assoc, pow_succ']
        _ ≤ exponentWeight * 2 ^ (b' - 1) :=
            Nat.mul_le_mul_left _ (Nat.pow_le_pow_right (by decide) (by omega))
  · have hfraction : f ≤ f' := by omega
    split
    · exact hfraction
    · exact Nat.mul_le_mul_right _ (Nat.add_le_add_left hfraction _)

/-- A finite number has a mantissa and an exponent, which make its count. -/
theorem view_of_isFinite {x : Binary64} (h : x.isFinite) :
    ∃ mantissa exponent, x.view = .finite x.negative mantissa exponent ∧ -1074 ≤ exponent ∧
      mantissa * 2 ^ (exponent + 1074).toNat = countOf x.magnitude := by
  have hfinite : x.magnitude < infiniteMagnitude := of_decide_eq_true h
  unfold view countOf
  rw [if_neg (Nat.not_lt_of_lt hfinite), if_neg (Nat.ne_of_lt hfinite)]
  dsimp only
  generalize x.magnitude / exponentWeight = biased
  split
  next hzero => exact ⟨_, _, rfl, by omega, Nat.mul_one _⟩
  next hbiased =>
    have hexponent : ((biased : Int) - 1075 + 1074).toNat = biased - 1 := by omega
    exact ⟨_, _, rfl, by omega, by rw [hexponent]⟩

theorem view_of_not_isFinite {x : Binary64} (h : ¬ x.isFinite) :
    x.view = .nan ∨ ∃ negative, x.view = .infinite negative := by
  have hinfinite : infiniteMagnitude ≤ x.magnitude := by simpa [isFinite] using h
  unfold view
  rcases Nat.lt_or_eq_of_le hinfinite with hless | heq
  · exact .inl (if_pos hless)
  · rw [if_neg heq.not_lt, if_pos heq.symm]
    exact .inr ⟨_, rfl⟩

/-! ### Products and quotients -/

/-- A fraction in units of a power of two, brought to whole numbers by powers of two. -/
theorem nearestMagnitude_inUnits {num den a b : Nat} {e : Int} (hden : den ≠ 0)
    (h : (b : Int) = a + e) : nearestMagnitude (inUnits num den e).1 (inUnits num den e).2 =
      nearestMagnitude (num * 2 ^ a) (den * 2 ^ b) := by
  have hpower (n : Nat) : 2 ^ n ≠ 0 := Nat.ne_of_gt (Nat.two_pow_pos n)
  unfold inUnits
  split
  next he =>
    refine nearestMagnitude_congr (Nat.mul_ne_zero hden (hpower _))
      (Nat.mul_ne_zero hden (hpower _)) ?_
    have hb : b = a + e.toNat := by omega
    rw [hb, pow_add]
    dsimp only [Nat.pow_eq]
    ring
  next he =>
    refine nearestMagnitude_congr hden (Nat.mul_ne_zero hden (hpower _)) ?_
    have ha : a = b + (-e).toNat := by omega
    rw [ha, pow_add]
    dsimp only [Nat.pow_eq]
    ring

theorem grain_mul_grain_ne_zero : grain * grain ≠ 0 :=
  Nat.ne_of_gt (Nat.mul_pos grain_pos grain_pos)

theorem mul_of_isFinite {x y : Binary64} (hx : x.isFinite) (hy : y.isFinite) :
    x.mul y = ofRatio (x.negative != y.negative) (countOf x.magnitude * countOf y.magnitude)
      (grain * grain) := by
  obtain ⟨m, e, hxview, he, hm⟩ := view_of_isFinite hx
  obtain ⟨n, f, hyview, hf, hn⟩ := view_of_isFinite hy
  unfold mul
  rw [hxview, hyview, ← hm, ← hn]
  refine congrArg (ofMagnitude _) ?_
  -- the exponent stands behind a name, so that the power is never evaluated
  obtain ⟨g, hg⟩ : ∃ g, g = 1074 := ⟨1074, rfl⟩
  have hexponent : ((g + g : Nat) : Int) =
      ((e + 1074).toNat + (f + 1074).toNat : Nat) + -(e + f) := by omega
  refine (nearestMagnitude_inUnits Nat.one_ne_zero hexponent).trans ?_
  rw [grain_eq hg, pow_add, pow_add, Nat.one_mul, Nat.mul_mul_mul_comm]

theorem div_of_isFinite {x y : Binary64} (hx : x.isFinite) (hy : y.isFinite)
    (hzero : countOf y.magnitude ≠ 0) :
    x.div y = ofRatio (x.negative != y.negative) (countOf x.magnitude) (countOf y.magnitude) := by
  obtain ⟨m, e, hxview, he, hm⟩ := view_of_isFinite hx
  obtain ⟨n, f, hyview, hf, hn⟩ := view_of_isFinite hy
  have hmantissa : n ≠ 0 := by
    rintro rfl
    rw [← hn, Nat.zero_mul] at hzero
    exact hzero rfl
  unfold div
  rw [hxview, hyview, ← hm, ← hn]
  refine (if_neg hmantissa).trans (congrArg (ofMagnitude _) ?_)
  exact nearestMagnitude_inUnits hmantissa (by omega)

theorem not_isFinite_nan : ¬ nan.isFinite := by decide

theorem not_isFinite_infinity (negative : Bool) : ¬ (infinity negative).isFinite := by
  cases negative <;> decide

theorem not_isFinite_ite {p : Prop} [Decidable p] (negative : Bool) :
    ¬ (if p then nan else infinity negative).isFinite := by
  split
  · exact not_isFinite_nan
  · exact not_isFinite_infinity negative

theorem not_isFinite_mul {x y : Binary64} (h : ¬ x.isFinite ∨ ¬ y.isFinite) :
    ¬ (x.mul y).isFinite := by
  unfold mul
  rcases h with hx | hy
  · rcases view_of_not_isFinite hx with hview | ⟨negative, hview⟩
    · rw [hview]
      exact not_isFinite_nan
    · rw [hview]
      cases y.view with
      | nan => exact not_isFinite_nan
      | infinite _ => exact not_isFinite_infinity _
      | finite _ _ _ => exact not_isFinite_ite _
  · rcases view_of_not_isFinite hy with hview | ⟨negative, hview⟩
    · rw [hview]
      cases x.view <;> exact not_isFinite_nan
    · rw [hview]
      cases x.view with
      | nan => exact not_isFinite_nan
      | infinite _ => exact not_isFinite_infinity _
      | finite _ _ _ => exact not_isFinite_ite _

/-- A product is finite if its factors are and it lies below the bound, in counts. -/
theorem isFinite_mul {x y : Binary64} : (x.mul y).isFinite ↔ x.isFinite ∧ y.isFinite ∧
    countOf x.magnitude * countOf y.magnitude < bound * (grain * grain) := by
  by_cases hx : x.isFinite
  · by_cases hy : y.isFinite
    · rw [mul_of_isFinite hx hy, isFinite_ofRatio grain_mul_grain_ne_zero]
      exact ⟨fun h => ⟨hx, hy, h⟩, fun h => h.2.2⟩
    · exact iff_of_false (not_isFinite_mul (.inr hy)) fun h => hy h.2.1
  · exact iff_of_false (not_isFinite_mul (.inl hx)) fun h => hx h.1

theorem isFinite_mul_mono {x x' y : Binary64} (h : x.magnitude ≤ x'.magnitude)
    (hfinite : (x'.mul y).isFinite) : (x.mul y).isFinite := by
  obtain ⟨hx', hy, hcount⟩ := isFinite_mul.mp hfinite
  have hx : x.isFinite := decide_eq_true (h.trans_lt (of_decide_eq_true hx'))
  exact isFinite_mul.mpr
    ⟨hx, hy, (Nat.mul_le_mul_right _ (countOf_mono h)).trans_lt hcount⟩

/-! ### Whole numbers -/

theorem magnitude_ofInt (n : Int) : (ofInt n).magnitude = nearestMagnitude n.natAbs 1 :=
  magnitude_ofMagnitude (nearestMagnitude_lt_sign _ _)

theorem magnitude_ofInt_mono {n n' : Int} (h : n.natAbs ≤ n'.natAbs) :
    (ofInt n).magnitude ≤ (ofInt n').magnitude := by
  rw [magnitude_ofInt, magnitude_ofInt]
  exact nearestMagnitude_mono Nat.one_ne_zero Nat.one_ne_zero (Nat.mul_le_mul_right 1 h)

theorem negative_ofRatio (negative : Bool) (num den : Nat) :
    (ofRatio negative num den).negative = negative := by
  have hmagnitude : nearestMagnitude num den < 0x8000000000000000 :=
    nearestMagnitude_lt_sign num den
  cases negative <;> simp [ofRatio, ofMagnitude, Binary64.negative, signWeight] <;> omega

theorem isFinite_of_ofInteger {n : Int} {x : Binary64} (h : ofInteger n = .ok x) :
    x = ofInt n ∧ x.isFinite := by
  unfold ofInteger at h
  dsimp only at h
  split at h
  next hfinite => exact Except.ok.inj h ▸ ⟨rfl, hfinite⟩
  next => cases h

/-- A number without a sign is not above another of at least its magnitude. -/
theorem lt_of_magnitude {x y : Binary64} (hx : x.negative = false) (hy : y.negative = false)
    (h : y.magnitude ≤ x.magnitude) : x.lt y = false := by
  have hrank : ¬ x.rank < y.rank := by
    simp only [rank, hx, hy, Bool.false_eq_true, if_false]
    omega
  simp [lt, hrank]

theorem toInteger_of_isFinite {x : Binary64} (h : x.isFinite) : ∃ n, x.toInteger = .ok n := by
  obtain ⟨mantissa, exponent, hview, -⟩ := view_of_isFinite h
  unfold toInteger roundInt?
  rw [hview]
  exact ⟨_, rfl⟩

theorem toInteger_of_not_isFinite {x : Binary64} (h : ¬ x.isFinite) :
    ∃ fault, x.toInteger = .error fault := by
  unfold toInteger roundInt?
  rcases view_of_not_isFinite h with hview | ⟨negative, hview⟩
  · rw [hview]
    exact ⟨_, rfl⟩
  · rw [hview]
    exact ⟨_, rfl⟩

end AddressIndex.Binary64
