import AddressIndex.Proofs.Amounts
import AddressIndex.Proofs.Numerals

/-! What an amount denotes. An integer denotes itself, and a text of digits, with or without a sign,
the number they make in base ten. A text that can be read at all is read as the integer it denotes,
if that integer is in the range of amounts, and as no amount otherwise. -/

namespace AddressIndex

theorem Text.isDigit_eq (c : Char) : isDigit c = c.isDigit := by
  rw [Bool.eq_iff_iff, isDigit_iff]
  simp [Char.isDigit, UInt32.le_iff_toNat_le]

/-- Either a sign is cut off, or there is none. -/
theorem Text.splitSign_cases (cs : List Char) :
    (∃ rest, cs = '-' :: rest ∧ splitSign cs = (true, rest)) ∨
      (∃ rest, cs = '+' :: rest ∧ splitSign cs = (false, rest)) ∨ splitSign cs = (false, cs) := by
  unfold splitSign
  split
  next rest => exact .inl ⟨rest, rfl, rfl⟩
  next rest => exact .inr (.inl ⟨rest, rfl, rfl⟩)
  next => exact .inr (.inr rfl)

namespace Amount

variable {cs : List Char} {s : String} {n m : Int}

/-- The number is in the range of amounts. -/
def InRange (n : Int) : Prop := least ≤ n ∧ n ≤ greatest

instance : Decidable (InRange n) := inferInstanceAs (Decidable (_ ∧ _))

/-- Characters that are a numeral: digits, and at least one. -/
structure Numeral (cs : List Char) : Prop where
  digits : ∀ c ∈ cs, c.isDigit
  some : cs ≠ []

/-- The number that a numeral makes in base ten. -/
def numeralValue (cs : List Char) : Int := Nat.ofDigitChars 10 cs 0

/-- The characters denote the integer. -/
inductive Denotes : List Char → Int → Prop
  | bare {cs : List Char} (numeral : Numeral cs) : Denotes cs (numeralValue cs)
  | plus {cs : List Char} (numeral : Numeral cs) : Denotes ('+' :: cs) (numeralValue cs)
  | minus {cs : List Char} (numeral : Numeral cs) : Denotes ('-' :: cs) (-numeralValue cs)

theorem Numeral.all_isDigit (h : Numeral cs) : ∀ c ∈ cs, Text.isDigit c := fun c hc => by
  rw [Text.isDigit_eq]
  exact h.digits c hc

theorem Numeral.digitsValue_eq (h : Numeral cs) :
    (Text.digitsValue cs : Int) = numeralValue cs := by
  rw [Text.digitsValue_eq h.all_isDigit, numeralValue]

/-- What is denoted, told by the sign and the rest. -/
theorem denotes_iff : Denotes cs n ↔ Numeral (Text.splitSign cs).2 ∧
    n = if (Text.splitSign cs).1 then -numeralValue (Text.splitSign cs).2
      else numeralValue (Text.splitSign cs).2 := by
  constructor
  · rintro (⟨hnumeral⟩ | ⟨hnumeral⟩ | ⟨hnumeral⟩)
    · rw [Text.splitSign_of_digits hnumeral.all_isDigit]
      exact ⟨hnumeral, rfl⟩
    · exact ⟨hnumeral, rfl⟩
    · exact ⟨hnumeral, rfl⟩
  · rintro ⟨hnumeral, rfl⟩
    rcases Text.splitSign_cases cs with ⟨rest, rfl, hsplit⟩ | ⟨rest, rfl, hsplit⟩ | hsplit
    · exact .minus hnumeral
    · exact .plus hnumeral
    · rw [hsplit] at hnumeral ⊢
      exact .bare hnumeral

theorem Denotes.unique (h : Denotes cs n) (h' : Denotes cs m) : n = m :=
  (denotes_iff.mp h).2.trans (denotes_iff.mp h').2.symm

/-- A text that is read is read as the integer that it denotes, if that is in range. -/
theorem ofText_eq_ok {n? : Option Int} (h : ofText s = .ok n?) :
    n? = some n ↔ Denotes s.toList n ∧ InRange n := by
  rw [denotes_iff]
  unfold ofText at h
  dsimp only at h
  split at h
  next hbad =>
    -- the rest is no numeral, so nothing is denoted
    cases h
    refine iff_of_false nofun fun ⟨⟨hnumeral, _⟩, _⟩ => ?_
    rcases Bool.or_eq_true_iff.mp hbad with hempty | hother
    · exact hnumeral.some (List.isEmpty_iff.mp hempty)
    · rw [List.all_eq_true.mpr hnumeral.all_isDigit] at hother
      cases hother
  next hgood =>
    split at h
    · cases h
    cases h
    have hnumeral : Numeral (Text.splitSign s.toList).2 := by
      rw [Bool.not_eq_true, Bool.or_eq_false_iff, Bool.not_eq_false', List.all_eq_true] at hgood
      refine ⟨fun c hc => ?_, fun hempty => ?_⟩
      · rw [← Text.isDigit_eq]
        exact hgood.2 c hc
      · rw [hempty] at hgood
        cases hgood.1
    rw [fit_eq_some, hnumeral.digitsValue_eq]
    exact ⟨fun ⟨hn, hrange⟩ => hn ▸ ⟨⟨hnumeral, rfl⟩, hrange⟩,
      fun ⟨⟨_, hn⟩, hrange⟩ => ⟨hn.symm, hn ▸ hrange⟩⟩

/-- An integer that is written out denotes itself. -/
theorem denotes_toString (n : Int) : Denotes (toString n).toList n := by
  have hnumeral : Numeral (Nat.toDigits 10 n.natAbs) :=
    ⟨fun c hc => Text.isDigit_eq c ▸ Text.isDigit_of_mem_toDigits hc, Nat.toDigits_ne_nil⟩
  have hvalue : numeralValue (Nat.toDigits 10 n.natAbs) = n.natAbs := by
    rw [numeralValue, Nat.ofDigitChars_ten_toDigits]
  rw [Text.toList_toString]
  split
  next hsign =>
    have hn : numeralValue (Nat.toDigits 10 n.natAbs) = n := by omega
    have hdenotes := Denotes.bare hnumeral
    rwa [hn] at hdenotes
  next hsign =>
    have hn : -numeralValue (Nat.toDigits 10 n.natAbs) = n := by omega
    have hdenotes := Denotes.minus hnumeral
    rwa [hn] at hdenotes

end Amount

/-- The amount, as a node gives it, denotes the integer. -/
inductive Json.Denotes : Json → Int → Prop
  | integer (n : Int) : Denotes (.int n) n
  | text {s : String} {n : Int} (denotes : Amount.Denotes s.toList n) : Denotes (.str s) n

/-- An amount denotes what it did when the node gave it. -/
theorem TokenAmount.denotes_amountText? {v : Json} {s : String} {n : Int}
    (h : amountText? v = some s) : Amount.Denotes s.toList n ↔ v.Denotes n := by
  unfold amountText? at h
  split at h
  next s' =>
    cases h
    exact ⟨.text, fun hdenotes => by cases hdenotes with | text hdenotes => exact hdenotes⟩
  next m =>
    cases h
    constructor
    · intro hdenotes
      rw [hdenotes.unique (Amount.denotes_toString m)]
      exact .integer m
    · intro hdenotes
      cases hdenotes
      exact Amount.denotes_toString n
  next => cases h

end AddressIndex
