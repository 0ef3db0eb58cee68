import AddressIndex.Text.Numeral
import Mathlib.Algebra.Group.Nat.Defs
import Mathlib.Data.List.DropRight
import Mathlib.Data.List.TakeDrop
import Mathlib.Data.List.TakeWhile

/-! Texts without blanks at their ends, and integers as texts. To trim a text twice is to trim it
once. An integer that is written out is read back as it was, unless it has too many digits. -/

namespace AddressIndex.Text

/-! ### Ends -/

section Strip

variable {p : Char → Bool} {cs : List Char}

theorem strip_eq (p : Char → Bool) (cs : List Char) : strip p cs = (cs.dropWhile p).rdropWhile p :=
  rfl

/-- Nothing goes from what has no such characters at its ends. -/
theorem strip_of_none (h : ∀ c ∈ cs, p c = false) : strip p cs = cs := by
  have hfront : cs.dropWhile p = cs := by
    rw [List.dropWhile_eq_self_iff]
    intro hlength
    simp [h _ (List.getElem_mem hlength)]
  rw [strip_eq, hfront, List.rdropWhile_eq_self_iff]
  intro hne
  simp [h _ (List.getLast_mem hne)]

theorem strip_strip (p : Char → Bool) (cs : List Char) : strip p (strip p cs) = strip p cs := by
  simp only [strip_eq]
  generalize hfront : cs.dropWhile p = front
  have hclear : front.dropWhile p = front := by
    rw [← hfront, List.dropWhile_idempotent]
  -- the first character of what is left is the first one of `front`
  have hkept : (front.rdropWhile p).dropWhile p = front.rdropWhile p := by
    rw [List.dropWhile_eq_self_iff] at hclear ⊢
    intro hlength
    have hkeeps := List.rdropWhile_prefix p front
    have hlong : 0 < front.length := Nat.lt_of_lt_of_le hlength hkeeps.length_le
    rw [hkeeps.getElem hlength]
    exact hclear hlong
  rw [hkept, List.rdropWhile_idempotent]

end Strip

theorem trim_trim (s : String) : trim (trim s) = trim s := by
  simp only [trim, String.toList_ofList, strip_strip]

/-- Something is left of a text in which not all is blank. -/
theorem trim_ne_empty {s : String} {c : Char} (hc : c ∈ s.toList) (h : ¬ isBlank c) :
    trim s ≠ "" := by
  intro hempty
  have hstrip : strip isBlank s.toList = [] := by
    have hnone := congrArg String.toList hempty
    rwa [trim, String.toList_ofList] at hnone
  have hall : ∀ d ∈ s.toList.dropWhile isBlank, isBlank d := by
    simpa [strip, List.dropWhile_eq_nil_iff] using hstrip
  rw [← List.takeWhile_append_dropWhile (p := isBlank) (l := s.toList)] at hc
  rcases List.mem_append.mp hc with hfirst | hrest
  · exact h (List.mem_takeWhile_imp hfirst)
  · exact h (hall c hrest)

/-! ### Integers as texts -/

section Digits

variable {c : Char} {cs : List Char} {n : Nat}

theorem isDigit_iff : isDigit c ↔ 48 ≤ c.toNat ∧ c.toNat ≤ 57 := by
  unfold isDigit asciiDigit?
  split <;> simp_all

/-- The digits that a number is written with. -/
theorem isDigit_of_mem_toDigits (h : c ∈ Nat.toDigits 10 n) : isDigit c := by
  have hdigit := Nat.isDigit_of_mem_toDigits (by omega) (by omega) h
  rw [isDigit_iff]
  simpa [Char.isDigit, UInt32.le_iff_toNat_le] using hdigit

theorem splitSign_of_digits (h : ∀ c ∈ cs, isDigit c) : splitSign cs = (false, cs) := by
  unfold splitSign
  split
  next rest =>
    have hdigit := h '-' List.mem_cons_self
    cases hdigit
  next rest =>
    have hdigit := h '+' List.mem_cons_self
    cases hdigit
  next => rfl

theorem digitsValue_eq (h : ∀ c ∈ cs, isDigit c) : digitsValue cs = Nat.ofDigitChars 10 cs 0 := by
  have hdigits : cs.filterMap asciiDigit? = cs.map fun c => c.toNat - '0'.toNat := by
    rw [← List.filterMap_eq_map]
    refine List.filterMap_congr fun c hc => ?_
    obtain ⟨hlow, hhigh⟩ := isDigit_iff.mp (h c hc)
    simp [asciiDigit?, hlow, hhigh]
  rw [digitsValue, hdigits, ofDigits, List.foldl_map, Nat.ofDigitChars_eq_foldl]

end Digits

/-- How an integer is written out. -/
theorem toList_toString (n : Int) :
    (toString n).toList =
      if 0 ≤ n then Nat.toDigits 10 n.natAbs else '-' :: Nat.toDigits 10 n.natAbs := by
  rw [Int.toString_eq_repr, Int.repr_eq_if]
  split
  next hsign =>
    have habs : n.toNat = n.natAbs := by omega
    rw [Nat.toList_repr, habs]
  next hsign =>
    have habs : (-n).toNat = n.natAbs := by omega
    rw [String.toList_append, Nat.toList_repr, habs]
    rfl

end AddressIndex.Text
