import AddressIndex.Log.Render
import AddressIndex.Text.Writable
import Mathlib.Data.List.Basic

/-! ASCII texts. The canonical text of a value is ASCII, whatever texts and numbers are in it, so it
has no halves and every encoding can write it. So can it a log line that is printed as a record. -/

namespace AddressIndex

namespace Text

/-- All characters of the text are ASCII. -/
def IsAscii (s : String) : Prop := ∀ c ∈ s.toList, c.toNat < 0x80

instance (s : String) : Decidable (IsAscii s) :=
  List.decidableBAll (fun c : Char => c.toNat < 0x80) s.toList

theorem half?_of_ascii {c : Char} (h : c.toNat < 0x80) : half? c = none := by
  have hnone : c.toNat - standInOffset = 0 := by
    unfold standInOffset
    omega
  simp [half?, hnone, isHalf, isHighHalf, isLowHalf]

/-- No ASCII character stands for a half. -/
theorem IsAscii.codePoints {s : String} (h : IsAscii s) :
    ∀ p ∈ codePoints s, p.isHalf = false ∧ p.value < 0x80 := by
  have hpush : ∀ (cs : List Char) (before : List CodePoint), (∀ c ∈ cs, c.toNat < 0x80) →
      (∀ p ∈ before, p.isHalf = false ∧ p.value < 0x80) →
      ∀ p ∈ cs.foldl CodePoint.push before, p.isHalf = false ∧ p.value < 0x80 := by
    intro cs
    induction cs with
    | nil => exact fun before _ hbefore => hbefore
    | cons c cs ih =>
      intro before hcs hbefore
      obtain ⟨hc, hcs⟩ := List.forall_mem_cons.mp hcs
      rw [List.foldl_cons, CodePoint.push, half?_of_ascii hc]
      exact ih (.char c :: before) hcs (List.forall_mem_cons.mpr ⟨⟨rfl, hc⟩, hbefore⟩)
  exact fun p hp => hpush s.toList [] h (by simp) p (List.mem_reverse.mp hp)

theorem IsAscii.hasHalf {s : String} (h : IsAscii s) : hasHalf s = false := by
  refine List.any_eq_false.mpr fun p hp => ?_
  rw [(h.codePoints p hp).1]
  exact Bool.false_ne_true

theorem IsAscii.writes {s : String} (h : IsAscii s) (encoding : Encoding) : encoding.writes s := by
  refine List.all_eq_true.mpr fun p hp => ?_
  obtain ⟨hwhole, hvalue⟩ := h.codePoints p hp
  cases encoding with
  | ascii => exact decide_eq_true hvalue
  | utf8 => simp [Encoding.has, hwhole]

namespace IsAscii

variable {s t : String}

theorem append (hs : IsAscii s) (ht : IsAscii t) : IsAscii (s ++ t) := by
  intro c hc
  rw [String.toList_append] at hc
  rcases List.mem_append.mp hc with hc | hc
  · exact hs c hc
  · exact ht c hc

theorem ofList {cs : List Char} (h : ∀ c ∈ cs, c.toNat < 0x80) : IsAscii (String.ofList cs) := by
  intro c hc
  rw [String.toList_ofList] at hc
  exact h c hc

theorem foldl {α : Type} {write : α → String} (h : ∀ x, IsAscii (write x)) (xs : List α)
    (hs : IsAscii s) : IsAscii (xs.foldl (fun acc x => acc ++ write x) s) := by
  induction xs generalizing s with
  | nil => exact hs
  | cons x xs ih => exact ih (hs.append (h x))

theorem nat (n : Nat) : IsAscii (toString n) := by
  intro c hc
  rw [Nat.toString_eq_repr, Nat.toList_repr] at hc
  have hdigit : c.isDigit := Nat.isDigit_of_mem_toDigits (by decide) (by decide) hc
  simp only [Char.isDigit, Bool.and_eq_true, decide_eq_true_eq] at hdigit
  have hlast : c.toNat ≤ 57 := UInt32.le_iff_toNat_le.mp hdigit.2
  omega

theorem int (n : Int) : IsAscii (toString n) := by
  cases n with
  | ofNat n => exact nat n
  | negSucc n => exact append (by decide) (nat (n + 1))

theorem hex (width n : Nat) : IsAscii (Text.hex width n) := by
  have hdigit : ∀ d < 16, (Char.ofNat (if d < 10 then 48 + d else 87 + d)).toNat < 0x80 := by
    decide
  refine ofList fun c hc => ?_
  obtain ⟨i, -, rfl⟩ := List.mem_map.mp hc
  exact hdigit _ (Nat.mod_lt _ (by decide))

end IsAscii

end Text

open Text (IsAscii)

namespace Binary64

theorem digits_ascii (mantissa : Nat) (exponent : Int) :
    ∀ c ∈ (digits mantissa exponent).1, c.toNat < 0x80 := by
  intro c hc
  exact IsAscii.nat _ c (List.mem_reverse.mp
    ((List.dropWhile_suffix _).subset (List.mem_reverse.mp hc)))

theorem layout_ascii {digits : List Char} (h : ∀ c ∈ digits, c.toNat < 0x80) (point : Int) :
    IsAscii (layout digits point) := by
  have hzeros : ∀ n, ∀ c ∈ List.replicate n '0', c.toNat < 0x80 := fun n c hc => by
    rw [List.eq_of_mem_replicate hc]
    decide
  have htake : ∀ n, ∀ c ∈ digits.take n, c.toNat < 0x80 :=
    fun n c hc => h c (List.mem_of_mem_take hc)
  have hdrop : ∀ n, ∀ c ∈ digits.drop n, c.toNat < 0x80 :=
    fun n c hc => h c (List.mem_of_mem_drop hc)
  unfold layout
  dsimp only
  split
  next =>
    split
    · exact .append (by decide) (.ofList (List.forall_mem_append.mpr ⟨hzeros _, h⟩))
    · have hwhole := IsAscii.ofList (List.forall_mem_append.mpr ⟨htake point.toNat, hzeros
        (point.toNat - (digits.take point.toNat).length)⟩)
      refine .append (hwhole.append (by decide)) ?_
      split
      · decide
      · exact .ofList (hdrop _)
  next =>
    refine .append (.append (.append (.ofList (htake 1)) ?_) ?_) ?_
    · split
      · decide
      · exact .append (by decide) (.ofList (hdrop 1))
    · split <;> decide
    · split
      · exact .append (by decide) (.nat _)
      · exact .nat _

theorem text_ascii (x : Binary64) : IsAscii (x.text Json.jsonWords) := by
  have hsign : IsAscii (if x.negative then "-" else "") := by split <;> decide
  unfold text
  dsimp only
  split
  · decide
  · exact hsign.append (by decide)
  · exact hsign.append (by decide)
  · exact hsign.append (layout_ascii (digits_ascii _ _) _)

end Binary64

namespace Json

theorem escapeUnit_ascii (n : Nat) : IsAscii (escapeUnit n) := .append (by decide) (.hex 4 n)

theorem escapeShort_ascii {c : Char} {s : String} (h : escapeShort c = some s) : IsAscii s := by
  unfold escapeShort at h
  -- the seven short escapes
  iterate 7
    split at h
    · cases h
      decide
  split at h
  · cases h
    exact escapeUnit_ascii _
  · cases h

theorem escapeAscii_ascii (c : Char) : IsAscii (escapeAscii c) := by
  unfold escapeAscii
  split
  next s h => exact escapeShort_ascii h
  next =>
    dsimp only
    split
    next hsmall =>
      intro c' hc'
      obtain rfl : c' = c := by simpa using hc'
      omega
    next =>
      split
      · exact escapeUnit_ascii _
      · exact (escapeUnit_ascii _).append (escapeUnit_ascii _)

theorem text_ascii (s : String) : IsAscii (ascii.text s) := by
  refine .append (.append (by decide) (.foldl (fun p => ?_) _ (by decide))) (by decide)
  cases p with
  | char c => exact escapeAscii_ascii c
  | half n => exact escapeUnit_ascii n

mutual

theorem print_ascii : (v : Json) → IsAscii (print ascii v)
  | .null => by
    rw [print]
    decide
  | .bool b => by
    rw [print]
    split <;> decide
  | .int n => by
    rw [print]
    exact .int n
  | .float x => by
    rw [print]
    exact x.text_ascii
  | .str s => by
    rw [print]
    exact text_ascii s
  | .arr [] => by
    rw [print]
    decide
  | .arr (v :: vs) => by
    rw [print]
    have hopen : IsAscii "[" := by decide
    exact ((hopen.append (print_ascii v)).append (printItems_ascii vs)).append (by decide)
  | .obj [] => by
    rw [print]
    decide
  | .obj ((k, v) :: rest) => by
    rw [print]
    have hopen : IsAscii "\x7b" := by decide
    have hcolon : IsAscii ascii.colon := by decide
    have hkey := (hopen.append (text_ascii k)).append hcolon
    exact ((hkey.append (print_ascii v)).append (printFields_ascii rest)).append (by decide)

theorem printItems_ascii : (vs : List Json) → IsAscii (printItems ascii vs)
  | [] => by
    rw [printItems]
    decide
  | v :: vs => by
    rw [printItems]
    exact (IsAscii.append (by decide) (print_ascii v)).append (printItems_ascii vs)

theorem printFields_ascii : (fields : List (String × Json)) → IsAscii (printFields ascii fields)
  | [] => by
    rw [printFields]
    decide
  | (k, v) :: rest => by
    rw [printFields]
    have hcomma : IsAscii ascii.comma := by decide
    have hcolon : IsAscii ascii.colon := by decide
    have hkey := (hcomma.append (text_ascii k)).append hcolon
    exact (hkey.append (print_ascii v)).append (printFields_ascii rest)

end

/-- The text by which a failure is known has no half. -/
theorem canonical_hasHalf (v : Json) : Text.hasHalf v.canonical = false := (print_ascii _).hasHalf

end Json

/-- A line that is to be printed as a record, and has no field of a name that is taken, is left out
for its level or has a text that every encoding can write. -/
theorem Log.Setup.render_record {setup : Log.Setup} {logger : String} {context : Fields}
    {line : Log.Line} (hform : setup.form = .json) (hnames : setup.takenName? line = none) :
    setup.render? logger context line = .ok none ∨
      ∃ fields, setup.render? logger context line = .ok (some (.record fields)) ∧
        ∀ encoding : Text.Encoding, encoding.writes ((Json.obj fields).print Json.ascii) := by
  simp only [Log.Setup.render?, hnames]
  split
  · rw [hform]
    exact .inr ⟨_, rfl, (Json.print_ascii _).writes⟩
  · exact .inl rfl

end AddressIndex
