import AddressIndex.Base58
import AddressIndex.Proofs.Ascii
import Mathlib.Data.List.TakeWhile
import Mathlib.Data.Nat.Digits.Lemmas

/-! Texts of keys. Bytes in base 58 have one text: the zero bytes at the start are as many as the
digits `1` at the start, the bytes after them are those of one number, and a number has its digits
in one way only. -/

namespace AddressIndex.Base58

/-! ### Digits of a text -/

theorem length_alphabet : alphabet.length = 58 := by decide

theorem getElem_of_digit? {c : Char} {d : Nat} (h : digit? c = some d) :
    ∃ hd : d < alphabet.length, alphabet[d] = c := by
  obtain ⟨hd, hc, -⟩ := List.findIdx?_eq_some_iff_getElem.mp h
  exact ⟨hd, of_decide_eq_true hc⟩

theorem eq_of_digit? {c c' : Char} {d : Nat} (h : digit? c = some d) (h' : digit? c' = some d) :
    c = c' := by
  obtain ⟨hd, rfl⟩ := getElem_of_digit? h
  obtain ⟨-, rfl⟩ := getElem_of_digit? h'
  rfl

theorem ascii_of_digit? {c : Char} {d : Nat} (h : digit? c = some d) : c.toNat < 0x80 := by
  obtain ⟨hd, rfl⟩ := getElem_of_digit? h
  have hall : alphabet.all fun c => c.toNat < 0x80 := by decide
  exact of_decide_eq_true (List.all_eq_true.mp hall _ (List.getElem_mem hd))

/-- The digits of a text, one for each character. -/
theorem mapM_digit?_cons {c : Char} {cs : List Char} {ds : List Nat} :
    (c :: cs).mapM digit? = some ds ↔
      ∃ d rest, digit? c = some d ∧ cs.mapM digit? = some rest ∧ ds = d :: rest := by
  simp only [List.mapM_cons, Option.bind_eq_bind, Option.bind_eq_some_iff, Option.pure_def,
    Option.some.injEq]
  constructor
  · rintro ⟨d, hd, rest, hrest, rfl⟩
    exact ⟨d, rest, hd, hrest, rfl⟩
  · rintro ⟨d, rest, hd, hrest, rfl⟩
    exact ⟨d, hd, rest, hrest, rfl⟩

theorem ascii_of_mapM_digit? {cs : List Char} {ds : List Nat} (h : cs.mapM digit? = some ds) :
    ∀ c ∈ cs, c.toNat < 0x80 := by
  induction cs generalizing ds with
  | nil => exact fun c hc => absurd hc List.not_mem_nil
  | cons c cs ih =>
    obtain ⟨d, rest, hd, hrest, -⟩ := mapM_digit?_cons.mp h
    exact List.forall_mem_cons.mpr ⟨ascii_of_digit? hd, ih hrest⟩

theorem digits_lt {cs : List Char} {ds : List Nat} (h : cs.mapM digit? = some ds) :
    ∀ d ∈ ds, d < 58 := by
  induction cs generalizing ds with
  | nil =>
    obtain rfl : ds = [] := by simpa using h.symm
    exact fun d hd => by cases hd
  | cons c cs ih =>
    obtain ⟨d, rest, hd, hrest, rfl⟩ := mapM_digit?_cons.mp h
    have hlt : d < 58 := length_alphabet ▸ (getElem_of_digit? hd).1
    exact List.forall_mem_cons.mpr ⟨hlt, ih hrest⟩

theorem eq_of_mapM_digit? {cs cs' : List Char} {ds : List Nat} (h : cs.mapM digit? = some ds)
    (h' : cs'.mapM digit? = some ds) : cs = cs' := by
  induction cs generalizing cs' ds with
  | nil =>
    obtain rfl : ds = [] := by simpa using h.symm
    cases cs' with
    | nil => rfl
    | cons c' cs' =>
      obtain ⟨_, _, -, -, ⟨⟩⟩ := mapM_digit?_cons.mp h'
  | cons c cs ih =>
    obtain ⟨d, rest, hd, hrest, rfl⟩ := mapM_digit?_cons.mp h
    cases cs' with
    | nil => cases h'
    | cons c' cs' =>
      obtain ⟨_, _, hd', hrest', ⟨⟩⟩ := mapM_digit?_cons.mp h'
      rw [eq_of_digit? hd hd', ih hrest hrest']

/-! ### Numbers -/

theorem ofDigits_append_singleton (ds : List Nat) (d : Nat) :
    ofDigits (ds ++ [d]) = 58 * ofDigits ds + d := by
  simp [ofDigits]

theorem ofDigits_eq (ds : List Nat) : ofDigits ds = Nat.ofDigits 58 ds.reverse := by
  induction ds using List.reverseRecOn with
  | nil => rfl
  | append_singleton ds d ih =>
    rw [ofDigits_append_singleton, ih, List.reverse_append, List.reverse_singleton,
      List.singleton_append, Nat.ofDigits_cons, Nat.add_comm]

/-- Zeros in front do not count. -/
theorem ofDigits_dropWhile (ds : List Nat) :
    ofDigits (ds.dropWhile (· = 0)) = ofDigits ds := by
  induction ds with
  | nil => rfl
  | cons d ds ih =>
    by_cases hd : d = 0
    · subst hd
      rw [List.dropWhile_cons_of_pos (by simp), ih]
      rfl
    · rw [List.dropWhile_cons_of_neg (by simpa using hd)]

/-- Without zeros in front a number has its digits in one way. -/
theorem eq_of_ofDigits {ds es : List Nat} (hds : ∀ d ∈ ds, d < 58) (hes : ∀ e ∈ es, e < 58)
    (hd : ds.head? ≠ some 0) (he : es.head? ≠ some 0) (h : ofDigits ds = ofDigits es) :
    ds = es := by
  have hdigits {xs : List Nat} (hxs : ∀ x ∈ xs, x < 58) (hx : xs.head? ≠ some 0) :
      Nat.digits 58 (ofDigits xs) = xs.reverse := by
    rw [ofDigits_eq]
    refine Nat.digits_ofDigits 58 (by decide) _ (fun x hmem => hxs x (List.mem_reverse.mp hmem)) ?_
    intro hne hlast
    refine hx ?_
    rw [← List.getLast?_reverse, List.getLast?_eq_some_getLast hne, hlast]
  have hsame := congrArg (Nat.digits 58) h
  rw [hdigits hds hd, hdigits hes he] at hsame
  exact List.reverse_injective hsame

/-! ### Bytes -/

/-- The bytes of a number as numbers: its digits in base 256. -/
theorem map_toNat_bytesOf (n : Nat) : (bytesOf n).map UInt8.toNat = (Nat.digits 256 n).reverse := by
  fun_induction bytesOf n with
  | case1 => rfl
  | case2 n hn ih =>
    have hbyte : (UInt8.ofNat (n % 256)).toNat = n % 256 := by simp
    have hdigits : Nat.digits 256 n = n % 256 :: Nat.digits 256 (n / 256) :=
      Nat.digits_def' (by decide) (Nat.pos_of_ne_zero hn)
    rw [List.map_append, ih, List.map_singleton, hbyte, hdigits, List.reverse_cons]

theorem bytesOf_injective {n m : Nat} (h : bytesOf n = bytesOf m) : n = m := by
  have hdigits := congrArg (List.map UInt8.toNat) h
  rw [map_toNat_bytesOf, map_toNat_bytesOf] at hdigits
  exact Nat.digits.injective 256 (List.reverse_injective hdigits)

/-- The first byte of a number is not zero. -/
theorem head?_bytesOf (n : Nat) : (bytesOf n).head? ≠ some 0 := by
  intro hhead
  have hzero : ((bytesOf n).map UInt8.toNat).head? = some 0 := by
    rw [List.head?_map, hhead]
    rfl
  rw [map_toNat_bytesOf, List.head?_reverse] at hzero
  have hne : n ≠ 0 := by
    rintro rfl
    cases hzero
  have hdigits : Nat.digits 256 n ≠ [] := Nat.digits_ne_nil_iff_ne_zero.mpr hne
  rw [List.getLast?_eq_some_getLast hdigits] at hzero
  exact Nat.getLast_digit_ne_zero 256 hne (Option.some.inj hzero)

/-- How many zeros are in front, and what comes after them, is told by the list. -/
theorem eq_of_replicate_append {α : Type} {x : α} {m n : Nat} {xs ys : List α}
    (hxs : xs.head? ≠ some x) (hys : ys.head? ≠ some x)
    (h : List.replicate m x ++ xs = List.replicate n x ++ ys) : m = n ∧ xs = ys := by
  induction m generalizing n with
  | zero =>
    cases n with
    | zero => exact ⟨rfl, h⟩
    | succ n =>
      refine absurd ?_ hxs
      rw [List.replicate_zero, List.nil_append] at h
      rw [h]
      rfl
  | succ m ih =>
    cases n with
    | zero =>
      refine absurd ?_ hys
      rw [List.replicate_zero, List.nil_append] at h
      rw [← h]
      rfl
    | succ n =>
      rw [List.replicate_succ, List.replicate_succ, List.cons_append, List.cons_append] at h
      obtain ⟨rfl, hrest⟩ := ih (List.cons.inj h).2
      exact ⟨rfl, hrest⟩

/-! ### Texts -/

theorem decode?_eq_some {s : String} {bytes : List UInt8} :
    decode? s = some bytes ↔ ∃ ds, s.toList.mapM digit? = some ds ∧
      bytes = List.replicate (ds.takeWhile (· = 0)).length 0 ++ bytesOf (ofDigits ds) := by
  simp only [decode?, Option.bind_eq_bind, Option.bind_eq_some_iff, Option.pure_def,
    Option.some.injEq, @eq_comm _ bytes]

/-- Texts that denote bytes are ASCII. -/
theorem decode?_isAscii {s : String} {bytes : List UInt8} (h : decode? s = some bytes) :
    Text.IsAscii s := by
  obtain ⟨ds, hds, -⟩ := decode?_eq_some.mp h
  exact ascii_of_mapM_digit? hds

theorem takeWhile_zero (ds : List Nat) :
    ds.takeWhile (· = 0) = List.replicate (ds.takeWhile (· = 0)).length 0 :=
  List.eq_replicate_iff.mpr ⟨rfl, fun d hd => by simpa using List.mem_takeWhile_imp hd⟩

theorem head?_dropWhile_zero (ds : List Nat) : (ds.dropWhile (· = 0)).head? ≠ some 0 := by
  intro hhead
  have hfirst := List.head?_dropWhile_not (fun d : Nat => decide (d = 0)) ds
  rw [hhead] at hfirst
  exact absurd rfl (of_decide_eq_false hfirst)

/-- Two texts that denote the same bytes are the same text. -/
theorem decode?_injective {s s' : String} {bytes : List UInt8} (h : decode? s = some bytes)
    (h' : decode? s' = some bytes) : s = s' := by
  obtain ⟨ds, hds, rfl⟩ := decode?_eq_some.mp h
  obtain ⟨es, hes, hsame⟩ := decode?_eq_some.mp h'
  obtain ⟨hzeros, hbytes⟩ := eq_of_replicate_append (head?_bytesOf _) (head?_bytesOf _) hsame
  have hnumber : ofDigits (ds.dropWhile (· = 0)) = ofDigits (es.dropWhile (· = 0)) := by
    rw [ofDigits_dropWhile, ofDigits_dropWhile]
    exact bytesOf_injective hbytes
  have hrest : ds.dropWhile (· = 0) = es.dropWhile (· = 0) :=
    eq_of_ofDigits (fun d hd => digits_lt hds d ((List.dropWhile_suffix _).subset hd))
      (fun e he => digits_lt hes e ((List.dropWhile_suffix _).subset he)) (head?_dropWhile_zero ds)
      (head?_dropWhile_zero es) hnumber
  have hfront : ds.takeWhile (· = 0) = es.takeWhile (· = 0) := by
    rw [takeWhile_zero ds, takeWhile_zero es, hzeros]
  have hdigits : ds = es := by
    rw [← List.takeWhile_append_dropWhile (p := (· = 0)) (l := ds), hfront, hrest,
      List.takeWhile_append_dropWhile]
  subst hdigits
  exact String.toList_inj.mp (eq_of_mapM_digit? hds hes)

end AddressIndex.Base58
