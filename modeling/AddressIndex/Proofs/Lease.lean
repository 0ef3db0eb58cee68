import AddressIndex.Proofs.Insert
import Mathlib.Data.List.Sort

/-! Leases and marks. The lease order of an address is read off its own rows, excluded signatures
drop out of it and marked ones too, and the rest keeps its order. -/

namespace AddressIndex.Store

/-! ### Sorting and filtering -/

section Sorting

variable {α : Type} {le : α → α → Bool}

/-- Where a list of small elements and a list of great ones meet. -/
theorem append_eq_append_of_split {p : α → Bool} {xs ys xs' ys' : List α}
    (h : xs ++ ys = xs' ++ ys') (hxs : ∀ x ∈ xs, p x) (hys : ∀ y ∈ ys, ¬ p y)
    (hxs' : ∀ x ∈ xs', p x) (hys' : ∀ y ∈ ys', ¬ p y) : xs = xs' ∧ ys = ys' := by
  have hleft := congrArg (List.filter p) h
  have hright := congrArg (List.filter fun x => !p x) h
  rw [List.filter_append, List.filter_append, List.filter_eq_self.mpr hxs,
    List.filter_eq_self.mpr hxs', List.filter_eq_nil_iff.mpr hys, List.filter_eq_nil_iff.mpr hys',
    List.append_nil, List.append_nil] at hleft
  subst hleft
  exact ⟨rfl, List.append_cancel_left h⟩

/-- A stable sort of what a filter leaves is what the filter leaves of the sorted list. -/
theorem filter_mergeSort (trans : ∀ a b c, le a b → le b c → le a c)
    (total : ∀ a b, le a b || le b a) (p : α → Bool) (xs : List α) :
    (xs.mergeSort le).filter p = (xs.filter p).mergeSort le := by
  induction xs with
  | nil => simp
  | cons a xs ih =>
    obtain ⟨low, high, hsort, hrest, hlow⟩ := List.mergeSort_cons trans total a xs
    rw [hrest, List.filter_append] at ih
    by_cases hp : p a
    · rw [hsort, List.filter_append, List.filter_cons_of_pos hp, List.filter_cons_of_pos hp]
      obtain ⟨low', high', hsort', hrest', hlow'⟩ := List.mergeSort_cons trans total a (xs.filter p)
      -- `a` goes after all that it is not before and before all the others, on both sides
      have hhigh : ∀ b ∈ high, le a b := fun b hb => by
        have := List.pairwise_mergeSort trans total (a :: xs)
        rw [hsort] at this
        exact List.rel_of_pairwise_cons (List.pairwise_append.mp this).2.1 hb
      have hhigh' : ∀ b ∈ high', le a b := fun b hb => by
        have := List.pairwise_mergeSort trans total (a :: xs.filter p)
        rw [hsort'] at this
        exact List.rel_of_pairwise_cons (List.pairwise_append.mp this).2.1 hb
      obtain ⟨rfl, rfl⟩ := append_eq_append_of_split (p := fun b => !le a b) (ih.trans hrest')
        (fun b hb => hlow b (List.mem_of_mem_filter hb))
        (fun b hb => by simp [hhigh b (List.mem_of_mem_filter hb)])
        hlow' (fun b hb => by simp [hhigh' b hb])
      exact hsort'.symm
    · rw [hsort, List.filter_append, List.filter_cons_of_neg hp, List.filter_cons_of_neg hp]
      exact ih

end Sorting

namespace SignatureRow

theorem leasedBefore_trans (a b c : SignatureRow) (hab : a.leasedBefore b)
    (hbc : b.leasedBefore c) : a.leasedBefore c := by
  simp only [leasedBefore] at *
  grind

theorem leasedBefore_total (a b : SignatureRow) : a.leasedBefore b || b.leasedBefore a := by
  simp only [leasedBefore]
  grind

end SignatureRow

/-! ### Leases -/

/-- The signature rows of one owner. -/
def historyOf (owner : String) (rows : List SignatureRow) : List SignatureRow :=
  rows.filter fun row => row.owner = owner

section Lease

variable {rows rows' : List SignatureRow} {owner : String} {exclude names : List String}

theorem mem_leaseOrder {s : String} :
    s ∈ leaseOrder rows owner exclude ↔
      ∃ row ∈ rows, row.isWaiting owner ∧ row.key = s ∧ s ∉ exclude := by
  simp only [leaseOrder, List.mem_map, List.mem_mergeSort, List.mem_filter, SignatureRow.key]
  constructor
  · rintro ⟨row, ⟨hrow, h⟩, rfl⟩
    rw [Bool.and_eq_true] at h
    exact ⟨row, hrow, h.1, rfl, by simpa using h.2⟩
  · rintro ⟨row, hrow, hwaits, rfl, hnot⟩
    exact ⟨row, ⟨hrow, by simpa [hwaits] using hnot⟩, rfl⟩

theorem leaseOrder_nodup (h : (rows.map SignatureRow.key).Nodup) :
    (leaseOrder rows owner exclude).Nodup := by
  refine ((List.mergeSort_perm _ _).map _).nodup_iff.mpr ?_
  exact h.sublist (List.filter_sublist.map _)

/-- Excluded signatures drop out of the lease order. -/
theorem leaseOrder_exclude :
    leaseOrder rows owner exclude =
      (leaseOrder rows owner []).filter fun s => !exclude.contains s := by
  have hsplit : rows.filter (fun row =>
      row.isWaiting owner && !exclude.contains row.record.signature) =
        (rows.filter fun row => row.isWaiting owner && !([] : List String).contains
          row.record.signature).filter fun row => !exclude.contains row.record.signature := by
    simp [List.filter_filter, Bool.and_comm]
  rw [leaseOrder, hsplit, ← filter_mergeSort SignatureRow.leasedBefore_trans
    SignatureRow.leasedBefore_total, leaseOrder, List.filter_map]
  rfl

/-- What is excluded besides drops out of the lease order. -/
theorem leaseOrder_more {front more : List String}
    (hmore : ∀ s, s ∈ more ↔ s ∈ exclude ∨ s ∈ front) :
    leaseOrder rows owner more =
      (leaseOrder rows owner exclude).filter fun s => !front.contains s := by
  rw [leaseOrder_exclude, @leaseOrder_exclude _ _ exclude, List.filter_filter]
  refine List.filter_congr fun s _ => ?_
  have hs := hmore s
  by_cases hexclude : s ∈ exclude <;> by_cases hfront : s ∈ front <;> simp_all

theorem leaseOrder_historyOf :
    leaseOrder (historyOf owner rows) owner exclude = leaseOrder rows owner exclude := by
  have hsame : (historyOf owner rows).filter (fun row =>
      row.isWaiting owner && !exclude.contains row.record.signature) =
        rows.filter fun row => row.isWaiting owner && !exclude.contains row.record.signature := by
    rw [historyOf, List.filter_filter]
    apply List.filter_congr
    intro row _
    by_cases h : row.owner = owner <;> simp [SignatureRow.isWaiting, h]
  rw [leaseOrder, hsame, leaseOrder]

/-- The lease order of an owner depends on the owner's rows alone. -/
theorem leaseOrder_congr (h : historyOf owner rows = historyOf owner rows') :
    leaseOrder rows owner exclude = leaseOrder rows' owner exclude := by
  rw [← leaseOrder_historyOf, h, leaseOrder_historyOf]

theorem limited_of_pos {limit : Int} (h : 1 ≤ limit) (xs : List String) :
    limited limit xs = xs.take limit.toNat :=
  if_neg (by omega)

/-- Under a limit other than zero something is taken of what there is. -/
theorem limited_append {limit : Int} (h : limit ≠ 0) (xs : List String) :
    ∃ rest, xs = limited limit xs ++ rest ∧ (limited limit xs = [] → xs = []) := by
  unfold limited
  split
  next => exact ⟨[], by simp, id⟩
  next hneg =>
    refine ⟨xs.drop limit.toNat, (List.take_append_drop _ _).symm, fun hnil => ?_⟩
    exact (List.take_eq_nil_iff.mp hnil).resolve_left (by omega)

/-- Without repeats, what is left of a list without its front. -/
theorem filter_not_front {front rest : List String} (h : (front ++ rest).Nodup) :
    (front ++ rest).filter (fun s => !front.contains s) = rest := by
  have hdisjoint := List.disjoint_of_nodup_append h
  rw [List.filter_append, List.filter_eq_nil_iff.mpr, List.nil_append, List.filter_eq_self.mpr]
  · intro s hs
    simpa using fun hfront => hdisjoint hfront hs
  · intro s hs
    simpa using hs

/-! ### Marks -/

/-- One row of `markRows`. -/
def SignatureRow.mark (owner : String) (names : List String) (row : SignatureRow) : SignatureRow :=
  if row.isWaiting owner && names.contains row.record.signature then { row with processed := true }
  else row

theorem markRows_eq_map : markRows rows owner names = rows.map (.mark owner names) := rfl

namespace SignatureRow

variable {row : SignatureRow}

@[simp] theorem key_mark : (row.mark owner names).key = row.key := by
  unfold mark
  split <;> rfl

@[simp] theorem record_mark : (row.mark owner names).record = row.record := by
  unfold mark
  split <;> rfl

@[simp] theorem owner_mark : (row.mark owner names).owner = row.owner := by
  unfold mark
  split <;> rfl

theorem mark_of_ne (h : row.owner ≠ owner) : row.mark owner names = row := by
  simp [mark, isWaiting, h]

theorem isWaiting_mark :
    (row.mark owner names).isWaiting owner =
      (row.isWaiting owner && !names.contains row.record.signature) := by
  unfold mark
  split
  next h =>
    rw [Bool.and_eq_true] at h
    rw [h.2, Bool.not_true, Bool.and_false]
    simp [isWaiting]
  next h =>
    rw [Bool.and_eq_true, not_and] at h
    by_cases hwaits : row.isWaiting owner
    · rw [hwaits, Bool.eq_false_iff.mpr (h hwaits), Bool.not_false, Bool.and_true]
    · rw [Bool.eq_false_iff.mpr hwaits, Bool.false_and]

theorem mark_append {more : List String} :
    row.mark owner (names ++ more) = (row.mark owner names).mark owner more := by
  by_cases h : row.isWaiting owner && names.contains row.record.signature
  · have done : (row.mark owner names).isWaiting owner = false := by
      rw [isWaiting_mark]
      rw [Bool.and_eq_true] at h
      rw [h.2, Bool.not_true, Bool.and_false]
    have same : row.mark owner (names ++ more) = row.mark owner names := by
      rw [Bool.and_eq_true] at h
      simp only [mark, h, List.contains_append, Bool.true_or, Bool.and_self, if_true]
    rw [same]
    conv_rhs => rw [mark, done, Bool.false_and, if_neg Bool.false_ne_true]
  · have same : row.mark owner names = row := if_neg h
    rw [same]
    rw [Bool.and_eq_true, not_and] at h
    by_cases hwaits : row.isWaiting owner
    · simp only [mark, hwaits, List.contains_append, Bool.eq_false_iff.mpr (h hwaits),
        Bool.false_or]
    · simp only [mark, Bool.eq_false_iff.mpr hwaits, Bool.false_and]

end SignatureRow

@[simp] theorem markRows_nil : markRows rows owner [] = rows := by
  simp [markRows]

@[simp] theorem map_key_markRows :
    (markRows rows owner names).map SignatureRow.key = rows.map SignatureRow.key := by
  simp [markRows_eq_map, Function.comp_def]

theorem markRows_append {more : List String} :
    markRows rows owner (names ++ more) = markRows (markRows rows owner names) owner more := by
  simp [markRows_eq_map, Function.comp_def, SignatureRow.mark_append]

theorem historyOf_markRows :
    historyOf owner (markRows rows owner names) = markRows (historyOf owner rows) owner names := by
  rw [historyOf, markRows_eq_map, List.filter_map, markRows_eq_map, historyOf]
  simp only [Function.comp_def, SignatureRow.owner_mark]

/-- A mark for one owner leaves the rows of the others. -/
theorem historyOf_markRows_of_ne {other : String} (h : other ≠ owner) :
    historyOf other (markRows rows owner names) = historyOf other rows := by
  rw [historyOf, markRows_eq_map, List.filter_map]
  simp only [Function.comp_def, SignatureRow.owner_mark]
  refine (List.map_congr_left fun row hrow => ?_).trans (List.map_id _)
  have howner : row.owner = other := by simpa using (List.mem_filter.mp hrow).2
  exact SignatureRow.mark_of_ne (howner.trans_ne h)

/-- Marked signatures drop out of the lease order. -/
theorem leaseOrder_markRows :
    leaseOrder (markRows rows owner names) owner exclude =
      (leaseOrder rows owner exclude).filter fun s => !names.contains s := by
  have hleft : (markRows rows owner names).filter (fun row =>
      row.isWaiting owner && !exclude.contains row.record.signature) =
        (rows.filter fun row =>
          row.isWaiting owner && !exclude.contains row.record.signature).filter
            fun row => !names.contains row.record.signature := by
    rw [markRows_eq_map, List.filter_map, List.filter_filter]
    simp only [Function.comp_def, SignatureRow.isWaiting_mark, SignatureRow.record_mark]
    -- a row that still waits after the mark was not changed by it
    refine (List.map_congr_left fun row hrow => ?_).trans
      ((List.map_id _).trans (List.filter_congr fun row _ => ?_))
    · have hkept := (List.mem_filter.mp hrow).2
      rw [Bool.and_eq_true, Bool.and_eq_true, Bool.not_eq_true'] at hkept
      simp only [SignatureRow.mark, hkept.1.2, Bool.and_false, Bool.false_eq_true, if_false, id]
    · rw [Bool.and_right_comm, Bool.and_comm]
  rw [leaseOrder, hleft, leaseOrder, List.filter_map,
    filter_mergeSort SignatureRow.leasedBefore_trans SignatureRow.leasedBefore_total]
  rfl

/-- How many rows two marks change, one after the other. -/
theorem countP_mark_append {more : List String} :
    (rows.countP fun row => row.isWaiting owner && (names ++ more).contains row.record.signature) =
      (rows.countP fun row => row.isWaiting owner && names.contains row.record.signature) +
        (markRows rows owner names).countP fun row =>
          row.isWaiting owner && more.contains row.record.signature := by
  induction rows with
  | nil => rfl
  | cons row rows ih =>
    rw [markRows_eq_map] at ih ⊢
    rw [List.countP_cons, ih, List.map_cons, List.countP_cons, List.countP_cons,
      SignatureRow.isWaiting_mark, SignatureRow.record_mark, List.contains_append]
    cases row.isWaiting owner <;> cases names.contains row.record.signature <;>
      simp only [Bool.false_and, Bool.true_and, Bool.and_false, Bool.and_true, Bool.false_or,
        Bool.true_or, Bool.not_true, Bool.not_false, Bool.false_eq_true, if_true, if_false] <;>
      omega

theorem Session.markPiece_ok {tables tables' : Tables} {count : Nat}
    (h : (Session.markPiece owner names).run.run tables = (.ok count, tables')) :
    (∀ p ∈ Parameter.text owner :: names.map .text, p.fault? = none) ∧
      tables' = { tables with signatures := markRows tables.signatures owner names } ∧
      count = tables.signatures.countP fun row =>
        row.isWaiting owner && names.contains row.record.signature := by
  unfold Session.markPiece at h
  obtain ⟨_, _, hpass, hrest⟩ := run_bind_ok.mp h
  obtain ⟨hstored, rfl⟩ := Session.passParameters_ok hpass
  cases hrest
  exact ⟨hstored, rfl, rfl⟩

/-- The pieces in which names are passed make no difference to what is marked. -/
theorem Session.markPieces_ok {pieces : List (List String)} {tables tables' : Tables}
    {counts : List Nat}
    (h : (pieces.mapM (Session.markPiece owner)).run.run tables = (.ok counts, tables')) :
    tables' = { tables with signatures := markRows tables.signatures owner pieces.flatten } ∧
      total counts = tables.signatures.countP fun row =>
        row.isWaiting owner && pieces.flatten.contains row.record.signature := by
  induction pieces generalizing tables counts with
  | nil =>
    cases h
    simp
  | cons names pieces ih =>
    rw [List.mapM_cons] at h
    obtain ⟨count, mid, hpiece, hrest⟩ := run_bind_ok.mp h
    obtain ⟨counts, _, hpieces, hpure⟩ := run_bind_ok.mp hrest
    cases hpure
    obtain ⟨-, rfl, rfl⟩ := Session.markPiece_ok hpiece
    obtain ⟨htables, htotal⟩ := ih hpieces
    rw [htables, List.flatten_cons, markRows_append, countP_mark_append, total_cons, htotal]
    exact ⟨rfl, rfl⟩

end Lease

end AddressIndex.Store
