import AddressIndex.Proofs.Saves

/-! What is stored of one signature in an address's history, when its saves disagree. Each row is
kept by its own key alone, so the transaction is that of the first save, and a later one adds the
balance changes and transfers under keys that no earlier one had: rows of several decodings can
stand side by side. -/

namespace AddressIndex.Store

variable {address signature : String} {clock : Instant} {db db' : Database} {made : List Made}
  {last : Made}

section Firsts

variable {α κ β : Type} [DecidableEq κ] {key : α → κ} {f : β → List α} {v : β} {later : List β}

/-- Rows under keys of the first list change nothing. -/
theorem insertAll_flatMap_of_keys (h : ∀ w ∈ later, ∀ row ∈ f w, key row ∈ (f v).map key) :
    insertAll key [] ((v :: later).flatMap f) = insertAll key [] (f v) := by
  rw [List.flatMap_cons, insertAll_append]
  refine insertAll_of_mem fun row hrow => mem_keys_insertAll.mpr (.inr ?_)
  obtain ⟨w, hw, hrow⟩ := List.mem_flatMap.mp hrow
  exact h w hw row hrow

/-- All rows that are kept are of the first list exactly if no later one has a key that it lacks. -/
theorem insertAll_flatMap_subset :
    insertAll key [] ((v :: later).flatMap f) ⊆ f v ↔
      ∀ w ∈ later, ∀ row ∈ f w, key row ∈ (f v).map key := by
  constructor
  · intro hsub w hw row hrow
    have hoffered : row ∈ (v :: later).flatMap f :=
      List.mem_flatMap.mpr ⟨w, List.mem_cons_of_mem v hw, hrow⟩
    have hkept : key row ∈ (insertAll key [] ((v :: later).flatMap f)).map key :=
      mem_keys_insertAll.mpr (.inr (List.mem_map_of_mem hoffered))
    exact List.map_subset key hsub hkept
  · intro h row hrow
    rw [insertAll_flatMap_of_keys h] at hrow
    rcases mem_insertAll hrow with hnone | ⟨hfirst, -⟩
    · cases hnone
    · exact hfirst

end Firsts

/-! ### Versions of a transaction -/

/-- What a save says of a signature in an address's history, each time with the time of the save. -/
def Made.versions (address signature : String) : Made → List (Int × Indexed) :=
  offered fun owner now t =>
    if owner = address ∧ t.signature = signature then [(now, t)] else []

/-- The rows of one address and signature, told by their keys. -/
structure Under {α κ : Type} (address signature : String) (key : α → κ)
    (rows : String → Int → Indexed → List α) (p : α → Bool) : Prop where
  congr (a b : α) : key a = key b → p a = p b
  ofRows (owner : String) (now : Int) (t : Indexed) :
    ∀ row ∈ rows owner now t, p row = decide (owner = address ∧ t.signature = signature)

def TransactionRow.isOf (address signature : String) (row : TransactionRow) : Bool :=
  row.owner = address && row.signature = signature

theorem under_transactions : Under address signature TransactionRow.key
    (fun owner now t => [.ofIndexed owner now t]) (·.isOf address signature) where
  congr a b h := by
    simp only [TransactionRow.key, Prod.mk.injEq] at h
    simp only [TransactionRow.isOf, h]
  ofRows owner now t row hrow := by
    obtain rfl := List.mem_singleton.mp hrow
    exact (Bool.decide_and _ _).symm

theorem under_balances : Under address signature BalanceRow.key
    (fun owner _ => BalanceRow.ofIndexed owner) (·.isOf address signature) where
  congr _ _ := BalanceRow.isOf_congr
  ofRows owner now t row hrow := by
    obtain ⟨change, -, rfl⟩ := List.mem_map.mp hrow
    exact (Bool.decide_and _ _).symm

theorem under_transfers : Under address signature TransferRow.key
    (fun owner _ => TransferRow.ofIndexed owner) (·.isOf address signature) where
  congr _ _ := TransferRow.isOf_congr
  ofRows owner now t row hrow := by
    obtain ⟨transfer, -, rfl⟩ := List.mem_map.mp hrow
    exact (Bool.decide_and _ _).symm

namespace Under

variable {α κ : Type} {key : α → κ} {rows : String → Int → Indexed → List α} {p : α → Bool}

theorem filter_rows (under : Under address signature key rows p) (owner : String) (now : Int)
    (t : Indexed) : (rows owner now t).filter p =
      if owner = address ∧ t.signature = signature then rows owner now t else [] := by
  have hrows := under.ofRows owner now t
  split
  next hof => exact List.filter_eq_self.mpr fun row hrow => by rw [hrows row hrow]; simpa using hof
  next hno =>
    exact List.filter_eq_nil_iff.mpr fun row hrow => by rw [hrows row hrow]; simpa using hno

theorem filter_offered (under : Under address signature key rows p) :
    (last.offered rows).filter p =
      (last.versions address signature).flatMap fun v => rows address v.1 v.2 := by
  unfold Made.versions Made.offered
  split
  next clock owner ts whole count =>
    rw [List.filter_flatMap, List.flatMap_assoc]
    refine List.flatMap_congr fun t _ => ?_
    rw [under.filter_rows]
    by_cases hof : owner = address ∧ t.signature = signature
    · obtain ⟨rfl, rfl⟩ := hof
      simp only [and_self, if_true, List.flatMap_singleton]
    · simp only [if_neg hof, List.flatMap_nil]
  next => rfl

variable [DecidableEq κ] {table : Tables → List α}

/-- What is stored of a signature are the rows of its versions that come first with their keys. -/
theorem filter_of_blank (under : Under address signature key rows p)
    (fills : Fills table key rows) (hblank : table .blank = [])
    (h : Calls (.ready .blank) made db) :
    (table db.tables).filter p = insertAll key []
      ((made.flatMap (Made.versions address signature)).flatMap fun v => rows address v.1 v.2) := by
  rw [fills.calls h, filter_insertAll_key under.congr, List.filter_flatMap, List.flatMap_assoc]
  simp only [under.filter_offered]
  change insertAll key ((table .blank).filter p) _ = _
  rw [hblank, List.filter_nil]

/-- All that is stored of a signature is of its first version exactly if no later one has a key that
it lacks. -/
theorem subset_first_iff {v : Int × Indexed} {later : List (Int × Indexed)}
    (under : Under address signature key rows p) (fills : Fills table key rows)
    (hblank : table .blank = []) (h : Calls (.ready .blank) made db)
    (hversions : made.flatMap (Made.versions address signature) = v :: later) :
    (table db.tables).filter p ⊆ rows address v.1 v.2 ↔
      ∀ w ∈ later, ∀ row ∈ rows address w.1 w.2, key row ∈ (rows address v.1 v.2).map key := by
  rw [under.filter_of_blank fills hblank h, hversions]
  exact insertAll_flatMap_subset

theorem filter_call (under : Under address signature key rows p) (fills : Fills table key rows)
    (h : last.call.Goes last.clock db last.result db') :
    (table db'.tables).filter p = insertAll key ((table db.tables).filter p)
      ((last.versions address signature).flatMap fun v => rows address v.1 v.2) := by
  rw [fills.call h, filter_insertAll_key under.congr, under.filter_offered]

end Under

/-! ### Rows of several versions -/

/-- What the tables hold of one signature in an address's history, by the versions of it that were
saved, the first save first. -/
structure HoldsFirsts (address signature : String) (versions : List (Int × Indexed))
    (db : Database) : Prop where
  transactions : db.tables.transactions.filter (·.isOf address signature) =
    (versions.head?.map fun v => TransactionRow.ofIndexed address v.1 v.2).toList
  balances : db.tables.balances.filter (·.isOf address signature) =
    (versions.flatMap fun v => BalanceRow.ofIndexed address v.2).eraseDupsBy
      fun a b => a.key = b.key
  transfers : db.tables.transfers.filter (·.isOf address signature) =
    (versions.flatMap fun v => TransferRow.ofIndexed address v.2).eraseDupsBy
      fun a b => a.key = b.key

/-- What a call adds to the rows of a signature in an address's history: those of its versions whose
keys are new. -/
structure AddsNew (address signature : String) (versions : List (Int × Indexed))
    (db db' : Database) : Prop where
  balances :
    let held := db.tables.balances.filter (·.isOf address signature)
    let offered := versions.flatMap fun v => BalanceRow.ofIndexed address v.2
    db'.tables.balances.filter (·.isOf address signature) =
      held ++ (offered.filter fun row => held.all fun old => row.key ≠ old.key).eraseDupsBy
        fun a b => a.key = b.key
  transfers :
    let held := db.tables.transfers.filter (·.isOf address signature)
    let offered := versions.flatMap fun v => TransferRow.ofIndexed address v.2
    db'.tables.transfers.filter (·.isOf address signature) =
      held ++ (offered.filter fun row => held.all fun old => row.key ≠ old.key).eraseDupsBy
        fun a b => a.key = b.key

/-- The first version has the only row of a transaction. -/
theorem insertAll_versions :
    insertAll TransactionRow.key []
        ((made.flatMap (Made.versions address signature)).flatMap fun v =>
          [TransactionRow.ofIndexed address v.1 v.2]) =
      ((made.flatMap (Made.versions address signature)).head?.map fun v =>
        TransactionRow.ofIndexed address v.1 v.2).toList := by
  have hsame : ∀ v ∈ made.flatMap (Made.versions address signature),
      v.2.signature = signature := by
    intro v hv
    obtain ⟨last, -, hv⟩ := List.mem_flatMap.mp hv
    obtain ⟨_, owner, _, _, _, -, t, -, hv⟩ := Made.mem_offered.mp hv
    split at hv
    next hof =>
      obtain rfl := List.mem_singleton.mp hv
      exact hof.2
    next => cases hv
  generalize made.flatMap (Made.versions address signature) = versions at hsame
  cases versions with
  | nil => rfl
  | cons v later =>
    obtain ⟨hfirst, hlater⟩ := List.forall_mem_cons.mp hsame
    rw [insertAll_flatMap_of_keys]
    · rfl
    · intro w hw row hrow
      obtain rfl := List.mem_singleton.mp hrow
      refine List.mem_singleton.mpr ?_
      simp only [TransactionRow.key, TransactionRow.ofIndexed, hfirst, hlater w hw]

theorem Calls.holdsFirsts (h : Calls (.ready .blank) made db) (address signature : String) :
    HoldsFirsts address signature (made.flatMap (Made.versions address signature)) db where
  transactions :=
    (under_transactions.filter_of_blank fills_transactions rfl h).trans insertAll_versions
  balances := (under_balances.filter_of_blank fills_balances rfl h).trans insertAll_nil_eq
  transfers := (under_transfers.filter_of_blank fills_transfers rfl h).trans insertAll_nil_eq

/-- Of a signature in an address's history the tables hold the first row of each key that its
versions have. A further call leaves these rows where they are and adds those of its versions whose
keys are new. So all rows are those of the first version exactly if no later one has a key that it
lacks. -/
theorem Calls.versions_keep_firsts (h : Calls (.ready .blank) made db)
    (address signature : String) :
    let versions := made.flatMap (Made.versions address signature)
    let balances := db.tables.balances.filter (·.isOf address signature)
    let transfers := db.tables.transfers.filter (·.isOf address signature)
    HoldsFirsts address signature versions db ∧
      (∀ (last : Made) (db' : Database), last.call.Goes last.clock db last.result db' →
        HoldsFirsts address signature (versions ++ last.versions address signature) db' ∧
        AddsNew address signature (last.versions address signature) db db') ∧
      ∀ v later, versions = v :: later →
        (balances ⊆ BalanceRow.ofIndexed address v.2 ↔
          ∀ w ∈ later, ∀ row ∈ BalanceRow.ofIndexed address w.2,
            row.key ∈ (BalanceRow.ofIndexed address v.2).map (·.key)) ∧
        (transfers ⊆ TransferRow.ofIndexed address v.2 ↔
          ∀ w ∈ later, ∀ row ∈ TransferRow.ofIndexed address w.2,
            row.key ∈ (TransferRow.ofIndexed address v.2).map (·.key)) := by
  intro versions balances transfers
  refine ⟨h.holdsFirsts address signature, fun last db' goes => ⟨?_, ?_, ?_⟩,
    fun v later hversions => ⟨?_, ?_⟩⟩
  · have hafter := (h.next goes).holdsFirsts address signature
    rwa [List.flatMap_append, List.flatMap_singleton] at hafter
  · exact (under_balances.filter_call fills_balances goes).trans insertAll_eq_append
  · exact (under_transfers.filter_call fills_transfers goes).trans insertAll_eq_append
  · exact under_balances.subset_first_iff fills_balances rfl h hversions
  · exact under_transfers.subset_first_iff fills_transfers rfl h hversions

end AddressIndex.Store

namespace AddressIndex

open Store

/-- A signature that is saved twice for one address, each time with another account that paid. -/
def Sample.savedTwice : List Made :=
  [⟨.whole 0, .query (.save "A" [paid 1 "B" "s"]) (by decide), .ok (⟨1, 1, 0⟩ : SaveCount)⟩,
    ⟨.whole 5, .query (.save "A" [paid 4 "C" "s"]) (by decide), .ok (⟨0, 1, 0⟩ : SaveCount)⟩]

def Sample.twoVersions : Tables :=
  (Query.save "A" [paid 4 "C" "s"]).next 5 ((Query.save "A" [paid 1 "B" "s"]).next 0 .blank)

theorem Sample.calls_savedTwice :
    Calls (.ready .blank) savedTwice (.ready twoVersions) := by
  have hfirst : Calls (.ready .blank) [⟨.whole 0, .query (.save "A" [paid 1 "B" "s"]) (by decide),
      .ok (⟨1, 1, 0⟩ : SaveCount)⟩] _ :=
    Calls.start.next_save rfl (by decide +kernel)
  exact hfirst.next_save rfl (by decide +kernel)

/-- The second version has an account that the first one lacks, so not all balance changes are of
the first one. -/
theorem Store.Calls.versions_keep_firsts_of_two :
    Calls (.ready .blank) Sample.savedTwice (.ready Sample.twoVersions) ∧
      ¬ Sample.twoVersions.balances.filter (·.isOf "A" "s") ⊆
        BalanceRow.ofIndexed "A" (Sample.paid 1 "B" "s") := by
  refine ⟨Sample.calls_savedTwice, fun hsub => ?_⟩
  obtain ⟨-, -, hfirst⟩ := versions_keep_firsts Sample.calls_savedTwice "A" "s"
  have hkeys := (hfirst (0, Sample.paid 1 "B" "s") [(5, Sample.paid 4 "C" "s")] rfl).1.mp hsub
  have hlacks : ¬ ∀ row ∈ BalanceRow.ofIndexed "A" (Sample.paid 4 "C" "s"),
      row.key ∈ (BalanceRow.ofIndexed "A" (Sample.paid 1 "B" "s")).map (·.key) := by
    decide +kernel
  exact hlacks (hkeys _ (List.mem_singleton_self _))

/-- The balance changes of two decoded transactions are stored under one signature, and no one
transaction has them all. -/
theorem Store.Calls.versions_side_by_side :
    Indexed.ofTransaction (Sample.payment 1 "B" "s") "s" = .ok (Sample.paid 1 "B" "s") ∧
      Indexed.ofTransaction (Sample.payment 4 "C" "s") "s" = .ok (Sample.paid 4 "C" "s") ∧
      Calls (.ready .blank) Sample.savedTwice (.ready Sample.twoVersions) ∧
      ¬ ∃ t : Indexed, Sample.twoVersions.balances.filter (·.isOf "A" "s") ⊆
        BalanceRow.ofIndexed "A" t := by
  refine ⟨rfl, rfl, Sample.calls_savedTwice, ?_⟩
  rintro ⟨t, hsub⟩
  -- The rows of a transaction have its slot, and these two have different ones.
  have hslots : ∀ row ∈ Sample.twoVersions.balances.filter (·.isOf "A" "s"),
      row.slot = t.raw.slot := by
    intro row hrow
    obtain ⟨change, -, rfl⟩ := List.mem_map.mp (hsub hrow)
    rfl
  have hone : (1 : Int) = t.raw.slot := hslots ⟨"A", "s", ⟨"B", 2⟩, 1, none⟩ (by decide +kernel)
  have hfour : (4 : Int) = t.raw.slot := hslots ⟨"A", "s", ⟨"C", 2⟩, 4, none⟩ (by decide +kernel)
  omega

end AddressIndex
