import AddressIndex.Proofs.Storable

/-! Replays. What indexing does to the tables, apart from when: records that are stored, and
signatures that are worked off, which is to save what is derived from them and to mark those that
gave something. Pieces that are stored or worked off in a row make no difference, and neither does a
piece that is stored or saved once more. So signatures that were worked off in part can be worked
off again from the start. -/

namespace AddressIndex.Store

/-! ### Tables apart from times -/

def SignatureRow.untimed (row : SignatureRow) : SignatureRow := { row with created := 0 }

def TransactionRow.untimed (row : TransactionRow) : TransactionRow := { row with created := 0 }

/-- The tables with all rows of indexing made at one time. -/
def Tables.untimed (tables : Tables) : Tables := { tables with
  signatures := tables.signatures.map (·.untimed)
  transactions := tables.transactions.map (·.untimed) }

section Untimed

variable {tables : Tables} {address : String} {exclude : List String}

theorem nodup_keys_untimed : (tables.untimed.signatures.map SignatureRow.key).Nodup ↔
    (tables.signatures.map SignatureRow.key).Nodup := by
  rw [show tables.untimed.signatures.map SignatureRow.key = tables.signatures.map SignatureRow.key
    from List.map_map]

theorem SignatureRow.untimed_mark {owner : String} {names : List String} (row : SignatureRow) :
    (row.mark owner names).untimed = row.untimed.mark owner names := by
  have hsame : (row.untimed.isWaiting owner && names.contains row.untimed.record.signature) =
      (row.isWaiting owner && names.contains row.record.signature) := rfl
  unfold mark
  rw [hsame]
  split <;> rfl

/-- When a query of indexing is made shows in the times alone. -/
theorem Query.untimed_next {q : Query} (hq : q.Indexes) (now : Int) :
    (q.next now tables).untimed = q.next 0 tables.untimed := by
  cases q with
  | append address records =>
    simp only [next, Tables.untimed]
    rw [map_insertAll (f := SignatureRow.untimed) fun _ => rfl, List.map_map]
    rfl
  | lease address limit exclude => rfl
  | mark address names =>
    simp only [next, Tables.untimed, markRows_eq_map, List.map_map, Function.comp_def,
      SignatureRow.untimed_mark]
  | save address ts =>
    simp only [next, Tables.untimed]
    rw [map_insertAll (f := TransactionRow.untimed) fun _ => rfl, List.map_map]
    rfl
  | _ => exact hq.elim

theorem leaseOrder_untimed (rows : List SignatureRow) :
    leaseOrder (rows.map (·.untimed)) address exclude = leaseOrder rows address exclude := by
  simp only [leaseOrder, List.filter_map, Function.comp_def]
  rw [← List.map_mergeSort (f := SignatureRow.untimed) fun _ _ _ _ => rfl, List.map_map]
  rfl

end Untimed

/-! ### Storing and working off -/

namespace Tables

variable {address : String} {derived : String → Option Indexed} {tables : Tables}
  {names more : List String}

/-- The tables with records stored in an address's history. -/
def stored (address : String) (records : List SignatureRecord) (tables : Tables) : Tables :=
  (Query.append address records).next 0 tables

/-- The tables with what is derived from signatures saved. -/
def saved (address : String) (derived : String → Option Indexed) (names : List String)
    (tables : Tables) : Tables :=
  (Query.save address (names.filterMap derived)).next 0 tables

/-- The tables with the signatures marked that something is derived from. -/
def marked (address : String) (derived : String → Option Indexed) (names : List String)
    (tables : Tables) : Tables :=
  (Query.mark address (names.filter fun s => (derived s).isSome)).next 0 tables

/-- The tables with signatures worked off. -/
def worked (address : String) (derived : String → Option Indexed) (names : List String)
    (tables : Tables) : Tables :=
  (tables.saved address derived names).marked address derived names

theorem stored_append (records later : List SignatureRecord) :
    tables.stored address (records ++ later) =
      (tables.stored address records).stored address later := by
  simp only [stored, Query.next, List.map_append, insertAll_append]

theorem keys_stored (records : List SignatureRecord) (s : String) :
    s ∈ (tables.stored address records).signatures.map SignatureRow.key ↔
      s ∈ tables.signatures.map SignatureRow.key ∨ s ∈ records.map (·.signature) := by
  simp only [stored, Query.next, mem_keys_insertAll, List.map_map]
  rfl

theorem stored_of_mem {records : List SignatureRecord}
    (h : ∀ r ∈ records, r.signature ∈ tables.signatures.map SignatureRow.key) :
    tables.stored address records = tables := by
  have hrows : ∀ row ∈ records.map fun r => (⟨address, r, false, 0⟩ : SignatureRow),
      row.key ∈ tables.signatures.map SignatureRow.key := by
    intro row hrow
    obtain ⟨r, hr, rfl⟩ := List.mem_map.mp hrow
    exact h r hr
  simp only [stored, Query.next, insertAll_of_mem hrows]

/-- Records that were stored up to a point are stored from the start as if nothing had been done. -/
theorem stored_resumed {records later : List SignatureRecord} :
    (tables.stored address records).stored address (records ++ later) =
      tables.stored address (records ++ later) := by
  have hagain : (tables.stored address records).stored address records =
      tables.stored address records :=
    stored_of_mem fun r hr => (keys_stored records r.signature).mpr
      (.inr (List.mem_map_of_mem hr))
  rw [stored_append, stored_append, hagain]

theorem nodup_stored (h : (tables.signatures.map SignatureRow.key).Nodup)
    (records : List SignatureRecord) :
    ((tables.stored address records).signatures.map SignatureRow.key).Nodup :=
  nodup_insertAll h

theorem signatures_saved : (tables.saved address derived names).signatures = tables.signatures :=
  rfl

@[simp] theorem saved_nil : tables.saved address derived [] = tables := rfl

theorem saved_append :
    tables.saved address derived (names ++ more) =
      (tables.saved address derived names).saved address derived more := by
  simp only [saved, Query.next, List.filterMap_append, List.map_append, List.flatMap_append,
    insertAll_append]

theorem saved_again :
    (tables.saved address derived names).saved address derived names =
      tables.saved address derived names := by
  simp only [saved, Query.next, insertAll_again]

theorem marked_append :
    tables.marked address derived (names ++ more) =
      (tables.marked address derived names).marked address derived more := by
  simp only [marked, Query.next, List.filter_append, markRows_append]

theorem saved_marked :
    (tables.marked address derived names).saved address derived more =
      (tables.saved address derived more).marked address derived names := rfl

@[simp] theorem worked_nil : tables.worked address derived [] = tables := by
  simp [worked, marked, Query.next]

theorem worked_append :
    tables.worked address derived (names ++ more) =
      (tables.worked address derived names).worked address derived more := by
  simp only [worked, saved_append, marked_append, saved_marked]

theorem worked_saved :
    (tables.saved address derived names).worked address derived names =
      tables.worked address derived names := by
  simp only [worked, saved_again]

/-- Only the signatures that something is derived from show in the tables. -/
theorem worked_congr (h : (names.filter fun s => (derived s).isSome) =
      more.filter fun s => (derived s).isSome) :
    tables.worked address derived names = tables.worked address derived more := by
  have hsome : ∀ names : List String, names.filterMap derived =
      (names.filter fun s => (derived s).isSome).filterMap derived := fun names => by
    rw [List.filterMap_filter]
    refine List.filterMap_congr fun s _ => ?_
    cases derived s <;> rfl
  simp only [worked, marked, saved]
  rw [hsome names, hsome more, h]

theorem keys_worked :
    (tables.worked address derived names).signatures.map SignatureRow.key =
      tables.signatures.map SignatureRow.key :=
  map_key_markRows

theorem leaseOrder_worked {exclude : List String} :
    leaseOrder (tables.worked address derived names).signatures address exclude =
      (leaseOrder tables.signatures address exclude).filter fun s =>
        !(names.filter fun s => (derived s).isSome).contains s :=
  leaseOrder_markRows

/-- What was leased is worked off or excluded, so what is leased next comes after it. -/
theorem leaseOrder_rest {exclude leased rest : List String}
    (hwaiting : leaseOrder tables.signatures address exclude = leased ++ rest)
    (hnodup : (leased ++ rest).Nodup) :
    leaseOrder (tables.worked address derived leased).signatures address
      (exclude ++ leased.filter fun s => !(derived s).isSome) = rest := by
  rw [leaseOrder_worked, leaseOrder_more fun s => List.mem_append, hwaiting, List.filter_filter]
  refine (List.filter_congr fun s hs => ?_).trans (filter_not_front hnodup)
  by_cases hleased : s ∈ leased
  · cases hderived : derived s <;> simp [hleased, hderived]
  · simp [hleased]

/-- Signatures that were worked off up to a point, and a piece more that was saved but not marked:
to work off what is left then ends as if they were worked off from the start. -/
theorem worked_resumed {done piece rest left : List String} {reached : Tables}
    (hleft : left = (done ++ (piece ++ rest)).filter fun s =>
      !(done.filter fun s => (derived s).isSome).contains s)
    (hnodup : (done ++ (piece ++ rest)).Nodup)
    (hreached : reached = (tables.worked address derived done).saved address derived piece) :
    reached.worked address derived left =
      tables.worked address derived (done ++ (piece ++ rest)) := by
  -- of what was done only the failures are left, and nothing is derived from them
  have hsame : (left.filter fun s => (derived s).isSome) =
      (piece ++ rest).filter fun s => (derived s).isSome := by
    rw [hleft, List.filter_filter, List.filter_append, List.filter_eq_nil_iff.mpr, List.nil_append]
    · refine List.filter_congr fun s hs => ?_
      have hnot : s ∉ done := fun hdone => List.disjoint_of_nodup_append hnodup hdone hs
      simp [hnot]
    · intro s hs
      simpa [hs] using Option.isSome_iff_ne_none.mp
  rw [worked_congr hsame, worked_append, worked_append, worked_append, hreached, worked_saved]

end Tables

end AddressIndex.Store
