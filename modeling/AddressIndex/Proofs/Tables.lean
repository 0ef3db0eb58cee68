import AddressIndex.Proofs.Query

/-! What queries can do to the tables. Rows stay: `Grows` is kept by every query. The rows of a
table keep different keys. And a new row, or a signature newly marked, tells the query that it comes
from. -/

namespace AddressIndex.Store

/-- No two rows of a table have one key. -/
structure Tables.Keyed (tables : Tables) : Prop where
  signatures : (tables.signatures.map SignatureRow.key).Nodup
  transactions : (tables.transactions.map TransactionRow.key).Nodup
  balances : (tables.balances.map BalanceRow.key).Nodup
  transfers : (tables.transfers.map TransferRow.key).Nodup

theorem Tables.Keyed.blank : (Database.ready .blank).tables.Keyed := ⟨.nil, .nil, .nil, .nil⟩

/-- Rows of `before` are in `after` with what they tell. A signature may have become processed. -/
structure Tables.Grows (before after : Tables) : Prop where
  signatures : ∀ row ∈ before.signatures, ∃ row' ∈ after.signatures,
    row'.owner = row.owner ∧ row'.record = row.record ∧ (row.processed → row'.processed)
  transactions : before.transactions ⊆ after.transactions
  balances : before.balances ⊆ after.balances
  transfers : before.transfers ⊆ after.transfers

namespace Tables.Grows

theorem refl (tables : Tables) : tables.Grows tables :=
  ⟨fun row hrow => ⟨row, hrow, rfl, rfl, id⟩, List.Subset.refl _, List.Subset.refl _,
    List.Subset.refl _⟩

theorem trans {before mid after : Tables} (h₁ : before.Grows mid) (h₂ : mid.Grows after) :
    before.Grows after := by
  refine ⟨fun row hrow => ?_, List.Subset.trans h₁.transactions h₂.transactions,
    List.Subset.trans h₁.balances h₂.balances, List.Subset.trans h₁.transfers h₂.transfers⟩
  obtain ⟨row', hrow', howner, hrecord, hprocessed⟩ := h₁.signatures row hrow
  obtain ⟨row'', hrow'', howner', hrecord', hprocessed'⟩ := h₂.signatures row' hrow'
  exact ⟨row'', hrow'', howner'.trans howner, hrecord'.trans hrecord, hprocessed' ∘ hprocessed⟩

end Tables.Grows

theorem SignatureRow.mark_grows {row : SignatureRow} {owner : String} {names : List String} :
    row.processed → (row.mark owner names).processed := by
  intro h
  unfold mark
  split
  · rfl
  · exact h

namespace Query

variable {now : Int} {q : Query} {tables : Tables}

/-- A query that adds no rows but jobs, and marks nothing, changes the jobs at most. -/
theorem next_cases (now : Int) (q : Query) (tables : Tables) :
    (∃ address records, q = .append address records) ∨ (∃ address names, q = .mark address names) ∨
      (∃ address ts, q = .save address ts) ∨ ∃ jobs, q.next now tables = { tables with jobs } := by
  cases q with
  | append address records => exact .inl ⟨address, records, rfl⟩
  | mark address names => exact .inr (.inl ⟨address, names, rfl⟩)
  | save address ts => exact .inr (.inr (.inl ⟨address, ts, rfl⟩))
  | addJob address =>
    simp only [next]
    split
    · exact .inr (.inr (.inr ⟨tables.jobs, rfl⟩))
    · exact .inr (.inr (.inr ⟨_, rfl⟩))
  | take id worker owner =>
    simp only [next]
    split
    · exact .inr (.inr (.inr ⟨_, rfl⟩))
    · exact .inr (.inr (.inr ⟨tables.jobs, rfl⟩))
  | updateJob id status worker owner =>
    simp only [next]
    split
    · split
      · exact .inr (.inr (.inr ⟨_, rfl⟩))
      · exact .inr (.inr (.inr ⟨tables.jobs, rfl⟩))
    · exact .inr (.inr (.inr ⟨tables.jobs, rfl⟩))
  | _ => exact .inr (.inr (.inr ⟨tables.jobs, rfl⟩))

theorem next_keyed (h : tables.Keyed) : (q.next now tables).Keyed := by
  obtain ⟨hsignatures, htransactions, hbalances, htransfers⟩ := h
  obtain ⟨address, records, rfl⟩ | ⟨address, names, rfl⟩ | ⟨address, ts, rfl⟩ | ⟨jobs, hnext⟩ :=
    next_cases now q tables
  · exact ⟨nodup_insertAll hsignatures, htransactions, hbalances, htransfers⟩
  · exact ⟨map_key_markRows.symm ▸ hsignatures, htransactions, hbalances, htransfers⟩
  · exact ⟨hsignatures, nodup_insertAll htransactions, nodup_insertAll hbalances,
      nodup_insertAll htransfers⟩
  · rw [hnext]
    exact ⟨hsignatures, htransactions, hbalances, htransfers⟩

/-- Every query keeps the rows. -/
theorem next_grows : tables.Grows (q.next now tables) := by
  obtain ⟨hsignatures, htransactions, hbalances, htransfers⟩ := Tables.Grows.refl tables
  obtain ⟨address, records, rfl⟩ | ⟨address, names, rfl⟩ | ⟨address, ts, rfl⟩ | ⟨jobs, hnext⟩ :=
    next_cases now q tables
  · exact ⟨fun row hrow => ⟨row, prefix_insertAll.subset hrow, rfl, rfl, id⟩, htransactions,
      hbalances, htransfers⟩
  · exact ⟨fun row hrow => ⟨_, List.mem_map_of_mem hrow, SignatureRow.owner_mark,
      SignatureRow.record_mark, SignatureRow.mark_grows⟩, htransactions, hbalances, htransfers⟩
  · exact ⟨hsignatures, prefix_insertAll.subset, prefix_insertAll.subset, prefix_insertAll.subset⟩
  · rw [hnext]
    exact ⟨hsignatures, htransactions, hbalances, htransfers⟩

/-- A signature row was there, or it was there and is marked now, or it is appended now. -/
theorem signature_of_next {row : SignatureRow} (h : row ∈ (q.next now tables).signatures) :
    row ∈ tables.signatures ∨
      (∃ names, q = .mark row.owner names ∧ row.key ∈ names ∧
        { row with processed := false } ∈ tables.signatures) ∨
      ∃ records, q = .append row.owner records ∧ row.record ∈ records ∧ row.processed = false := by
  obtain ⟨address, records, rfl⟩ | ⟨address, names, rfl⟩ | ⟨address, ts, rfl⟩ | ⟨jobs, hnext⟩ :=
    next_cases now q tables
  · rcases mem_insertAll h with hrow | ⟨hrow, -⟩
    · exact .inl hrow
    · obtain ⟨record, hrecord, rfl⟩ := List.mem_map.mp hrow
      exact .inr (.inr ⟨records, rfl, hrecord, rfl⟩)
  · obtain ⟨old, hold, rfl⟩ := List.mem_map.mp h
    split
    next hmarked =>
      rw [Bool.and_eq_true, SignatureRow.isWaiting, Bool.and_eq_true, Bool.not_eq_true'] at hmarked
      obtain ⟨⟨howner, hwaits⟩, hname⟩ := hmarked
      obtain rfl := of_decide_eq_true howner
      refine .inr (.inl ⟨names, rfl, List.contains_iff_mem.mp hname, ?_⟩)
      rwa [← hwaits]
    next => exact .inl hold
  · exact .inl h
  · rw [hnext] at h
    exact .inl h

/-- A transaction row was there, or it is saved now. -/
theorem transaction_of_next {row : TransactionRow} (h : row ∈ (q.next now tables).transactions) :
    row ∈ tables.transactions ∨
      ∃ ts, q = .save row.owner ts ∧ ∃ t ∈ ts, row = .ofIndexed row.owner now t := by
  obtain ⟨address, records, rfl⟩ | ⟨address, names, rfl⟩ | ⟨address, ts, rfl⟩ | ⟨jobs, hnext⟩ :=
    next_cases now q tables
  · exact .inl h
  · exact .inl h
  · rcases mem_insertAll h with hrow | ⟨hrow, -⟩
    · exact .inl hrow
    · obtain ⟨t, ht, rfl⟩ := List.mem_map.mp hrow
      exact .inr ⟨ts, rfl, t, ht, rfl⟩
  · rw [hnext] at h
    exact .inl h

/-- A transfer row was there, or it is saved now. -/
theorem transfer_of_next {row : TransferRow} (h : row ∈ (q.next now tables).transfers) :
    row ∈ tables.transfers ∨
      ∃ ts, q = .save row.owner ts ∧ ∃ t ∈ ts, row ∈ TransferRow.ofIndexed row.owner t := by
  obtain ⟨address, records, rfl⟩ | ⟨address, names, rfl⟩ | ⟨address, ts, rfl⟩ | ⟨jobs, hnext⟩ :=
    next_cases now q tables
  · exact .inl h
  · exact .inl h
  · rcases mem_insertAll h with hrow | ⟨hrow, -⟩
    · exact .inl hrow
    · obtain ⟨t, ht, hrow⟩ := List.mem_flatMap.mp hrow
      have howner : row.owner = address := by
        obtain ⟨_, _, rfl⟩ := List.mem_map.mp hrow
        rfl
      exact .inr ⟨ts, by rw [howner], t, ht, by rwa [howner]⟩
  · rw [hnext] at h
    exact .inl h

/-- Whether the query adds to or marks the signature rows of an owner. -/
def WritesHistory (owner : String) : Query → Prop
  | .append address _ | .mark address _ => address = owner
  | _ => False

/-- The other queries leave the owner's signature rows as they are. -/
theorem historyOf_next {owner : String} (h : ¬ q.WritesHistory owner) :
    historyOf owner (q.next now tables).signatures = historyOf owner tables.signatures := by
  obtain ⟨address, records, rfl⟩ | ⟨address, names, rfl⟩ | ⟨address, ts, rfl⟩ | ⟨jobs, hnext⟩ :=
    next_cases now q tables
  · apply filter_insertAll
    intro row hrow
    obtain ⟨record, -, rfl⟩ := List.mem_map.mp hrow
    exact fun hsame => h (show address = owner from of_decide_eq_true hsame)
  · exact historyOf_markRows_of_ne (Ne.symm h)
  · rfl
  · rw [hnext]

end Query

end AddressIndex.Store
