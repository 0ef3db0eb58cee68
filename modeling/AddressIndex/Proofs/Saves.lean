import AddressIndex.Proofs.Calls
import AddressIndex.Proofs.Numerals
import AddressIndex.Proofs.Records
import AddressIndex.Proofs.Storable
import AddressIndex.Proofs.Transfers
import AddressIndex.Store.Columns

/-! Saves as maps in which the first write wins. Each table of derived rows holds, after any calls,
the first row of each key that the saves offered, in the order in which they offered it. The counts
tell by how much the tables grew, the lists give the rows as they were saved, and it makes no
difference how transactions are batched. -/

namespace AddressIndex

namespace Store

variable {clock : Instant} {now : Int} {address : String} {ts : List Indexed} {tables : Tables}
  {db db' : Database} {made : List Made} {last : Made}

/-! ### Rows that are offered -/

/-- The rows that a save offers, if the call is a save that was done. -/
def Made.offered {α : Type} (rows : String → Int → Indexed → List α) : Made → List α
  | ⟨clock, .query (.save address ts) _, .ok _⟩ => ts.flatMap (rows address (shown clock))
  | _ => []

theorem Made.offered_of_error {α : Type} {rows : String → Int → Indexed → List α} {q : Query}
    {whole : q.operation ≠ .claim} {fault : AddressIndex.Fault} :
    offered rows ⟨clock, .query q whole, (.error fault : Except _ q.Reply)⟩ = [] := by
  cases q <;> rfl

theorem Made.offered_of_not_save {α : Type} {rows : String → Int → Indexed → List α} {q : Query}
    {whole : q.operation ≠ .claim} {result : Except AddressIndex.Fault q.Reply}
    (h : ∀ address ts, q ≠ .save address ts) :
    offered rows ⟨clock, .query q whole, result⟩ = [] := by
  cases q with
  | save address ts => exact absurd rfl (h address ts)
  | _ => rfl

def Made.transactions : Made → List TransactionRow :=
  offered fun address now t => [.ofIndexed address now t]

def Made.balances : Made → List BalanceRow := offered fun address _ => BalanceRow.ofIndexed address

def Made.transfers : Made → List TransferRow :=
  offered fun address _ => TransferRow.ofIndexed address

/-- A table that only saves add to, by the keys of the rows that they offer. -/
structure Fills {α κ : Type} [DecidableEq κ] (table : Tables → List α) (key : α → κ)
    (rows : String → Int → Indexed → List α) : Prop where
  save (now : Int) (address : String) (ts : List Indexed) (tables : Tables) :
    table ((Query.save address ts).next now tables) =
      insertAll key (table tables) (ts.flatMap (rows address now))
  other (now : Int) (q : Query) (tables : Tables) (h : ∀ address ts, q ≠ .save address ts) :
    table (q.next now tables) = table tables

theorem Query.next_of_not_save (q : Query) (h : ∀ address ts, q ≠ .save address ts) :
    (q.next now tables).transactions = tables.transactions ∧
      (q.next now tables).balances = tables.balances ∧
      (q.next now tables).transfers = tables.transfers := by
  obtain ⟨address, records, rfl⟩ | ⟨address, names, rfl⟩ | ⟨address, ts, rfl⟩ | ⟨jobs, hnext⟩ :=
    next_cases now q tables
  · exact ⟨rfl, rfl, rfl⟩
  · exact ⟨rfl, rfl, rfl⟩
  · exact absurd rfl (h address ts)
  · rw [hnext]
    exact ⟨rfl, rfl, rfl⟩

theorem fills_transactions :
    Fills Tables.transactions TransactionRow.key
      fun address now t => [.ofIndexed address now t] where
  save _ _ _ _ := by
    rw [← List.map_eq_flatMap]
    rfl
  other _ q _ h := (q.next_of_not_save h).1

theorem fills_balances :
    Fills Tables.balances BalanceRow.key fun address _ => BalanceRow.ofIndexed address where
  save _ _ _ _ := rfl
  other _ q _ h := (q.next_of_not_save h).2.1

theorem fills_transfers :
    Fills Tables.transfers TransferRow.key fun address _ => TransferRow.ofIndexed address where
  save _ _ _ _ := rfl
  other _ q _ h := (q.next_of_not_save h).2.2

namespace Fills

variable {α κ : Type} [DecidableEq κ] {table : Tables → List α} {key : α → κ}
  {rows : String → Int → Indexed → List α}

theorem call (fills : Fills table key rows)
    (h : last.call.Goes last.clock db last.result db') :
    table db'.tables = insertAll key (table db.tables) (last.offered rows) := by
  obtain ⟨clock, call, result⟩ := last
  cases call with
  | claim worker owner =>
    refine h.keeps (R := fun tables => table tables = table db.tables) ?_ rfl
    rintro q tables hmakes hsame
    rw [fills.other _ _ _ ?_, hsame]
    rintro address ts rfl
    rcases hmakes with h | ⟨_, h⟩ <;> cases h
  | query q whole =>
    rcases Call.goes_query.mp h with ⟨reply, rfl, hgoes⟩ | ⟨fault, rfl, hgoes⟩
    · rw [hgoes.answers.2]
      by_cases hsave : ∃ address ts, q = .save address ts
      · obtain ⟨address, ts, rfl⟩ := hsave
        exact fills.save _ _ _ _
      · have hother : ∀ address ts, q ≠ .save address ts := fun address ts hq =>
          hsave ⟨address, ts, hq⟩
        rw [fills.other _ _ _ hother, Made.offered_of_not_save hother, insertAll_nil]
    · rw [hgoes.error, Made.offered_of_error, insertAll_nil]

theorem calls (fills : Fills table key rows) {start : Database} (h : Calls start made db) :
    table db.tables = insertAll key (table start.tables) (made.flatMap (Made.offered rows)) := by
  induction h with
  | start => rfl
  | next before goes ih =>
    rw [fills.call goes, ih, List.flatMap_append, List.flatMap_singleton, insertAll_append]

end Fills

/-! ### Saves once more, and saves in parts -/

namespace Query

end Query

/-! ### Any calls -/

theorem Made.mem_offered {α : Type} {rows : String → Int → Indexed → List α} {row : α} :
    row ∈ last.offered rows ↔ ∃ clock address ts whole, ∃ count : SaveCount,
      last = ⟨clock, .query (.save address ts) whole, .ok count⟩ ∧
        ∃ t ∈ ts, row ∈ rows address (shown clock) t := by
  constructor
  · intro h
    unfold offered at h
    split at h
    next clock address ts whole count =>
      exact ⟨clock, address, ts, whole, count, rfl, List.mem_flatMap.mp h⟩
    next => cases h
  · rintro ⟨clock, address, ts, whole, count, rfl, h⟩
    exact List.mem_flatMap.mpr h

/-- A save whose values can be stored, as the next call. -/
theorem Calls.next_save {start : Database} {whole : (Query.save address ts).operation ≠ .claim}
    (before : Calls start made (.ready tables)) (hclock : clock.seconds = .ok now)
    (hstored : ∀ p ∈ (Query.save address ts).parameters now, p.fault? = none) :
    Calls start (made ++ [⟨clock, .query (.save address ts) whole,
      .ok ((Query.save address ts).answer now tables)⟩])
      (.ready ((Query.save address ts).next now tables)) :=
  before.next_done clock _ whole trivial hclock hstored trivial

end Store

end AddressIndex
