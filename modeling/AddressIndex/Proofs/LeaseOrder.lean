import AddressIndex.Proofs.Signatures

/-! The order of leases. What an address can lease stands in one order: newer blocks first, those of
unknown time last, and rows of one time as they were inserted. A lease is the front of it. What is
leased and then excluded drops out of the order and nothing else moves, so leases that exclude what
was leased before are consecutive slices. That goes on until there are more names to exclude than
one statement takes: marks name signatures in pieces, leases do not. -/

namespace AddressIndex.Store

variable {rows : List SignatureRow} {owner address : String} {exclude : List String}
  {order other : List SignatureRow} {tables : Tables}

/-! ### The order -/

/-- The first time is after the second; one that is not known is before all that are. -/
def Later : Option Int → Option Int → Prop
  | some x, some y => y < x
  | some _, none => True
  | none, _ => False

instance : (x y : Option Int) → Decidable (Later x y)
  | some x, some y => inferInstanceAs (Decidable (y < x))
  | some _, none => inferInstanceAs (Decidable True)
  | none, _ => inferInstanceAs (Decidable False)

theorem Later.asymm {x y : Option Int} (h : Later x y) : ¬ Later y x := by
  unfold Later at *
  grind

theorem Later.ne {x y : Option Int} (h : Later x y) : x ≠ y := by
  rintro rfl
  exact h.asymm h

/-- `a` stands before `b` in leases from these rows: its block is later, or of the same time and the
row was inserted before. -/
def SignatureRow.Leads (rows : List SignatureRow) (a b : SignatureRow) : Prop :=
  Later a.record.blockTime b.record.blockTime ∨
    a.record.blockTime = b.record.blockTime ∧ [a, b].Sublist rows

instance (a b : SignatureRow) : Decidable (a.Leads rows b) :=
  inferInstanceAs (Decidable (_ ∨ _))

/-- The rows that an owner can lease: its own, unprocessed, and not excluded. -/
def eligible (rows : List SignatureRow) (owner : String) (exclude : List String) :
    List SignatureRow :=
  rows.filter fun row => row.owner = owner ∧ row.processed = false ∧ row.key ∉ exclude

/-- The eligible rows, each once, in the order in which they are leased. -/
structure LeaseOrder (rows : List SignatureRow) (owner : String) (exclude : List String)
    (order : List SignatureRow) : Prop where
  complete : order.Perm (eligible rows owner exclude)
  distinct : (order.map SignatureRow.key).Nodup
  ordered : order.Pairwise (SignatureRow.Leads rows)

/-- Without repeats no two elements stand before each other. -/
theorem eq_of_sublist_pairs {α : Type} {xs : List α} {a b : α} (h : xs.Nodup)
    (hab : [a, b].Sublist xs) (hba : [b, a].Sublist xs) : a = b := by
  induction xs with
  | nil => cases hab
  | cons x xs ih =>
    obtain ⟨hnot, hxs⟩ := List.nodup_cons.mp h
    rcases List.sublist_cons_iff.mp hab with hlater | ⟨rest, hcons, -⟩
    · rcases List.sublist_cons_iff.mp hba with hlater' | ⟨rest, hcons, -⟩
      · exact ih hxs hlater hlater'
      · obtain ⟨rfl, rfl⟩ := List.cons.inj hcons
        exact absurd (hlater.subset (List.mem_cons_of_mem a List.mem_cons_self)) hnot
    · obtain ⟨rfl, rfl⟩ := List.cons.inj hcons
      rcases List.sublist_cons_iff.mp hba with hlater' | ⟨rest, hcons, -⟩
      · exact absurd (hlater'.subset (List.mem_cons_of_mem b List.mem_cons_self)) hnot
      · exact (List.cons.inj hcons).1.symm

theorem SignatureRow.Leads.antisymm {a b : SignatureRow} (h : rows.Nodup) (hab : a.Leads rows b)
    (hba : b.Leads rows a) : a = b := by
  rcases hab with hab | ⟨hsame, hab⟩
  · rcases hba with hba | ⟨hsame, -⟩
    · exact absurd hba hab.asymm
    · exact absurd hsame.symm hab.ne
  · rcases hba with hba | ⟨-, hba⟩
    · exact absurd hsame.symm hba.ne
    · exact eq_of_sublist_pairs h hab hba

theorem LeaseOrder.unique (hrows : rows.Nodup) (h : LeaseOrder rows owner exclude order)
    (h' : LeaseOrder rows owner exclude other) : order = other :=
  (h.complete.trans h'.complete.symm).eq_of_pairwise
    (fun _ _ _ _ hab hba => hab.antisymm hrows hba) h.ordered h'.ordered

/-- On these tables a lease answers with `signatures` at any time, and changes nothing. -/
def Tables.Leases (tables : Tables) (address : String) (limit : Int) (exclude : List String)
    (signatures : List String) : Prop :=
  ∀ clock, ∃ waiting, ((Query.lease address limit exclude).perform clock).run.run (.ready tables) =
    (.ok (⟨signatures, waiting⟩ : Lease), .ready tables)

/-- The signatures that the table knows can be written. -/
def Tables.Written (tables : Tables) : Prop :=
  ∀ s ∈ tables.signatures.map SignatureRow.key, Text.hasHalf s = false

theorem Tables.Written.blank : (Database.ready .blank).tables.Written := nofun

namespace Tables

theorem Leases.unique {limit : Int} {signatures signatures' : List String}
    (h : tables.Leases address limit exclude signatures)
    (h' : tables.Leases address limit exclude signatures') : signatures' = signatures := by
  obtain ⟨_, hrun⟩ := h (.whole 0)
  obtain ⟨_, hrun'⟩ := h' (.whole 0)
  rw [hrun] at hrun'
  cases hrun'
  rfl

end Tables

theorem Calls.keyed {start db : Database} {made : List Made} (h : Calls start made db)
    (hkeyed : start.tables.Keyed) : db.tables.Keyed :=
  h.keeps (fun _ _ _ => Query.next_keyed) hkeyed

/-- Signatures come from appends, and an append passes them to the database. -/
theorem Calls.written {start db : Database} {made : List Made} (h : Calls start made db)
    (hwritten : start.tables.Written) : db.tables.Written := by
  induction h with
  | start => exact hwritten
  | next before goes ih =>
    obtain ⟨clock, address, records, whole, count, rfl, hrows, -⟩ | ⟨_, _, _, _, _, -, hrows, -⟩ |
      ⟨-, hrows⟩ := Made.signatures_cases goes
    · obtain ⟨_, _, hgoes⟩ | ⟨_, ⟨⟩, _⟩ := Call.goes_query.mp goes
      rw [Tables.Written, hrows]
      intro s hs
      rcases mem_keys_insertAll.mp hs with hold | hnew
      · exact ih s hold
      · obtain ⟨row, hrow, rfl⟩ := List.mem_map.mp hnew
        obtain ⟨r, hr, rfl⟩ := List.mem_map.mp hrow
        exact Query.append_admits hgoes.ok r hr
    · rwa [Tables.Written, hrows, map_key_markRows]
    · rwa [Tables.Written, hrows]

end AddressIndex.Store
