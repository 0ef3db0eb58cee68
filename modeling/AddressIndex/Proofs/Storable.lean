import AddressIndex.Proofs.Ascii
import AddressIndex.Proofs.Batches
import AddressIndex.Proofs.Calls
import AddressIndex.Proofs.Query

/-! What the database can hold. In a database that is ready a query of indexing fails exactly if it
passes an integer of more than 64 bits or a text with a half, or more values than one statement
takes. Decoding knows no such bounds, so one transaction can keep a whole batch from being saved. -/

namespace AddressIndex

namespace Store

/-! ### Statements that fail -/

namespace Session

variable {α κ : Type} [DecidableEq κ] {table : Table α κ} {tables tables' : Tables} {fault : Fault}

theorem insertSize_pos : 0 < insertSize := by decide

theorem nameSize_pos : 0 < nameSize := by decide

theorem passParameters_error {parameters : List Parameter}
    (h : (passParameters parameters).run.run tables = (.error fault, tables')) :
    ∃ p ∈ parameters, p.fault? = some fault := by
  unfold passParameters at h
  cases hfound : parameters.findSome? Parameter.fault? with
  | none =>
    rw [hfound] at h
    cases h
  | some found =>
    rw [hfound] at h
    cases h
    exact List.exists_of_findSome?_eq_some hfound

/-- An insert fails by a value of one of its rows. -/
theorem insert_error {new : List α}
    (h : (insert table new).run.run tables = (.error fault, tables')) :
    ∃ p ∈ new.flatMap table.parameters, p.fault? = some fault := by
  rcases run_bind_error.mp h with hpieces | ⟨counts, mid, -, hpure⟩
  · obtain ⟨piece, hpiece, mid, mid', hfails⟩ := run_mapM_error hpieces
    rcases run_bind_error.mp hfails with hpass | ⟨_, _, -, hrest⟩
    · obtain ⟨p, hp, hfault⟩ := passParameters_error hpass
      obtain ⟨row, hrow, hp⟩ := List.mem_flatMap.mp hp
      have hrow := (exists_mem_pieces insertSize_pos).mp ⟨piece, hpiece, hrow⟩
      exact ⟨p, List.mem_flatMap.mpr ⟨row, hrow, hp⟩, hfault⟩
    · cases hrest
  · cases hpure

theorem insert_stored {new : List α} {count : Nat}
    (h : (insert table new).run.run tables = (.ok count, tables')) :
    ∀ p ∈ new.flatMap table.parameters, p.fault? = none := by
  obtain ⟨counts, mid, hpieces, -⟩ := run_bind_ok.mp h
  intro p hp
  obtain ⟨row, hrow, hp⟩ := List.mem_flatMap.mp hp
  obtain ⟨piece, hpiece, hrow⟩ := (exists_mem_pieces insertSize_pos).mpr hrow
  obtain ⟨_, _, _, hinsert⟩ := run_mapM_ok hpieces piece hpiece
  obtain ⟨_, _, hpass, -⟩ := run_bind_ok.mp hinsert
  exact (passParameters_ok hpass).1 p (List.mem_flatMap.mpr ⟨row, hrow, hp⟩)

theorem passBounded_error {op : Operation} {parameters : List Parameter}
    (h : (passBounded op parameters).run.run tables = (.error fault, tables')) :
    (∃ p ∈ parameters, p.fault? = some fault) ∨
      mostValues < parameters.length ∧ fault = .database op := by
  unfold passBounded at h
  split at h
  next hmore =>
    cases h
    exact .inr ⟨hmore, rfl⟩
  next => exact .inl (passParameters_error h)

theorem passBounded_ok {op : Operation} {parameters : List Parameter} {u : Unit}
    (h : (passBounded op parameters).run.run tables = (.ok u, tables')) :
    parameters.length ≤ mostValues ∧ ∀ p ∈ parameters, p.fault? = none := by
  unfold passBounded at h
  split at h
  next => cases h
  next hroom => exact ⟨Nat.le_of_not_lt hroom, (passParameters_ok h).1⟩

section Marks

variable {owner : String} {names : List String}

/-- Marks of some names fail by one of them, or by their owner. -/
theorem markPieces_error (hsome : names ≠ [])
    (h : ((pieces nameSize names).mapM (markPiece owner)).run.run tables =
      (.error fault, tables')) :
    ∃ p ∈ names.flatMap fun s => [Parameter.text owner, .text s], p.fault? = some fault := by
  obtain ⟨piece, hpiece, mid, mid', hfails⟩ := run_mapM_error h
  rcases run_bind_error.mp hfails with hpass | ⟨_, _, -, hrest⟩
  · obtain ⟨p, hp, hfault⟩ := passParameters_error hpass
    refine ⟨p, ?_, hfault⟩
    rcases List.mem_cons.mp hp with rfl | hp
    · obtain ⟨s, hs⟩ := List.exists_mem_of_ne_nil names hsome
      exact List.mem_flatMap.mpr ⟨s, hs, List.mem_cons_self⟩
    · obtain ⟨s, hs, rfl⟩ := List.mem_map.mp hp
      have hs := (exists_mem_pieces nameSize_pos).mp ⟨piece, hpiece, hs⟩
      exact List.mem_flatMap.mpr ⟨s, hs, List.mem_pair.mpr (.inr rfl)⟩
  · cases hrest

/-- Where names are marked, they and their owner have been passed. -/
theorem markPieces_stored {counts : List Nat}
    (h : ((pieces nameSize names).mapM (markPiece owner)).run.run tables =
      (.ok counts, tables')) :
    ∀ s ∈ names, Text.hasHalf owner = false ∧ Text.hasHalf s = false := by
  intro s hs
  obtain ⟨piece, hpiece, hs⟩ := (exists_mem_pieces nameSize_pos).mpr hs
  obtain ⟨count, _, _, hmark⟩ := run_mapM_ok h piece hpiece
  obtain ⟨howner, hnames⟩ := List.forall_mem_cons.mp (markPiece_ok hmark).1
  exact ⟨Parameter.fault_text_eq_none.mp howner,
    Parameter.fault_text_eq_none.mp (hnames _ (List.mem_map_of_mem hs))⟩

end Marks

end Session

/-! ### Queries that fail -/

namespace Query

/-- The queries by which an address is indexed. -/
def Indexes : Query → Prop
  | .append _ _ | .lease _ _ _ | .mark _ _ | .save _ _ => True
  | _ => False

/-- The values that such a query passes to the database at the time `now`. Names are marked together
with their owner. -/
def parameters (now : Int) : Query → List Parameter
  | .append address records =>
    (records.map fun record => (⟨address, record, false, now⟩ : SignatureRow)).flatMap
      SignatureRow.parameters
  | .lease address limit exclude =>
    .text address :: exclude.map .text ++ [.integer limit, .integer 0]
  | .mark address names => names.flatMap fun s => [.text address, .text s]
  | .save address ts =>
    (ts.map (.ofIndexed address now)).flatMap TransactionRow.parameters ++
      ((ts.flatMap (BalanceRow.ofIndexed address)).flatMap BalanceRow.parameters ++
        (ts.flatMap (TransferRow.ofIndexed address)).flatMap TransferRow.parameters)
  | _ => []

/-- Whether the statements of such a query take its values. A lease passes all of them to one. -/
def HasRoom (q : Query) : Prop :=
  match q with
  | .lease _ _ _ => (q.parameters 0).length ≤ mostValues
  | _ => True

/-- Whether the database can store the values of such a query, and takes as many. -/
def Storable (q : Query) : Prop := (∀ p ∈ q.parameters 0, p.fault? = none) ∧ q.HasRoom

variable {clock : Instant} {now : Int} {tables : Tables} {db db' : Database} {q : Query}
  {fault : Fault}

theorem mem_parameters_at {p : Parameter} (time : Int) (h : p ∈ q.parameters now) :
    p = .integer now ∨ p ∈ q.parameters time := by
  cases q with
  | append address records =>
    simp only [parameters, List.flatMap_map, List.mem_flatMap, SignatureRow.parameters,
      List.mem_append, List.mem_singleton] at h ⊢
    grind
  | save address ts =>
    simp only [parameters, List.flatMap_map, List.mem_flatMap, TransactionRow.parameters,
      TransactionRow.ofIndexed, List.mem_append, List.mem_cons] at h ⊢
    grind
  | _ => exact .inr h

/-- At a time that can be stored it does not matter which time it is. -/
theorem storable_at (hnow : fits now) :
    q.Storable ↔ (∀ p ∈ q.parameters now, p.fault? = none) ∧ q.HasRoom := by
  have hfits : ∀ time, fits time → (Parameter.integer time).fault? = none := fun time h => if_pos h
  refine and_congr_left' ?_
  constructor
  · intro h p hp
    rcases mem_parameters_at 0 hp with rfl | hp
    · exact hfits now hnow
    · exact h p hp
  · intro h p hp
    rcases mem_parameters_at now hp with rfl | hp
    · exact hfits 0 (by decide)
    · exact h p hp

/-- On tables that are there a query of indexing only fails by a value that cannot be stored, or by
too many values. -/
theorem refused_of_error (hq : q.Indexes) (hclock : clock.seconds = .ok now)
    (h : (q.perform clock).run.run (.ready tables) = (.error fault, db')) :
    (∃ p ∈ q.parameters now, p.fault? = some fault) ∨
      ¬ q.HasRoom ∧ fault = .database q.operation := by
  cases q with
  | append address records =>
    have h := timed_at hclock h
    dsimp only at h
    split at h
    · cases h
    · obtain ⟨tables', hinsert⟩ := transact_ready_error h
      exact .inl (Session.insert_error hinsert)
  | lease address limit exclude =>
    obtain ⟨tables', hrun⟩ := transact_ready_error h
    rcases run_bind_error.mp hrun with hpass | ⟨_, mid, -, hrest⟩
    · exact (Session.passBounded_error hpass).imp_right (And.imp_left Nat.not_le_of_lt)
    · cases hrest
  | mark address names =>
    simp only [perform, Action.mark] at h
    split at h
    next => cases h
    next hsome =>
      obtain ⟨tables', hrun⟩ := transact_ready_error h
      rcases run_bind_error.mp hrun with hpieces | ⟨counts, mid, -, hpure⟩
      · exact .inl (Session.markPieces_error (by simpa using hsome) hpieces)
      · cases hpure
  | save address ts =>
    simp only [perform, Action.save] at h
    split at h
    · cases h
    · obtain ⟨tables', hrun⟩ := transact_ready_error (timed_at hclock h)
      -- the first of the three inserts that fails
      rcases run_bind_error.mp hrun with hrows | ⟨added, mid, -, hrun⟩
      · obtain ⟨p, hp, hfault⟩ := Session.insert_error hrows
        exact .inl ⟨p, List.mem_append_left _ hp, hfault⟩
      rcases run_bind_error.mp hrun with hrows | ⟨balances, mid', -, hrun⟩
      · obtain ⟨p, hp, hfault⟩ := Session.insert_error hrows
        exact .inl ⟨p, List.mem_append_right _ (List.mem_append_left _ hp), hfault⟩
      rcases run_bind_error.mp hrun with hrows | ⟨transfers, mid'', -, hpure⟩
      · obtain ⟨p, hp, hfault⟩ := Session.insert_error hrows
        exact .inl ⟨p, List.mem_append_right _ (List.mem_append_right _ hp), hfault⟩
      · cases hpure
  | _ => exact hq.elim

/-- A query of indexing that succeeds has passed all its values, and there was room for them. -/
theorem stored_of_ok {reply : q.Reply} (hq : q.Indexes) (hclock : clock.seconds = .ok now)
    (h : (q.perform clock).run.run db = (.ok reply, db')) :
    (∀ p ∈ q.parameters now, p.fault? = none) ∧ q.HasRoom := by
  cases q with
  | append address records =>
    refine ⟨?_, trivial⟩
    have h := timed_at hclock h
    dsimp only at h
    split at h
    next hempty =>
      rw [List.isEmpty_iff] at hempty
      simp [parameters, hempty]
    next =>
      obtain ⟨tables, tables', rfl, hrun, rfl⟩ := transact_ok h
      exact Session.insert_stored hrun
  | lease address limit exclude =>
    obtain ⟨tables, tables', rfl, hrun, rfl⟩ := transact_ok h
    obtain ⟨_, mid, hpass, -⟩ := run_bind_ok.mp hrun
    exact (Session.passBounded_ok hpass).symm
  | mark address names =>
    refine ⟨fun p hp => ?_, trivial⟩
    obtain ⟨s, hs, hp⟩ := List.mem_flatMap.mp hp
    simp only [perform, Action.mark] at h
    split at h
    next hempty =>
      rw [List.isEmpty_iff.mp hempty] at hs
      cases hs
    next =>
      obtain ⟨tables, tables', rfl, hrun, rfl⟩ := transact_ok h
      obtain ⟨counts, mid, hpieces, -⟩ := run_bind_ok.mp hrun
      obtain ⟨howner, hname⟩ := Session.markPieces_stored hpieces s hs
      rcases List.mem_pair.mp hp with rfl | rfl
      · exact Parameter.fault_text_eq_none.mpr howner
      · exact Parameter.fault_text_eq_none.mpr hname
  | save address ts =>
    refine ⟨?_, trivial⟩
    simp only [perform, Action.save] at h
    split at h
    next hempty =>
      rw [List.isEmpty_iff] at hempty
      simp [parameters, hempty]
    next =>
      obtain ⟨tables, tables', rfl, hrun, rfl⟩ := transact_ok (timed_at hclock h)
      obtain ⟨added, mid, htransactions, hrun⟩ := run_bind_ok.mp hrun
      obtain ⟨balances, mid', hbalances, hrun⟩ := run_bind_ok.mp hrun
      obtain ⟨transfers, mid'', htransfers, -⟩ := run_bind_ok.mp hrun
      intro p hp
      rcases List.mem_append.mp hp with hp | hp
      · exact Session.insert_stored htransactions p hp
      rcases List.mem_append.mp hp with hp | hp
      · exact Session.insert_stored hbalances p hp
      · exact Session.insert_stored htransfers p hp
  | _ => exact hq.elim

/-- The records that are appended have signatures that can be written. -/
theorem append_admits {address : String} {records : List SignatureRecord} {count : Nat}
    (h : ((append address records).perform clock).run.run db = (.ok count, db')) :
    ∀ r ∈ records, Text.hasHalf r.signature = false := by
  obtain ⟨now, mid, hnow, -⟩ := run_bind_ok.mp h
  obtain ⟨hclock, -⟩ := now_ok hnow
  obtain ⟨hstored, -⟩ := stored_of_ok (q := append address records) trivial hclock h
  intro r hr
  refine Parameter.fault_text_eq_none.mp (hstored (.text r.signature) ?_)
  simp only [parameters, List.flatMap_map, List.mem_flatMap]
  exact ⟨r, hr, by simp [SignatureRow.parameters]⟩

/-- On tables that are there a query of indexing is done exactly if its values can be stored and
there is room for them. -/
theorem performs_iff {reply : q.Reply} (hq : q.Indexes) (hclock : clock.seconds = .ok now) :
    (q.perform clock).run.run (.ready tables) = (.ok reply, db') ↔
      ((∀ p ∈ q.parameters now, p.fault? = none) ∧ q.HasRoom) ∧ reply = q.answer now tables ∧
        db' = .ready (q.next now tables) := by
  obtain ⟨r, tables', hrun⟩ := q.perform_ready clock tables
  have hdone : ∀ done, r = .ok done → done = q.answer now tables ∧ tables' = q.next now tables := by
    rintro done rfl
    have hmeets := perform_meets clock q _ _ _ hrun
    rwa [shown_of_seconds hclock] at hmeets
  constructor
  · intro h
    have hstored := stored_of_ok hq hclock h
    obtain ⟨rfl, rfl⟩ := Prod.mk.inj (hrun.symm.trans h)
    obtain ⟨hreply, htables⟩ := hdone reply rfl
    exact ⟨hstored, hreply, congrArg _ htables⟩
  · rintro ⟨⟨hstored, hroom⟩, rfl, rfl⟩
    cases r with
    | ok done =>
      obtain ⟨rfl, rfl⟩ := hdone done rfl
      exact hrun
    | error fault =>
      rcases refused_of_error hq hclock hrun with ⟨p, hp, hfault⟩ | ⟨hnone, -⟩
      · rw [hstored p hp] at hfault
        cases hfault
      · exact absurd hroom hnone

end Query

/-- A query of indexing whose values can be stored and have room, as the next call. -/
theorem Calls.next_done {start : Database} {made : List Made} {now : Int} {tables : Tables}
    (before : Calls start made (.ready tables)) (clock : Instant) (q : Query)
    (whole : q.operation ≠ .claim) (hq : q.Indexes) (hclock : clock.seconds = .ok now)
    (hstored : ∀ p ∈ q.parameters now, p.fault? = none) (hroom : q.HasRoom) :
    Calls start (made ++ [⟨clock, .query q whole, .ok (q.answer now tables)⟩])
      (.ready (q.next now tables)) := by
  refine before.next (Call.goes_query.mpr (.inl ⟨_, rfl, .performed ?_⟩))
  exact (Query.performs_iff hq hclock).mpr ⟨⟨hstored, hroom⟩, rfl, rfl⟩

namespace Parameter

variable {n : Int} {s : String}

@[simp] theorem integer_mem_integer? {x : Option Int} : integer n ∈ integer? x ↔ x = some n := by
  simp [integer?]

@[simp] theorem integer_mem_text? {x : Option String} : integer n ∉ text? x := by
  simp [text?]

@[simp] theorem text_mem_integer? {x : Option Int} : text s ∉ integer? x := by
  simp [integer?]

@[simp] theorem text_mem_text? {x : Option String} : text s ∈ text? x ↔ x = some s := by
  simp [text?]

theorem fault_integer {fault : Fault} :
    (integer n).fault? = some fault ↔ fits n = false ∧ fault = .integerTooLarge := by
  cases h : fits n <;> simp [fault?, h, eq_comm]

theorem fault_text {fault : Fault} :
    (text s).fault? = some fault ↔ Text.hasHalf s ∧ fault = .unencodable s := by
  cases h : Text.hasHalf s <;> simp [fault?, h, eq_comm]

end Parameter

end Store

/-! ### Transactions that cannot be stored -/

namespace Indexed

open Store (Parameter TransactionRow BalanceRow TransferRow)

/-- The integers in the rows of a transaction, but for the key of what is at the top level. -/
def integers (t : Indexed) : List Int :=
  [t.raw.slot, t.raw.fee, t.raw.signerCount, t.raw.instructions.length] ++
    t.raw.blockTime.toList ++ t.raw.computeUnits.toList ++ t.deltas.map (·.delta) ++
    t.transfers.flatMap fun transfer =>
      transfer.position.index :: (transfer.position.inner.toList ++ transfer.decimals.toList)

/-- The texts in the rows of a transaction, but for that of its failure. -/
def texts (t : Indexed) : List String :=
  t.signature :: (t.deltas.map (·.account) ++ t.transfers.flatMap fun transfer =>
    transfer.sourceOwner.toList ++ transfer.destinationOwner.toList ++
      transfer.sourceAccount.toList ++ transfer.destinationAccount.toList ++
      transfer.mint.toList ++ transfer.program.toList ++ transfer.authority.toList)

/-- Why a transaction cannot be stored in the history of an address. -/
inductive Refused (address : String) (t : Indexed) : Store.Fault → Prop
  /-- An integer of more than 64 bits. -/
  | integer {n : Int} (holds : n ∈ t.integers) (large : Store.fits n = false) :
    Refused address t .integerTooLarge
  /-- A text with a half. -/
  | text {s : String} (holds : s ∈ t.texts) (half : Text.hasHalf s) :
    Refused address t (.unencodable s)
  /-- An address with a half. -/
  | address (half : Text.hasHalf address) : Refused address t (.unencodable address)

/-- The values in the rows of a transaction. -/
def parameters (address : String) (now : Int) (t : Indexed) : List Parameter :=
  (TransactionRow.ofIndexed address now t).parameters ++
    ((BalanceRow.ofIndexed address t).flatMap BalanceRow.parameters ++
      (TransferRow.ofIndexed address t).flatMap TransferRow.parameters)

variable {address : String} {now : Int} {t : Indexed} {fault : Store.Fault}

theorem mem_integers {n : Int} : n ∈ t.integers ↔
    n = t.raw.slot ∨ n = t.raw.fee ∨ n = t.raw.signerCount ∨ n = t.raw.instructions.length ∨
      t.raw.blockTime = some n ∨ t.raw.computeUnits = some n ∨
      (∃ change ∈ t.deltas, n = change.delta) ∨
      ∃ transfer ∈ t.transfers, n = transfer.position.index ∨ transfer.position.inner = some n ∨
        transfer.decimals = some n := by
  simp [integers, eq_comm]

theorem integer_mem_parameters {n : Int} : .integer n ∈ t.parameters address now ↔
    n = now ∨ n ∈ t.integers ∨
      n = TransferRow.topLevel ∧ ∃ transfer ∈ t.transfers, transfer.position.inner = none := by
  have hkey : ∀ inner : Option Int, n = inner.getD TransferRow.topLevel ↔
      inner = some n ∨ n = TransferRow.topLevel ∧ inner = none := by
    rintro (_ | k) <;> simp [eq_comm]
  simp only [parameters, TransactionRow.parameters, BalanceRow.parameters, TransferRow.parameters,
    TransactionRow.ofIndexed, BalanceRow.ofIndexed, TransferRow.ofIndexed, TransferRow.innerKey,
    List.mem_append, List.mem_cons, List.mem_flatMap, List.mem_map, List.not_mem_nil, or_false,
    Parameter.integer_mem_integer?, Parameter.integer_mem_text?, Parameter.integer.injEq,
    exists_exists_and_eq_and, reduceCtorEq, false_or, hkey, mem_integers]
  grind

theorem text_mem_parameters {s : String} : .text s ∈ t.parameters address now ↔
    s = address ∨ t.raw.failureText = some s ∨ s ∈ t.texts := by
  simp only [parameters, TransactionRow.parameters, BalanceRow.parameters, TransferRow.parameters,
    TransactionRow.ofIndexed, BalanceRow.ofIndexed, TransferRow.ofIndexed, texts, List.mem_append,
    List.mem_cons, List.mem_flatMap, List.mem_map, List.not_mem_nil, or_false, Option.mem_toList,
    Parameter.text_mem_integer?, Parameter.text_mem_text?, Parameter.text.injEq,
    exists_exists_and_eq_and, reduceCtorEq]
  grind

/-- The text by which a failure is known can be stored. -/
theorem failureText_hasHalf {s : String} (h : t.raw.failureText = some s) :
    Text.hasHalf s = false := by
  unfold Transaction.failureText at h
  split at h
  · cases h
  · cases h
    exact Json.canonical_hasHalf _

/-- At a time that can be stored, a transaction is refused for one of its own values. -/
theorem refused_iff (hnow : Store.fits now) :
    (∃ p ∈ t.parameters address now, p.fault? = some fault) ↔ t.Refused address fault := by
  constructor
  · rintro ⟨n | s, hp, hfault⟩
    · obtain ⟨hlarge, rfl⟩ := Parameter.fault_integer.mp hfault
      rcases integer_mem_parameters.mp hp with rfl | hn | ⟨rfl, -⟩
      · exact absurd hnow (Bool.eq_false_iff.mp hlarge)
      · exact .integer hn hlarge
      · exact absurd hlarge (by decide)
    · obtain ⟨hhalf, rfl⟩ := Parameter.fault_text.mp hfault
      rcases text_mem_parameters.mp hp with rfl | hs | hs
      · exact .address hhalf
      · exact absurd hhalf (Bool.eq_false_iff.mp (failureText_hasHalf hs))
      · exact .text hs hhalf
  · rintro (⟨hn, hlarge⟩ | ⟨hs, hhalf⟩ | hhalf)
    · exact ⟨_, integer_mem_parameters.mpr (.inr (.inl hn)),
        Parameter.fault_integer.mpr ⟨hlarge, rfl⟩⟩
    · exact ⟨_, text_mem_parameters.mpr (.inr (.inr hs)), Parameter.fault_text.mpr ⟨hhalf, rfl⟩⟩
    · exact ⟨_, text_mem_parameters.mpr (.inl rfl), Parameter.fault_text.mpr ⟨hhalf, rfl⟩⟩

end Indexed

namespace Store.Query

variable {clock : Instant} {now : Int} {tables : Tables} {address : String} {ts : List Indexed}

theorem mem_parameters_save {p : Parameter} :
    p ∈ (save address ts).parameters now ↔ ∃ t ∈ ts, p ∈ t.parameters address now := by
  simp only [parameters, Indexed.parameters, List.mem_append, List.mem_flatMap, List.mem_map]
  grind

theorem storable_lease {limit : Int} {exclude : List String} :
    (lease address limit exclude).Storable ↔ Text.hasHalf address = false ∧
      (∀ s ∈ exclude, Text.hasHalf s = false) ∧ fits limit ∧ exclude.length + 3 ≤ mostValues := by
  have hzero : fits 0 := by decide
  simp only [Storable, HasRoom, parameters, List.forall_mem_append, List.forall_mem_cons,
    List.forall_mem_map, Parameter.fault_text_eq_none, Parameter.fault_integer_eq_none, hzero,
    List.length_cons, List.length_append, List.length_map, List.length_nil, and_assoc,
    List.not_mem_nil, false_implies, implies_true, true_and]

theorem storable_mark {names : List String} : (mark address names).Storable ↔
    ∀ s ∈ names, Text.hasHalf address = false ∧ Text.hasHalf s = false := by
  simp only [Storable, HasRoom, parameters, and_true, List.forall_mem_flatMap, List.forall_mem_cons,
    Parameter.fault_text_eq_none, List.not_mem_nil, false_implies, implies_true]

/-- A lease that leaves out fewer names can be stored too. -/
theorem storable_lease_of_sublist {limit : Int} {exclude fewer : List String}
    (h : (lease address limit exclude).Storable) (hfewer : fewer.Sublist exclude) :
    (lease address limit fewer).Storable := by
  obtain ⟨haddress, hexclude, hlimit, hroom⟩ := storable_lease.mp h
  have hlength := hfewer.length_le
  exact storable_lease.mpr
    ⟨haddress, fun s hs => hexclude s (hfewer.subset hs), hlimit, by omega⟩

/-- What is saved for an address has texts that can be written: the address is one of them, and the
signature of the transaction. -/
theorem writable_of_storable {t : Indexed} (h : (save address [t]).Storable) :
    Text.hasHalf address = false ∧ Text.hasHalf t.signature = false := by
  have htexts : ∀ s, s = address ∨ t.raw.failureText = some s ∨ s ∈ t.texts →
      Text.hasHalf s = false := fun s hs =>
    Parameter.fault_text_eq_none.mp (h.1 (.text s) (mem_parameters_save.mpr
      ⟨t, List.mem_singleton_self t, Indexed.text_mem_parameters.mpr hs⟩))
  exact ⟨htexts _ (.inl rfl), htexts _ (.inr (.inr List.mem_cons_self))⟩

/-- Transactions can be stored together if each can be stored alone. -/
theorem storable_save : (save address ts).Storable ↔ ∀ t ∈ ts, (save address [t]).Storable := by
  simp only [Storable, HasRoom, and_true, mem_parameters_save, List.mem_singleton]
  grind

/-- At a time that can be stored and in a database that is ready, a save fails exactly if one of its
transactions cannot be stored, and for such a reason. It fails as a whole: the other transactions
are not saved either. -/
theorem save_fails_exactly (hclock : clock.seconds = .ok now) (hnow : fits now) :
    ((∃ fault db', ((save address ts).perform clock).run.run (.ready tables) =
        (.error fault, db')) ↔ ∃ t ∈ ts, ∃ fault, t.Refused address fault) ∧
      ∀ fault db', ((save address ts).perform clock).run.run (.ready tables) =
        (.error fault, db') → (∃ t ∈ ts, t.Refused address fault) ∧ db' = .ready tables := by
  have hrefused : ∀ fault db', ((save address ts).perform clock).run.run (.ready tables) =
      (.error fault, db') → ∃ t ∈ ts, t.Refused address fault := by
    intro fault db' h
    obtain ⟨p, hp, hfault⟩ : ∃ p ∈ (save address ts).parameters now, p.fault? = some fault :=
      (refused_of_error (q := save address ts) trivial hclock h).resolve_right
        fun hnone => hnone.1 trivial
    obtain ⟨t, ht, hp⟩ := mem_parameters_save.mp hp
    exact ⟨t, ht, (Indexed.refused_iff hnow).mp ⟨p, hp, hfault⟩⟩
  refine ⟨⟨?_, ?_⟩, fun fault db' h => ⟨hrefused fault db' h, perform_error h⟩⟩
  · rintro ⟨fault, db', h⟩
    obtain ⟨t, ht, hfault⟩ := hrefused fault db' h
    exact ⟨t, ht, fault, hfault⟩
  · rintro ⟨t, ht, fault, hfault⟩
    obtain ⟨p, hp, hp'⟩ := (Indexed.refused_iff hnow).mpr hfault
    cases hrun : ((save address ts).perform clock).run.run (.ready tables) with
    | mk r db' =>
      cases r with
      | error fault' => exact ⟨fault', db', rfl⟩
      | ok reply =>
        have := (stored_of_ok (q := save address ts) trivial hclock hrun).1 p
          (mem_parameters_save.mpr ⟨t, ht, hp⟩)
        rw [hp'] at this
        cases this

/-- A node that also knows a transaction whose slot is the least one of more than 64 bits. -/
def largeNode : Rpc.Request → Rpc.Answer
  | .transaction "large" => .reply 200 ("\x7b\"result\":\x7b\"transaction\":\x7b\"message\":" ++
    "\x7b\"accountKeys\":[]\x7d,\"signatures\":[\"large\"]\x7d," ++
    "\"meta\":\x7b\"fee\":0\x7d,\"slot\":9223372036854775808\x7d\x7d")
  | request => Sample.node request

set_option maxRecDepth 20000 in
/-- Of two transactions that were fetched one has too large a slot, and neither is saved. -/
theorem save_fails_exactly_of_two :
    let fetch := Rpc.Outcome.fetch Sample.limits.client
    let p := (Batch.fetchMany fetch ⟨2, 2, .zero, by decide⟩ ["s", "large"]).run
    let w := { Sample.world .unreachable with node := fun _ => largeNode }
    ∃ result, (p.run w).1 = .ok result ∧ result.processed = ["s", "large"] ∧
      ∃ fault, ((save "A" result.succeeded).perform (.whole 0)).run.run (.ready .blank) =
        (.error fault, .ready .blank) := by
  intro fetch p w
  have hslots : ((p.run w).1.toOption.map fun result => (result.processed,
      result.succeeded.map (·.raw.slot))) = some (["s", "large"], [0, 9223372036854775808]) := by
    decide +kernel
  cases hr : (p.run w).1 with
  | error _ =>
    rw [hr] at hslots
    cases hslots
  | ok result =>
    rw [hr] at hslots
    obtain ⟨hprocessed, hslots⟩ := Prod.mk.inj (Option.some.inj hslots)
    obtain ⟨t, ht, hslot⟩ : ∃ t ∈ result.succeeded, t.raw.slot = 9223372036854775808 :=
      List.mem_map.mp (hslots ▸ by simp)
    have hlarge : t.Refused "A" .integerTooLarge :=
      .integer (Indexed.mem_integers.mpr (.inl hslot.symm)) (by decide)
    have hclock : (Instant.whole 0).seconds = .ok 0 := rfl
    have hfits : fits 0 := by decide
    obtain ⟨fault, db', hrun⟩ : ∃ fault db',
        ((save "A" result.succeeded).perform (.whole 0)).run.run (.ready .blank) =
          (.error fault, db') :=
      (save_fails_exactly hclock hfits).1.mpr ⟨t, ht, _, hlarge⟩
    obtain rfl := ((save_fails_exactly hclock hfits).2 fault db' hrun).2
    exact ⟨result, rfl, hprocessed, fault, hrun⟩

end Store.Query

end AddressIndex
