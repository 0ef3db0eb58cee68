import AddressIndex.Proofs.Lease
import AddressIndex.Store.Query

/-! What the queries do. A query on tables is one unit of work, or it does without the database; so
one that fails leaves the database as it was. One that succeeds reads the clock at most once;
`Query.answer` says what it then answers, and `Query.next` what it leaves in the tables. -/

namespace AddressIndex.Store

namespace Query

/-- The job that a claimer gets, if the one that it is after is still pending. -/
def granted (now : Int) (id : Int) (worker : Option Int) (owner : Option String) (jobs : List Job) :
    Option Job :=
  match jobs.find? (·.id = id) with
  | some found =>
    if found.status = .pending then
      some { found with status := .indexing, worker, owner, updated := now }
    else none
  | none => none

/-- Whether a job is held as required. -/
def held (id : Int) (worker : Option Int) (owner : Option String) (jobs : List Job) : Bool :=
  (jobs.find? (·.id = id)).any (·.heldBy worker owner)

/-- What a query leaves in the tables if it succeeds at the time `now`. -/
def next (now : Int) (q : Query) (tables : Tables) : Tables :=
  match q with
  | .append address records => { tables with
      signatures := insertAll SignatureRow.key tables.signatures
        (records.map fun record => ⟨address, record, false, now⟩) }
  | .mark address names =>
    { tables with signatures := markRows tables.signatures address names }
  | .save address ts => { tables with
      transactions := insertAll TransactionRow.key tables.transactions
        (ts.map (.ofIndexed address now))
      balances := insertAll BalanceRow.key tables.balances
        (ts.flatMap (BalanceRow.ofIndexed address))
      transfers := insertAll TransferRow.key tables.transfers
        (ts.flatMap (TransferRow.ofIndexed address)) }
  | .addJob address =>
    match tables.jobs.find? (·.address = Text.trim address) with
    | some _ => tables
    | none => { tables with
        jobs := tables.jobs ++
          [⟨tables.jobs.length + 1, Text.trim address, .pending, none, none, now, now⟩] }
  | .take id worker owner =>
    match granted now id worker owner tables.jobs with
    | some taken => { tables with jobs := changeJob tables.jobs id fun _ => taken }
    | none => tables
  | .updateJob id status worker owner =>
    match JobStatus.ofWord? status with
    | some status =>
      if held id worker owner tables.jobs then { tables with
        jobs := changeJob tables.jobs id fun held => { held with status, updated := now } }
      else tables
    | none => tables
  | _ => tables

/-- What a query answers if it succeeds at the time `now`. -/
def answer (now : Int) (q : Query) (tables : Tables) : q.Reply :=
  match q with
  | .create => ()
  | .append address records =>
    ((Query.append address records).next now tables).signatures.length - tables.signatures.length
  | .lease address limit exclude =>
    let waiting := leaseOrder tables.signatures address exclude
    ⟨limited limit waiting, waiting.length⟩
  | .mark address names =>
    tables.signatures.countP fun row =>
      row.isWaiting address && names.contains row.record.signature
  | .countSignatures address processed =>
    tables.signatures.countP fun row =>
      row.owner = address && (processed.isNone || processed = some row.processed)
  | .save address ts =>
    let after := (Query.save address ts).next now tables
    ⟨after.transactions.length - tables.transactions.length,
      after.balances.length - tables.balances.length,
      after.transfers.length - tables.transfers.length⟩
  | .transfers address signature =>
    tables.transfers.filter fun row =>
      row.owner = address && (signature.isNone || signature = some row.signature)
  | .balances address signature =>
    (tables.balances.filter fun row =>
      row.owner = address && (signature.isNone || signature = some row.signature)).map (·.change)
  | .countTransactions address => tables.transactions.countP fun row => row.owner = address
  | .addJob address =>
    match tables.jobs.find? (·.address = Text.trim address) with
    | some found => (found, false)
    | none =>
      (⟨tables.jobs.length + 1, Text.trim address, .pending, none, none, now, now⟩, true)
  | .job id => tables.jobs.find? (·.id = id)
  | .candidate => (oldestPending tables.jobs).map (·.id)
  | .take id worker owner => granted now id worker owner tables.jobs
  | .updateJob id _ worker owner => held id worker owner tables.jobs

end Query

namespace Parameter

@[simp] theorem fault_integer_eq_none {n : Int} : (integer n).fault? = none ↔ fits n := by
  simp [fault?]

@[simp] theorem fault_text_eq_none {s : String} :
    (text s).fault? = none ↔ Text.hasHalf s = false := by
  simp [fault?]

theorem stored_integer? {value : Option Int} :
    (∀ p ∈ integer? value, p.fault? = none) ↔ ∀ n ∈ value, fits n := by
  simp [integer?]

theorem stored_text? {value : Option String} :
    (∀ p ∈ text? value, p.fault? = none) ↔ ∀ s ∈ value, Text.hasHalf s = false := by
  simp [text?]

end Parameter

/-! ### Units of work -/

/-- The time that a clock shows, in whole seconds. Where it shows none a query that reads it fails,
and the others do not depend on it. -/
def shown (clock : Instant) : Int := clock.seconds.toOption.getD 0

theorem shown_of_seconds {clock : Instant} {now : Int} (h : clock.seconds = .ok now) :
    shown clock = now := by
  rw [shown, h]
  rfl

section Action

variable {α β σ : Type} {op : Operation} {session : Session α} {db db' : Database} {a : α}
  {fault : Fault} {clock : Instant} {now : Int}

/-- Steps fail where one of them fails. -/
theorem run_bind_error {x : ExceptT Fault (StateM σ) α} {f : α → ExceptT Fault (StateM σ) β}
    {s s' : σ} :
    (x >>= f).run.run s = (.error fault, s') ↔
      x.run.run s = (.error fault, s') ∨
        ∃ a mid, x.run.run s = (.ok a, mid) ∧ (f a).run.run mid = (.error fault, s') := by
  rw [ExceptT.run_bind, StateT.run_bind]
  rcases StateT.run x.run s with ⟨e | a, mid⟩
  · constructor
    · rintro ⟨⟩
      exact .inl rfl
    · rintro (⟨⟨⟩⟩ | ⟨_, _, ⟨⟩, _⟩)
      rfl
  · constructor
    · exact fun h => .inr ⟨a, mid, rfl, h⟩
    · rintro (⟨⟨⟩⟩ | ⟨_, _, ⟨⟩, h⟩)
      exact h

/-- A list is not done where one of it fails. -/
theorem run_mapM_error {f : α → ExceptT Fault (StateM σ) β} {xs : List α} {s s' : σ}
    (h : (xs.mapM f).run.run s = (.error fault, s')) :
    ∃ x ∈ xs, ∃ mid mid', (f x).run.run mid = (.error fault, mid') := by
  induction xs generalizing s s' with
  | nil => cases h
  | cons x xs ih =>
    rw [List.mapM_cons] at h
    rcases run_bind_error.mp h with hx | ⟨y, mid, -, hrest⟩
    · exact ⟨x, List.mem_cons_self, s, s', hx⟩
    · rcases run_bind_error.mp hrest with hxs | ⟨ys, mid', -, hpure⟩
      · obtain ⟨x', hx', hfails⟩ := ih hxs
        exact ⟨x', List.mem_cons_of_mem x hx', hfails⟩
      · cases hpure

theorem transact_ok (h : (Action.transact op session).run.run db = (.ok a, db')) :
    ∃ tables tables', db = .ready tables ∧ session.run.run tables = (.ok a, tables') ∧
      db' = .ready tables' := by
  change db.transact op session = _ at h
  unfold Database.transact at h
  split at h
  next tables =>
    split at h
    next value tables' hrun =>
      cases h
      exact ⟨tables, tables', rfl, hrun, rfl⟩
    next => cases h
  next => cases h

/-- The changes of a unit that fails are undone. -/
theorem transact_error (h : (Action.transact op session).run.run db = (.error fault, db')) :
    db' = db := by
  change db.transact op session = _ at h
  unfold Database.transact at h
  split at h
  next tables =>
    split at h
    next => cases h
    next => cases h; rfl
  next => cases h; rfl

theorem now_ok (h : (Action.now clock).run.run db = (.ok now, db')) :
    clock.seconds = .ok now ∧ db' = db := by
  unfold Action.now at h
  split at h
  next n hclock =>
    cases h
    exact ⟨hclock, rfl⟩
  next => cases h

theorem timed_ok {f : Int → Action α} (h : (Action.now clock >>= f).run.run db = (.ok a, db')) :
    (f (shown clock)).run.run db = (.ok a, db') := by
  obtain ⟨now, mid, hnow, hrest⟩ := run_bind_ok.mp h
  obtain ⟨hclock, rfl⟩ := now_ok hnow
  rwa [shown_of_seconds hclock]

theorem run_transact (db : Database) :
    (Action.transact op session).run.run db = db.transact op session := rfl

theorem transact_ready (op : Operation) (session : Session α) (tables : Tables) :
    ∃ r tables', (Database.ready tables).transact op session = (r, .ready tables') := by
  simp only [Database.transact]
  split
  next value tables' _ => exact ⟨.ok value, tables', rfl⟩
  next fault _ _ => exact ⟨.error fault, tables, rfl⟩

/-- A unit that begins by reading the clock is done at the time that it shows. -/
theorem timed_at {f : Int → Action α} {r : Except Fault α}
    (hclock : clock.seconds = .ok now) (h : (Action.now clock >>= f).run.run db = (r, db')) :
    (f now).run.run db = (r, db') := by
  unfold Action.now at h
  rw [hclock] at h
  exact h

/-- A unit on tables that are there fails as its session does. -/
theorem transact_ready_error {tables : Tables}
    (h : (Action.transact op session).run.run (.ready tables) = (.error fault, db')) :
    ∃ tables', session.run.run tables = (.error fault, tables') := by
  change Database.transact (.ready tables) op session = _ at h
  simp only [Database.transact] at h
  split at h
  next => cases h
  next fault' tables' hrun =>
    cases h
    exact ⟨tables', hrun⟩

/-- What is idle or one unit of work at every time is so after a look at the clock. -/
theorem timed_unit {f : Int → Action α}
    (hf : ∀ now, (∃ r, ∀ db, (f now).run.run db = (r, db)) ∨
      ∃ session, ∀ db, (f now).run.run db = db.transact op session) :
    (∃ r, ∀ db, (Action.now clock >>= f).run.run db = (r, db)) ∨
      ∃ session, ∀ db, (Action.now clock >>= f).run.run db = db.transact op session := by
  unfold Action.now
  cases clock.seconds with
  | ok now => exact hf now
  | error fault => exact .inl ⟨.error (.clock fault), fun _ => rfl⟩

/-- A unit that only reads. -/
theorem transact_pure {read : Tables → α}
    (h : (Action.transact op (do pure (read (← get)))).run.run db = (.ok a, db')) :
    a = read db.tables ∧ db'.tables = db.tables := by
  obtain ⟨tables, tables', rfl, hrun, rfl⟩ := transact_ok h
  cases hrun
  exact ⟨rfl, rfl⟩

/-- A unit that passes values goes on if all of them can be stored. -/
theorem run_passing {parameters : List Parameter} {rest : Session α} (tables : Tables) :
    (Action.transact op (do Session.passParameters parameters; rest)).run.run (.ready tables) =
      match parameters.findSome? Parameter.fault? with
      | some fault => (.error fault, .ready tables)
      | none => (Action.transact op rest).run.run (.ready tables) := by
  simp only [Session.passParameters]
  cases parameters.findSome? Parameter.fault? <;> rfl

/-- A unit that passes any number of values goes on if there is room for them. -/
theorem run_bounded {parameters : List Parameter} {rest : Session α} (tables : Tables) :
    (Action.transact op (do Session.passBounded op parameters; rest)).run.run (.ready tables) =
      if mostValues < parameters.length then (.error (.database op), .ready tables)
      else (Action.transact op (do Session.passParameters parameters; rest)).run.run
        (.ready tables) := by
  simp only [Session.passBounded]
  split <;> rfl

theorem passing_ok {parameters : List Parameter} {rest : Session α}
    (h : (Action.transact op (do Session.passParameters parameters; rest)).run.run db =
      (.ok a, db')) :
    (∀ p ∈ parameters, p.fault? = none) ∧ (Action.transact op rest).run.run db = (.ok a, db') := by
  obtain ⟨tables, -, rfl, -, -⟩ := transact_ok h
  rw [run_passing] at h
  split at h
  next => cases h
  next hnone => exact ⟨List.findSome?_eq_none_iff.mp hnone, h⟩

theorem bounded_ok {parameters : List Parameter} {rest : Session α}
    (h : (Action.transact op (do Session.passBounded op parameters; rest)).run.run db =
      (.ok a, db')) :
    parameters.length ≤ mostValues ∧ (∀ p ∈ parameters, p.fault? = none) ∧
      (Action.transact op rest).run.run db = (.ok a, db') := by
  obtain ⟨tables, -, rfl, -, -⟩ := transact_ok h
  rw [run_bounded] at h
  split at h
  next => cases h
  next hroom => exact ⟨Nat.le_of_not_lt hroom, passing_ok h⟩

end Action

namespace Query

variable {clock : Instant} {db db' : Database} {q : Query}

/-- On every database the query is `session`, as one unit of work. -/
def IsUnit (clock : Instant) (q : Query) (session : Session q.Reply) : Prop :=
  ∀ db, (q.perform clock).run.run db = db.transact q.operation session

/-- The query has its result without the database. -/
def IsIdle (clock : Instant) (q : Query) : Prop :=
  ∃ r, ∀ db, (q.perform clock).run.run db = (r, db)

/-- A query on tables is idle, or it is one unit of work as a whole. -/
theorem idle_or_unit (clock : Instant) (hq : q ≠ .create) :
    q.IsIdle clock ∨ ∃ session, q.IsUnit clock session := by
  cases q with
  | create => exact absurd rfl hq
  | append address records =>
    refine timed_unit fun now => ?_
    dsimp only
    split
    · exact .inl ⟨.ok (0 : Nat), fun _ => rfl⟩
    · exact .inr ⟨_, run_transact⟩
  | mark address names =>
    simp only [IsIdle, IsUnit, perform, Action.mark]
    split
    · exact .inl ⟨.ok (0 : Nat), fun _ => rfl⟩
    · exact .inr ⟨_, run_transact⟩
  | save address ts =>
    simp only [IsIdle, IsUnit, perform, Action.save]
    split
    · exact .inl ⟨.ok (⟨0, 0, 0⟩ : SaveCount), fun _ => rfl⟩
    · exact timed_unit fun now => .inr ⟨_, run_transact⟩
  | addJob address =>
    simp only [IsIdle, IsUnit, perform, Action.addJob]
    split
    · exact .inl ⟨.error .emptyAddress, fun _ => rfl⟩
    · exact timed_unit fun now => .inr ⟨_, run_transact⟩
  | take id worker owner => exact timed_unit fun now => .inr ⟨_, run_transact⟩
  | updateJob id word worker owner =>
    simp only [IsIdle, IsUnit, perform, Action.updateJob]
    split
    · exact .inl ⟨.error (.unknownStatus word), fun _ => rfl⟩
    · exact timed_unit fun now => .inr ⟨_, run_transact⟩
  | lease | countSignatures | transfers | balances | countTransactions | job | candidate =>
    simp only [IsUnit, perform, Action.lease, Action.countSignatures, Action.transfers,
      Action.balances, Action.countTransactions, Action.job, Action.candidate]
    exact .inr ⟨_, run_transact⟩

/-- A query that fails leaves the database as it was. -/
theorem perform_error {fault : Fault} (h : (q.perform clock).run.run db = (.error fault, db')) :
    db' = db := by
  by_cases hq : q = .create
  · subst hq
    cases db with
    | ready _ | bare => cases h
    | unreachable =>
      cases h
      rfl
  · rcases idle_or_unit clock hq with ⟨r, hidle⟩ | ⟨session, hunit⟩
    · rw [hidle db] at h
      cases h
      rfl
    · rw [hunit db] at h
      exact transact_error h

/-- Tables that are there stay there. -/
theorem perform_ready (clock : Instant) (q : Query) (tables : Tables) :
    ∃ r tables', (q.perform clock).run.run (.ready tables) = (r, .ready tables') := by
  by_cases hq : q = .create
  · subst hq
    exact ⟨.ok (), tables, rfl⟩
  · rcases idle_or_unit clock hq with ⟨r, hidle⟩ | ⟨session, hunit⟩
    · exact ⟨r, tables, hidle _⟩
    · obtain ⟨r, tables', hrun⟩ := transact_ready q.operation session tables
      exact ⟨r, tables', (hunit _).trans hrun⟩

/-- A query that succeeds answers and leaves what it should. -/
def Meets (clock : Instant) (q : Query) : Prop :=
  ∀ (db db' : Database) (reply : q.Reply), (q.perform clock).run.run db = (.ok reply, db') →
    reply = q.answer (shown clock) db.tables ∧ db'.tables = q.next (shown clock) db.tables

theorem create_meets : create.Meets clock := by
  intro db db' reply h
  refine ⟨rfl, ?_⟩
  cases db with
  | ready _ | bare =>
    cases h
    rfl
  | unreachable => cases h

theorem append_meets (address : String) (records : List SignatureRecord) :
    (append address records).Meets clock := by
  intro db db' reply h
  have h := timed_ok h
  dsimp only at h
  split at h
  next hempty =>
    cases h
    rw [List.isEmpty_map, List.isEmpty_iff] at hempty
    subst hempty
    exact ⟨(Nat.sub_self _).symm, rfl⟩
  next =>
    obtain ⟨tables, tables', rfl, hrun, rfl⟩ := transact_ok h
    obtain ⟨rfl, hcount⟩ := Session.insert_ok Tables.signatureTable_lawful hrun
    exact ⟨Nat.eq_sub_of_add_eq hcount, rfl⟩

theorem mark_meets (address : String) (names : List String) :
    (mark address names).Meets clock := by
  intro db db' reply h
  simp only [perform, Action.mark] at h
  split at h
  next hempty =>
    cases h
    obtain rfl := List.isEmpty_iff.mp hempty
    refine ⟨(List.countP_eq_zero.mpr fun row _ => ?_).symm, ?_⟩
    · simp
    · simp only [next, markRows_nil]
  next =>
    obtain ⟨tables, tables', rfl, hrun, rfl⟩ := transact_ok h
    obtain ⟨counts, _, hmark, hpure⟩ := run_bind_ok.mp hrun
    cases hpure
    obtain ⟨rfl, htotal⟩ := Session.markPieces_ok hmark
    rw [pieces_flatten (by decide)] at htotal ⊢
    exact ⟨htotal, rfl⟩

theorem save_meets (address : String) (ts : List Indexed) : (save address ts).Meets clock := by
  intro db db' reply h
  simp only [perform, Action.save] at h
  split at h
  next hempty =>
    cases h
    obtain rfl := List.isEmpty_iff.mp hempty
    refine ⟨?_, rfl⟩
    change (⟨0, 0, 0⟩ : SaveCount) = ⟨_ - _, _ - _, _ - _⟩
    simp only [next, List.map_nil, List.flatMap_nil, insertAll_nil, Nat.sub_self]
  next =>
    obtain ⟨tables, tables', rfl, hrun, rfl⟩ := transact_ok (timed_ok h)
    -- one table after another, and a table does not show in the counts of the others
    obtain ⟨added, mid, htransactions, hrun⟩ := run_bind_ok.mp hrun
    obtain ⟨balances, mid', hbalances, hrun⟩ := run_bind_ok.mp hrun
    obtain ⟨transfers, mid'', htransfers, hpure⟩ := run_bind_ok.mp hrun
    obtain ⟨rfl, hcount⟩ := Session.insert_ok Tables.transactionTable_lawful htransactions
    obtain rfl := Nat.eq_sub_of_add_eq hcount
    obtain ⟨rfl, hcount⟩ := Session.insert_ok Tables.balanceTable_lawful hbalances
    obtain rfl := Nat.eq_sub_of_add_eq hcount
    obtain ⟨rfl, hcount⟩ := Session.insert_ok Tables.transferTable_lawful htransfers
    obtain rfl := Nat.eq_sub_of_add_eq hcount
    cases hpure
    exact ⟨rfl, rfl⟩

theorem addJob_meets (address : String) : (addJob address).Meets clock := by
  intro db db' reply h
  simp only [perform, Action.addJob] at h
  split at h
  next => cases h
  next =>
    obtain ⟨tables, tables', rfl, hrun, rfl⟩ := transact_ok (passing_ok (timed_ok h)).2
    obtain ⟨_, _, hget, hrest⟩ := run_bind_ok.mp hrun
    cases hget
    simp only [answer, next, Database.tables]
    cases hfind : tables.jobs.find? fun job => job.address = Text.trim address with
    | some found | none =>
      rw [hfind] at hrest
      cases hrest
      exact ⟨rfl, rfl⟩

theorem take_meets (id : Int) (worker : Option Int) (owner : Option String) :
    (take id worker owner).Meets clock := by
  intro db db' reply h
  obtain ⟨tables, tables', rfl, hrun, rfl⟩ := transact_ok (passing_ok (timed_ok h)).2
  obtain ⟨_, _, hget, hrest⟩ := run_bind_ok.mp hrun
  cases hget
  dsimp only at hrest
  simp only [answer, next, granted, Database.tables]
  cases hfind : tables.jobs.find? fun job => job.id = id with
  | some found =>
    rw [hfind] at hrest
    dsimp only at hrest ⊢
    by_cases hpending : found.status = .pending
    · rw [if_pos hpending] at hrest ⊢
      cases hrest
      exact ⟨rfl, rfl⟩
    · rw [if_neg hpending] at hrest ⊢
      cases hrest
      exact ⟨rfl, rfl⟩
  | none =>
    rw [hfind] at hrest
    cases hrest
    exact ⟨rfl, rfl⟩

theorem updateJob_meets (id : Int) (status : String) (worker : Option Int)
    (owner : Option String) : (updateJob id status worker owner).Meets clock := by
  intro db db' reply h
  simp only [perform, Action.updateJob] at h
  split at h
  next => cases h
  next known hknown =>
    obtain ⟨tables, tables', rfl, hrun, rfl⟩ := transact_ok (passing_ok (timed_ok h)).2
    obtain ⟨_, _, hget, hrest⟩ := run_bind_ok.mp hrun
    cases hget
    simp only [answer, next, Database.tables, hknown]
    split at hrest
    next found hfind =>
      have hsame : held id worker owner tables.jobs = found.heldBy worker owner := by
        rw [held, hfind, Option.any_some]
      simp only [hsame]
      split at hrest
      next hheld =>
        cases hrest
        rw [if_pos hheld]
        exact ⟨hheld.symm, rfl⟩
      next hheld =>
        cases hrest
        rw [if_neg hheld]
        exact ⟨(Bool.eq_false_iff.mpr hheld).symm, rfl⟩
    next hfind =>
      have hsame : held id worker owner tables.jobs = false := by
        rw [held, hfind, Option.any_none]
      cases hrest
      simp only [hsame]
      exact ⟨rfl, rfl⟩

theorem perform_meets (clock : Instant) (q : Query) : q.Meets clock := by
  cases q with
  | create => exact create_meets
  | append address records => exact append_meets address records
  | mark address names => exact mark_meets address names
  | save address ts => exact save_meets address ts
  | addJob address => exact addJob_meets address
  | take id worker owner => exact take_meets id worker owner
  | updateJob id status worker owner => exact updateJob_meets id status worker owner
  | lease => exact fun _ _ _ h => transact_pure (bounded_ok h).2.2
  | countSignatures | transfers | balances | countTransactions | job =>
    exact fun _ _ _ h => transact_pure (passing_ok h).2
  | candidate => exact fun _ _ _ h => transact_pure h

theorem perform_ok (clock : Instant) (q : Query) (db db' : Database) (reply : q.Reply)
    (h : (q.perform clock).run.run db = (.ok reply, db')) :
    ∃ now, reply = q.answer now db.tables ∧ db'.tables = q.next now db.tables :=
  ⟨shown clock, perform_meets clock q db db' reply h⟩

end Query

end AddressIndex.Store
