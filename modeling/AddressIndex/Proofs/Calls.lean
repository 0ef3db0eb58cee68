import AddressIndex.Proofs.Query
import AddressIndex.Proofs.Trace
import AddressIndex.Store.Claim

/-! Calls of the store, one at a time. A call is a query, or a claim with all its attempts. It comes
about as the queries in it do: each is performed, or the database breaks off the unit of work that
it is, after any of its statements. A call that ends with a fault leaves the database as it was. -/

namespace AddressIndex.Store

/-! ### Queries that are broken off -/

/-- A session that is broken off: what comes after `first` is not done. -/
def Session.brokenOff {α β : Type} (first : Session α) (fault : Fault) : Session β :=
  first >>= fun _ => throw fault

/-- A unit of work that is broken off fails, and what it did by then is undone. -/
theorem transact_brokenOff {α β : Type} {op : Operation} {first : Session α} {fault : Fault}
    {db db' : Database} {r : Except Fault β}
    (h : db.transact op (first.brokenOff fault) = (r, db')) :
    (∃ fault', r = .error fault') ∧ db' = db := by
  cases r with
  | ok value =>
    obtain ⟨tables, tables', rfl, hrun, rfl⟩ := transact_ok h
    obtain ⟨_, mid, -, hthrow⟩ := run_bind_ok.mp hrun
    cases hthrow
  | error fault' => exact ⟨⟨fault', rfl⟩, transact_error h⟩

namespace Query

variable {clock : Instant} {q : Query} {db mid db' : Database} {fault : Fault}

/-- A query goes so: it is performed, or its unit of work is broken off. -/
inductive Goes (clock : Instant) (q : Query) (db : Database) :
    Except Fault q.Reply → Database → Prop
  | performed {r : Except Fault q.Reply} {db' : Database}
      (h : (q.perform clock).run.run db = (r, db')) : Goes clock q db r db'
  | brokenOff {α : Type} {first : Session α} {rest : α → Session q.Reply} {fault : Fault}
      {r : Except Fault q.Reply} {db' : Database} (unit : q.IsUnit clock (first >>= rest))
      (h : db.transact q.operation (first.brokenOff fault) = (r, db')) : Goes clock q db r db'

/-- However a query fails, the database is as before. -/
theorem Goes.error (h : q.Goes clock db (.error fault) db') : db' = db := by
  cases h with
  | performed h => exact perform_error h
  | brokenOff _ h => exact (transact_brokenOff h).2

theorem Goes.ok {reply : q.Reply} (h : q.Goes clock db (.ok reply) db') :
    (q.perform clock).run.run db = (.ok reply, db') := by
  cases h with
  | performed h => exact h
  | brokenOff _ h =>
    obtain ⟨⟨_, ⟨⟩⟩, -⟩ := transact_brokenOff h

theorem Goes.ready {r : Except Fault q.Reply} {tables : Tables}
    (h : q.Goes clock (.ready tables) r db') : ∃ tables', db' = .ready tables' := by
  cases r with
  | error fault => exact ⟨tables, h.error⟩
  | ok reply =>
    obtain ⟨r, tables', hrun⟩ := q.perform_ready clock tables
    obtain ⟨rfl, rfl⟩ := Prod.mk.inj (hrun.symm.trans h.ok)
    exact ⟨tables', rfl⟩

theorem Goes.answers {reply : q.Reply} (h : q.Goes clock db (.ok reply) db') :
    reply = q.answer (shown clock) db.tables ∧ db'.tables = q.next (shown clock) db.tables :=
  perform_meets clock q db db' reply h.ok

/-- A query that answers and leaves the tables as they were leaves the database as it was. -/
theorem Goes.unchanged {reply : q.Reply} (h : q.Goes clock db (.ok reply) db') (hq : q ≠ .create)
    (hsame : q.next (shown clock) db.tables = db.tables) : db' = db := by
  have htables : db'.tables = db.tables := h.answers.2.trans hsame
  rcases idle_or_unit clock hq with ⟨r, hidle⟩ | ⟨session, hunit⟩
  · have hrun := h.ok
    rw [hidle db] at hrun
    cases hrun
    rfl
  · have hrun := h.ok
    rw [hunit db] at hrun
    obtain ⟨tables, tables', rfl, -, rfl⟩ := transact_ok hrun
    exact congrArg Database.ready htables

end Query

/-! ### Calls -/

theorem only_claim {P : Effect → Prop} {worker : Option Int} {owner : Option String} {left : Nat}
    (hcandidate : P (.query .candidate)) (htake : ∀ id, P (.query (.take id worker owner))) :
    (claimWithin worker owner left).run.Only P := by
  induction left with
  | zero => exact Attempt.only_pure _
  | succ left ih =>
    rw [claimWithin]
    apply Attempt.only_bind (Attempt.only_query hcandidate)
    intro candidate
    cases candidate with
    | none => exact Attempt.only_pure _
    | some id =>
      apply Attempt.only_bind (Attempt.only_query (htake id))
      intro taken
      cases taken with
      | none => exact ih
      | some job => exact Attempt.only_pure _

inductive Call where
  /-- A query that is an operation of its own. -/
  | query (q : Query) (whole : q.operation ≠ .claim)
  | claim (worker : Option Int) (owner : Option String)

namespace Call

def Reply : Call → Type
  | .query q _ => q.Reply
  | .claim _ _ => Option Job

def attempt : (call : Call) → Attempt call.Reply
  | .query q _ => Attempt.query q
  | .claim worker owner => Store.claim worker owner

/-- The queries that a call can make. -/
def Makes : Call → Query → Prop
  | .query q _, made => made = q
  | .claim worker owner, made => made = .candidate ∨ ∃ id, made = .take id worker owner

theorem only_attempt (call : Call) :
    call.attempt.run.Only fun effect => ∃ q, effect = .query q ∧ call.Makes q := by
  cases call with
  | query q whole => exact Attempt.only_query ⟨q, rfl, rfl⟩
  | claim worker owner =>
    exact only_claim ⟨_, rfl, .inl rfl⟩ fun id => ⟨_, rfl, .inr ⟨id, rfl⟩⟩

end Call

end AddressIndex.Store

namespace AddressIndex

open Store (Database Tables Query Call shown)

variable {clock : Instant} {db mid db' : Database} {t : Trace}

/-- The queries in a trace come about one after another, at the time that the clock shows. -/
inductive Trace.ComesAbout (clock : Instant) : Database → Trace → Database → Prop
  | done (db : Database) : ComesAbout clock db [] db
  | query {db mid db' : Database} {q : Query} {reply : Except Store.Fault q.Reply} {t : Trace}
      (first : q.Goes clock db reply mid) (rest : ComesAbout clock mid t db') :
      ComesAbout clock db (⟨.query q, reply⟩ :: t) db'

namespace Trace.ComesAbout

theorem of_nil (h : ComesAbout clock db [] db') : db' = db := by
  cases h
  rfl

theorem of_singleton {q : Query} {reply : Except Store.Fault q.Reply}
    (h : ComesAbout clock db [⟨.query q, reply⟩] db') : q.Goes clock db reply db' := by
  cases h with
  | query first rest => exact rest.of_nil ▸ first

theorem of_append {t₁ t₂ : Trace} (h : ComesAbout clock db (t₁ ++ t₂) db') :
    ∃ mid, ComesAbout clock db t₁ mid ∧ ComesAbout clock mid t₂ db' := by
  induction t₁ generalizing db with
  | nil => exact ⟨db, .done db, h⟩
  | cons ev t₁ ih =>
    cases h with
    | query first rest =>
      obtain ⟨mid, h₁, h₂⟩ := ih rest
      exact ⟨mid, .query first h₁, h₂⟩

theorem keeps {P : Query → Prop} {R : Tables → Prop} (h : ComesAbout clock db t db')
    (ht : ∀ ev ∈ t, ∃ q, ev.effect = .query q ∧ P q)
    (hR : ∀ q tables, P q → R tables → R (q.next (shown clock) tables))
    (hdb : R db.tables) : R db'.tables := by
  induction h with
  | done _ => exact hdb
  | @query db mid db' q reply t first rest ih =>
    obtain ⟨⟨_, ⟨⟩, hq⟩, ht⟩ := List.forall_mem_cons.mp ht
    refine ih ht ?_
    cases reply with
    | ok reply =>
      rw [first.answers.2]
      exact hR q _ hq hdb
    | error fault => rwa [first.error]

end Trace.ComesAbout

namespace Store

namespace Call

variable {call : Call} {fault : AddressIndex.Fault}

/-- A call goes so, from the first database to the second. -/
def Goes (clock : Instant) (call : Call) (db : Database)
    (result : Except AddressIndex.Fault call.Reply) (db' : Database) : Prop :=
  ∃ t, call.attempt.run.Runs t result ∧ t.ComesAbout clock db db'

/-- A call that is one query goes as the query does. -/
theorem goes_query {q : Query} {whole : q.operation ≠ .claim}
    {result : Except AddressIndex.Fault q.Reply} :
    (Call.query q whole).Goes clock db result db' ↔
      (∃ reply, result = .ok reply ∧ q.Goes clock db (.ok reply) db') ∨
        ∃ fault, result = .error (.store fault) ∧ q.Goes clock db (.error fault) db' := by
  constructor
  · rintro ⟨t, hruns, hcomes⟩
    rcases Attempt.runs_query.mp hruns with ⟨reply, rfl, rfl⟩ | ⟨fault, rfl, rfl⟩
    · exact .inl ⟨reply, rfl, hcomes.of_singleton⟩
    · exact .inr ⟨fault, rfl, hcomes.of_singleton⟩
  · rintro (⟨reply, rfl, h⟩ | ⟨fault, rfl, h⟩)
    · exact ⟨_, Attempt.runs_query.mpr (.inl ⟨reply, rfl, rfl⟩), .query h (.done _)⟩
    · exact ⟨_, Attempt.runs_query.mpr (.inr ⟨fault, rfl, rfl⟩), .query h (.done _)⟩

theorem Goes.keeps {result : Except AddressIndex.Fault call.Reply} {R : Tables → Prop}
    (h : call.Goes clock db result db')
    (hR : ∀ q tables, call.Makes q → R tables → R (q.next (shown clock) tables))
    (hdb : R db.tables) : R db'.tables := by
  obtain ⟨t, hruns, hcomes⟩ := h
  exact hcomes.keeps (call.only_attempt.runs hruns) hR hdb

theorem Goes.ready {result : Except AddressIndex.Fault call.Reply} {tables : Tables}
    (h : call.Goes clock (.ready tables) result db') : ∃ tables', db' = .ready tables' := by
  obtain ⟨t, -, hcomes⟩ := h
  generalize hstart : Database.ready tables = start at hcomes
  induction hcomes generalizing tables with
  | done _ => exact ⟨tables, hstart.symm⟩
  | @query db mid db' q reply t first rest ih =>
    subst hstart
    obtain ⟨tables', rfl⟩ : ∃ tables', mid = .ready tables' := first.ready
    exact ih rfl

/-- A claim that fails took nothing. -/
theorem claimWithin_error {worker : Option Int} {owner : Option String} {left : Nat} {t : Trace}
    (hruns : (claimWithin worker owner left).run.Runs t (.error fault))
    (hcomes : t.ComesAbout clock db db') : db' = db := by
  induction left generalizing db t with
  | zero =>
    obtain ⟨-, hsame⟩ := Attempt.runs_pure.mp hruns
    cases hsame
  | succ left ih =>
    rw [claimWithin] at hruns
    rcases Attempt.runs_bind.mp hruns with ⟨t₁, t₂, candidate, rfl, hfirst, hrest⟩ | ⟨_, ⟨⟩, hfirst⟩
    · obtain rfl := Attempt.runs_query_ok.mp hfirst
      obtain ⟨mid, hlook, hafter⟩ := hcomes.of_append
      have hgoes := hlook.of_singleton
      -- the look changed nothing, so what follows starts from the same database
      obtain rfl := hgoes.unchanged (by simp) rfl
      cases candidate with
      | none =>
        obtain ⟨-, hsame⟩ := Attempt.runs_pure.mp hrest
        cases hsame
      | some id =>
        rcases Attempt.runs_bind.mp hrest with ⟨t₃, t₄, taken, rfl, htake, hlast⟩ | ⟨_, ⟨⟩, htake⟩
        · obtain rfl := Attempt.runs_query_ok.mp htake
          obtain ⟨mid', htaken, hlater⟩ := hafter.of_append
          cases taken with
          | some job =>
            obtain ⟨-, hsame⟩ := Attempt.runs_pure.mp hlast
            cases hsame
          | none =>
            -- this attempt came too late and took nothing: one fewer is left
            have htakes := htaken.of_singleton
            have hlate : Query.granted (shown clock) id worker owner mid.tables.jobs = none :=
              htakes.answers.1.symm
            obtain rfl := htakes.unchanged (by simp) (by simp only [Query.next, hlate])
            exact ih hlast hlater
        · rcases Attempt.runs_query.mp htake with ⟨_, ⟨⟩, _⟩ | ⟨_, _, rfl⟩
          exact hafter.of_singleton.error
    · rcases Attempt.runs_query.mp hfirst with ⟨_, ⟨⟩, _⟩ | ⟨_, _, rfl⟩
      exact hcomes.of_singleton.error

theorem Goes.error (h : call.Goes clock db (.error fault) db') : db' = db := by
  cases call with
  | query q whole =>
    rcases goes_query.mp h with ⟨_, ⟨⟩, _⟩ | ⟨_, _, hgoes⟩
    exact hgoes.error
  | claim worker owner =>
    obtain ⟨t, hruns, hcomes⟩ := h
    exact claimWithin_error hruns hcomes

/-- A call that ends with a fault leaves the database as it was, whatever the database and wherever
in the call the fault comes from. For no statement stands outside a unit of work: a query on tables
that does not do without the database is one unit as a whole. -/
theorem fails_without_effect :
    (∀ (clock : Instant) (call : Call) (db db' : Database) (fault : AddressIndex.Fault),
      call.Goes clock db (.error fault) db' → db' = db) ∧
      ∀ (clock : Instant) (q : Query), q ≠ .create →
        q.IsIdle clock ∨ ∃ session, q.IsUnit clock session := by
  constructor
  · intro clock call db db' fault h
    exact h.error
  · intro clock q hq
    exact q.idle_or_unit clock hq

end Call

/-! ### Calls in a row -/

/-- Where a list can be split that ends in `x`: at `x`, or before it. -/
theorem concat_eq_split {α : Type} {xs before after : List α} {x y : α} :
    xs ++ [x] = before ++ y :: after ↔
      (before = xs ∧ y = x ∧ after = []) ∨
        ∃ rest, xs = before ++ y :: rest ∧ after = rest ++ [x] := by
  constructor
  · intro hsplit
    rcases List.eq_nil_or_concat after with rfl | ⟨rest, last, rfl⟩
    · obtain ⟨rfl, hlast⟩ := List.append_inj' hsplit rfl
      exact .inl ⟨rfl, (List.singleton_inj.mp hlast).symm, rfl⟩
    · rw [List.concat_eq_append, ← List.cons_append, ← List.append_assoc] at hsplit
      obtain ⟨rfl, hlast⟩ := List.append_inj' hsplit rfl
      obtain rfl := List.singleton_inj.mp hlast
      exact .inr ⟨rest, rfl, List.concat_eq_append⟩
  · rintro (⟨rfl, rfl, rfl⟩ | ⟨rest, rfl, rfl⟩)
    · rfl
    · rw [List.append_assoc, List.cons_append]

/-- A call that was made: what time the clock showed, and how it ended. -/
structure Made where
  clock : Instant
  call : Call
  result : Except AddressIndex.Fault call.Reply

/-- The calls were made one after another, the latest last. -/
inductive Calls (start : Database) : List Made → Database → Prop
  | start : Calls start [] start
  | next {made : List Made} {last : Made} {db db' : Database} (before : Calls start made db)
      (goes : last.call.Goes last.clock db last.result db') : Calls start (made ++ [last]) db'

namespace Calls

variable {start db db' : Database} {made later : List Made}

theorem ready {tables : Tables} (h : Calls (.ready tables) made db) :
    ∃ tables', db = .ready tables' := by
  induction h with
  | start => exact ⟨tables, rfl⟩
  | next before goes ih =>
    obtain ⟨tables', rfl⟩ := ih
    exact goes.ready

/-- What every query keeps, calls keep. -/
theorem keeps {R : Tables → Prop} (h : Calls start made db)
    (hR : ∀ (now : Int) (q : Query) tables, R tables → R (q.next now tables))
    (hstart : R start.tables) : R db.tables := by
  induction h with
  | start => exact hstart
  | next before goes ih => exact goes.keeps (fun q tables _ => hR _ q tables) ih

end Calls

end Store

/-- A transaction by which one account paid a fee. -/
def Sample.payment (slot : Int) (payer signature : String) : Transaction where
  slot
  blockTime := none
  signatures := [signature]
  accounts := ⟨[payer], 1⟩
  header := none
  instructions := []
  inner := []
  preBalances := [5]
  postBalances := [3]
  preTokenBalances := []
  postTokenBalances := []
  loaded := none
  failure := .null
  fee := 2
  computeUnits := none

def Sample.paid (slot : Int) (payer signature : String) : Indexed :=
  .of (payment slot payer signature)
    (BalanceDelta.ofTransaction (payment slot payer signature)) [] signature

/-- The rows that a save adds to the blank tables, if it does not fail. -/
def Sample.counted (ts : List Indexed) : Option Store.SaveCount :=
  match ((Query.save "A" ts).perform (.whole 0)).run.run (.ready .blank) with
  | (.ok count, _) => some count
  | (.error _, _) => none

/-- The 201st transaction is in a slot that the database cannot store. The first 200 come to a row
in a statement of their own, and the save of all leaves none. -/
theorem Store.Call.fails_without_effect_of_late_slot :
    let early := List.replicate 200 (Sample.paid 1 "B" "s")
    let all := early ++ [Sample.paid (greatestInteger + 1) "B" "s"]
    Sample.counted early = some ⟨1, 1, 0⟩ ∧
      ∃ fault, (Call.query (.save "A" all) (by decide)).Goes (.whole 0) (.ready .blank)
        (.error (.store fault)) (.ready .blank) := by
  intro early all
  have hearly : Sample.counted early = some ⟨1, 1, 0⟩ := by decide +kernel
  have hall : Sample.counted all = none := by decide +kernel
  refine ⟨hearly, ?_⟩
  cases hrun : ((Query.save "A" all).perform (.whole 0)).run.run (.ready .blank) with
  | mk r db' =>
    cases r with
    | ok count =>
      unfold Sample.counted at hall
      rw [hrun] at hall
      cases hall
    | error fault =>
      have hgoes : (Call.query (.save "A" all) (by decide)).Goes (.whole 0) (.ready .blank)
          (.error (.store fault)) db' := goes_query.mpr (.inr ⟨fault, rfl, .performed hrun⟩)
      obtain rfl := fails_without_effect.1 _ _ _ _ _ hgoes
      exact ⟨fault, hgoes⟩

end AddressIndex
