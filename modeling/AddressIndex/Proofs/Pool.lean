import AddressIndex.Proofs.Tables
import AddressIndex.Proofs.Trace
import Mathlib.Data.List.Induction
import Mathlib.Logic.Function.Basic

/-! Pools of programs on one database. In each step one program has one effect, or an address is
handed in from outside; which comes next is open, and so are the clock, the answers of the node
within what `answers` allows, and the queries that fail. What is proved of a pool holds in every
order of steps.

`Served` is a run seen from one program: between its own effects the others do to the database what
`meddles` allows. -/

namespace AddressIndex

open Store (Database Tables Query)

/-- A node may answer the request so. -/
abbrev Answers := Rpc.Request → Rpc.Answer → Prop

/-- The event may happen in the first database and leaves the second. -/
def Event.Happens (answers : Answers) (before : Database) (ev : Event) (after : Database) : Prop :=
  match ev with
  | ⟨.ask request, answer⟩ => answers request answer ∧ after = before
  | ⟨.query q, reply⟩ =>
    (∃ clock, (q.perform clock).run.run before = (reply, after)) ∨
      (∃ fault, reply = .error fault) ∧ after = before
  | _ => after = before

namespace Event.Happens

variable {answers : Answers} {before after : Database} {ev : Event} {q : Query}

theorem of_reply {reply : q.Reply} (h : Happens answers before ⟨.query q, .ok reply⟩ after) :
    ∃ now, reply = q.answer now before.tables ∧ after.tables = q.next now before.tables := by
  rcases h with ⟨clock, h⟩ | ⟨⟨fault, h⟩, -⟩
  · exact q.perform_ok clock _ _ _ h
  · cases h

theorem of_fault {fault : Store.Fault} (h : Happens answers before ⟨.query q, .error fault⟩ after) :
    after = before := by
  rcases h with ⟨clock, h⟩ | ⟨-, h⟩
  · exact Query.perform_error h
  · exact h

theorem of_ask {request : Rpc.Request} {answer : Rpc.Answer}
    (h : Happens answers before ⟨.ask request, answer⟩ after) :
    answers request answer ∧ after = before := h

/-- Only a query that succeeds changes the database. -/
theorem cases (h : ev.Happens answers before after) :
    (∃ q reply now, ev = ⟨.query q, .ok reply⟩ ∧ reply = q.answer now before.tables ∧
      after.tables = q.next now before.tables) ∨
    (∀ q reply, ev ≠ ⟨.query q, .ok reply⟩) ∧ after = before := by
  obtain ⟨effect, reply⟩ := ev
  cases effect with
  | query q =>
    cases reply with
    | ok reply =>
      obtain ⟨now, hreply, hafter⟩ := of_reply h
      exact .inl ⟨q, reply, now, rfl, hreply, hafter⟩
    | error _ => exact .inr ⟨fun _ _ => nofun, of_fault h⟩
  | ask _ => exact .inr ⟨fun _ _ => nofun, h.2⟩
  | _ => exact .inr ⟨fun _ _ => nofun, h⟩

theorem grows (h : ev.Happens answers before after) : before.tables.Grows after.tables := by
  rcases h.cases with ⟨q, _, now, -, -, hafter⟩ | ⟨-, rfl⟩
  · rw [hafter]
    exact Query.next_grows
  · exact .refl _

theorem keyed (h : ev.Happens answers before after) (hkeyed : before.tables.Keyed) :
    after.tables.Keyed := by
  rcases h.cases with ⟨q, _, now, -, -, hafter⟩ | ⟨-, rfl⟩
  · rw [hafter]
    exact Query.next_keyed hkeyed
  · exact hkeyed

end Event.Happens

/-! ### Pools -/

/-- A database and what each program has still to do. -/
structure Pool (ι ρ : Type) where
  database : Database
  left : ι → Program ρ

/-- What happened in a pool, the latest last, and to which program; none for an address that was
handed in. -/
abbrev History (ι : Type) := List (Option ι × Event)

namespace History

variable {ι : Type} [DecidableEq ι]

/-- What one program did. -/
def own (i : ι) (history : History ι) : Trace :=
  history.filterMap fun entry => if entry.1 = some i then some entry.2 else none

@[simp] theorem own_nil (i : ι) : own i [] = [] := rfl

@[simp] theorem own_append (i : ι) (h₁ h₂ : History ι) :
    own i (h₁ ++ h₂) = own i h₁ ++ own i h₂ :=
  List.filterMap_append

@[simp] theorem own_cons_self (i : ι) (ev : Event) (history : History ι) :
    own i ((some i, ev) :: history) = ev :: own i history := by
  simp [own]

theorem own_cons_of_ne {i : ι} {who : Option ι} (h : who ≠ some i) (ev : Event)
    (history : History ι) : own i ((who, ev) :: history) = own i history := by
  simp [own, h]

theorem own_concat_self (i : ι) (history : History ι) (ev : Event) :
    own i (history ++ [(some i, ev)]) = own i history ++ [ev] := by
  rw [own_append, own_cons_self, own_nil]

theorem own_concat_of_ne {i : ι} {who : Option ι} (h : who ≠ some i) (history : History ι)
    (ev : Event) : own i (history ++ [(who, ev)]) = own i history := by
  rw [own_append, own_cons_of_ne h, own_nil, List.append_nil]

theorem mem_own {i : ι} {ev : Event} {history : History ι} :
    ev ∈ own i history ↔ (some i, ev) ∈ history := by
  simp only [own, List.mem_filterMap, Option.ite_none_right_eq_some, Option.some.injEq]
  constructor
  · rintro ⟨⟨_, _⟩, hmem, rfl, rfl⟩
    exact hmem
  · exact fun hmem => ⟨_, hmem, rfl, rfl⟩

/-- What a program did before one of its effects is what it did before that in the history. -/
theorem own_split {i : ι} {history : History ι} {t₁ t₂ : Trace} {ev : Event}
    (h : own i history = t₁ ++ ev :: t₂) :
    ∃ h₁ h₂, history = h₁ ++ (some i, ev) :: h₂ ∧ own i h₁ = t₁ ∧ own i h₂ = t₂ := by
  induction history generalizing t₁ with
  | nil => simp at h
  | cons entry history ih =>
    obtain ⟨who, first⟩ := entry
    by_cases hwho : who = some i
    · subst hwho
      rw [own_cons_self] at h
      cases t₁ with
      | nil =>
        obtain ⟨rfl, rfl⟩ := List.cons.inj h
        exact ⟨[], history, rfl, rfl, rfl⟩
      | cons first' t₁ =>
        obtain ⟨rfl, hrest⟩ := List.cons.inj h
        obtain ⟨h₁, h₂, rfl, rfl, rfl⟩ := ih hrest
        exact ⟨(some i, first) :: h₁, h₂, rfl, own_cons_self i first h₁, rfl⟩
    · rw [own_cons_of_ne hwho] at h
      obtain ⟨h₁, h₂, rfl, rfl, rfl⟩ := ih h
      exact ⟨(who, first) :: h₁, h₂, rfl, own_cons_of_ne hwho first h₁, rfl⟩

/-- Two parts of what a program did are done in two parts of the history. -/
theorem own_eq_append {i : ι} {history : History ι} {t₁ t₂ : Trace}
    (h : own i history = t₁ ++ t₂) :
    ∃ h₁ h₂, history = h₁ ++ h₂ ∧ own i h₁ = t₁ ∧ own i h₂ = t₂ :=
  List.filterMap_eq_append_iff.mp h

end History

namespace Pool

variable {ι ρ : Type} [DecidableEq ι] {answers : Answers}

/-- One step of a pool: an effect of one program, or an address that is handed in. -/
inductive Step (answers : Answers) (pool : Pool ι ρ) : Option ι × Event → Pool ι ρ → Prop
  | work (i : ι) {effect : Effect} {next : effect.Reply → Program ρ} (reply : effect.Reply)
      {database : Database} : pool.left i = .act effect next →
      Event.Happens answers pool.database ⟨effect, reply⟩ database →
      Step answers pool (some i, ⟨effect, reply⟩)
        ⟨database, Function.update pool.left i (next reply)⟩
  | handIn (address : String) (reply : Except Store.Fault (Job × Bool))
      {database : Database} :
      Event.Happens answers pool.database ⟨.query (.addJob address), reply⟩ database →
      Step answers pool (none, ⟨.query (.addJob address), reply⟩) { pool with database }

/-- What the steps from a pool on may come to. -/
inductive Reaches (answers : Answers) (start : Pool ι ρ) : History ι → Pool ι ρ → Prop
  | refl : Reaches answers start [] start
  | step {history : History ι} {pool pool' : Pool ι ρ} {entry : Option ι × Event} :
      Reaches answers start history pool → Step answers pool entry pool' →
      Reaches answers start (history ++ [entry]) pool'

theorem Step.happens {pool pool' : Pool ι ρ} {entry : Option ι × Event}
    (h : Step answers pool entry pool') :
    entry.2.Happens answers pool.database pool'.database := by
  cases h with
  | work _ _ _ happens => exact happens
  | handIn _ _ happens => exact happens

/-- Only new jobs are handed in; any other query is one of a program. -/
theorem Step.program {pool pool' : Pool ι ρ} {who : Option ι} {q : Query}
    {reply : Except Store.Fault q.Reply} (h : Step answers pool (who, ⟨.query q, reply⟩) pool')
    (hq : ∀ address, q ≠ .addJob address) : ∃ i, who = some i := by
  cases h with
  | work i _ _ _ => exact ⟨i, rfl⟩
  | handIn address _ _ => exact absurd rfl (hq address)

/-! #### Where rows come from -/

section Rows

variable {pool pool' : Pool ι ρ} {who : Option ι} {ev : Event}

/-- A signature row was there before the step, or a program marks it or appends it. -/
theorem Step.signature {row : Store.SignatureRow} (h : Step answers pool (who, ev) pool')
    (hrow : row ∈ pool'.database.tables.signatures) :
    row ∈ pool.database.tables.signatures ∨
      (∃ i names count, who = some i ∧ ev = ⟨.query (.mark row.owner names), .ok count⟩ ∧
        row.key ∈ names ∧ { row with processed := false } ∈ pool.database.tables.signatures) ∨
      ∃ i records count, who = some i ∧ ev = ⟨.query (.append row.owner records), .ok count⟩ ∧
        row.record ∈ records ∧ row.processed = false := by
  have happens : ev.Happens answers pool.database pool'.database := h.happens
  rcases happens.cases with ⟨q, reply, now, rfl, -, hafter⟩ | ⟨-, hafter⟩
  · rw [hafter] at hrow
    obtain hrow | ⟨names, rfl, hname, hold⟩ | ⟨records, rfl, hrecord, hfresh⟩ :=
      Query.signature_of_next hrow
    · exact .inl hrow
    · obtain ⟨i, rfl⟩ := h.program nofun
      exact .inr (.inl ⟨i, names, reply, rfl, rfl, hname, hold⟩)
    · obtain ⟨i, rfl⟩ := h.program nofun
      exact .inr (.inr ⟨i, records, reply, rfl, rfl, hrecord, hfresh⟩)
  · rw [hafter] at hrow
    exact .inl hrow

/-- A transaction row was there before the step, or a program saves it. -/
theorem Step.transaction {row : Store.TransactionRow} (h : Step answers pool (who, ev) pool')
    (hrow : row ∈ pool'.database.tables.transactions) :
    row ∈ pool.database.tables.transactions ∨
      ∃ i ts count, who = some i ∧ ev = ⟨.query (.save row.owner ts), .ok count⟩ ∧
        ∃ now, ∃ t ∈ ts, row = .ofIndexed row.owner now t := by
  have happens : ev.Happens answers pool.database pool'.database := h.happens
  rcases happens.cases with ⟨q, reply, now, rfl, -, hafter⟩ | ⟨-, hafter⟩
  · rw [hafter] at hrow
    rcases Query.transaction_of_next hrow with hrow | ⟨ts, rfl, hsaved⟩
    · exact .inl hrow
    · obtain ⟨i, rfl⟩ := h.program nofun
      exact .inr ⟨i, ts, reply, rfl, rfl, now, hsaved⟩
  · rw [hafter] at hrow
    exact .inl hrow

/-- A transfer row was there before the step, or a program saves it. -/
theorem Step.transfer {row : Store.TransferRow} (h : Step answers pool (who, ev) pool')
    (hrow : row ∈ pool'.database.tables.transfers) :
    row ∈ pool.database.tables.transfers ∨
      ∃ i ts count, who = some i ∧ ev = ⟨.query (.save row.owner ts), .ok count⟩ ∧
        ∃ t ∈ ts, row ∈ Store.TransferRow.ofIndexed row.owner t := by
  have happens : ev.Happens answers pool.database pool'.database := h.happens
  rcases happens.cases with ⟨q, reply, now, rfl, -, hafter⟩ | ⟨-, hafter⟩
  · rw [hafter] at hrow
    rcases Query.transfer_of_next hrow with hrow | ⟨ts, rfl, hsaved⟩
    · exact .inl hrow
    · obtain ⟨i, rfl⟩ := h.program nofun
      exact .inr ⟨i, ts, reply, rfl, rfl, hsaved⟩
  · rw [hafter] at hrow
    exact .inl hrow

end Rows

/-! #### Runs of a pool -/

namespace Reaches

variable {start mid pool : Pool ι ρ} {history : History ι}

theorem trans {h₁ h₂ : History ι} (r₁ : Reaches answers start h₁ mid)
    (r₂ : Reaches answers mid h₂ pool) : Reaches answers start (h₁ ++ h₂) pool := by
  induction r₂ with
  | refl => rwa [List.append_nil]
  | step _ hstep ih =>
    rw [← List.append_assoc]
    exact .step ih hstep

/-- The state in the middle of a history. -/
theorem split {h₁ h₂ : History ι} (r : Reaches answers start (h₁ ++ h₂) pool) :
    ∃ mid, Reaches answers start h₁ mid ∧ Reaches answers mid h₂ pool := by
  induction h₂ using List.reverseRecOn generalizing pool with
  | nil => exact ⟨pool, by rwa [List.append_nil] at r, .refl⟩
  | append_singleton h₂ entry ih =>
    rw [← List.append_assoc] at r
    generalize hall : h₁ ++ h₂ ++ [entry] = all at r
    cases r with
    | refl => simp at hall
    | step r hstep =>
      obtain ⟨hinit, hlast⟩ := List.append_inj' hall rfl
      obtain rfl := List.singleton_inj.mp hlast
      subst hinit
      obtain ⟨mid, r₁, r₂⟩ := ih r
      exact ⟨mid, r₁, .step r₂ hstep⟩

theorem single {entry : Option ι × Event} (r : Reaches answers start [entry] pool) :
    Step answers start entry pool := by
  generalize hall : [entry] = all at r
  cases r with
  | refl => cases hall
  | step r hstep =>
    obtain ⟨hinit, hlast⟩ := List.append_inj' (hall.symm.trans (List.nil_append _).symm) rfl
    obtain rfl := List.singleton_inj.mp hlast
    subst hinit
    generalize hnil : ([] : History ι) = none_yet at r
    cases r with
    | refl => exact hstep
    | step _ _ => simp at hnil

/-- The states before and after one entry of a history. -/
theorem split_at {h₁ h₂ : History ι} {entry : Option ι × Event}
    (r : Reaches answers start (h₁ ++ entry :: h₂) pool) :
    ∃ before after, Reaches answers start h₁ before ∧ Step answers before entry after ∧
      Reaches answers after h₂ pool := by
  obtain ⟨before, r₁, r⟩ := r.split
  rw [← List.singleton_append] at r
  obtain ⟨after, rstep, r₂⟩ := r.split
  exact ⟨before, after, r₁, rstep.single, r₂⟩

/-- What is left of a program is what its own effects leave of it. -/
theorem leaves (r : Reaches answers start history pool) (i : ι) :
    (start.left i).Leaves (history.own i) (pool.left i) := by
  induction r with
  | refl => exact .start _
  | step _ hstep ih =>
    cases hstep with
    | work j reply hleft _ =>
      by_cases hj : j = i
      · subst hj
        rw [hleft] at ih
        rw [History.own_concat_self]
        simpa using ih.snoc reply
      · rw [History.own_concat_of_ne (by simpa using hj)]
        simpa [Function.update_of_ne (Ne.symm hj)] using ih
    | handIn _ _ _ =>
      rw [History.own_concat_of_ne (by simp)]
      exact ih

/-- A program among others heeds what it heeds alone. -/
theorem heeds {i : ι} {ev : Event} {pool' : Pool ι ρ} {ok : Trace → Effect → Prop}
    {post : ρ → Trace → Prop} (r : Reaches answers start history pool)
    (h : (start.left i).Heeds ok [] post) (step : pool.Step answers (some i, ev) pool') :
    ok (history.own i) ev.effect := by
  have hleft := (h.leaves (r.leaves i)).1
  cases step with
  | work _ _ hact _ =>
    rw [hact] at hleft
    exact hleft.1

/-- What every event keeps is kept. -/
theorem keeps {P : Tables → Prop} (r : Reaches answers start history pool)
    (hstart : P start.database.tables)
    (hkeeps : ∀ ev before after, Event.Happens answers before ev after → P before.tables →
      P after.tables) : P pool.database.tables := by
  induction r with
  | refl => exact hstart
  | step _ hstep ih => exact hkeeps _ _ _ hstep.happens ih

/-- What the node answered it may answer. -/
theorem answered {who : Option ι} {request : Rpc.Request} {answer : Rpc.Answer}
    (r : Reaches answers start history pool) (h : (who, ⟨.ask request, answer⟩) ∈ history) :
    answers request answer := by
  obtain ⟨h₁, h₂, rfl⟩ := List.append_of_mem h
  obtain ⟨before, after, -, step, -⟩ := r.split_at
  exact (Event.Happens.of_ask step.happens).1

theorem grows (r : Reaches answers start history pool) :
    start.database.tables.Grows pool.database.tables :=
  r.keeps (.refl _) fun _ _ _ h hgrows => hgrows.trans h.grows

theorem keyed (r : Reaches answers start history pool) (h : start.database.tables.Keyed) :
    pool.database.tables.Keyed :=
  r.keeps h fun _ _ _ h hkeyed => h.keyed hkeyed

end Reaches

end Pool

/-! ### One program among others -/

/-- The events happen one after another. Before the first, between two and after the last, others
do to the database what `meddles` allows. -/
inductive Served (answers : Answers) (meddles : Tables → Tables → Prop) :
    Database → Trace → Database → Prop
  | done {db db' : Database} : meddles db.tables db'.tables → Served answers meddles db [] db'
  | event {db before after db' : Database} {ev : Event} {t : Trace} :
    meddles db.tables before.tables → ev.Happens answers before after →
    Served answers meddles after t db' → Served answers meddles db (ev :: t) db'

namespace Served

variable {answers : Answers} {meddles : Tables → Tables → Prop} {db mid db' : Database}
  {t₁ t₂ : Trace}

theorem split (refl : ∀ tables, meddles tables tables)
    (h : Served answers meddles db (t₁ ++ t₂) db') :
    ∃ mid, Served answers meddles db t₁ mid ∧ Served answers meddles mid t₂ db' := by
  induction t₁ generalizing db with
  | nil => exact ⟨db, .done (refl _), h⟩
  | cons ev t₁ ih =>
    cases h with
    | event hbefore happens h =>
      obtain ⟨mid, h₁, h₂⟩ := ih h
      exact ⟨mid, .event hbefore happens h₁, h₂⟩

theorem meddle (trans : ∀ {a b c}, meddles a b → meddles b c → meddles a c)
    (h : Served answers meddles db t₁ mid) (hlast : meddles mid.tables db'.tables) :
    Served answers meddles db t₁ db' := by
  induction h with
  | done hfirst => exact .done (trans hfirst hlast)
  | event hbefore happens _ ih => exact .event hbefore happens (ih hlast)

theorem snoc {before after : Database} {ev : Event} (refl : ∀ tables, meddles tables tables)
    (h : Served answers meddles db t₁ before) (happens : ev.Happens answers before after) :
    Served answers meddles db (t₁ ++ [ev]) after := by
  induction h with
  | done hfirst => exact .event hfirst happens (.done (refl _))
  | event hbefore happens' _ ih => exact .event hbefore happens' (ih happens)

end Served

/-- A run of a pool as one of its programs sees it, if the others only do what they may. -/
theorem Pool.Reaches.served {ι ρ : Type} [DecidableEq ι] {answers : Answers}
    {meddles : Tables → Tables → Prop} {start pool : Pool ι ρ} {history : History ι} {i : ι}
    (refl : ∀ tables, meddles tables tables)
    (trans : ∀ {a b c}, meddles a b → meddles b c → meddles a c)
    (r : Reaches answers start history pool)
    (others : ∀ who ev before after, (who, ev) ∈ history → who ≠ some i →
      Event.Happens answers before ev after → meddles before.tables after.tables) :
    Served answers meddles start.database (history.own i) pool.database := by
  induction r with
  | refl => exact .done (refl _)
  | @step history pool pool' entry _ hstep ih =>
    obtain ⟨who, ev⟩ := entry
    have hbefore := ih fun who ev before after hmem =>
      others who ev before after (List.mem_append_left _ hmem)
    by_cases hwho : who = some i
    · subst hwho
      rw [History.own_concat_self]
      exact hbefore.snoc refl hstep.happens
    · rw [History.own_concat_of_ne hwho]
      exact hbefore.meddle trans (others who ev _ _ (by simp) hwho hstep.happens)

end AddressIndex
