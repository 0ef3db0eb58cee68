import AddressIndex.Proofs.Pool
import AddressIndex.Proofs.Replay

/-! Surroundings without faults of their own. The node answers as it may, each pause goes in one
way, and the database does every query that passes values which it can store, and as many as it
takes, at a time that it can store. When a query is made is open, and that shows in the times of the
rows alone. `Ends` tells where an attempt can end up from some tables, `Passes` where it can be cut
off, and `Carries` says of both that all goes well. -/

namespace AddressIndex

open Store (Tables Query fits leaseOrder limited)

structure Surroundings where
  answers : Answers
  pause : Binary64 → Except ArithmeticFault Unit

namespace Surroundings

/-- Surroundings with a node whose answers depend on the request alone. -/
def ofNode (node : Rpc.Request → Rpc.Answer)
    (pause : Binary64 → Except ArithmeticFault Unit) : Surroundings :=
  ⟨fun request answer => answer = node request, pause⟩

variable {S : Surroundings} {tables mid tables' : Tables}

/-- The event happens with the first tables and leaves the second. -/
def Allows (S : Surroundings) (before : Tables) (ev : Event) (after : Tables) : Prop :=
  match ev with
  | ⟨.ask request, answer⟩ => S.answers request answer ∧ after = before
  | ⟨.query q, reply⟩ => ∃ clock now, clock.seconds = .ok now ∧ fits now ∧
      (q.perform clock).run.run (.ready before) = (reply, .ready after)
  | ⟨.sleep seconds, pause⟩ => pause = S.pause seconds ∧ after = before
  | _ => after = before

/-- What a query of indexing comes to: it is done unless the database does not take its values. -/
theorem Allows.query_cases {q : Query} {reply : Except Store.Fault q.Reply} (hq : q.Indexes)
    (h : S.Allows tables ⟨.query q, reply⟩ tables') :
    (q.Storable ∧ (∃ now, reply = .ok (q.answer now tables)) ∧
        tables'.untimed = q.next 0 tables.untimed) ∨
      ¬ q.Storable ∧ (∃ fault, reply = .error fault) ∧ tables' = tables := by
  obtain ⟨clock, now, hclock, hnow, hrun⟩ := h
  cases reply with
  | ok reply =>
    obtain ⟨time, hreply, hafter⟩ := q.perform_ok clock _ _ _ hrun
    have hstored := (Query.storable_at hnow).mpr (Query.stored_of_ok hq hclock hrun)
    change tables' = q.next time tables at hafter
    exact .inl ⟨hstored, ⟨time, congrArg _ hreply⟩, hafter ▸ Query.untimed_next hq time⟩
  | error fault =>
    refine .inr ⟨fun hstorable => ?_, ⟨fault, rfl⟩,
      Store.Database.ready.inj (Query.perform_error hrun)⟩
    obtain ⟨hstored, hroom⟩ := (Query.storable_at hnow).mp hstorable
    rcases Query.refused_of_error hq hclock hrun with ⟨p, hp, hfault⟩ | ⟨hnone, -⟩
    · rw [hstored p hp] at hfault
      cases hfault
    · exact hnone hroom

/-- The events happen one after another. -/
inductive Leads (S : Surroundings) : Tables → Trace → Tables → Prop
  | done (tables : Tables) : Leads S tables [] tables
  | event {tables mid tables' : Tables} {ev : Event} {t : Trace} :
    S.Allows tables ev mid → Leads S mid t tables' → Leads S tables (ev :: t) tables'

@[simp] theorem leads_nil : S.Leads tables [] tables' ↔ tables' = tables := by
  constructor
  · rintro ⟨⟩
    rfl
  · rintro rfl
    exact .done _

theorem leads_cons {ev : Event} {t : Trace} :
    S.Leads tables (ev :: t) tables' ↔ ∃ mid, S.Allows tables ev mid ∧ S.Leads mid t tables' := by
  constructor
  · rintro (_ | ⟨hev, hrest⟩)
    exact ⟨_, hev, hrest⟩
  · rintro ⟨mid, hev, hrest⟩
    exact .event hev hrest

theorem leads_append {t₁ t₂ : Trace} :
    S.Leads tables (t₁ ++ t₂) tables' ↔ ∃ mid, S.Leads tables t₁ mid ∧ S.Leads mid t₂ tables' := by
  induction t₁ generalizing tables with
  | nil => simp
  | cons ev t₁ ih =>
    simp only [List.cons_append, leads_cons, ih]
    constructor
    · rintro ⟨first, hev, mid, h₁, h₂⟩
      exact ⟨mid, ⟨first, hev, h₁⟩, h₂⟩
    · rintro ⟨mid, ⟨first, hev, h₁⟩, h₂⟩
      exact ⟨first, hev, mid, h₁, h₂⟩

/-- Effects other than queries leave the tables as they are. -/
theorem Leads.quiet {t : Trace} (h : S.Leads tables t tables')
    (hquiet : ∀ ev ∈ t, ∀ q, ev.effect ≠ .query q) : tables' = tables := by
  induction h with
  | done _ => rfl
  | @event tables mid tables' ev t hev hrest ih =>
    obtain ⟨hfirst, hquiet⟩ := List.forall_mem_cons.mp hquiet
    rw [ih hquiet]
    obtain ⟨effect, reply⟩ := ev
    cases effect with
    | query q => exact absurd rfl (hfirst q)
    | ask _ | sleep _ => exact hev.2
    | _ => exact hev

theorem Leads.asked {t : Trace} {request : Rpc.Request} {answer : Rpc.Answer}
    (h : S.Leads tables t tables') (hmem : ⟨.ask request, answer⟩ ∈ t) :
    S.answers request answer := by
  induction h with
  | done _ => cases hmem
  | event hev _ ih =>
    rcases List.mem_cons.mp hmem with rfl | hmem
    · exact hev.1
    · exact ih hmem

theorem Leads.answered {t : Trace} (h : S.Leads tables t tables') : t.Answered S.answers :=
  fun _ _ hmem => h.asked hmem

theorem Leads.slept {t : Trace} {seconds : Binary64} {pause : Except ArithmeticFault Unit}
    (h : S.Leads tables t tables') (hmem : ⟨.sleep seconds, pause⟩ ∈ t) :
    pause = S.pause seconds := by
  induction h with
  | done _ => cases hmem
  | event hev _ ih =>
    rcases List.mem_cons.mp hmem with rfl | hmem
    · exact hev.1
    · exact ih hmem

/-- Where the node has an answer to every request, there is always something that happens. -/
theorem exists_leads {α : Type} (htotal : ∀ request, ∃ answer, S.answers request answer)
    (p : Program α) (tables : Tables) :
    ∃ t value tables', p.Runs t value ∧ S.Leads tables t tables' := by
  induction p generalizing tables with
  | done value => exact ⟨[], value, tables, .done value, .done tables⟩
  | act effect next ih =>
    obtain ⟨reply, mid, hev⟩ : ∃ reply mid, S.Allows tables ⟨effect, reply⟩ mid := by
      cases effect with
      | ask request =>
        obtain ⟨answer, hanswer⟩ := htotal request
        exact ⟨answer, tables, hanswer, rfl⟩
      | query q =>
        obtain ⟨reply, mid, hrun⟩ := q.perform_ready (.whole 0) tables
        exact ⟨reply, mid, .whole 0, 0, rfl, by decide, hrun⟩
      | sleep seconds => exact ⟨S.pause seconds, tables, rfl, rfl⟩
      | log _ _ => exact ⟨(), tables, rfl⟩
      | draw greatest => exact ⟨⟨0, greatest.succ_pos⟩, tables, rfl⟩
      | stopping => exact ⟨false, tables, rfl⟩
    obtain ⟨t, value, tables', hruns, hrest⟩ := ih reply mid
    exact ⟨_, value, tables', .act reply hruns, .event hev hrest⟩

/-! ### Where attempts end -/

/-- From the first tables the attempt can end in `r` and leave the second. -/
def Ends {ε α : Type} (S : Surroundings) (x : ExceptT ε Program α) (tables : Tables)
    (r : Except ε α) (tables' : Tables) : Prop :=
  ∃ t, x.run.Runs t r ∧ S.Leads tables t tables'

/-- From the first tables the attempt can be cut off where there are the second. -/
def Passes {ε α : Type} (S : Surroundings) (x : ExceptT ε Program α)
    (tables tables' : Tables) : Prop :=
  ∃ t left, x.run.Leaves t left ∧ S.Leads tables t tables'

section Attempts

variable {ε α β : Type} {x : ExceptT ε Program α} {f : α → ExceptT ε Program β}

theorem Ends.passes {r : Except ε α} (h : S.Ends x tables r tables') :
    S.Passes x tables tables' := by
  obtain ⟨t, hruns, hleads⟩ := h
  exact ⟨t, _, hruns.leaves, hleads⟩

theorem ends_bind {r : Except ε β} :
    S.Ends (x >>= f) tables r tables' ↔
      (∃ a mid, S.Ends x tables (.ok a) mid ∧ S.Ends (f a) mid r tables') ∨
        ∃ e, r = .error e ∧ S.Ends x tables (.error e) tables' := by
  constructor
  · rintro ⟨t, hruns, hleads⟩
    rcases Attempt.runs_bind.mp hruns with ⟨t₁, t₂, a, rfl, h₁, h₂⟩ | ⟨e, rfl, h⟩
    · obtain ⟨mid, hleads₁, hleads₂⟩ := leads_append.mp hleads
      exact .inl ⟨a, mid, ⟨t₁, h₁, hleads₁⟩, ⟨t₂, h₂, hleads₂⟩⟩
    · exact .inr ⟨e, rfl, t, h, hleads⟩
  · rintro (⟨a, mid, ⟨t₁, h₁, hleads₁⟩, ⟨t₂, h₂, hleads₂⟩⟩ | ⟨e, rfl, t, h, hleads⟩)
    · exact ⟨t₁ ++ t₂, Attempt.runs_bind.mpr (.inl ⟨t₁, t₂, a, rfl, h₁, h₂⟩),
        leads_append.mpr ⟨mid, hleads₁, hleads₂⟩⟩
    · exact ⟨t, Attempt.runs_bind.mpr (.inr ⟨e, rfl, h⟩), hleads⟩

/-- Attempts in a row are cut off in the first one or in the second one. -/
theorem Passes.bind (h : S.Passes (x >>= f) tables tables') :
    S.Passes x tables tables' ∨
      ∃ a mid, S.Ends x tables (.ok a) mid ∧ S.Passes (f a) mid tables' := by
  obtain ⟨t, left, hleft, hleads⟩ := h
  rw [ExceptT.run_bind] at hleft
  rcases Program.leaves_bind hleft with ⟨p', hleft⟩ | ⟨t₁, t₂, r, rfl, hruns, hleft⟩
  · exact .inl ⟨t, p', hleft, hleads⟩
  · obtain ⟨mid, h₁, h₂⟩ := leads_append.mp hleads
    cases r with
    | ok a => exact .inr ⟨a, mid, ⟨t₁, hruns, h₁⟩, ⟨t₂, left, hleft, h₂⟩⟩
    | error e =>
      cases hleft
      rw [leads_nil] at h₂
      subst h₂
      rw [List.append_nil] at hleads
      exact .inl ⟨t₁, _, hruns.leaves, hleads⟩

@[simp] theorem ends_pure {a : α} {r : Except ε α} :
    S.Ends (pure a : ExceptT ε Program α) tables r tables' ↔ r = .ok a ∧ tables' = tables := by
  simp only [Ends, Attempt.runs_pure]
  constructor
  · rintro ⟨t, ⟨rfl, rfl⟩, hleads⟩
    exact ⟨rfl, leads_nil.mp hleads⟩
  · rintro ⟨rfl, rfl⟩
    exact ⟨[], ⟨rfl, rfl⟩, .done _⟩

theorem ends_bind_ok {b : β} :
    S.Ends (x >>= f) tables (.ok b) tables' ↔
      ∃ a mid, S.Ends x tables (.ok a) mid ∧ S.Ends (f a) mid (.ok b) tables' := by
  rw [ends_bind]
  simp

/-- An attempt without queries leaves the tables as they are, wherever it is cut off. -/
theorem Passes.quiet (hquiet : x.run.Only fun effect => ∀ q, effect ≠ .query q)
    (h : S.Passes x tables tables') : tables' = tables := by
  obtain ⟨t, left, hleft, hleads⟩ := h
  exact hleads.quiet (hquiet.leaves hleft)

end Attempts

theorem ends_sleep {seconds : Binary64} {r : Except Fault Unit}
    (h : S.Ends (Attempt.sleep seconds) tables r tables') :
    r = (S.pause seconds).mapError .arithmetic := by
  obtain ⟨t, hruns, hleads⟩ := h
  obtain ⟨pause, rfl, rfl⟩ := Attempt.runs_sleep.mp hruns
  rw [hleads.slept List.mem_cons_self]

section Queries

variable {q : Query}

theorem ends_query {r : Except Fault q.Reply} (hq : q.Indexes)
    (h : S.Ends (Attempt.query q) tables r tables') :
    (q.Storable ∧ (∃ now, r = .ok (q.answer now tables)) ∧
        tables'.untimed = q.next 0 tables.untimed) ∨
      ¬ q.Storable ∧ ∃ fault, r = .error fault := by
  obtain ⟨t, hruns, hleads⟩ := h
  rcases Attempt.runs_query.mp hruns with ⟨reply, rfl, rfl⟩ | ⟨fault, rfl, rfl⟩
  all_goals
    obtain ⟨mid, hev, hrest⟩ := leads_cons.mp hleads
    obtain rfl := leads_nil.mp hrest
  · rcases hev.query_cases hq with ⟨hstorable, ⟨now, hreply⟩, hafter⟩ | ⟨-, ⟨_, ⟨⟩⟩, -⟩
    exact .inl ⟨hstorable, ⟨now, congrArg _ (Except.ok.inj hreply)⟩, hafter⟩
  · rcases hev.query_cases hq with ⟨-, ⟨_, ⟨⟩⟩, -⟩ | ⟨hnot, -, -⟩
    exact .inr ⟨hnot, _, rfl⟩

theorem ends_query_ok {reply : q.Reply} (hq : q.Indexes)
    (h : S.Ends (Attempt.query q) tables (.ok reply) tables') :
    q.Storable ∧ (∃ now, reply = q.answer now tables) ∧
      tables'.untimed = q.next 0 tables.untimed := by
  rcases ends_query hq h with ⟨hstorable, ⟨now, hreply⟩, hafter⟩ | ⟨-, _, ⟨⟩⟩
  exact ⟨hstorable, ⟨now, Except.ok.inj hreply⟩, hafter⟩

/-- A query happens as a whole or not at all. -/
theorem Passes.query (h : S.Passes (Attempt.query q) tables tables') :
    tables' = tables ∨ ∃ r, S.Ends (Attempt.query q) tables r tables' := by
  obtain ⟨t, left, hleft, hleads⟩ := h
  cases hleft with
  | start _ => exact .inl (leads_nil.mp hleads)
  | act reply hleft =>
    right
    cases reply with
    | ok reply =>
      change (Program.done (Except.ok reply : Except Fault q.Reply)).Leaves _ _ at hleft
      cases hleft
      exact ⟨.ok reply, _, Attempt.runs_query.mpr (.inl ⟨reply, rfl, rfl⟩), hleads⟩
    | error fault =>
      change (Program.done (Except.error (.store fault) : Except Fault q.Reply)).Leaves _ _ at hleft
      cases hleft
      exact ⟨.error (.store fault), _, Attempt.runs_query.mpr (.inr ⟨fault, rfl, rfl⟩), hleads⟩

end Queries

/-! ### Attempts that go well -/

/-- From the tables the attempt succeeds, as `post` says, and wherever it is cut off there are
tables as `cut` says. -/
structure Carries {ε α : Type} (S : Surroundings) (x : ExceptT ε Program α) (tables : Tables)
    (post : α → Tables → Prop) (cut : Tables → Prop) : Prop where
  ends {r : Except ε α} {tables' : Tables} : S.Ends x tables r tables' →
    ∃ a, r = .ok a ∧ post a tables'
  passes {tables' : Tables} : S.Passes x tables tables' → cut tables'

section Carries

variable {ε α β : Type} {x : ExceptT ε Program α} {f : α → ExceptT ε Program β}
  {post post' : α → Tables → Prop} {cut cut' : Tables → Prop}

theorem Carries.mono (h : S.Carries x tables post cut) (hpost : ∀ a t, post a t → post' a t)
    (hcut : ∀ t, cut t → cut' t) : S.Carries x tables post' cut' where
  ends hends :=
    have ⟨a, hr, ha⟩ := h.ends hends
    ⟨a, hr, hpost a _ ha⟩
  passes hpasses := hcut _ (h.passes hpasses)

theorem Carries.mono_cut (h : S.Carries x tables post cut) (hcut : ∀ t, cut t → cut' t) :
    S.Carries x tables post cut' :=
  h.mono (fun _ _ hpost => hpost) hcut

theorem Carries.bind {last : β → Tables → Prop} (hx : S.Carries x tables post cut)
    (hf : ∀ a mid, post a mid → S.Carries (f a) mid last cut) :
    S.Carries (x >>= f) tables last cut where
  ends hends := by
    rcases ends_bind.mp hends with ⟨a, mid, hfirst, hrest⟩ | ⟨e, rfl, hfirst⟩
    · obtain ⟨_, ⟨⟩, ha⟩ := hx.ends hfirst
      exact (hf a mid ha).ends hrest
    · obtain ⟨_, ⟨⟩, -⟩ := hx.ends hfirst
  passes hpasses := by
    rcases hpasses.bind with hfirst | ⟨a, mid, hfirst, hrest⟩
    · exact hx.passes hfirst
    · obtain ⟨_, ⟨⟩, ha⟩ := hx.ends hfirst
      exact (hf a mid ha).passes hrest

/-- An attempt without queries can only be cut off where it began. -/
theorem Carries.quiet (hquiet : x.run.Only fun effect => ∀ q, effect ≠ .query q)
    (hpost : ∀ r, S.Ends x tables r tables → ∃ a, r = .ok a ∧ post a tables) (hcut : cut tables) :
    S.Carries x tables post cut where
  ends hends := by
    obtain rfl := hends.passes.quiet hquiet
    exact hpost _ hends
  passes hpasses := by
    rwa [hpasses.quiet hquiet]

theorem Carries.pure {a : α} (hpost : post a tables) (hcut : cut tables) :
    S.Carries (pure a : ExceptT ε Program α) tables post cut := by
  refine .quiet (Attempt.only_pure a) ?_ hcut
  rintro r ⟨t, hruns, -⟩
  exact ⟨a, (Attempt.runs_pure.mp hruns).2, hpost⟩

end Carries

section Carries

variable {cut : Tables → Prop}

theorem Carries.log {source : Log.Source} {line : Log.Line} (hcut : cut tables) :
    S.Carries (Attempt.log source line) tables (fun _ after => after = tables) cut := by
  refine .quiet (Attempt.only_log nofun) ?_ hcut
  rintro r ⟨t, hruns, -⟩
  exact ⟨(), (Attempt.runs_log.mp hruns).1, rfl⟩

theorem Carries.sleep {seconds : Binary64} (hpause : S.pause seconds = .ok ())
    (hcut : cut tables) :
    S.Carries (Attempt.sleep seconds) tables (fun _ after => after = tables) cut := by
  refine .quiet (Attempt.only_sleep nofun) (fun r hends => ⟨(), ?_, rfl⟩) hcut
  rw [ends_sleep hends, hpause]
  rfl

theorem Carries.query {q : Query} {post : q.Reply → Tables → Prop} (hq : q.Indexes)
    (hstorable : q.Storable)
    (hpost : ∀ now after, after.untimed = q.next 0 tables.untimed →
      post (q.answer now tables) after)
    (hcut : cut tables) (hcut' : ∀ after, after.untimed = q.next 0 tables.untimed → cut after) :
    S.Carries (Attempt.query q) tables post cut where
  ends hends := by
    rcases ends_query hq hends with ⟨-, ⟨now, hreply⟩, hafter⟩ | ⟨hnot, -⟩
    · exact ⟨_, hreply, hpost now _ hafter⟩
    · exact absurd hstorable hnot
  passes hpasses := by
    rcases hpasses.query with rfl | ⟨r, hends⟩
    · exact hcut
    · rcases ends_query hq hends with ⟨-, -, hafter⟩ | ⟨hnot, -⟩
      · exact hcut' _ hafter
      · exact absurd hstorable hnot

/-- A query that can be stored happens, and a cut leaves what was there before or after it. -/
theorem Carries.whole {q : Query} (hq : q.Indexes) (hstorable : q.Storable) :
    S.Carries (Attempt.query q) tables (fun _ after => after.untimed = q.next 0 tables.untimed)
      fun after => after.untimed = tables.untimed ∨ after.untimed = q.next 0 tables.untimed :=
  .query hq hstorable (fun _ _ hafter => hafter) (.inl rfl) fun _ hafter => .inr hafter

end Carries

end Surroundings

/-! ### Calm worlds -/

/-- A world without rivals and faults, whose node answers by the request alone. -/
structure World.Calm (node : Rpc.Request → Rpc.Answer) (w : World) : Prop where
  peaceful : w.rivals = 0
  sound : w.broken = []
  patient : w.longestPause = none
  clock : ∃ now, w.clock.seconds = .ok now ∧ fits now
  told : ∀ asked request, w.node asked request = node request

/-- What such a world does, such surroundings allow. -/
theorem World.Calm.allows {node : Rpc.Request → Rpc.Answer} {w : World} {tables : Tables}
    (h : w.Calm node) (hready : w.database = .ready tables) (effect : Effect) :
    (w.reply effect).2.Calm node ∧ ∃ after, (w.reply effect).2.database = .ready after ∧
      (Surroundings.ofNode node fun _ => .ok ()).Allows tables ⟨effect, (w.reply effect).1⟩
        after := by
  obtain ⟨hpeaceful, hsound, hpatient, hclock, htold⟩ := h
  cases effect with
  | ask request =>
    exact ⟨⟨hpeaceful, hsound, hpatient, hclock, htold⟩, tables, hready, htold w.asked request, rfl⟩
  | query q =>
    obtain ⟨now, hnow, hfits⟩ := id hclock
    obtain ⟨reply, after, hrun⟩ := q.perform_ready w.clock tables
    have hreply : w.query q = (reply, { w with database := .ready after }) := by
      simp only [World.query, World.disturbed_of_peaceful hpeaceful, hsound, List.lookup_nil,
        hready, hrun]
    change (w.query q).2.Calm node ∧ ∃ after, (w.query q).2.database = .ready after ∧
      (Surroundings.ofNode node fun _ => .ok ()).Allows tables ⟨.query q, (w.query q).1⟩ after
    rw [hreply]
    exact ⟨⟨hpeaceful, hsound, hpatient, hclock, htold⟩, after, rfl, w.clock, now, hnow, hfits,
      hrun⟩
  | sleep seconds =>
    have hreply : w.pause seconds = (.ok (), { w with slept := seconds :: w.slept }) := by
      simp [World.pause, hpatient]
    change (w.pause seconds).2.Calm node ∧ ∃ after, (w.pause seconds).2.database = .ready after ∧
      (Surroundings.ofNode node fun _ => .ok ()).Allows tables ⟨.sleep seconds, (w.pause seconds).1⟩
        after
    rw [hreply]
    exact ⟨⟨hpeaceful, hsound, hpatient, hclock, htold⟩, tables, hready, rfl, rfl⟩
  | _ => exact ⟨⟨hpeaceful, hsound, hpatient, hclock, htold⟩, tables, hready, rfl⟩

theorem Program.leads_trace {α : Type} {node : Rpc.Request → Rpc.Answer} {w : World}
    {tables : Tables} (h : w.Calm node) (hready : w.database = .ready tables) (p : Program α) :
    ∃ after, (p.run w).2.database = .ready after ∧
      (Surroundings.ofNode node fun _ => .ok ()).Leads tables (p.trace w) after := by
  induction p generalizing w tables with
  | done value => exact ⟨tables, hready, .done tables⟩
  | act effect next ih =>
    obtain ⟨hcalm, mid, hmid, hallows⟩ := h.allows hready effect
    obtain ⟨after, hafter, hleads⟩ := ih _ hcalm hmid
    exact ⟨after, hafter, .event hallows hleads⟩

theorem Sample.calm (database : Store.Database) : (world database).Calm node :=
  ⟨rfl, rfl, rfl, ⟨0, rfl, by decide⟩, fun _ _ => rfl⟩

end AddressIndex
