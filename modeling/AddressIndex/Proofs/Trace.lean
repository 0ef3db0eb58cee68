import AddressIndex.Actor

/-! Traces of programs: the effects that a program had, each with the reply to it. `Runs` tells
what a finished program did, `Leaves` what an unfinished one did and has still to do, and `Heeds`
that a program has each of its effects only when what it did before allows it. All three take every
reply as possible; what a world replies is said elsewhere. -/

namespace AddressIndex

/-- An effect with the reply to it. -/
structure Event where
  effect : Effect
  reply : effect.Reply

/-- What a program did, the latest last. -/
abbrev Trace := List Event

/-- Whether an effect calls on the node or on the database. -/
@[simp] def Effect.isCall : Effect → Bool
  | .ask _ | .query _ => true
  | _ => false

/-- The calls in a trace. -/
def Trace.calls (t : Trace) : Trace := t.filter (·.effect.isCall)

/-- The requests to the node in a trace. -/
def Trace.requests (t : Trace) : List Rpc.Request :=
  t.filterMap fun ev =>
    match ev.effect with
    | .ask request => some request
    | _ => none

/-- How the pauses in a trace went. -/
def Trace.pauses (t : Trace) : List (Except ArithmeticFault Unit) :=
  t.filterMap fun ev =>
    match ev with
    | ⟨.sleep _, reply⟩ => some reply
    | _ => none

namespace Trace

@[simp] theorem pauses_nil : pauses [] = [] := rfl

@[simp] theorem pauses_append (t₁ t₂ : Trace) : pauses (t₁ ++ t₂) = pauses t₁ ++ pauses t₂ :=
  List.filterMap_append

@[simp] theorem pauses_log (source : Log.Source) (line : Log.Line) (u : Unit) (t : Trace) :
    pauses (⟨.log source line, u⟩ :: t) = pauses t := rfl

@[simp] theorem pauses_sleep (seconds : Binary64) (pause : Except ArithmeticFault Unit)
    (t : Trace) : pauses (⟨.sleep seconds, pause⟩ :: t) = pause :: pauses t := rfl

theorem pauses_eq_nil {t : Trace} (h : ∀ ev ∈ t, ∀ seconds, ev.effect ≠ .sleep seconds) :
    pauses t = [] := by
  refine List.filterMap_eq_nil_iff.mpr fun ev hev => ?_
  obtain ⟨effect, reply⟩ := ev
  cases effect with
  | sleep seconds => exact absurd rfl (h _ hev seconds)
  | _ => rfl

theorem slept_of_pauses {pause : Except ArithmeticFault Unit} {t : Trace} (h : pause ∈ pauses t) :
    ∃ seconds, ⟨.sleep seconds, pause⟩ ∈ t := by
  obtain ⟨⟨effect, reply⟩, hmem, hreply⟩ := List.mem_filterMap.mp h
  cases effect with
  | sleep seconds =>
    cases hreply
    exact ⟨seconds, hmem⟩
  | _ => cases hreply

theorem pauses_flatMap {α : Type} (xs : List α) (f : α → Trace) :
    pauses (xs.flatMap f) = xs.flatMap fun x => pauses (f x) :=
  List.filterMap_flatMap

@[simp] theorem requests_nil : requests [] = [] := rfl

@[simp] theorem requests_append (t₁ t₂ : Trace) :
    requests (t₁ ++ t₂) = requests t₁ ++ requests t₂ :=
  List.filterMap_append

@[simp] theorem requests_ask (request : Rpc.Request) (answer : Rpc.Answer) (t : Trace) :
    requests (⟨.ask request, answer⟩ :: t) = request :: requests t := rfl

@[simp] theorem requests_query (q : Store.Query) (reply : Except Store.Fault q.Reply) (t : Trace) :
    requests (⟨.query q, reply⟩ :: t) = requests t := rfl

theorem requests_calls (t : Trace) : requests (calls t) = requests t := by
  induction t with
  | nil => rfl
  | cons ev t ih =>
    obtain ⟨effect, reply⟩ := ev
    cases effect <;> simpa [requests, calls] using ih

@[simp] theorem calls_nil : calls [] = [] := rfl

@[simp] theorem calls_append (t₁ t₂ : Trace) : calls (t₁ ++ t₂) = calls t₁ ++ calls t₂ :=
  List.filter_append t₁ t₂

theorem calls_flatMap {α : Type} (xs : List α) (f : α → Trace) :
    calls (xs.flatMap f) = xs.flatMap fun x => calls (f x) :=
  List.filter_flatMap

@[simp] theorem calls_cons (ev : Event) (t : Trace) :
    calls (ev :: t) = if ev.effect.isCall then ev :: calls t else calls t :=
  List.filter_cons

theorem mem_calls {ev : Event} {t : Trace} : ev ∈ calls t ↔ ev ∈ t ∧ ev.effect.isCall := by
  simp [calls]

/-- The trace of writing log lines. -/
def logged (source : Log.Source) (lines : List Log.Line) : Trace :=
  lines.map fun line => ⟨.log source line, ()⟩

@[simp] theorem calls_logged (source : Log.Source) (lines : List Log.Line) :
    calls (logged source lines) = [] := by
  simp [calls, logged]

@[simp] theorem pauses_logged (source : Log.Source) (lines : List Log.Line) :
    pauses (logged source lines) = [] := by
  simp [pauses, logged]

/-- The one call of a trace is in it. -/
theorem mem_of_calls {ev : Event} {t : Trace} (h : calls t = [ev]) : ev ∈ t :=
  (mem_calls.mp (h ▸ List.mem_cons_self)).1

end Trace

namespace Program

variable {α β : Type}

/-- The program does `t` and ends in a value. -/
inductive Runs : Program α → Trace → α → Prop
  | done (value : α) : Runs (.done value) [] value
  | act {effect : Effect} {next : effect.Reply → Program α} (reply : effect.Reply) {t : Trace}
      {value : α} : Runs (next reply) t value → Runs (.act effect next) (⟨effect, reply⟩ :: t) value

/-- The last program is what is left of the first one after `t`. -/
inductive Leaves : Program α → Trace → Program α → Prop
  | start (p : Program α) : Leaves p [] p
  | act {effect : Effect} {next : effect.Reply → Program α} (reply : effect.Reply) {t : Trace}
      {q : Program α} : Leaves (next reply) t q → Leaves (.act effect next) (⟨effect, reply⟩ :: t) q

/-- Every effect of the program satisfies `P`. -/
def Only (P : Effect → Prop) : Program α → Prop
  | .done _ => True
  | .act effect next => P effect ∧ ∀ reply, (next reply).Only P

/-- After `past`, the program has each effect only when `ok` allows it after all that was done by
then, and it ends as `post` says. -/
def Heeds (ok : Trace → Effect → Prop) : Program α → Trace → (α → Trace → Prop) → Prop
  | .done value, past, post => post value past
  | .act effect next, past, post =>
    ok past effect ∧ ∀ reply, (next reply).Heeds ok (past ++ [⟨effect, reply⟩]) post

/-! ### Runs -/

@[simp] theorem runs_pure {value other : α} {t : Trace} :
    (pure value : Program α).Runs t other ↔ t = [] ∧ other = value := by
  constructor
  · rintro ⟨⟩
    exact ⟨rfl, rfl⟩
  · rintro ⟨rfl, rfl⟩
    exact .done _

@[simp] theorem runs_perform {effect : Effect} {t : Trace} {reply : effect.Reply} :
    (perform effect).Runs t reply ↔ t = [⟨effect, reply⟩] := by
  constructor
  · rintro (_ | ⟨_, ⟨⟩⟩)
    rfl
  · rintro rfl
    exact .act reply (.done reply)

theorem runs_bind {p : Program α} {f : α → Program β} {t : Trace} {value : β} :
    (p >>= f).Runs t value ↔ ∃ t₁ t₂ mid, t = t₁ ++ t₂ ∧ p.Runs t₁ mid ∧ (f mid).Runs t₂ value := by
  constructor
  · intro h
    induction p generalizing t with
    | done mid => exact ⟨[], t, mid, rfl, .done mid, h⟩
    | act effect next ih =>
      rcases h with _ | ⟨reply, h⟩
      obtain ⟨t₁, t₂, mid, rfl, h₁, h₂⟩ := ih reply h
      exact ⟨_, t₂, mid, rfl, .act reply h₁, h₂⟩
  · rintro ⟨t₁, t₂, mid, rfl, h₁, h₂⟩
    induction h₁ with
    | done _ => exact h₂
    | act reply _ ih => exact .act reply (ih h₂)

theorem Leaves.trans {p q r : Program α} {t₁ t₂ : Trace} (h₁ : p.Leaves t₁ q) (h₂ : q.Leaves t₂ r) :
    p.Leaves (t₁ ++ t₂) r := by
  induction h₁ with
  | start _ => exact h₂
  | act reply _ ih => exact .act reply (ih h₂)

/-- One more effect of an unfinished program. -/
theorem Leaves.snoc {p : Program α} {t : Trace} {effect : Effect}
    {next : effect.Reply → Program α} (h : p.Leaves t (.act effect next)) (reply : effect.Reply) :
    p.Leaves (t ++ [⟨effect, reply⟩]) (next reply) :=
  h.trans (.act reply (.start _))

/-- A program that has ended leaves nothing to do. -/
theorem Runs.leaves {p : Program α} {t : Trace} {value : α} (h : p.Runs t value) :
    p.Leaves t (.done value) := by
  induction h with
  | done value => exact .start _
  | act reply _ ih => exact .act reply ih

/-- Of two runs that do the same at first, neither ends before the other. -/
theorem Runs.eq_of_append {p : Program α} {t₁ t₂ u₁ u₂ : Trace} {a b : α} (h₁ : p.Runs t₁ a)
    (h₂ : p.Runs t₂ b) (h : t₁ ++ u₁ = t₂ ++ u₂) : t₁ = t₂ ∧ a = b := by
  induction h₁ generalizing t₂ with
  | done value =>
    cases h₂
    exact ⟨rfl, rfl⟩
  | act reply _ ih =>
    cases h₂ with
    | act reply' h₂ =>
      obtain ⟨hev, hrest⟩ := List.cons.inj h
      obtain rfl := eq_of_heq (Event.mk.inj hev).2
      obtain ⟨rfl, rfl⟩ := ih h₂ hrest
      exact ⟨rfl, rfl⟩

/-- What was done by some point of a run. -/
theorem Runs.split {p : Program α} {t₁ t₂ : Trace} {value : α} (h : p.Runs (t₁ ++ t₂) value) :
    ∃ q, p.Leaves t₁ q ∧ q.Runs t₂ value := by
  induction t₁ generalizing p with
  | nil => exact ⟨p, .start p, h⟩
  | cons ev t₁ ih =>
    cases h with
    | act reply h =>
      obtain ⟨q, hleft, hrest⟩ := ih h
      exact ⟨q, .act reply hleft, hrest⟩

/-- Two programs in a row are cut off in the first one or in the second one. -/
theorem leaves_bind {p : Program α} {f : α → Program β} {t : Trace} {q : Program β}
    (h : (p >>= f).Leaves t q) :
    (∃ p', p.Leaves t p') ∨
      ∃ t₁ t₂ mid, t = t₁ ++ t₂ ∧ p.Runs t₁ mid ∧ (f mid).Leaves t₂ q := by
  induction p generalizing t with
  | done mid => exact .inr ⟨[], t, mid, rfl, .done mid, h⟩
  | act effect next ih =>
    rcases h with _ | ⟨reply, h⟩
    · exact .inl ⟨_, .start _⟩
    · rcases ih reply h with ⟨p', hleft⟩ | ⟨t₁, t₂, mid, rfl, hruns, hleft⟩
      · exact .inl ⟨p', .act reply hleft⟩
      · exact .inr ⟨_, t₂, mid, rfl, .act reply hruns, hleft⟩

/-! ### What effects a program has -/

theorem Only.mono {P Q : Effect → Prop} (h : ∀ effect, P effect → Q effect) {p : Program α}
    (hp : p.Only P) : p.Only Q := by
  induction p with
  | done _ => trivial
  | act effect next ih => exact ⟨h _ hp.1, fun reply => ih reply (hp.2 reply)⟩

theorem only_bind {P : Effect → Prop} {p : Program α} {f : α → Program β} (hp : p.Only P)
    (hf : ∀ value, (f value).Only P) : (p >>= f).Only P := by
  induction p with
  | done value => exact hf value
  | act effect next ih => exact ⟨hp.1, fun reply => ih reply (hp.2 reply)⟩

theorem only_pure {P : Effect → Prop} (value : α) : (pure value : Program α).Only P := trivial

theorem Only.runs {P : Effect → Prop} {p : Program α} (hp : p.Only P) {t : Trace} {value : α}
    (h : p.Runs t value) : ∀ ev ∈ t, P ev.effect := by
  induction h with
  | done _ => simp
  | act reply _ ih => exact List.forall_mem_cons.mpr ⟨hp.1, ih (hp.2 reply)⟩

theorem Only.leaves {P : Effect → Prop} {p q : Program α} (hp : p.Only P) {t : Trace}
    (h : p.Leaves t q) : ∀ ev ∈ t, P ev.effect := by
  induction h with
  | start _ => simp
  | act reply _ ih => exact List.forall_mem_cons.mpr ⟨hp.1, ih (hp.2 reply)⟩

/-! ### What a program heeds -/

section Heeds

variable {ok : Trace → Effect → Prop}

theorem heeds_bind {p : Program α} {f : α → Program β} {past : Trace} {post : β → Trace → Prop} :
    (p >>= f).Heeds ok past post ↔
      p.Heeds ok past fun value past => (f value).Heeds ok past post := by
  induction p generalizing past with
  | done _ => rfl
  | act effect next ih =>
    constructor
    · exact fun h => ⟨h.1, fun reply => ih reply |>.mp (h.2 reply)⟩
    · exact fun h => ⟨h.1, fun reply => ih reply |>.mpr (h.2 reply)⟩

theorem Heeds.mono {p : Program α} {past : Trace} {post post' : α → Trace → Prop}
    (hp : p.Heeds ok past post) (h : ∀ value past, post value past → post' value past) :
    p.Heeds ok past post' := by
  induction p generalizing past with
  | done value => exact h value past hp
  | act effect next ih => exact ⟨hp.1, fun reply => ih reply (hp.2 reply)⟩

/-- If effects of a kind are allowed as long as something is known of the past, and leave it known,
a program that has only such effects heeds, and ends as its runs say. -/
theorem Only.heeds_of_known {P : Effect → Prop} {known : Trace → Prop} {p : Program α}
    (hp : p.Only P) {past : Trace} {post : α → Trace → Prop}
    (keeps : ∀ past effect, P effect → known past →
      ok past effect ∧ ∀ reply, known (past ++ [⟨effect, reply⟩]))
    (hpast : known past)
    (h : ∀ t value, p.Runs t value → known (past ++ t) → post value (past ++ t)) :
    p.Heeds ok past post := by
  induction p generalizing past with
  | done value =>
    have := h [] value (.done value)
    rw [List.append_nil] at this
    exact this hpast
  | act effect next ih =>
    obtain ⟨allowed, later⟩ := keeps past effect hp.1 hpast
    refine ⟨allowed, fun reply => ih reply (hp.2 reply) (later reply) fun t value ht => ?_⟩
    simpa using h _ value (.act reply ht)

/-- A program whose effects are always allowed ends as its runs say. -/
theorem Only.heeds {P : Effect → Prop} {p : Program α} (hp : p.Only P)
    (allowed : ∀ past effect, P effect → ok past effect) {past : Trace} {post : α → Trace → Prop}
    (h : ∀ t value, p.Runs t value → post value (past ++ t)) : p.Heeds ok past post :=
  hp.heeds_of_known (fun past effect heffect (_ : True) => ⟨allowed past effect heffect,
    fun _ => trivial⟩) trivial fun t value ht _ => h t value ht

/-- A program that has only effects that are always allowed ends as it does under another rule. -/
theorem Only.heeds_as {P : Effect → Prop} {ok' : Trace → Effect → Prop} {p : Program α}
    (hp : p.Only P) {past : Trace} {post : α → Trace → Prop}
    (allowed : ∀ past effect, P effect → ok past effect) (h : p.Heeds ok' past post) :
    p.Heeds ok past post := by
  induction p generalizing past with
  | done _ => exact h
  | act effect next ih =>
    exact ⟨allowed past effect hp.1, fun reply => ih reply (hp.2 reply) (h.2 reply)⟩

/-- What is left of a heeding program heeds, and each effect before was allowed. -/
theorem Heeds.leaves {p q : Program α} {past t : Trace} {post : α → Trace → Prop}
    (hp : p.Heeds ok past post) (h : p.Leaves t q) :
    q.Heeds ok (past ++ t) post ∧
      ∀ t₁ ev t₂, t = t₁ ++ ev :: t₂ → ok (past ++ t₁) ev.effect := by
  induction h generalizing past with
  | start _ => exact ⟨by simpa using hp, by simp⟩
  | act reply h ih =>
    obtain ⟨left, allowed⟩ := ih (hp.2 reply)
    refine ⟨by simpa using left, fun t₁ ev t₂ ht => ?_⟩
    cases t₁ with
    | nil =>
      obtain ⟨rfl, rfl⟩ := by simpa using ht
      simpa using hp.1
    | cons ev' t₁ =>
      obtain ⟨rfl, rfl⟩ := by simpa using ht
      simpa using allowed t₁ ev t₂ rfl

end Heeds

end Program

/-! ### Attempts -/

namespace Attempt

open Program

variable {ε α β : Type}

theorem runs_bind {x : ExceptT ε Program α} {f : α → ExceptT ε Program β} {t : Trace}
    {r : Except ε β} :
    (x >>= f).run.Runs t r ↔
      (∃ t₁ t₂ a, t = t₁ ++ t₂ ∧ x.run.Runs t₁ (.ok a) ∧ (f a).run.Runs t₂ r) ∨
        ∃ e, r = .error e ∧ x.run.Runs t (.error e) := by
  rw [ExceptT.run_bind, Program.runs_bind]
  constructor
  · rintro ⟨t₁, t₂, a | a, rfl, h₁, h₂⟩
    · obtain ⟨rfl, rfl⟩ := runs_pure.mp h₂
      exact .inr ⟨a, rfl, by simpa using h₁⟩
    · exact .inl ⟨t₁, t₂, a, rfl, h₁, h₂⟩
  · rintro (⟨t₁, t₂, a, rfl, h₁, h₂⟩ | ⟨e, rfl, h⟩)
    · exact ⟨t₁, t₂, .ok a, rfl, h₁, h₂⟩
    · exact ⟨t, [], .error e, by simp, h, runs_pure.mpr ⟨rfl, rfl⟩⟩

/-- An attempt that succeeds succeeds in all its parts. -/
theorem runs_bind_ok {x : ExceptT ε Program α} {f : α → ExceptT ε Program β} {t : Trace} {b : β} :
    (x >>= f).run.Runs t (.ok b) ↔
      ∃ t₁ t₂ a, t = t₁ ++ t₂ ∧ x.run.Runs t₁ (.ok a) ∧ (f a).run.Runs t₂ (.ok b) := by
  rw [runs_bind]
  simp

@[simp] theorem runs_pure {a : α} {t : Trace} {r : Except ε α} :
    (pure a : ExceptT ε Program α).run.Runs t r ↔ t = [] ∧ r = .ok a :=
  Program.runs_pure

@[simp] theorem runs_throw {e : ε} {t : Trace} {r : Except ε α} :
    (throw e : ExceptT ε Program α).run.Runs t r ↔ t = [] ∧ r = .error e :=
  Program.runs_pure

@[simp] theorem runs_lift {p : Program α} {t : Trace} {r : Except ε α} :
    (ExceptT.lift p : ExceptT ε Program α).run.Runs t r ↔ ∃ a, r = .ok a ∧ p.Runs t a := by
  rw [ExceptT.run_lift, map_eq_pure_bind, Program.runs_bind]
  constructor
  · rintro ⟨t₁, t₂, a, rfl, h₁, h₂⟩
    obtain ⟨rfl, rfl⟩ := Program.runs_pure.mp h₂
    exact ⟨a, rfl, by simpa using h₁⟩
  · rintro ⟨a, rfl, h⟩
    exact ⟨t, [], a, by simp, h, Program.runs_pure.mpr ⟨rfl, rfl⟩⟩

theorem runs_perform {effect : Effect} {t : Trace} {r : Except Fault effect.Reply} :
    (perform effect).run.Runs t r ↔ ∃ reply, r = .ok reply ∧ t = [⟨effect, reply⟩] := by
  simp only [perform, runs_lift, Program.runs_perform]

theorem runs_query {q : Store.Query} {t : Trace} {r : Except Fault q.Reply} :
    (query q).run.Runs t r ↔
      (∃ reply, r = .ok reply ∧ t = [⟨.query q, .ok reply⟩]) ∨
        ∃ fault, r = .error (.store fault) ∧ t = [⟨.query q, .error fault⟩] := by
  simp only [query, runs_bind, runs_perform]
  constructor
  · rintro (⟨t₁, t₂, reply, rfl, ⟨_, ⟨⟩, rfl⟩, h⟩ | ⟨_, _, _, ⟨⟩, _⟩)
    cases reply with
    | ok reply =>
      obtain ⟨rfl, rfl⟩ := runs_pure.mp h
      exact .inl ⟨reply, rfl, rfl⟩
    | error fault =>
      obtain ⟨rfl, rfl⟩ := runs_throw.mp h
      exact .inr ⟨fault, rfl, rfl⟩
  · rintro (⟨reply, rfl, rfl⟩ | ⟨fault, rfl, rfl⟩)
    · exact .inl ⟨_, [], .ok reply, rfl, ⟨_, rfl, rfl⟩, runs_pure.mpr ⟨rfl, rfl⟩⟩
    · exact .inl ⟨_, [], .error fault, rfl, ⟨_, rfl, rfl⟩, runs_throw.mpr ⟨rfl, rfl⟩⟩

theorem runs_query_ok {q : Store.Query} {t : Trace} {reply : q.Reply} :
    (query q).run.Runs t (.ok reply) ↔ t = [⟨.query q, .ok reply⟩] := by
  simp [runs_query]

theorem runs_log {source : Log.Source} {line : Log.Line} {t : Trace} {r : Except Fault Unit} :
    (log source line).run.Runs t r ↔ r = .ok () ∧ t = [⟨.log source line, ()⟩] := by
  refine runs_perform.trans ⟨?_, ?_⟩
  · rintro ⟨⟨⟩, rfl, rfl⟩
    exact ⟨rfl, rfl⟩
  · rintro ⟨rfl, rfl⟩
    exact ⟨_, rfl, rfl⟩

/-- A log line always goes through. -/
theorem runs_log_bind {source : Log.Source} {line : Log.Line} {f : Unit → Attempt α} {t : Trace}
    {r : Except Fault α} :
    (log source line >>= f).run.Runs t r ↔
      ∃ t' : Trace, t = ⟨.log source line, ()⟩ :: t' ∧ (f ()).run.Runs t' r := by
  rw [runs_bind]
  constructor
  · rintro (⟨t₁, t₂, _, rfl, hlog, hrest⟩ | ⟨_, _, hlog⟩)
    · obtain ⟨_, rfl⟩ := runs_log.mp hlog
      exact ⟨t₂, rfl, hrest⟩
    · obtain ⟨⟨⟩, _⟩ := runs_log.mp hlog
  · rintro ⟨t', rfl, hrest⟩
    exact .inl ⟨_, t', (), rfl, runs_log.mpr ⟨rfl, rfl⟩, hrest⟩

theorem runs_sleep {seconds : Binary64} {t : Trace} {r : Except Fault Unit} :
    (sleep seconds).run.Runs t r ↔
      ∃ pause, t = [⟨.sleep seconds, pause⟩] ∧ r = pause.mapError .arithmetic := by
  simp only [sleep, runs_bind, runs_perform]
  constructor
  · rintro (⟨t₁, t₂, pause, rfl, ⟨_, ⟨⟩, rfl⟩, h⟩ | ⟨_, _, _, ⟨⟩, _⟩)
    refine ⟨pause, ?_⟩
    cases pause with
    | ok _ =>
      obtain ⟨rfl, rfl⟩ := runs_pure.mp h
      exact ⟨rfl, rfl⟩
    | error _ =>
      obtain ⟨rfl, rfl⟩ := runs_throw.mp h
      exact ⟨rfl, rfl⟩
  · rintro ⟨pause, rfl, rfl⟩
    refine .inl ⟨_, [], pause, rfl, ⟨_, rfl, rfl⟩, ?_⟩
    cases pause with
    | ok _ => exact runs_pure.mpr ⟨rfl, rfl⟩
    | error _ => exact runs_throw.mpr ⟨rfl, rfl⟩

@[simp] theorem runs_ofExcept {x : Except Fault α} {t : Trace} {r : Except Fault α} :
    (ofExcept x).run.Runs t r ↔ t = [] ∧ r = x := by
  cases x <;> simp [ofExcept]

/-! #### Effects and what they heed -/

theorem only_bind {P : Effect → Prop} {x : ExceptT ε Program α} {f : α → ExceptT ε Program β}
    (hx : x.run.Only P) (hf : ∀ a, (f a).run.Only P) : (x >>= f).run.Only P := by
  rw [ExceptT.run_bind]
  apply Program.only_bind hx
  intro r
  cases r with
  | ok a => exact hf a
  | error _ => trivial

theorem only_query {P : Effect → Prop} {q : Store.Query} (h : P (.query q)) :
    (query q).run.Only P := by
  refine only_bind ⟨h, fun _ => trivial⟩ fun r => ?_
  cases r <;> trivial

theorem only_log {P : Effect → Prop} {source : Log.Source} {line : Log.Line}
    (h : P (.log source line)) : (log source line).run.Only P :=
  ⟨h, fun _ => trivial⟩

theorem only_sleep {P : Effect → Prop} {seconds : Binary64} (h : P (.sleep seconds)) :
    (sleep seconds).run.Only P := by
  refine only_bind ⟨h, fun _ => trivial⟩ fun r => ?_
  cases r <;> trivial

theorem only_ask {P : Effect → Prop} {request : Rpc.Request} (h : P (.ask request)) :
    (ask request).run.Only P :=
  ⟨h, fun _ => trivial⟩

theorem only_pure {P : Effect → Prop} (a : α) : (pure a : ExceptT ε Program α).run.Only P := trivial

theorem only_throw {P : Effect → Prop} (e : ε) : (throw e : ExceptT ε Program α).run.Only P :=
  trivial

theorem only_lift {P : Effect → Prop} {p : Program α} (h : p.Only P) :
    (ExceptT.lift p : ExceptT ε Program α).run.Only P := by
  rw [ExceptT.run_lift, map_eq_pure_bind]
  exact Program.only_bind h fun _ => trivial

theorem only_mapM {P : Effect → Prop} {f : α → ExceptT ε Program β} {xs : List α}
    (h : ∀ a ∈ xs, (f a).run.Only P) : (xs.mapM f).run.Only P := by
  induction xs with
  | nil => exact only_pure []
  | cons x xs ih =>
    obtain ⟨hx, hxs⟩ := List.forall_mem_cons.mp h
    rw [List.mapM_cons]
    exact only_bind hx fun _ => only_bind (ih hxs) fun _ => only_pure _

theorem only_ofExcept {P : Effect → Prop} (x : Except Fault α) : (ofExcept x).run.Only P := by
  cases x <;> trivial

section Heeds

variable {ok : Trace → Effect → Prop} {past : Trace}

theorem heeds_bind {x : ExceptT ε Program α} {f : α → ExceptT ε Program β}
    {post : Except ε β → Trace → Prop} :
    (x >>= f).run.Heeds ok past post ↔
      x.run.Heeds ok past fun r past =>
        match r with
        | .ok a => (f a).run.Heeds ok past post
        | .error e => post (.error e) past := by
  rw [ExceptT.run_bind, Program.heeds_bind]
  refine iff_of_eq (congrArg _ (funext fun r => ?_))
  cases r <;> rfl

/-- If it does not matter how the parts end, an attempt heeds when its parts do. -/
theorem heeds_then {x : ExceptT ε Program α} {f : α → ExceptT ε Program β}
    (hx : x.run.Heeds ok past fun _ _ => True)
    (hf : ∀ a past, (f a).run.Heeds ok past fun _ _ => True) :
    (x >>= f).run.Heeds ok past fun _ _ => True := by
  rw [heeds_bind]
  apply hx.mono
  intro r past _
  cases r with
  | error _ => trivial
  | ok a => exact hf a past

@[simp] theorem heeds_lift {p : Program α} {post : Except ε α → Trace → Prop} :
    (ExceptT.lift p : ExceptT ε Program α).run.Heeds ok past post ↔
      p.Heeds ok past fun a past => post (.ok a) past :=
  Program.heeds_bind

theorem heeds_query {q : Store.Query} {post : Except Fault q.Reply → Trace → Prop}
    (allowed : ok past (.query q))
    (reply : ∀ reply, post (.ok reply) (past ++ [⟨.query q, .ok reply⟩]))
    (fault : ∀ fault, post (.error (.store fault)) (past ++ [⟨.query q, .error fault⟩])) :
    (query q).run.Heeds ok past post := by
  refine heeds_bind.mpr ⟨allowed, fun r => ?_⟩
  cases r with
  | ok r => exact reply r
  | error f => exact fault f

theorem heeds_log {source : Log.Source} {line : Log.Line} {post : Except Fault Unit → Trace → Prop}
    (allowed : ok past (.log source line))
    (h : post (.ok ()) (past ++ [⟨.log source line, ()⟩])) :
    (log source line).run.Heeds ok past post :=
  ⟨allowed, fun _ => h⟩

end Heeds

end Attempt

/-! ### Actors -/

namespace Actor

open Program

variable {σ τ α β : Type} {ok : Trace → Effect → Prop} {past : Trace} {s : σ}

theorem heeds_bind {x : Actor σ α} {f : α → Actor σ β} {post : Except Fault β × σ → Trace → Prop} :
    ((x >>= f).run.run s).Heeds ok past post ↔
      (x.run.run s).Heeds ok past fun r past =>
        match r.1 with
        | .ok a => ((f a).run.run r.2).Heeds ok past post
        | .error e => post (.error e, r.2) past := by
  rw [ExceptT.run_bind, StateT.run_bind, Program.heeds_bind]
  refine iff_of_eq (congrArg _ (funext fun r => ?_))
  rcases r with ⟨_ | _, _⟩ <;> rfl

@[simp] theorem heeds_pure {a : α} {post : Except Fault α × σ → Trace → Prop} :
    ((pure a : Actor σ α).run.run s).Heeds ok past post ↔ post (.ok a, s) past :=
  Iff.rfl

@[simp] theorem heeds_throw {e : Fault} {post : Except Fault α × σ → Trace → Prop} :
    ((throw e : Actor σ α).run.run s).Heeds ok past post ↔ post (.error e, s) past :=
  Iff.rfl

@[simp] theorem heeds_modify {f : σ → σ} {post : Except Fault Unit × σ → Trace → Prop} :
    ((modify f : Actor σ Unit).run.run s).Heeds ok past post ↔ post (.ok (), f s) past :=
  Iff.rfl

@[simp] theorem heeds_get {post : Except Fault σ × σ → Trace → Prop} :
    ((get : Actor σ σ).run.run s).Heeds ok past post ↔ post (.ok s, s) past :=
  Iff.rfl

@[simp] theorem heeds_ofAttempt {x : Attempt α} {post : Except Fault α × σ → Trace → Prop} :
    ((ofAttempt x : Actor σ α).run.run s).Heeds ok past post ↔
      x.run.Heeds ok past fun r past => post (r, s) past :=
  Program.heeds_bind

@[simp] theorem heeds_result {x : Actor σ α}
    {post : Except Fault (Except Fault α) × σ → Trace → Prop} :
    (x.result.run.run s).Heeds ok past post ↔
      (x.run.run s).Heeds ok past fun r past => post (.ok r.1, r.2) past :=
  Program.heeds_bind

@[simp] theorem heeds_focus {part : σ → τ} {put : τ → σ → σ} {x : Actor τ α}
    {post : Except Fault α × σ → Trace → Prop} :
    ((x.focus part put).run.run s).Heeds ok past post ↔
      (x.run.run (part s)).Heeds ok past fun r past => post (r.1, put r.2 s) past :=
  Program.heeds_bind

/-! #### Runs -/

section Runs

variable {t : Trace}

theorem runs_bind {x : Actor σ α} {f : α → Actor σ β} {r : Except Fault β × σ} :
    ((x >>= f).run.run s).Runs t r ↔
      (∃ t₁ t₂ a mid, t = t₁ ++ t₂ ∧ (x.run.run s).Runs t₁ (.ok a, mid) ∧
        ((f a).run.run mid).Runs t₂ r) ∨
      ∃ e mid, r = (.error e, mid) ∧ (x.run.run s).Runs t (.error e, mid) := by
  rw [ExceptT.run_bind, StateT.run_bind, Program.runs_bind]
  constructor
  · rintro ⟨t₁, t₂, ⟨e | a, mid⟩, rfl, h₁, h₂⟩
    · obtain ⟨rfl, rfl⟩ := Program.runs_pure.mp h₂
      exact .inr ⟨e, mid, rfl, by rwa [List.append_nil]⟩
    · exact .inl ⟨t₁, t₂, a, mid, rfl, h₁, h₂⟩
  · rintro (⟨t₁, t₂, a, mid, rfl, h₁, h₂⟩ | ⟨e, mid, rfl, h⟩)
    · exact ⟨t₁, t₂, (.ok a, mid), rfl, h₁, h₂⟩
    · exact ⟨t, [], (.error e, mid), (List.append_nil t).symm, h, Program.runs_pure.mpr ⟨rfl, rfl⟩⟩

@[simp] theorem runs_pure {a : α} {r : Except Fault α × σ} :
    ((pure a : Actor σ α).run.run s).Runs t r ↔ t = [] ∧ r = (.ok a, s) :=
  Program.runs_pure

@[simp] theorem runs_throw {e : Fault} {r : Except Fault α × σ} :
    ((throw e : Actor σ α).run.run s).Runs t r ↔ t = [] ∧ r = (.error e, s) :=
  Program.runs_pure

@[simp] theorem runs_ofAttempt {x : Attempt α} {r : Except Fault α × σ} :
    ((ofAttempt x : Actor σ α).run.run s).Runs t r ↔ x.run.Runs t r.1 ∧ r.2 = s := by
  refine Program.runs_bind.trans ⟨?_, ?_⟩
  · rintro ⟨t₁, t₂, result, rfl, hruns, hpure⟩
    obtain ⟨rfl, rfl⟩ := Program.runs_pure.mp hpure
    rw [List.append_nil]
    exact ⟨hruns, rfl⟩
  · rintro ⟨hruns, rfl⟩
    exact ⟨t, [], r.1, (List.append_nil t).symm, hruns, .done _⟩

/-- An actor whose fault is a result ends without one. -/
theorem runs_result {x : Actor σ α} {r : Except Fault (Except Fault α) × σ} :
    (x.result.run.run s).Runs t r ↔
      ∃ ended, r.1 = .ok ended ∧ (x.run.run s).Runs t (ended, r.2) := by
  refine Program.runs_bind.trans ⟨?_, ?_⟩
  · rintro ⟨t₁, t₂, ⟨ended, after⟩, rfl, hruns, hpure⟩
    obtain ⟨rfl, rfl⟩ := Program.runs_pure.mp hpure
    rw [List.append_nil]
    exact ⟨ended, rfl, hruns⟩
  · obtain ⟨result, after⟩ := r
    rintro ⟨ended, rfl, hruns⟩
    exact ⟨t, [], (ended, after), (List.append_nil t).symm, hruns, .done _⟩

theorem runs_focus {part : σ → τ} {put : τ → σ → σ} {x : Actor τ α} {r : Except Fault α × σ} :
    ((x.focus part put).run.run s).Runs t r ↔
      ∃ inner, r.2 = put inner s ∧ (x.run.run (part s)).Runs t (r.1, inner) := by
  refine Program.runs_bind.trans ⟨?_, ?_⟩
  · rintro ⟨t₁, t₂, ⟨result, inner⟩, rfl, hruns, hpure⟩
    obtain ⟨rfl, rfl⟩ := Program.runs_pure.mp hpure
    rw [List.append_nil]
    exact ⟨inner, rfl, hruns⟩
  · obtain ⟨result, after⟩ := r
    rintro ⟨inner, rfl, hruns⟩
    exact ⟨t, [], (result, inner), (List.append_nil t).symm, hruns, .done _⟩

/-- What an attempt that cannot fail gives, the rest goes on with. -/
theorem runs_result_bind {x : Actor σ α} {f : Except Fault α → Actor σ β}
    {r : Except Fault β × σ} :
    ((x.result >>= f).run.run s).Runs t r ↔ ∃ t₁ t₂ ended mid, t = t₁ ++ t₂ ∧
      (x.run.run s).Runs t₁ (ended, mid) ∧ ((f ended).run.run mid).Runs t₂ r := by
  rw [runs_bind]
  constructor
  · rintro (⟨t₁, t₂, ended, mid, rfl, hresult, hrest⟩ | ⟨e, mid, -, hresult⟩)
    · obtain ⟨_, ⟨⟩, hruns⟩ := runs_result.mp hresult
      exact ⟨t₁, t₂, ended, mid, rfl, hruns, hrest⟩
    · obtain ⟨_, ⟨⟩, -⟩ := runs_result.mp hresult
  · rintro ⟨t₁, t₂, ended, mid, rfl, hruns, hrest⟩
    exact .inl ⟨t₁, t₂, ended, mid, rfl, runs_result.mpr ⟨ended, rfl, hruns⟩, hrest⟩

theorem runs_modify_bind {g : σ → σ} {f : Unit → Actor σ β} {r : Except Fault β × σ} :
    (((modify g : Actor σ Unit) >>= f).run.run s).Runs t r ↔ ((f ()).run.run (g s)).Runs t r :=
  Iff.rfl

theorem runs_get_bind {f : σ → Actor σ β} {r : Except Fault β × σ} :
    (((get : Actor σ σ) >>= f).run.run s).Runs t r ↔ ((f s).run.run s).Runs t r :=
  Iff.rfl

end Runs

/-! #### Effects -/

/-- Every effect of the actor satisfies `P`, whatever its state is. -/
def Only (P : Effect → Prop) (x : Actor σ α) : Prop := ∀ s, (x.run.run s).Only P

section Only

variable {P : Effect → Prop}

theorem only_bind {x : Actor σ α} {f : α → Actor σ β} (hx : Only P x) (hf : ∀ a, Only P (f a)) :
    Only P (x >>= f) := by
  intro s
  rw [ExceptT.run_bind, StateT.run_bind]
  apply Program.only_bind (hx s)
  intro r
  obtain ⟨_ | a, s⟩ := r
  · trivial
  · exact hf a s

theorem only_pure (a : α) : Only P (pure a : Actor σ α) := fun _ => trivial

theorem only_throw (e : Fault) : Only P (throw e : Actor σ α) := fun _ => trivial

theorem only_get : Only P (get : Actor σ σ) := fun _ => trivial

theorem only_set (s : σ) : Only P (set s : Actor σ PUnit) := fun _ => trivial

theorem only_ofAttempt {x : Attempt α} (hx : x.run.Only P) : Only P (ofAttempt x : Actor σ α) :=
  fun _ => Program.only_bind hx fun _ => trivial

theorem only_focus {part : σ → τ} {put : τ → σ → σ} {x : Actor τ α} (hx : Only P x) :
    Only P (x.focus part put) :=
  fun s => Program.only_bind (hx (part s)) fun _ => trivial

end Only

end Actor

end AddressIndex
