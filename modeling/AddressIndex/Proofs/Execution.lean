import AddressIndex.Proofs.Pool
import AddressIndex.Rpc.Client
import AddressIndex.World
import AddressIndex.Worker.Basic

/-! Execution. What a program does in a world without rivals is one of its runs, and the world
serves it; programs that take turns in such a world are a pool. So what holds of all runs and of all
pools holds of what is executed. -/

namespace AddressIndex

open Store (Database Tables Query)

namespace World

variable {w : World} {answers : Answers}

/-- No rival comes, and the node answers within `answers`. -/
structure Within (answers : Answers) (w : World) : Prop where
  peaceful : w.rivals = 0
  honest : ∀ asked request, answers request (w.node asked request)

theorem disturbed_of_peaceful (h : w.rivals = 0) (q : Query) : w.disturbed q = w := by
  unfold disturbed
  split
  next hrivals _ =>
    rw [h] at hrivals
    cases hrivals
  next => rfl

theorem Within.happens (h : Within answers w) (effect : Effect) :
    Event.Happens answers w.database ⟨effect, (w.reply effect).1⟩ (w.reply effect).2.database := by
  cases effect with
  | ask request => exact ⟨h.honest w.asked request, rfl⟩
  | query q =>
    simp only [reply, query, disturbed_of_peaceful h.peaceful]
    split
    next fault _ => exact .inr ⟨⟨fault, rfl⟩, rfl⟩
    next => exact .inl ⟨w.clock, rfl⟩
  | sleep seconds =>
    simp only [reply, pause]
    split <;> rfl
  | _ => rfl

theorem Within.reply (h : Within answers w) (effect : Effect) :
    Within answers (w.reply effect).2 := by
  cases effect with
  | query q =>
    simp only [World.reply, query, disturbed_of_peaceful h.peaceful]
    split <;> exact ⟨h.peaceful, h.honest⟩
  | sleep seconds =>
    simp only [World.reply, pause]
    split <;> exact ⟨h.peaceful, h.honest⟩
  | _ => exact ⟨h.peaceful, h.honest⟩

theorem longestPause_reply (w : World) (effect : Effect) :
    (w.reply effect).2.longestPause = w.longestPause := by
  cases effect with
  | query q =>
    have hdisturbed : (w.disturbed q).longestPause = w.longestPause := by
      unfold disturbed
      split
      · split <;> rfl
      · rfl
    simp only [reply, query]
    split <;> exact hdisturbed
  | sleep seconds =>
    simp only [reply, pause]
    split <;> rfl
  | _ => rfl

end World

/-! ### One program -/

/-- The node's answers in a trace are within `answers`. -/
def Trace.Answered (answers : Answers) (t : Trace) : Prop :=
  ∀ request answer, ⟨.ask request, answer⟩ ∈ t → answers request answer

namespace Program

variable {α : Type}

/-- What a program does in a world. -/
def trace (p : Program α) (w : World) : Trace :=
  match p with
  | .done _ => []
  | .act effect next =>
    ⟨effect, (w.reply effect).1⟩ :: (next (w.reply effect).1).trace (w.reply effect).2

theorem runs_trace (p : Program α) (w : World) : p.Runs (p.trace w) (p.run w).1 := by
  induction p generalizing w with
  | done value => exact .done value
  | act effect next ih => exact .act _ (ih _ _)

theorem served_trace {answers : Answers} {meddles : Tables → Tables → Prop} {w : World}
    (refl : ∀ tables, meddles tables tables) (h : w.Within answers) (p : Program α) :
    Served answers meddles w.database (p.trace w) (p.run w).2.database := by
  induction p generalizing w with
  | done value => exact .done (refl _)
  | act effect next ih => exact .event (refl _) (h.happens effect) (ih _ (h.reply effect))

/-- What a program does in a world is answered by the world's node. -/
theorem answered_trace {answers : Answers} {w : World} (h : w.Within answers) (p : Program α) :
    (p.trace w).Answered answers := by
  induction p generalizing w with
  | done value => exact fun _ _ hasked => absurd hasked List.not_mem_nil
  | act effect next ih =>
    intro request answer hasked
    rcases List.mem_cons.mp hasked with hsame | hasked
    · cases effect with
      | ask request' =>
        cases hsame
        exact h.honest w.asked request
      | _ => cases hsame
    · exact ih _ (h.reply effect) request answer hasked

/-- An attempt that begins with a query goes on with the reply. -/
theorem run_query_bind {q : Query} {f : q.Reply → Attempt α} {w w' : World} {reply : q.Reply}
    (h : w.reply (.query q) = (.ok reply, w')) :
    (Attempt.query q >>= f).run.run w = (f reply).run.run w' := by
  change (fun (replied : Except Store.Fault q.Reply × World) => ((match replied.1 with
    | .ok reply => (pure reply : Attempt q.Reply)
    | .error fault => throw (.store fault)) >>= f).run.run replied.2) (w.reply (.query q)) = _
  rw [h]
  rfl

/-- Where the clock can time every pause, every pause goes well. -/
theorem pauses_trace {w : World} (h : w.longestPause = none) (p : Program α) :
    ∀ pause ∈ (p.trace w).pauses, pause = .ok () := by
  induction p generalizing w with
  | done value => exact fun _ hpause => absurd hpause List.not_mem_nil
  | act effect next ih =>
    have hrest := ih (w.reply effect).1 ((w.longestPause_reply effect).trans h)
    cases effect with
    | sleep seconds =>
      have hslept : (w.pause seconds).1 = .ok () := by
        unfold World.pause
        rw [h]
        rfl
      exact List.forall_mem_cons.mpr ⟨hslept, hrest⟩
    | _ => exact hrest

end Program

/-! ### Turns -/

section Turns

variable {ι ρ : Type} [DecidableEq ι]

/-- Whose turn it is: that of a program, or that of one who hands in an address. -/
inductive Turn (ι : Type) where
  | work (i : ι)
  | handIn (address : String)

/-- One turn. A program that has ended does nothing more. -/
def Turn.take (before : World × (ι → Program ρ)) : Turn ι → World × (ι → Program ρ)
  | .work i =>
    match before.2 i with
    | .done _ => before
    | .act effect next =>
      ((before.1.reply effect).2, Function.update before.2 i (next (before.1.reply effect).1))
  | .handIn address => ((before.1.reply (.query (.addJob address))).2, before.2)

/-- Turns in order. -/
def turns (order : List (Turn ι)) (w : World) (left : ι → Program ρ) : World × (ι → Program ρ) :=
  order.foldl Turn.take (w, left)

/-- Programs that take turns in a world are a pool. -/
theorem reaches_turns {answers : Answers} {w : World} (h : w.Within answers)
    (left : ι → Program ρ) (order : List (Turn ι)) :
    ∃ history, Pool.Reaches answers ⟨w.database, left⟩ history
      ⟨(turns order w left).1.database, (turns order w left).2⟩ := by
  induction order generalizing w left with
  | nil => exact ⟨[], .refl⟩
  | cons turn order ih =>
    cases turn with
    | work i =>
      cases hleft : left i with
      | done value =>
        have hsame : turns (.work i :: order) w left = turns order w left := by
          simp only [turns, List.foldl_cons, Turn.take, hleft]
        rw [hsame]
        exact ih h left
      | act effect next =>
        have hnext : turns (.work i :: order) w left = turns order (w.reply effect).2
            (Function.update left i (next (w.reply effect).1)) := by
          simp only [turns, List.foldl_cons, Turn.take, hleft]
        rw [hnext]
        obtain ⟨history, r⟩ := ih (h.reply effect) _
        exact ⟨_, .trans (.step .refl (.work i _ hleft (h.happens effect))) r⟩
    | handIn address =>
      obtain ⟨history, r⟩ := ih (h.reply (.query (.addJob address))) left
      exact ⟨_, .trans (.step .refl (.handIn address _ (h.happens _))) r⟩

end Turns

/-! ### A small world -/

namespace Sample

/-- A node that knows one signature, of whatever address it is asked for. -/
def node : Rpc.Request → Rpc.Answer
  | .signatures _ none _ => .reply 200 "\x7b\"result\":[\x7b\"signature\":\"s\"\x7d]\x7d"
  | .signatures _ (some _) _ => .reply 200 "\x7b\"result\":[]\x7d"
  | .transaction _ => .reply 200 ("\x7b\"result\":\x7b\"transaction\":\x7b\"message\":" ++
    "\x7b\"accountKeys\":[]\x7d,\"signatures\":[\"s\"]\x7d," ++
    "\"meta\":\x7b\"fee\":0\x7d,\"slot\":0\x7d\x7d")

/-- A world without faults, with that node. -/
def world (database : Database) : World :=
  .start (.whole 0) database (fun _ => node) fun _ greatest => ⟨0, greatest.succ_pos⟩

theorem within (database : Database) :
    (world database).Within fun request answer => answer = node request :=
  ⟨rfl, fun _ _ => rfl⟩

def limits : Worker.Limits where
  client := ⟨"http://h", 2, by decide⟩
  maxPages := 5
  pageDelay := .zero
  leaseLimit := 10
  batch := ⟨1, 1, .zero, by decide⟩

/-- Worker number `i`, with a tag of its own. -/
def config (i : Fin 2) : Worker.Config := ⟨i, if i = 0 then "first" else "second", limits⟩

theorem config_owner_injective : ∀ i j, (config i).owner = (config j).owner → i = j := by
  decide

def state : Worker.State := .start ⟨1, 1, .one, by decide, by decide⟩

/-- Two workers, each before its first poll of three. -/
def workers (i : Fin 2) : Program (Except Fault Unit × Worker.State) :=
  (Worker.run (config i) 3).run.run state

end Sample

end AddressIndex
