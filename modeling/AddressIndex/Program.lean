import AddressIndex.Fault.Basic
import AddressIndex.Rpc.Request
import AddressIndex.Store.Query

/-!
Programs: what the service does, apart from the world it does it to. A program is a tree. Each node
is one effect, a request or a query or something else that happens as a whole, and has a branch for
every reply to it; so a statement about all worlds is one about all branches.

An `Attempt` is a program that may end with a fault.
-/

namespace AddressIndex

/-- The parts of the service that write log lines. -/
inductive Log.Source where
  | client | fetcher | worker
deriving DecidableEq, Repr

/-- That a line was written. It is assumed that one always can be: a record is ASCII
(`Log.Setup.render_record`), and a console is taken to write every text. -/
abbrev Log.Written := Unit

inductive Effect where
  | ask (request : Rpc.Request)
  | query (q : Store.Query)
  /-- Pauses, unless the pause is too long for the clock. -/
  | sleep (seconds : Binary64)
  | log (source : Log.Source) (line : Log.Line)
  /-- Draws a number from 0 to `greatest`. -/
  | draw (greatest : Nat)
  /-- Whether the service is to stop. -/
  | stopping

def Effect.Reply : Effect → Type
  | .ask _ => Rpc.Answer
  | .query q => Except Store.Fault q.Reply
  | .sleep _ => Except ArithmeticFault Unit
  | .log _ _ => Log.Written
  | .draw greatest => Fin (greatest + 1)
  | .stopping => Bool

inductive Program (α : Type) where
  | done (value : α)
  | act (effect : Effect) (next : effect.Reply → Program α)

namespace Program

variable {α β γ : Type}

def bind (p : Program α) (f : α → Program β) : Program β :=
  match p with
  | .done value => f value
  | .act effect next => .act effect fun reply => (next reply).bind f

instance : Monad Program where
  pure := .done
  bind := bind

/-- The program of one effect. -/
def perform (effect : Effect) : Program effect.Reply := .act effect .done

theorem bind_done (p : Program α) : p.bind .done = p := by
  induction p with
  | done _ => rfl
  | act effect next ih => simp only [bind, ih]

theorem bind_assoc (p : Program α) (f : α → Program β) (g : β → Program γ) :
    (p.bind f).bind g = p.bind fun x => (f x).bind g := by
  induction p with
  | done _ => rfl
  | act effect next ih => simp only [bind, ih]

instance : LawfulMonad Program :=
  LawfulMonad.mk' Program bind_done (fun _ _ => rfl) bind_assoc

end Program

/-- A program that may end with a fault. -/
abbrev Attempt (α : Type) := ExceptT Fault Program α

namespace Attempt

def perform (effect : Effect) : Attempt effect.Reply := ExceptT.lift (Program.perform effect)

def ask (request : Rpc.Request) : Attempt Rpc.Answer := perform (.ask request)

def query (q : Store.Query) : Attempt q.Reply := do
  match ← perform (.query q) with
  | .ok reply => pure reply
  | .error fault => throw (.store fault)

def sleep (seconds : Binary64) : Attempt Unit := do
  match ← perform (.sleep seconds) with
  | .ok () => pure ()
  | .error fault => throw (.arithmetic fault)

def log (source : Log.Source) (line : Log.Line) : Attempt Unit := perform (.log source line)

/-- A number from 0 to `greatest`. -/
def draw (greatest : Nat) : Attempt Nat := do
  let n : Fin (greatest + 1) ← perform (.draw greatest)
  pure n.val

def stopping : Attempt Bool := perform .stopping

/-- A result that is known without the world. -/
def ofExcept {α : Type} : Except Fault α → Attempt α
  | .ok value => pure value
  | .error fault => throw fault

end Attempt

end AddressIndex
