import AddressIndex.Program

/-!
Worlds that programs run in: a clock, a database, a node that answers from what it was asked before,
and a record of all that a program did. A database operation can be out of order, and a rival can
take jobs between the two steps of a claim.
-/

namespace AddressIndex

structure World where
  clock : Instant
  database : Store.Database
  /-- The operations that fail before they begin. -/
  broken : List (Store.Operation × Store.Fault)
  /-- The answer to a request after earlier ones, the last one first. -/
  node : List Rpc.Request → Rpc.Request → Rpc.Answer
  /-- The draw number `k` from the numbers up to `greatest`. -/
  chance : (k greatest : Nat) → Fin (greatest + 1)
  stopping : Bool
  /-- The longest pause that the clock can time, in seconds, if there is one. -/
  longestPause : Option Binary64
  /-- How many jobs a rival still takes. -/
  rivals : Nat
  /-- How many jobs a rival took. -/
  stolen : Nat
  /-- The requests so far, the last one first, and so on. -/
  asked : List Rpc.Request
  lines : List (Log.Source × Log.Line)
  slept : List Binary64
  draws : Nat

namespace World

/-- A world before anything happened in it. -/
def start (clock : Instant) (database : Store.Database)
    (node : List Rpc.Request → Rpc.Request → Rpc.Answer)
    (chance : (k greatest : Nat) → Fin (greatest + 1)) : World where
  clock
  database
  broken := []
  node
  chance
  stopping := false
  longestPause := none
  rivals := 0
  stolen := 0
  asked := []
  lines := []
  slept := []
  draws := 0

/-- The world with the records of what was done left blank; the node remembers what it was asked. -/
def withoutRecords (w : World) : World := { w with lines := [], slept := [] }

/-- The worker number that a rival's jobs have. -/
def rivalId : Int := -1

/-- The database after a rival took the oldest pending job, if there is one. -/
def seize : Store.Database → Option Store.Database
  | .ready tables =>
    (Store.oldestPending tables.jobs).map fun job =>
      .ready { tables with
        jobs := Store.changeJob tables.jobs job.id fun job =>
          { job with status := .indexing, worker := some rivalId } }
  | _ => none

/-- What happens just before a query: a rival may take a job before a claimer does. A claimer that
cannot tell the time gets no further, and no rival comes. -/
def disturbed (w : World) (query : Store.Query) : World :=
  match query, w.rivals, w.clock.seconds with
  | .take _ _ _, left + 1, .ok _ =>
    match seize w.database with
    | some database => { w with database, rivals := left, stolen := w.stolen + 1 }
    | none => { w with rivals := left }
  | _, _, _ => w

/-- Answers a query. -/
def query (w : World) (q : Store.Query) : Except Store.Fault q.Reply × World :=
  let w := w.disturbed q
  match w.broken.lookup q.operation with
  | some fault => (.error fault, w)
  | none =>
    let (reply, database) := (q.perform w.clock).run.run w.database
    (reply, { w with database })

/-- Pauses. -/
def pause (w : World) (seconds : Binary64) : Except ArithmeticFault Unit × World :=
  if w.longestPause.any (·.lt seconds) then (.error .pauseTooLong, w)
  else (.ok (), { w with slept := seconds :: w.slept })

/-- Answers an effect. -/
def reply (w : World) : (effect : Effect) → effect.Reply × World
  | .ask request => (w.node w.asked request, { w with asked := request :: w.asked })
  | .query q => w.query q
  | .sleep seconds => w.pause seconds
  | .log source line => ((), { w with lines := (source, line) :: w.lines })
  | .draw greatest => (w.chance w.draws greatest, { w with draws := w.draws + 1 })
  | .stopping => (w.stopping, w)

end World

namespace Program

variable {α β : Type}

/-- Runs a program in a world. -/
def run (p : Program α) (w : World) : α × World :=
  match p with
  | .done value => (value, w)
  | .act effect next =>
    let (reply, w) := w.reply effect
    (next reply).run w

theorem run_bind (p : Program α) (f : α → Program β) (w : World) :
    (p.bind f).run w = (f (p.run w).1).run (p.run w).2 := by
  induction p generalizing w with
  | done _ => rfl
  | act effect next ih => simp only [bind, run, ih]

end Program

end AddressIndex
