import AddressIndex.Store.Fault
import AddressIndex.Store.Job
import AddressIndex.Store.Row

/-!
Sessions on the tables. A session is a sequence of statements, each of which may fail and leaves
its changes for the next one. `Database.transact` runs a session as one unit: the changes of a
session that fails are undone.
-/

namespace AddressIndex.Store

structure Tables where
  signatures : List SignatureRow
  transactions : List TransactionRow
  balances : List BalanceRow
  transfers : List TransferRow
  jobs : List Job

def Tables.blank : Tables := ⟨[], [], [], [], []⟩

/-- A database: with its tables, without them, or one that cannot be opened. -/
inductive Database where
  | ready (tables : Tables)
  | bare
  | unreachable

/-- The tables; blank ones if there are none. -/
def Database.tables : Database → Tables
  | .ready tables => tables
  | _ => .blank

/-- Statements on the tables, up to the first that fails. -/
abbrev Session (α : Type) := ExceptT Fault (StateM Tables) α

/-- Runs a session as one unit of the operation `op`. -/
def Database.transact {α : Type} (db : Database) (op : Operation) (session : Session α) :
    Except Fault α × Database :=
  match db with
  | .ready tables =>
    match session.run.run tables with
    | (.ok value, tables) => (.ok value, .ready tables)
    | (.error fault, _) => (.error fault, db)
  | db => (.error (.database op), db)

/-- How many values one statement takes. -/
def mostValues : Nat := 32766

namespace Session

/-- Passes values to a statement, up to the first that cannot be stored. -/
def passParameters (parameters : List Parameter) : Session Unit :=
  match parameters.findSome? Parameter.fault? with
  | some fault => throw fault
  | none => pure ()

/-- Passes any number of values to a statement of `op`. -/
def passBounded (op : Operation) (parameters : List Parameter) : Session Unit :=
  if mostValues < parameters.length then throw (.database op) else passParameters parameters

end Session

/-- Adds a row unless one of its key is there already. -/
def insertNew {α κ : Type} [DecidableEq κ] (key : α → κ) (rows : List α) (row : α) : List α :=
  if rows.any fun r => decide (key r = key row) then rows else rows ++ [row]

/-- Adds rows in turn. -/
def insertAll {α κ : Type} [DecidableEq κ] (key : α → κ) (rows new : List α) : List α :=
  new.foldl (insertNew key) rows

/-- How many rows one statement inserts. -/
def insertSize : Nat := 200

/-- How many names one statement lists. -/
def nameSize : Nat := 500

end AddressIndex.Store
