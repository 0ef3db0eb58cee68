import AddressIndex.Ledger.SignatureRecord
import AddressIndex.Store.Fault
import AddressIndex.Transfer.Indexed

/-!
The rows of the tables. Each row has a key that no other row of its table has, and tells what it
passes to the database, in the order of its columns; the database holds integers of 64 bits with a
sign, and texts without halves.
-/

namespace AddressIndex.Store

/-- The greatest integer that a table stores. -/
def greatestInteger : Int := Int.pow 2 63 - 1

def leastInteger : Int := -Int.pow 2 63

/-- Whether a table can store `n`. -/
def fits (n : Int) : Bool := leastInteger ≤ n ∧ n ≤ greatestInteger

/-- A value that a statement is passed. -/
inductive Parameter where
  | integer (n : Int)
  | text (s : String)
deriving DecidableEq, Repr

namespace Parameter

/-- An integer, if there is one. -/
def integer? (n : Option Int) : List Parameter := n.toList.map .integer

/-- A text, if there is one. -/
def text? (s : Option String) : List Parameter := s.toList.map .text

/-- Why a table cannot store a value. -/
def fault? : Parameter → Option Fault
  | .integer n => if fits n then none else some .integerTooLarge
  | .text s => if Text.hasHalf s then some (.unencodable s) else none

end Parameter

/-- A signature in an address's history. The signature alone is the key, so a signature that two
histories share belongs to the address that came first. -/
structure SignatureRow where
  owner : String
  record : SignatureRecord
  processed : Bool
  created : Int
deriving DecidableEq, Repr

namespace SignatureRow

def key (row : SignatureRow) : String := row.record.signature

def parameters (row : SignatureRow) : List Parameter :=
  [.text row.owner, .text row.record.signature] ++ Parameter.integer? row.record.blockTime ++
    Parameter.integer? row.record.slot ++ [.integer row.created]

end SignatureRow

structure TransactionRow where
  owner : String
  signature : String
  slot : Int
  blockTime : Option Int
  failure : Option String
  fee : Int
  computeUnits : Option Int
  signers : Int
  instructions : Int
  created : Int
deriving DecidableEq, Repr

namespace TransactionRow

def key (row : TransactionRow) : String × String := (row.owner, row.signature)

def parameters (row : TransactionRow) : List Parameter :=
  [.text row.owner, .text row.signature, .integer row.slot] ++
    Parameter.integer? row.blockTime ++ Parameter.text? row.failure ++ [.integer row.fee] ++
    Parameter.integer? row.computeUnits ++
    [.integer row.signers, .integer row.instructions, .integer row.created]

/-- The row of a transaction in the history of `owner`. -/
def ofIndexed (owner : String) (now : Int) (t : Indexed) : TransactionRow where
  owner
  signature := t.signature
  slot := t.raw.slot
  blockTime := t.raw.blockTime
  failure := t.raw.failureText
  fee := t.raw.fee
  computeUnits := t.raw.computeUnits
  signers := t.raw.signerCount
  instructions := t.raw.instructions.length
  created := now

end TransactionRow

structure BalanceRow where
  owner : String
  signature : String
  change : BalanceDelta
  slot : Int
  blockTime : Option Int
deriving DecidableEq, Repr

namespace BalanceRow

def key (row : BalanceRow) : String × String × String :=
  (row.owner, row.signature, row.change.account)

def parameters (row : BalanceRow) : List Parameter :=
  [.text row.owner, .text row.signature, .text row.change.account, .integer row.change.delta,
    .integer row.slot] ++ Parameter.integer? row.blockTime

/-- The rows of a transaction's balance deltas. -/
def ofIndexed (owner : String) (t : Indexed) : List BalanceRow :=
  t.deltas.map fun change => ⟨owner, t.signature, change, t.raw.slot, t.raw.blockTime⟩

end BalanceRow

structure TransferRow where
  owner : String
  signature : String
  transfer : Transfer
  slot : Int
  blockTime : Option Int
deriving DecidableEq

namespace TransferRow

/-- The key of a top-level instruction among those of called ones. -/
def topLevel : Int := -1

/-- The part of the key that tells the called instructions of one top-level instruction apart. -/
def innerKey (row : TransferRow) : Int := row.transfer.position.inner.getD topLevel

def key (row : TransferRow) : String × String × Int × Int :=
  (row.owner, row.signature, row.transfer.position.index, row.innerKey)

def parameters (row : TransferRow) : List Parameter :=
  let t := row.transfer
  [.text row.owner, .text row.signature] ++ Parameter.text? t.sourceOwner ++
    Parameter.text? t.destinationOwner ++ Parameter.text? t.sourceAccount ++
    Parameter.text? t.destinationAccount ++ Parameter.text? t.mint ++ Parameter.text? t.program ++
    Parameter.integer? t.decimals ++ [.integer t.position.index] ++
    Parameter.integer? t.position.inner ++ [.integer row.innerKey] ++
    Parameter.text? t.authority ++ [.integer row.slot] ++ Parameter.integer? row.blockTime

/-- A floating number as a table stores it: no number is null, and zero has no sign. -/
def storedNumber (x : Binary64) : Option Binary64 :=
  if x.isNan then none else if x.isZero then some .zero else some x

/-- The rows of a transaction's transfers. -/
def ofIndexed (owner : String) (t : Indexed) : List TransferRow :=
  t.transfers.map fun transfer =>
    ⟨owner, t.signature, { transfer with display := transfer.display.bind storedNumber },
      t.raw.slot, t.raw.blockTime⟩

end TransferRow

end AddressIndex.Store
