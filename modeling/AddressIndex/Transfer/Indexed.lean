import AddressIndex.Transfer.Basic
import AddressIndex.Transfer.Delta

/-!
Indexed transactions: a transaction with the balance deltas and transfers derived from it, under
the signature it was asked for by.
-/

namespace AddressIndex

structure Indexed where
  raw : Transaction
  deltas : List BalanceDelta
  transfers : List Transfer
  signature : String

namespace Indexed

/-- An indexed transaction; without a signature it goes by its own. -/
def of (raw : Transaction) (deltas : List BalanceDelta) (transfers : List Transfer)
    (signature : String) : Indexed :=
  ⟨raw, deltas, transfers, if signature.isEmpty then raw.signature else signature⟩

/-- The instructions of a transaction with their positions: the top-level ones, then each block of
called ones. -/
def walk (tx : Transaction) : List (Instruction × Position) :=
  tx.instructions.zipIdx.map (fun p => (p.1, ⟨p.2, none⟩)) ++
    tx.inner.flatMap fun block =>
      block.instructions.zipIdx.map fun p => (p.1, ⟨block.index, some p.2⟩)

/-- One transfer for each recognized instruction, in the order of the walk. -/
def transfersOf (tx : Transaction) : Except ArithmeticFault (List Transfer) := do
  let accounts := TokenAccounts.ofTransaction tx
  let found ← (walk tx).mapM fun p => Transfer.ofInstruction p.1 p.2 accounts
  pure (found.filterMap id)

/-- Both derivations, under the requested signature. -/
def ofTransaction (tx : Transaction) (signature : String) : Except ArithmeticFault Indexed := do
  let transfers ← transfersOf tx
  pure (of tx (BalanceDelta.ofTransaction tx) transfers signature)

/-- The transaction with its transfers seen from `owner`. -/
def direct (t : Indexed) (owner : String) : Indexed :=
  { t with transfers := t.transfers.map (·.direct owner) }

end Indexed

end AddressIndex
