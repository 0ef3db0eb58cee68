import AddressIndex.Ledger.DecodeError

/-!
An entry of an address's history: a signature, with the time and slot of its block if the node
told them.
-/

namespace AddressIndex

structure SignatureRecord where
  signature : String
  blockTime : Option Int
  slot : Option Int
deriving DecidableEq, Repr

/-- The record of a list item. Its signature has to be a text that is not empty. -/
def SignatureRecord.ofJson (item : Json) : Except DecodeError SignatureRecord :=
  match item.fields? with
  | some fields => do
    let signature ← fields.require "signature"
    match signature.text? with
    | some s => pure ⟨s, (fields.get "blockTime").int?, (fields.get "slot").int?⟩
    | none => throw .emptySignature
  | none => throw (.noFields item.kind)

end AddressIndex
