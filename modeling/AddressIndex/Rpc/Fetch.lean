import AddressIndex.Ledger.Transaction
import AddressIndex.Rpc.Client
import AddressIndex.Rpc.Envelope

/-!
Fetching a transaction. What the node or the network does wrong is an outcome, not a fault: a
`FetchError` for the signature that was asked for.
-/

namespace AddressIndex.Rpc

inductive Outcome where
  | fetched (tx : Transaction)
  | failed (error : FetchError)

namespace Outcome

/-- What an answer to the request for `signature` gives, with the status of the reply if it is the
transaction asked for. -/
def ofAnswer (signature : String) (answer : Answer) : Except Fault (Outcome × Option Int) :=
  let failed (fault : FetchFault) : Except Fault (Outcome × Option Int) :=
    pure (.failed ⟨signature, fault⟩, none)
  match answer.result (Request.transaction signature).method with
  | .error (.rpc (.unreachable detail)) => failed (.unreachable detail)
  | .error (.rpc (.badReply status fault)) => failed (.badReply status fault)
  | .error fault => throw fault
  | .ok (status, result) =>
    match Transaction.ofJson result with
    | .error (.arithmetic fault) =>
      if (DecodeError.arithmetic fault).isStructural then
        failed (.badTransaction status (.arithmetic fault))
      else throw (.arithmetic fault)
    | .error error => failed (.badTransaction status error)
    | .ok tx =>
      if tx.signature = signature then pure (.fetched tx, some status)
      else failed (.otherSignature status tx.signature)

def received (signature : String) (status : Int) : Log.Line :=
  ⟨.debug, "transaction_received", [
    ("signature", .str (Log.mask signature)),
    ("status", .int status)]⟩

/-- Asks for a transaction. -/
def fetch (client : Client) (signature : String) : Attempt Outcome := do
  let answer ← client.ask (.transaction signature)
  let (outcome, status) ← Attempt.ofExcept (ofAnswer signature answer)
  match status with
  | some status => Attempt.log .client (received signature status)
  | none => pure ()
  pure outcome

end Outcome

end AddressIndex.Rpc
