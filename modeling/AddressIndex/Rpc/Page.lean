import AddressIndex.Ledger.SignatureRecord
import AddressIndex.Rpc.Client
import AddressIndex.Rpc.Envelope

/-!
Pages of an address's history. A page is taken whole: one item that is no signature record spoils
it. The oldest signature of a page is the bound for the next one, and an empty page under a bound
says that the history has been read to its end.
-/

namespace AddressIndex.Rpc

structure Page where
  records : List SignatureRecord
  /-- The bound for the next page, if this one is not empty. -/
  cursor : Option String
deriving DecidableEq, Repr

namespace Page

/-- The records in an answer, with the status of the reply. -/
def recordsOf (request : Request) (answer : Answer) :
    Except Fault (Int × List SignatureRecord) := do
  let (status, result) ← answer.result request.method
  match result with
  | .arr items =>
    match items.mapM SignatureRecord.ofJson with
    | .ok records => pure (status, records)
    | .error error => throw (.rpc (.badReply status (.badSignature error)))
  | _ => throw (.rpc (.badReply status .signaturesNotList))

/-- The page of the records that came under the bound `before`. -/
def ofRecords (before : Option String) (status : Int) (records : List SignatureRecord) :
    Except Fault Page :=
  if records.isEmpty && before.isSome then throw (.rpc (.emptyPage status))
  else pure ⟨records, records.getLast?.map (·.signature)⟩

def received (address : String) (before : Option String) (status : Int) (count : Nat) : Log.Line :=
  ⟨.debug, "signatures_page_received", [
    ("address", .str (Log.mask address)),
    ("before", .str (Log.mask? before)),
    ("status", .int status),
    ("page_len", .int count)]⟩

/-- Asks for the page of the signatures older than `before`. -/
def fetch (client : Client) (address : String) (before : Option String) : Attempt Page := do
  let request := Request.signatures address before client.pageSize
  let answer ← client.ask request
  let (status, records) ← Attempt.ofExcept (recordsOf request answer)
  Attempt.log .client (received address before status records.length)
  Attempt.ofExcept (ofRecords before status records)

end Page

end AddressIndex.Rpc
