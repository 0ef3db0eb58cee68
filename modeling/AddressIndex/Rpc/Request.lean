import AddressIndex.Json.Basic

/-!
Requests to the node: a page of an address's history, or a transaction.
-/

namespace AddressIndex.Rpc

inductive Request where
  /-- At most `limit` signatures of an address, the newest first, all older than `before`. -/
  | signatures (address : String) (before : Option String) (limit : Int)
  | transaction (signature : String)
deriving DecidableEq, Repr

namespace Request

def method : Request → String
  | .signatures _ _ _ => "getSignaturesForAddress"
  | .transaction _ => "getTransaction"

def params : Request → List Json
  | .signatures address before limit =>
    [.str address, .obj ([("limit", .int limit), ("maxSupportedTransactionVersion", .int 0)] ++
      before.toList.map fun signature => ("before", .str signature))]
  | .transaction signature =>
    [.str signature,
      .obj [("maxSupportedTransactionVersion", .int 0), ("encoding", .str "jsonParsed")]]

/-- The request with its number, as it is sent. -/
def body (request : Request) (number : Nat) : Json :=
  .obj [("jsonrpc", .str "2.0"), ("id", .int number), ("method", .str request.method),
    ("params", .arr request.params)]

end Request

/-- What comes back from a request. -/
inductive Answer where
  | reply (status : Int) (body : String)
  /-- The network failed. -/
  | unreachable (detail : String)
  /-- The transport failed in a way that no network does. -/
  | crash (detail : String)
deriving DecidableEq, Repr

end AddressIndex.Rpc
