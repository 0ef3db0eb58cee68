import AddressIndex.Program

/-!
The client of a node: the node's URL, and how many signatures it asks for at once. The URL is taken
apart only when something is asked, and a bad one fails then.
-/

namespace AddressIndex.Rpc

/-- The most signatures that a node gives at once. -/
def greatestPage : Int := 1000

inductive ClientFault where
  | blankUrl
  | badPageSize
deriving DecidableEq, Repr

def ClientFault.message : ClientFault → String
  | .blankUrl => "rpc_url must be non-empty"
  | .badPageSize => "page_size must be between 1 and 1000"

structure Client where
  url : String
  pageSize : Int
  pageSize_range : 1 ≤ pageSize ∧ pageSize ≤ greatestPage

namespace Client

/-- A client, if there is a node's URL and the page size is one that nodes accept. -/
def of (url : String) (pageSize : Int) : Except ClientFault Client :=
  let url := Text.trim url
  if url.isEmpty then throw .blankUrl
  else if h : 1 ≤ pageSize ∧ pageSize ≤ greatestPage then pure ⟨url, pageSize, h⟩
  else throw .badPageSize

/-- The place of the node on its server, if the URL does not name the server. -/
def unplaced? (url : Http.Url) : Except Http.UrlFault (Option String) :=
  if url.isAbsolute then do
    url.checkServer
    pure none
  else do
    let (path, query) ← url.ofRoot
    pure (some (String.ofList (Http.Url.target path query)))

/-- Asks the node. To a node whose server is not named a request can go out, but no reply is taken
from it. -/
def ask (client : Client) (request : Request) : Attempt Answer := do
  match Http.Url.read client.url >>= unplaced? with
  | .error fault => throw (.url fault)
  | .ok none => Attempt.ask request
  | .ok (some target) =>
    match ← Attempt.ask request with
    | .reply _ _ => throw (.unplaced target)
    | answer => pure answer

end Client

end AddressIndex.Rpc
