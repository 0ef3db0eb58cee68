import AddressIndex.Json.Reader
import AddressIndex.Ledger.DecodeError
import AddressIndex.Log.Line

/-!
Why a request has no result. Either the network failed, or the reply is not what was asked for.
-/

namespace AddressIndex.Rpc

/-- The node's code for an error: an integer or a truth value. -/
inductive ErrorCode where
  | number (n : Int)
  | flag (b : Bool)
deriving DecidableEq, Repr

namespace ErrorCode

def ofJson? : Json → Option ErrorCode
  | .int n => some (.number n)
  | .bool b => some (.flag b)
  | _ => none

def toJson : ErrorCode → Json
  | .number n => .int n
  | .flag b => .bool b

end ErrorCode

/-- How many characters of a body an error message shows. -/
def excerptLength : Nat := 200

/-- The beginning of a body, in one line. -/
def excerpt (body : String) : String :=
  let line := (Text.take excerptLength body).map fun c => if c = '\r' || c = '\n' then ' ' else c
  line ++ (if excerptLength < Text.length body then "..." else "")

/-- What is wrong with a reply to a method. -/
inductive ReplyFault where
  | undecodable (method : String) (error : Json.ReadError) (body : String)
  | notObject (method body : String)
  /-- The node reports an error. -/
  | reported (method text : String) (code : Option ErrorCode)
  | noResult (method : String)
  | nullResult (method : String)
  | signaturesNotList
  | badSignature (error : DecodeError)

namespace ReplyFault

def message : ReplyFault → String
  | .undecodable method error body =>
    "failed to decode " ++ method ++ " response: " ++ error.message ++ "; body=" ++ excerpt body
  | .notObject method body => method ++ " response is not an object; body=" ++ excerpt body
  | .reported method text _ => "rpc error on " ++ method ++ ": " ++ text
  | .noResult method => "missing result field in " ++ method ++ " response"
  | .nullResult method => method ++ " result is null"
  | .signaturesNotList => "getSignaturesForAddress result is not a list"
  | .badSignature error => "malformed signature item: " ++ error.message

def code? : ReplyFault → Option ErrorCode
  | .reported _ _ code => code
  | _ => none

end ReplyFault

/-- Why a page could not be had. -/
inductive Error where
  | unreachable (detail : String)
  | badReply (status : Int) (fault : ReplyFault)
  /-- A page beyond the first is empty: the history has been read to its end. -/
  | emptyPage (status : Int)

namespace Error

def unreachableMessage (detail : String) : String := "request failed: " ++ detail

def kind : Error → FaultKind
  | .unreachable _ => .transport
  | .badReply _ _ => .protocol
  | .emptyPage _ => .emptyPage

def message : Error → String
  | .unreachable detail => unreachableMessage detail
  | .badReply _ fault => fault.message
  | .emptyPage _ => "empty signatures page"

def status? : Error → Option Int
  | .unreachable _ => none
  | .badReply status _ | .emptyPage status => some status

def code? : Error → Option ErrorCode
  | .badReply _ fault => fault.code?
  | _ => none

end Error

/-- Whether a failed fetch is to blame on the way to the node or on its reply. -/
inductive FetchKind where
  | transport | protocol
deriving DecidableEq, Repr

def FetchKind.word : FetchKind → String
  | .transport => "transport"
  | .protocol => "protocol"

/-- Why a transaction could not be fetched. -/
inductive FetchFault where
  | unreachable (detail : String)
  | badReply (status : Int) (fault : ReplyFault)
  | badTransaction (status : Int) (error : DecodeError)
  /-- The reply is another transaction. -/
  | otherSignature (status : Int) (found : String)
  /-- What the client gave is another transaction. -/
  | swapped (found : String)
  /-- The client failed where it should not. -/
  | unforeseen (kind : FaultKind) (detail : String)

/-- A failed fetch of a signature. -/
structure FetchError where
  signature : String
  fault : FetchFault

namespace FetchError

def kind (e : FetchError) : FetchKind :=
  match e.fault with
  | .unreachable _ | .unforeseen _ _ => .transport
  | _ => .protocol

def message (e : FetchError) : String :=
  match e.fault with
  | .unreachable detail => Error.unreachableMessage detail
  | .badReply _ fault => fault.message
  | .badTransaction _ error =>
    "failed to decode transaction result: " ++ error.kind.report error.message
  | .otherSignature _ found => "getTransaction returned signature " ++ Log.mask found
  | .swapped found => "response carries signature " ++ Log.mask found
  | .unforeseen kind detail => "unexpected fetch failure: " ++ kind.report detail

def status? (e : FetchError) : Option Int :=
  match e.fault with
  | .badReply status _ | .badTransaction status _ | .otherSignature status _ => some status
  | _ => none

def code? (e : FetchError) : Option ErrorCode :=
  match e.fault with
  | .badReply _ fault => fault.code?
  | _ => none

end FetchError

end AddressIndex.Rpc
