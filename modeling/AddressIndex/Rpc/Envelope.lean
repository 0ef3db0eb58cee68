import AddressIndex.Fault.Basic
import AddressIndex.Rpc.Request

/-!
The envelope of a reply: an object with the node's error or with the result. An error goes before
a result, and a result that is null is none.
-/

namespace AddressIndex.Rpc

/-- The envelope's text for an error that is an object: its message, or else the whole error. -/
def errorText (error : Json) : String :=
  match error.fields?.bind (·.get? "message") with
  | some message => message.shown
  | none => error.shown

def errorCode? (error : Json) : Option ErrorCode :=
  error.fields?.bind fun fields => ErrorCode.ofJson? (fields.get "code")

/-- The result in an envelope. -/
def resultOf (method : String) (envelope : Fields) : Except ReplyFault Json :=
  match envelope.get "error" with
  | .null =>
    match envelope.get? "result" with
    | none => throw (.noResult method)
    | some .null => throw (.nullResult method)
    | some result => pure result
  | error => throw (.reported method (errorText error) (errorCode? error))

/-- The result in the text of a reply. -/
def readResult (method : String) (status : Int) (body : String) : Except Fault Json :=
  match Json.read body with
  | .error ⟨.tooDeep container, _⟩ => throw (.nesting container)
  | .error error => throw (.rpc (.badReply status (.undecodable method error body)))
  | .ok value =>
    match value.fields? with
    | none => throw (.rpc (.badReply status (.notObject method body)))
    | some envelope =>
      match resultOf method envelope with
      | .ok result => pure result
      | .error fault => throw (.rpc (.badReply status fault))

/-- The result in an answer, with the status of the reply. -/
def Answer.result (answer : Answer) (method : String) : Except Fault (Int × Json) :=
  match answer with
  | .unreachable detail => throw (.rpc (.unreachable detail))
  | .crash detail => throw (.crash detail)
  | .reply status body => do
    let result ← readResult method status body
    pure (status, result)

end AddressIndex.Rpc
