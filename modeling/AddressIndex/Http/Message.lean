import AddressIndex.Json.Basic

/-!
Requests over HTTP, and responses to them.
-/

namespace AddressIndex.Http

structure Request where
  method : String
  url : String
  /-- What is sent along, as JSON. -/
  body : Option String
deriving DecidableEq, Repr

inductive Content where
  | json (value : Json)
  | text (text : String)

structure Response where
  status : Nat
  content : Content

namespace Response

/-- A response that tells one thing. -/
def detail (status : Nat) (text : String) : Response :=
  ⟨status, .json (.obj [("detail", .str text)])⟩

/-- The request is not of the form that it has to have. -/
def malformed : Response := ⟨422, .text "validation error"⟩

/-- The service failed in a way that it does not expect. -/
def unforeseen : Response := ⟨500, .text "Internal Server Error"⟩

/-- The response as a method gets it: one that asks for the head alone gets no content. -/
def forMethod (response : Response) (method : String) : Response :=
  if method = "HEAD" then { response with content := .text "" } else response

end Response

end AddressIndex.Http
