import AddressIndex.Http.Message
import AddressIndex.Json.Reader
import AddressIndex.Text.Utf

/-!
Bodies of requests. A body comes as bytes, in UTF-8 unless zeros among its first bytes show that it
is in UTF-16 or UTF-32. It hands in an address, as a field of an object.
-/

namespace AddressIndex.Api

open Http

/-! ### Text -/

inductive Encoding where
  | utf8
  | utf16 (endian : Text.Endian)
  | utf32 (endian : Text.Endian)
deriving DecidableEq, Repr

/-- The encoding that the zeros among the first bytes show. -/
def Encoding.ofBytes : List Nat → Encoding
  | [a, b] =>
    if a = 0 then .utf16 .big else if b = 0 then .utf16 .little else .utf8
  | a :: b :: c :: d :: _ =>
    if a = 0 then if b = 0 then .utf32 .big else .utf16 .big
    else if b = 0 then if c = 0 && d = 0 then .utf32 .little else .utf16 .little
    else .utf8
  | _ => .utf8

/-- The bytes of a text. A half is no character and has none. -/
def bytesOf (body : String) : List Nat :=
  (Text.codePoints body).flatMap fun c => (c.char?.map Text.utf8Bytes).getD []

/-- The text of a body. A mark of the byte order in front of it is no part of it. -/
def textOf? (body : String) : Option String :=
  let bytes := bytesOf body
  match Encoding.ofBytes bytes with
  | .utf8 =>
    match body.toList with
    | '\ufeff' :: rest => some (String.ofList rest)
    | _ => some body
  | .utf16 endian =>
    (Text.Utf16.units? endian bytes).map fun units => String.ofList (Text.Utf16.text units)
  | .utf32 endian => (Text.Utf32.text? endian bytes).map String.ofList

/-! ### Values -/

/-- Why a body is not taken: it is malformed as the value shows, or cannot be read. -/
inductive BodyFault where
  | malformed (shown : Json)
  | unreadable
  | missing

mutual

/-- Whether a value has a number that JSON cannot write, or a text that is none in UTF-8. -/
def hasUnwritable : Json → Bool
  | .float x => !x.isFinite
  | .str s => Text.hasHalf s
  | .arr items => anyUnwritable items
  | .obj fields => anyFieldUnwritable fields
  | _ => false

def anyUnwritable : List Json → Bool
  | [] => false
  | v :: vs => hasUnwritable v || anyUnwritable vs

def anyFieldUnwritable : List (String × Json) → Bool
  | [] => false
  | (k, v) :: rest => Text.hasHalf k || hasUnwritable v || anyFieldUnwritable rest

end

/-- A malformed body is refused with the value that is wrong, which has to be written again. -/
def BodyFault.response : BodyFault → Response
  | .malformed shown => if hasUnwritable shown then .unforeseen else .malformed
  | .unreadable => .detail 400 "There was an error parsing the body"
  | .missing => .malformed

/-- The value of a body. -/
def readBody (body : String) : Except BodyFault Json :=
  match textOf? body with
  | none => throw .unreadable
  | some text =>
    match Json.read text with
    | .ok .null => throw .missing
    | .ok value => pure value
    | .error error => throw (if error.fault.isGrammatical then .missing else .unreadable)

/-! ### The address -/

/-- The least and the greatest length of an address. -/
def lengthRange : Nat × Nat := (1, 64)

/-- Whether a text can be an address, as far as its form goes. -/
def isAddressText (s : String) : Bool :=
  !Text.hasHalf s && lengthRange.1 ≤ Text.length s && Text.length s ≤ lengthRange.2

/-- The address that a body hands in. -/
def addressOf (body : Option String) : Except BodyFault String := do
  let some body := body | throw .missing
  if body.isEmpty then throw .missing
  let value ← readBody body
  match value.fields? with
  | none => throw (.malformed value)
  | some fields =>
    match fields.get? "address" with
    | some (.str address) =>
      if isAddressText address then pure address else throw (.malformed (.str address))
    | some other => throw (.malformed other)
    | none => throw (.malformed value)

end AddressIndex.Api
