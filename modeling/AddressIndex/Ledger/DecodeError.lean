import AddressIndex.Fault.Arithmetic
import AddressIndex.Json.Printer

/-!
Why a JSON value is not the record it should be, and the reading of fields and lists that the
decoders share.
-/

namespace AddressIndex

inductive DecodeError where
  /-- An object without the field. -/
  | missingField (name : String)
  /-- A field asked of what is not an object. -/
  | noFields (kind : Json.Kind)
  /-- A list asked of a number or a truth value. -/
  | noItems (kind : Json.Kind)
  | emptySignature
  | badAccountKey (entry : Json)
  | instructionNotObject (kind : Json.Kind)
  | resultNotObject
  | partsNotObjects
  | messageNotObject
  | slotMissing
  | feeMissing
  | accountKeysNotList
  | signaturesMissing
  | balancesNotList (name : String)
  | balancesNotIntegers (name : String)
  | arithmetic (fault : ArithmeticFault)

namespace DecodeError

def kind : DecodeError → FaultKind
  | .missingField _ => .missingKey
  | .noFields _ | .noItems _ => .wrongType
  | .arithmetic fault => fault.kind
  | _ => .badValue

def message : DecodeError → String
  | .missingField name => Text.quote name
  | .noFields .list => "list indices must be integers or slices, not str"
  | .noFields .text => "string indices must be integers, not 'str'"
  | .noFields kind => "'" ++ kind.word ++ "' object is not subscriptable"
  | .noItems kind => "'" ++ kind.word ++ "' object is not iterable"
  | .emptySignature => "signature must be a non-empty string"
  | .badAccountKey entry => "unsupported account key entry: " ++ entry.quoted
  | .instructionNotObject kind => "instruction must be an object, got " ++ kind.word
  | .resultNotObject => "transaction result must be an object"
  | .partsNotObjects => "transaction and meta must be objects"
  | .messageNotObject => "transaction.message must be an object"
  | .slotMissing => "slot missing"
  | .feeMissing => "meta.fee missing"
  | .accountKeysNotList => "message.accountKeys must be a list"
  | .signaturesMissing => "transaction.signatures missing"
  | .balancesNotList name => name ++ " must be a list"
  | .balancesNotIntegers name => name ++ " must contain integers"
  | .arithmetic fault => fault.message

/-- Whether the error lies in the shape of the value, not in a number out of range. -/
def isStructural (e : DecodeError) : Bool :=
  match e.kind with
  | .missingKey | .wrongType | .badValue => true
  | _ => false

end DecodeError

/-- The field `name`, which has to be there. -/
def Fields.require (fields : Fields) (name : String) : Except DecodeError Json :=
  match fields.get? name with
  | some v => pure v
  | none => throw (.missingField name)

namespace Json

/-- The items of a value that may be missing: none for what counts as nothing given, the characters
of a text, the names of an object. -/
def items? (v : Json) : Except DecodeError (List Json) :=
  if v.isVoid then pure []
  else match v with
    | .arr items => pure items
    | .str s => pure ((Text.characters s).map .str)
    | .obj fields => pure (fields.map fun p => .str p.1)
    | v => throw (.noItems v.kind)

/-- A number, as a floating number; nothing for any other value. -/
def float? : Json → Except DecodeError (Option Binary64)
  | .int n => match Binary64.ofInteger n with
    | .ok x => pure (some x)
    | .error fault => throw (.arithmetic fault)
  | .float x => pure (some x)
  | _ => pure none

/-- A list of integers, empty if it is missing. -/
def integers (name : String) : Json → Except DecodeError (List Int)
  | .null => pure []
  | .arr items => items.mapM fun v => match v with
    | .int n => pure n
    | _ => throw (.balancesNotIntegers name)
  | _ => throw (.balancesNotList name)

end Json

end AddressIndex
