import AddressIndex.Http.Url
import AddressIndex.Rpc.Error
import AddressIndex.Store.Fault

/-!
All that can stop a step of the service.
-/

namespace AddressIndex

inductive Fault where
  | arithmetic (fault : ArithmeticFault)
  /-- A reply nested too deep to be read. -/
  | nesting (container : Json.Container)
  /-- The transport failed in a way that no network does. -/
  | crash (detail : String)
  /-- The node's URL cannot be read. -/
  | url (fault : Http.UrlFault)
  /-- The node's URL names a place and no server. -/
  | unplaced (target : String)
  | rpc (error : Rpc.Error)
  | store (fault : Store.Fault)

namespace Fault

def kind : Fault → FaultKind
  | .arithmetic fault => fault.kind
  | .nesting _ => .nesting
  | .crash _ => .unforeseen
  | .url fault => fault.kind
  | .unplaced _ => .badValue
  | .rpc error => error.kind
  | .store fault => fault.kind

def message : Fault → String
  | .arithmetic fault => fault.message
  | .nesting container => (Json.ReadFault.tooDeep container).message
  | .crash detail => detail
  | .url fault => fault.message
  | .unplaced target => "unknown url type: " ++ Text.quote target
  | .rpc error => error.message
  | .store fault => fault.message

end Fault

end AddressIndex
