import AddressIndex.Binary64.Basic

/-!
JSON values. Integers and floating numbers are different values, and the fields of an object keep
the order in which their names first came.
-/

namespace AddressIndex

inductive Json where
  | null
  | bool (b : Bool)
  | int (n : Int)
  | float (x : Binary64)
  | str (s : String)
  | arr (items : List Json)
  | obj (fields : List (String × Json))
deriving Inhabited

/-- The fields of an object, in order, with distinct names. -/
abbrev Fields := List (String × Json)

namespace Fields

def get? (fields : Fields) (name : String) : Option Json := fields.lookup name

/-- The field `name`; a missing field is null. -/
def get (fields : Fields) (name : String) : Json := (fields.get? name).getD .null

/-- Gives `name` the value `v`, in the place it has, or at the end if it has none. -/
def set (fields : Fields) (name : String) (v : Json) : Fields :=
  match fields with
  | [] => [(name, v)]
  | (n, w) :: rest => if n = name then (n, v) :: rest else (n, w) :: set rest name v

/-- The fields that result from setting each pair in turn. -/
def ofList (pairs : List (String × Json)) : Fields :=
  pairs.foldl (fun fields p => fields.set p.1 p.2) []

end Fields

namespace Json

/-- The kinds of value that a message can name. -/
inductive Kind where
  | null | bool | int | float | text | list | object
deriving DecidableEq, Repr

/-- The word for a kind in messages. -/
def Kind.word : Kind → String
  | .null => "NoneType"
  | .bool => "bool"
  | .int => "int"
  | .float => "float"
  | .text => "str"
  | .list => "list"
  | .object => "dict"

def kind : Json → Kind
  | .null => .null
  | .bool _ => .bool
  | .int _ => .int
  | .float _ => .float
  | .str _ => .text
  | .arr _ => .list
  | .obj _ => .object

/-- Whether a value counts as nothing given: null, false, zero, or an empty text, list or object. -/
def isVoid : Json → Bool
  | .null => true
  | .bool b => !b
  | .int n => n == 0
  | .float x => x.isZero
  | .str s => s.isEmpty
  | .arr items => items.isEmpty
  | .obj fields => fields.isEmpty

/-- A text that is not empty. -/
def text? : Json → Option String
  | .str s => if s.isEmpty then none else some s
  | _ => none

def int? : Json → Option Int
  | .int n => some n
  | _ => none

/-- The fields of an object. -/
def fields? : Json → Option Fields
  | .obj fields => some fields
  | _ => none

/-- A text, or nothing as null. -/
def ofText? (s : Option String) : Json := (s.map .str).getD .null

/-- An integer, or nothing as null. -/
def ofInt? (n : Option Int) : Json := (n.map .int).getD .null

end Json

end AddressIndex
