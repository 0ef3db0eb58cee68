import AddressIndex.Binary64.Shortest
import AddressIndex.Json.Basic
import AddressIndex.Text.Quoted

/-!
The text of a JSON value. A `Style` fixes the spellings; `compact` and `ascii` are JSON, `quoted` is
the form in which messages show a value.
-/

namespace AddressIndex.Json

/-- How values are spelled. -/
structure Style where
  null : String
  yes : String
  no : String
  comma : String
  colon : String
  text : String → String
  number : Binary64.Words

mutual

/-- The text of a value. -/
def print (style : Style) : Json → String
  | .null => style.null
  | .bool b => if b then style.yes else style.no
  | .int n => toString n
  | .float x => x.text style.number
  | .str s => style.text s
  | .arr [] => "[]"
  | .arr (v :: vs) => "[" ++ print style v ++ printItems style vs ++ "]"
  | .obj [] => "\x7b\x7d"
  | .obj ((k, v) :: rest) =>
    "\x7b" ++ style.text k ++ style.colon ++ print style v ++ printFields style rest ++ "\x7d"

/-- The items after the first. -/
def printItems (style : Style) : List Json → String
  | [] => ""
  | v :: vs => style.comma ++ print style v ++ printItems style vs

/-- The fields after the first. -/
def printFields (style : Style) : List (String × Json) → String
  | [] => ""
  | (k, v) :: rest =>
    style.comma ++ style.text k ++ style.colon ++ print style v ++ printFields style rest

end

/-- A character that JSON writes with a short escape, or must escape. -/
def escapeShort (c : Char) : Option String :=
  if c = '\x22' then some "\\\""
  else if c = '\\' then some "\\\\"
  else if c = '\n' then some "\\n"
  else if c = '\r' then some "\\r"
  else if c = '\t' then some "\\t"
  else if c = '\x08' then some "\\b"
  else if c = '\x0c' then some "\\f"
  else if c.toNat < 32 then some ("\\u" ++ Text.hex 4 c.toNat)
  else none

/-- A code unit as an escape. -/
def escapeUnit (n : Nat) : String := "\\u" ++ Text.hex 4 n

/-- `c` in a text of ASCII characters only: beyond the first plane as two escapes. -/
def escapeAscii (c : Char) : String :=
  match escapeShort c with
  | some s => s
  | none =>
    let n := c.toNat
    if n < 127 then c.toString
    else if n < 0x10000 then escapeUnit n
    else escapeUnit (Text.highHalf n) ++ escapeUnit (Text.lowHalf n)

def escapePlain (c : Char) : String := (escapeShort c).getD c.toString

/-- A text between marks. A half is no character, so it has to be an escape. -/
def between (mark : String) (write : Char → String) (s : String) : String :=
  let writePoint : Text.CodePoint → String
    | .char c => write c
    | .half n => escapeUnit n
  mark ++ (Text.codePoints s).foldl (fun acc c => acc ++ writePoint c) "" ++ mark

/-- The words for numbers that JSON itself has no numeral for. -/
def jsonWords : Binary64.Words := ⟨"Infinity", "NaN"⟩

/-- JSON without spaces. -/
def compact : Style := ⟨"null", "true", "false", ",", ":", between "\"" escapePlain, jsonWords⟩

/-- JSON in ASCII, with a space after each comma and colon. -/
def ascii : Style := ⟨"null", "true", "false", ", ", ": ", between "\"" escapeAscii, jsonWords⟩

/-- The form of a value in messages. -/
def quotedStyle : Style := ⟨"None", "True", "False", ", ", ": ", Text.quote, ⟨"inf", "nan"⟩⟩

/-- A value as messages show it. -/
def quoted (v : Json) : String := v.print quotedStyle

/-- A value as messages show it, a text without marks. -/
def shown : Json → String
  | .str s => s
  | v => v.quoted

/-- Puts a field before the first one with a greater name. -/
def insertField (k : String) (v : Json) : Fields → Fields
  | [] => [(k, v)]
  | (n, w) :: rest =>
    if Text.before n k then (n, w) :: insertField k v rest else (k, v) :: (n, w) :: rest

mutual

/-- The value with the fields of all its objects in the order of their names. -/
def sorted : Json → Json
  | .arr items => .arr (sortedItems items)
  | .obj fields => .obj (sortedFields fields)
  | v => v

def sortedItems : List Json → List Json
  | [] => []
  | v :: vs => sorted v :: sortedItems vs

def sortedFields : List (String × Json) → List (String × Json)
  | [] => []
  | (k, v) :: rest => insertField k (sorted v) (sortedFields rest)

end

/-- ASCII JSON with the fields in the order of their names: equal objects have equal texts. -/
def canonical (v : Json) : String := v.sorted.print ascii

end AddressIndex.Json
