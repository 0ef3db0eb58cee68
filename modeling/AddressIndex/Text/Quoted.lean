import AddressIndex.Text.CodePoint
import AddressIndex.Text.Printable

/-!
Quoted text. `quote` writes a text between quotation marks with everything that does not print
written as an escape, so that the result is one line of printable characters.
-/

namespace AddressIndex.Text

/-- The last `width` hexadecimal digits of `n`, in lower case. -/
def hex (width n : Nat) : String :=
  String.ofList ((List.range width).reverse.map fun i =>
    let d := n / Nat.pow 16 i % 16
    Char.ofNat (if d < 10 then 48 + d else 87 + d))

/-- The mark around a text: double if the text holds single marks and no double ones. -/
def quoteMark (cs : List Char) : Char :=
  if cs.contains '\x27' && !cs.contains '\x22' then '\x22' else '\x27'

/-- `c` as it is written between marks `mark`. -/
def quoteChar (mark c : Char) : String :=
  if c = mark || c = '\\' then String.ofList ['\\', c]
  else if c = '\t' then "\\t"
  else if c = '\n' then "\\n"
  else if c = '\r' then "\\r"
  else if isPrintable c then c.toString
  else if c.toNat < 0x100 then "\\x" ++ hex 2 c.toNat
  else if c.toNat < 0x10000 then "\\u" ++ hex 4 c.toNat
  else "\\U" ++ hex 8 c.toNat

/-- A code point as it is written between marks `mark`; a half is an escape. -/
def quotePoint (mark : Char) : CodePoint → String
  | .char c => quoteChar mark c
  | .half n => "\\u" ++ hex 4 n

/-- `s` between quotation marks. -/
def quote (s : String) : String :=
  let mark := quoteMark s.toList
  mark.toString ++ String.join ((codePoints s).map (quotePoint mark)) ++ mark.toString

end AddressIndex.Text
