/-!
White space. `isBlank` is the table of the characters that count as blank, ASCII and beyond, and
`trim` removes them from both ends of a text.
-/

namespace AddressIndex.Text

/-- The white space of Unicode, with the four ASCII separators 28 to 31. The zero-width space is
not in it. -/
def isBlank (c : Char) : Bool :=
  let n := c.toNat
  (9 ≤ n && n ≤ 13) || (28 ≤ n && n ≤ 32) || n == 0x85 || n == 0xA0 || n == 0x1680 ||
    (0x2000 ≤ n && n ≤ 0x200A) || n == 0x2028 || n == 0x2029 || n == 0x202F || n == 0x205F ||
    n == 0x3000

/-- The white space of ASCII without the separators: what a numeral may be padded with. -/
def isPadding (c : Char) : Bool :=
  let n := c.toNat
  (9 ≤ n && n ≤ 13) || n == 32

/-- `cs` without the characters of class `p` at its ends. -/
def strip (p : Char → Bool) (cs : List Char) : List Char :=
  ((cs.dropWhile p).reverse.dropWhile p).reverse

/-- `s` without blanks at its ends. -/
def trim (s : String) : String :=
  String.ofList (strip isBlank s.toList)

end AddressIndex.Text
