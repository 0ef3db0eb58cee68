import AddressIndex.Http.HostChar
import AddressIndex.Http.Punycode
import AddressIndex.Text.Composition
import AddressIndex.Text.Direction
import AddressIndex.Text.Joining
import AddressIndex.Text.Script

/-!
Labels, the parts of a host name between dots. A label has small letters, digits, marks and hyphens
of any script, each where it may stand, and all written in one direction. `coded?` gives the form in
which a label is sent, in ASCII.
-/

namespace AddressIndex.Http

/-! ### Neighbours -/

/-- Whether letters join over a place between two texts, the first of which is reversed. -/
def joins (before after : List Char) : Bool :=
  (before.find? (!Text.isJoinedOver ·)).any Text.joinsNext &&
    (after.find? (!Text.isJoinedOver ·)).any Text.joinsPrevious

def isArabicDigit (c : Char) : Bool := '\u0660' ≤ c && c ≤ '\u0669'

def isPersianDigit (c : Char) : Bool := '\u06f0' ≤ c && c ≤ '\u06f9'

/-- Whether `c` may stand between two texts, the first of which is reversed. -/
def mayStand (before : List Char) (c : Char) (after : List Char) : Bool :=
  let followsVirama := before.head?.any (Text.markClass · = Text.viramaClass)
  if c = '\u200c' then followsVirama || joins before after
  else if c = '\u200d' then followsVirama
  else if c = '\u00b7' then before.head? = some 'l' && after.head? = some 'l'
  else if c = '\u0375' then after.head?.any Text.Script.greek.has
  else if c = '\u05f3' || c = '\u05f4' then before.head?.any Text.Script.hebrew.has
  else if c = '\u30fb' then
    (before ++ after).any fun d => Text.Script.hiragana.has d || Text.Script.katakana.has d ||
      Text.Script.han.has d
  else if isArabicDigit c then !(before ++ after).any isPersianDigit
  else if isPersianDigit c then !(before ++ after).any isArabicDigit
  else true

/-- Whether each character may stand where it is; `before` is what is in front, reversed. -/
def mayFollow (before : List Char) : List Char → Bool
  | [] => true
  | c :: after => isHostChar c && mayStand before c after && mayFollow (c :: before) after

/-! ### Directions -/

/-- Whether characters may stand in one label. If some are written from right to left, so are all
but digits, signs and marks; a sign is not the last of them and a letter is the first, and digits
are of one kind. -/
def areDirected (directions : List Text.Direction) : Bool :=
  if directions.any fun d => d = .right || d = .arabicDigit then
    let last := directions.reverse.find? (· ≠ .mark)
    directions.head? = some .right && !directions.contains .left && last ≠ some .neutral &&
      !(directions.contains .digit && directions.contains .arabicDigit)
  else true

/-! ### Labels -/

/-- Whether a text is a label: no hyphen is at an end, nor are two where they mark a coded label,
and no mark is without a letter. -/
def isLabel (cs : List Char) : Bool :=
  !cs.isEmpty && mayFollow [] cs && Text.isComposed cs && areDirected (cs.map Text.Direction.of) &&
    cs.head? ≠ some '-' && cs.getLast? ≠ some '-' && (cs.drop 2).take 2 ≠ ['-', '-'] &&
    !cs.head?.any Text.isMark

/-- What a coded label begins with. -/
def codedMark : List Char := ['x', 'n', '-', '-']

/-- The label that a text in ASCII stands for. -/
def decoded? (cs : List Char) : Option (List Char) :=
  match Text.after? codedMark cs with
  | some rest => if rest.isEmpty || rest.getLast? = some '-' then none else Punycode.decode? rest
  | none => some cs

/-- The longest label in ASCII. -/
def labelLength : Nat := 63

/-- A label in ASCII, if it is one. -/
def coded? (cs : List Char) : Option (List Char) :=
  let isAscii := cs.all Punycode.isAscii
  let coded := if isAscii then cs else codedMark ++ Punycode.encode cs
  let label := if isAscii then decoded? cs else some cs
  if label.any isLabel && coded.length ≤ labelLength then some coded else none

end AddressIndex.Http
