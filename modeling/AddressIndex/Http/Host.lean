import AddressIndex.Http.Escape
import AddressIndex.Http.Label
import AddressIndex.Json.Reader
import AddressIndex.Text.Case
import AddressIndex.Text.Numeral

/-!
Hosts: addresses of four numbers or of eight, and names. What looks like an address has to be one.
-/

namespace AddressIndex.Http

/-! ### Four numbers -/

/-- Whether a host looks like four numbers with dots between them. -/
def resemblesIpv4 (host : List Char) : Bool :=
  let parts := Text.split '.' host
  parts.length = 4 && parts.all fun part => !part.isEmpty && part.all Text.isDigit

/-- Whether a text is a number from 0 to 255 without a zero in front. -/
def isOctet (cs : List Char) : Bool :=
  !cs.isEmpty && cs.all Text.isDigit && cs.length ≤ 3 && (cs = ['0'] || cs.head? ≠ some '0') &&
    Text.digitsValue cs ≤ 255

def isIpv4 (host : List Char) : Bool :=
  let parts := Text.split '.' host
  parts.length = 4 && parts.all isOctet

/-! ### Eight numbers -/

/-- Whether a text is a number of at most four hexadecimal digits. -/
def isHexGroup (cs : List Char) : Bool :=
  !cs.isEmpty && cs.length ≤ 4 && cs.all fun c => (Json.hexDigit? c).isSome

/-- Groups without a void one that stands alone, beside the gap. -/
def besideGap (groups : List (List Char)) : List (List Char) :=
  if groups = [[]] then [] else groups

/-- Whether groups are eight numbers, of which one gap may stand for several. -/
def areEightGroups (groups : List (List Char)) : Bool :=
  let inner := (groups.drop 1).dropLast
  match inner.findIdx? (·.isEmpty) with
  | none => groups.length = 8 && groups.all isHexGroup
  | some i =>
    let given := besideGap (groups.take (i + 1)) ++ besideGap (groups.drop (i + 2))
    given.length < 8 && given.all isHexGroup

/-- The last group may be four numbers instead of two groups. -/
def expandedGroups? (groups : List (List Char)) : Option (List (List Char)) :=
  match groups.getLast? with
  | some last =>
    if !last.contains '.' then some groups
    else if isIpv4 last then some (groups.dropLast ++ [['0'], ['0']])
    else none
  | none => none

/-- Whether a text is an address of eight numbers, perhaps with the name of a zone. -/
def isIpv6 (cs : List Char) : Bool :=
  let (address, zone) := cs.span (· ≠ '%')
  let groups := Text.split ':' address
  (zone.isEmpty || (1 < zone.length && !(zone.drop 1).contains '%')) && 3 ≤ groups.length &&
    match expandedGroups? groups with
    | some groups => areEightGroups groups
    | none => false

/-! ### Names -/

/-- The dots of several scripts. -/
def isDot (c : Char) : Bool := [0x2E, 0x3002, 0xFF0E, 0xFF61].contains c.toNat

/-- The longest name in ASCII; a dot may end it. -/
def nameLength : Nat := 253

/-- A host name of any script in ASCII, if a text in small letters is one; a dot may end it. -/
def codedName? (host : List Char) : Option (List Char) := do
  let labels := Text.split '.' (host.map fun c => if isDot c then '.' else c)
  let isEnded := labels.getLast? = some []
  let labels := if isEnded then labels.dropLast else labels
  if labels.isEmpty || nameLength + 1 < host.length then none
  let name := Text.join '.' (← labels.mapM coded?)
  if nameLength < name.length then none
  some (if isEnded then name ++ ['.'] else name)

/-! ### Hosts -/

/-- What a host looks like and is not. -/
inductive HostFault where
  | ipv4
  | ipv6
  | name
deriving DecidableEq, Repr

/-- The words for a fault of a host. -/
def HostFault.word : HostFault → String
  | .ipv4 => "IPv4 address"
  | .ipv6 => "IPv6 address"
  | .name => "IDNA hostname"

/-- The characters that a name in ASCII has without escapes. -/
def isNameChar (c : Char) : Bool := isUnreserved c || "!$&'()*+,;=\"\x60\x7b\x7d%|\\".contains c

/-- Whether a host is an address in brackets. -/
def isBracketed (host : List Char) : Bool := host.head? = some '[' && host.getLast? = some ']'

/-- A host in the form in which it is sent. A name in ASCII may be any text. -/
def sentHost (host : List Char) : Except HostFault (List Char) :=
  if resemblesIpv4 host then if isIpv4 host then pure host else throw .ipv4
  else if isBracketed host then
    if isIpv6 (host.drop 1).dropLast then pure host else throw .ipv6
  else if host.all Punycode.isAscii then pure (escape isNameChar (host.map Char.toLower))
  else match codedName? (Text.lowerFrom false host) with
    | some name => pure name
    | none => throw .name

end AddressIndex.Http
