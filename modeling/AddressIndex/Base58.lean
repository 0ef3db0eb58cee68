/-!
Base 58: bytes written with 58 letters and digits, without those that look alike. Each zero byte at
the start is written as one `1`, and the bytes after them as the digits of a number.
-/

namespace AddressIndex.Base58

/-- The digits in the order of their values. -/
def alphabet : List Char :=
  "123456789ABCDEFGHJKLMNPQRSTUVWXYZabcdefghijkmnopqrstuvwxyz".toList

/-- The value of a digit. -/
def digit? (c : Char) : Option Nat := alphabet.findIdx? (· = c)

/-- The number that digits denote, the first one counting most. -/
def ofDigits (ds : List Nat) : Nat := ds.foldl (fun n d => 58 * n + d) 0

/-- The bytes of a number, the first one counting most; zero has none. -/
def bytesOf (n : Nat) : List UInt8 :=
  if n = 0 then [] else bytesOf (n / 256) ++ [UInt8.ofNat (n % 256)]
termination_by n
decreasing_by omega

/-- The bytes that a text denotes, if it has no other characters than digits. -/
def decode? (s : String) : Option (List UInt8) := do
  let ds ← s.toList.mapM digit?
  let zeros := ds.takeWhile (· = 0)
  pure (List.replicate zeros.length 0 ++ bytesOf (ofDigits ds))

/-- How many bytes a key has. -/
def keySize : Nat := 32

/-- Whether a text denotes a key. -/
def isKey (s : String) : Bool := (decode? s).any fun bytes => bytes.length == keySize

end AddressIndex.Base58
