import AddressIndex.Ledger.DecodeError

/-!
The accounts of a transaction. Its own keys come first, then the writable and then the read-only
addresses loaded from lookup tables; every index in the transaction counts along this list.
-/

namespace AddressIndex

/-- Addresses loaded from lookup tables. -/
structure LoadedAddresses where
  writable : List String
  readonly : List String
deriving DecidableEq, Repr

namespace LoadedAddresses

/-- The texts among the items; anything else is passed over. -/
def texts (v : Json) : Except DecodeError (List String) := do
  let items ← v.items?
  pure (items.filterMap fun item => match item with
    | .str s => some s
    | _ => none)

/-- The loaded addresses, if the value is an object. -/
def ofJson (v : Json) : Except DecodeError (Option LoadedAddresses) :=
  match v.fields? with
  | some fields => do
    let writable ← texts (fields.get "writable")
    let readonly ← texts (fields.get "readonly")
    pure (some ⟨writable, readonly⟩)
  | _ => pure none

/-- Loaded addresses in the order in which they extend the account keys. -/
def all (loaded : LoadedAddresses) : List String := loaded.writable ++ loaded.readonly

end LoadedAddresses

structure AccountTable where
  addresses : List String
  signerCount : Nat
deriving DecidableEq, Repr

/-- An account key: its address, and whether it is said to have signed. -/
structure AccountKey where
  address : String
  signer : Bool
deriving DecidableEq, Repr

/-- A key given as a text, or as an object with the text under `pubkey`. -/
def AccountKey.ofJson (entry : Json) : Except DecodeError AccountKey :=
  match entry with
  | .str s => pure ⟨s, false⟩
  | entry =>
    let fields := entry.fields?.getD []
    match fields.get "pubkey", fields.get "signer" with
    | .str s, .bool signer => pure ⟨s, signer⟩
    | .str s, _ => pure ⟨s, false⟩
    | _, _ => throw (.badAccountKey entry)

namespace AccountTable

def build (entries : List Json) (loaded : Option LoadedAddresses) :
    Except DecodeError AccountTable := do
  let keys ← entries.mapM AccountKey.ofJson
  pure ⟨keys.map (·.address) ++ (loaded.map (·.all)).getD [], keys.countP (·.signer)⟩

/-- The address at an index, if the table reaches that far. -/
def resolve (table : AccountTable) (index : Int) : Option String :=
  if 0 ≤ index then table.addresses[index.toNat]? else none

/-- The address that a reference means: an index into the table, or the address itself. -/
def resolveRef (table : AccountTable) (ref : Json) : Option String :=
  match ref with
  | .int n => table.resolve n
  | ref => ref.text?

end AccountTable

end AddressIndex
