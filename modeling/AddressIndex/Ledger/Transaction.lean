import AddressIndex.Ledger.Instruction

/-!
Transactions as the node answers them. `Transaction.ofJson` demands the parts without which nothing
can be derived, each by its own error, and lets the rest be missing.
-/

namespace AddressIndex

/-- A token account's balance before or after a transaction, with its account resolved. -/
structure TokenBalance where
  accountIndex : Int
  account : Option String
  mint : String
  owner : Option String
  programId : Option String
  amount : TokenAmount
deriving DecidableEq

/-- The balance, if the value is an object with an index, a mint and an amount. -/
def TokenBalance.ofJson (v : Json) (table : AccountTable) :
    Except DecodeError (Option TokenBalance) :=
  match v.fields? with
  | some fields => do
    let amount ← TokenAmount.ofJson (fields.get "uiTokenAmount")
    match (fields.get "accountIndex").int?, (fields.get "mint").text?, amount with
    | some index, some mint, some amount =>
      pure (some ⟨index, table.resolve index, mint, (fields.get "owner").text?,
        (fields.get "programId").text?, amount⟩)
    | _, _, _ => pure none
  | _ => pure none

/-- How many signatures a message requires, and how many of its accounts are read-only. -/
structure MessageHeader where
  requiredSignatures : Int
  readonlySigned : Int
  readonlyUnsigned : Int
deriving DecidableEq, Repr

/-- The header, if the value is an object that tells the required signatures. -/
def MessageHeader.ofJson? (v : Json) : Option MessageHeader := do
  let fields ← v.fields?
  let required ← (fields.get "numRequiredSignatures").int?
  pure ⟨required, (fields.get "numReadonlySignedAccounts").int?.getD 0,
    (fields.get "numReadonlyUnsignedAccounts").int?.getD 0⟩

/-- The instructions that the top-level instruction at `index` called. -/
structure InnerInstructions where
  index : Int
  instructions : List Instruction
deriving DecidableEq

/-- The called instructions, if the value is an object with an index. -/
def InnerInstructions.ofJson (v : Json) (table : AccountTable) :
    Except DecodeError (Option InnerInstructions) :=
  match v.fields? with
  | some fields =>
    match (fields.get "index").int? with
    | some index => do
      let items ← (fields.get "instructions").items?
      let instructions ← items.mapM (Instruction.ofJson · table)
      pure (some ⟨index, instructions⟩)
    | none => pure none
  | _ => pure none

structure Transaction where
  slot : Int
  blockTime : Option Int
  signatures : List String
  accounts : AccountTable
  header : Option MessageHeader
  instructions : List Instruction
  inner : List InnerInstructions
  preBalances : List Int
  postBalances : List Int
  preTokenBalances : List TokenBalance
  postTokenBalances : List TokenBalance
  loaded : Option LoadedAddresses
  /-- What the transaction failed with; null if it succeeded. -/
  failure : Json
  fee : Int
  computeUnits : Option Int

namespace Transaction

/-- The first signature, by which a transaction is known. -/
def signature (tx : Transaction) : String := tx.signatures.headD ""

def succeeded (tx : Transaction) : Bool :=
  match tx.failure with
  | .null => true
  | _ => false

/-- The number of signers: as the header says, else as the keys say, else one for each signature. -/
def signerCount (tx : Transaction) : Int :=
  match tx.header with
  | some header => header.requiredSignatures
  | none => if tx.accounts.signerCount = 0 then tx.signatures.length else tx.accounts.signerCount

/-- The failure as a text that does not depend on the order of its fields. -/
def failureText (tx : Transaction) : Option String :=
  if tx.succeeded then none else some tx.failure.canonical

/-- The token balances in a list that may be missing; what is no balance is passed over. -/
def tokenBalances (v : Json) (table : AccountTable) : Except DecodeError (List TokenBalance) := do
  let items ← v.items?
  let balances ← items.mapM (TokenBalance.ofJson · table)
  pure (balances.filterMap id)

/-- The transaction and its meta data and message, all objects. -/
def parts (result : Fields) : Except DecodeError (Fields × Fields × Fields) := do
  let tx ← result.require "transaction"
  let info ← result.require "meta"
  match tx.fields?, info.fields? with
  | some tx, some info =>
    let message ← tx.require "message"
    match message.fields? with
    | some message => pure (tx, info, message)
    | none => throw .messageNotObject
  | _, _ => throw .partsNotObjects

def ofFields (result : Fields) : Except DecodeError Transaction := do
  let (tx, info, message) ← parts result
  let some slot := (result.get "slot").int? | throw .slotMissing
  let some fee := (info.get "fee").int? | throw .feeMissing
  let loaded ← LoadedAddresses.ofJson (info.get "loadedAddresses")
  let .arr keys := message.get "accountKeys" | throw .accountKeysNotList
  let accounts ← AccountTable.build keys loaded
  let items ← (message.get "instructions").items?
  let instructions ← items.mapM (Instruction.ofJson · accounts)
  let blocks ← (info.get "innerInstructions").items?
  let inner ← blocks.mapM (InnerInstructions.ofJson · accounts)
  let signatures ← (tx.get "signatures").items?
  let signatures := signatures.filterMap Json.text?
  if signatures.isEmpty then throw .signaturesMissing
  let preBalances ← (info.get "preBalances").integers "preBalances"
  let postBalances ← (info.get "postBalances").integers "postBalances"
  let preTokenBalances ← tokenBalances (info.get "preTokenBalances") accounts
  let postTokenBalances ← tokenBalances (info.get "postTokenBalances") accounts
  pure {
    slot
    blockTime := (result.get "blockTime").int?
    signatures
    accounts
    header := MessageHeader.ofJson? (message.get "header")
    instructions
    inner := inner.filterMap id
    preBalances
    postBalances
    preTokenBalances
    postTokenBalances
    loaded
    failure := info.get "err"
    fee
    computeUnits := (info.get "computeUnitsConsumed").int? }

/-- The transaction that a node's result describes. -/
def ofJson (result : Json) : Except DecodeError Transaction :=
  match result.fields? with
  | some fields => ofFields fields
  | none => throw .resultNotObject

end Transaction

end AddressIndex
