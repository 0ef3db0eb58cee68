import AddressIndex.Ledger.AccountTable

/-!
Instructions. The node parses those of programs it knows into a type and named facts; the others
stay opaque.
-/

namespace AddressIndex

/-- An amount of a token in base units, with the node's own readings of it. -/
structure TokenAmount where
  amount : String
  decimals : Int
  display : Option Binary64
  displayText : Option String
deriving DecidableEq

namespace TokenAmount

/-- An amount given as a text or as an integer. -/
def amountText? : Json → Option String
  | .str s => some s
  | .int n => some (toString n)
  | _ => none

/-- The token amount, if the value is an object with an amount and decimals. -/
def ofJson (v : Json) : Except DecodeError (Option TokenAmount) :=
  match v.fields? with
  | some fields =>
    match amountText? (fields.get "amount"), (fields.get "decimals").int? with
    | some amount, some decimals => do
      let display ← (fields.get "uiAmount").float?
      pure (some ⟨amount, decimals, display, (fields.get "uiAmountString").text?⟩)
    | _, _ => pure none
  | _ => pure none

end TokenAmount

/-- The facts of a parsed instruction that transfers are made of. -/
structure InstructionInfo where
  tokenAmount : Option TokenAmount
  amount : Option String
  decimals : Option Int
  display : Option Binary64
  mint : Option String
  authority : Option String
  lamports : Option Int
  source : Option String
  destination : Option String
  account : Option String
deriving DecidableEq

/-- The facts in the fields of an object. A single authority goes before that of several signers. -/
def InstructionInfo.ofFields (fields : Fields) : Except DecodeError InstructionInfo := do
  let tokenAmount ← TokenAmount.ofJson (fields.get "tokenAmount")
  let display ← (fields.get "uiAmount").float?
  let text name := (fields.get name).text?
  pure {
    tokenAmount
    amount := TokenAmount.amountText? (fields.get "amount")
    decimals := (fields.get "decimals").int?
    display
    mint := text "mint"
    authority := (text "authority").or (text "multisigAuthority")
    lamports := (fields.get "lamports").int?
    source := text "source"
    destination := text "destination"
    account := text "account" }

structure ParsedInstruction where
  type : String
  info : InstructionInfo
deriving DecidableEq

namespace ParsedInstruction

/-- The parsed part of an instruction: an object with a type. A bare text is opaque. -/
def ofJson (v : Json) : Except DecodeError (Option ParsedInstruction) :=
  match v.fields? with
  | some fields =>
    match fields.get "type" with
    | .str type => do
      let info ← InstructionInfo.ofFields ((fields.get "info").fields?.getD [])
      pure (some ⟨type, info⟩)
    | _ => pure none
  | _ => pure none

end ParsedInstruction

structure Instruction where
  program : Option String
  programId : Option String
  parsed : Option ParsedInstruction
  accounts : List String
  data : Option String
  stackHeight : Option Int
deriving DecidableEq

namespace Instruction

/-- The program's address: given as a text, or else by an index into the table. -/
def programId? (fields : Fields) (table : AccountTable) : Option String :=
  (fields.get "programId").text?.or ((fields.get "programIdIndex").int?.bind table.resolve)

def ofJson (v : Json) (table : AccountTable) : Except DecodeError Instruction :=
  match v.fields? with
  | some fields => do
    let parsed ← ParsedInstruction.ofJson (fields.get "parsed")
    let refs ← (fields.get "accounts").items?
    pure {
      program := (fields.get "program").text?
      programId := programId? fields table
      parsed
      accounts := refs.filterMap table.resolveRef
      data := (fields.get "data").text?
      stackHeight := (fields.get "stackHeight").int? }
  | none => throw (.instructionNotObject v.kind)

end Instruction

end AddressIndex
