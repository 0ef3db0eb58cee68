import AddressIndex.Transfer.Amount
import AddressIndex.Transfer.TokenAccounts

/-!
Transfers. A parsed instruction of the System Program or of a token program that moves, mints or
burns is one transfer; `Transfer.ofInstruction` recognizes it and completes what it leaves out from
the token accounts of the transaction.
-/

namespace AddressIndex

inductive TransferKind where
  | transfer | mint | burn
deriving DecidableEq, Repr

/-- What moves: lamports, or the tokens of a token program. -/
inductive Asset where
  | native | token
deriving DecidableEq, Repr

/-- Which way a transfer goes, seen from the tracked owner. -/
inductive Direction where
  | unknown | inward | outward | within
deriving DecidableEq, Repr

def TransferKind.word : TransferKind → String
  | .transfer => "transfer"
  | .mint => "mint"
  | .burn => "burn"

def Asset.word : Asset → String
  | .native => "native"
  | .token => "spl"

def Direction.word : Direction → String
  | .unknown => "unknown"
  | .inward => "in"
  | .outward => "out"
  | .within => "self"

/-- The kind of transfer that an instruction type names. -/
def TransferKind.ofType? : String → Option TransferKind
  | "transfer" | "transferChecked" => some .transfer
  | "mintTo" | "mintToChecked" => some .mint
  | "burn" | "burnChecked" => some .burn
  | _ => none

def systemProgram : String := "11111111111111111111111111111111"

/-- The token program and its successor. -/
def tokenPrograms : List String :=
  ["TokenkegQfeZyiNwAJbNbGKPFXCWuBvf9Ss623VQ5DA", "TokenzQdBNbLqP5VEhdkAS6EPFLC1PHnBqCXEpPxuEb"]

def tokenProgramNames : List String := ["spl-token", "spl-token-2022"]

/-- What a program moves, by its address or its name; a token program's mark goes first. -/
def Asset.ofInstruction? (ix : Instruction) : Option Asset :=
  if ix.programId.any (tokenPrograms.contains ·) || ix.program.any (tokenProgramNames.contains ·)
  then some .token
  else if ix.programId = some systemProgram || ix.program = some "system" then some .native
  else none

/-- Where an instruction stands: the index of the top-level one, and that of the called one. -/
structure Position where
  index : Int
  inner : Option Int
deriving DecidableEq, Repr

structure Transfer where
  amount : Int
  kind : TransferKind
  asset : Asset
  position : Position
  mint : Option String
  program : Option String
  sourceOwner : Option String
  destinationOwner : Option String
  sourceAccount : Option String
  destinationAccount : Option String
  display : Option Binary64
  decimals : Option Int
  direction : Direction
  authority : Option String
deriving DecidableEq

namespace Transfer

def lamportsPerCoin : Nat := 1000000000

def nativeDecimals : Int := 9

/-- The transfer of lamports; none if the instruction does not say how many. -/
def ofNative (kind : TransferKind) (info : InstructionInfo) (position : Position) :
    Except ArithmeticFault (Option Transfer) :=
  match info.lamports with
  | none => pure none
  | some lamports => do
    let display ← Binary64.ofQuotient lamports lamportsPerCoin
    pure (some {
      amount := lamports
      kind
      asset := .native
      position
      mint := none
      program := none
      sourceOwner := info.source
      destinationOwner := info.destination
      sourceAccount := none
      destinationAccount := none
      display
      decimals := nativeDecimals
      direction := .unknown
      authority := info.authority })

/-- An amount as an instruction states it: its text, the node's reading and the decimals. -/
structure Stated where
  amount : String
  display : Option Binary64
  decimals : Option Int

/-- The stated amount: the token amount if there is one, else the bare one. -/
def stated? (info : InstructionInfo) : Option Stated :=
  match info.tokenAmount, info.amount with
  | some t, _ => some ⟨t.amount, t.display, t.decimals⟩
  | none, some amount => some ⟨amount, info.display, info.decimals⟩
  | none, none => none

/-- The token account that tokens leave. A burn's own account goes before its source. -/
def sourceOf (kind : TransferKind) (info : InstructionInfo) : Option String :=
  if kind = .burn then info.account.or info.source else info.source

/-- The token account that tokens reach. A mint's own account goes before its destination. -/
def destinationOf (kind : TransferKind) (info : InstructionInfo) : Option String :=
  if kind = .mint then info.account.or info.destination else info.destination

/-- The transfer of tokens; none if the instruction states no amount. Mint and decimals that it
leaves out are those of the source account, or else of the destination account. -/
def ofToken (kind : TransferKind) (ix : Instruction) (info : InstructionInfo) (position : Position)
    (accounts : TokenAccounts) : Except ArithmeticFault (Option Transfer) :=
  match stated? info with
  | none => pure none
  | some stated => do
    let some amount ← Amount.ofText stated.amount | pure none
    let source := sourceOf kind info
    let destination := destinationOf kind info
    let sourceAccount := source.bind accounts.find?
    let destinationAccount := destination.bind accounts.find?
    let known := sourceAccount.or destinationAccount
    let decimals := stated.decimals.or (known.map (·.decimals))
    let display ← match stated.display, decimals with
      | none, some d => some <$> Amount.scale amount d
      | display, _ => pure display
    pure (some {
      amount
      kind
      asset := .token
      position
      mint := info.mint.or (known.map (·.mint))
      program := ix.programId
      sourceOwner := sourceAccount.bind (·.owner)
      destinationOwner := destinationAccount.bind (·.owner)
      sourceAccount := source
      destinationAccount := destination
      display
      decimals
      direction := .unknown
      authority := info.authority })

/-- The transfer that an instruction makes, if it is recognized. -/
def ofInstruction (ix : Instruction) (position : Position) (accounts : TokenAccounts) :
    Except ArithmeticFault (Option Transfer) :=
  match ix.parsed with
  | none => pure none
  | some parsed =>
    match TransferKind.ofType? parsed.type, Asset.ofInstruction? ix with
    | some kind, some .native => ofNative kind parsed.info position
    | some kind, some .token => ofToken kind ix parsed.info position accounts
    | _, _ => pure none

/-- The way that a transfer between two owners goes for a third. -/
def directionFor (source destination : Option String) (owner : String) : Direction :=
  if source = some owner then if destination = some owner then .within else .outward
  else if destination = some owner then .inward
  else .unknown

/-- The transfer seen from its tracked owner. -/
def direct (t : Transfer) (owner : String) : Transfer :=
  { t with direction := directionFor t.sourceOwner t.destinationOwner owner }

end Transfer

end AddressIndex
