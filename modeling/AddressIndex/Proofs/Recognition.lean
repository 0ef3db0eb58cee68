import AddressIndex.Proofs.Calls
import AddressIndex.Proofs.Denotation
import AddressIndex.Proofs.Transfers

/-! Recognized instructions. An instruction is recognized by its program, its type and what it says
it moves, lamports or tokens. Each recognized instruction of a transaction comes to one transfer, at
its position, and no other instruction comes to one; so what is not recognized makes no difference.
Lamports are recognized under every type that names a transfer, of tokens as well. -/

namespace AddressIndex

/-! ### Programs, types and amounts -/

namespace Instruction

/-- The instruction is one of a token program, by its address or by its name. -/
def OfTokenProgram (ix : Instruction) : Prop :=
  (∃ id ∈ tokenPrograms, ix.programId = some id) ∨
    ∃ name ∈ tokenProgramNames, ix.program = some name

/-- The instruction is one of the System Program, by its address or by its name. -/
def OfSystemProgram (ix : Instruction) : Prop :=
  ix.programId = some systemProgram ∨ ix.program = some "system"

end Instruction

section

variable {ix : Instruction} {kind : TransferKind} {type : String} {info : InstructionInfo}
  {text : String}

theorem Asset.ofInstruction?_eq_token :
    Asset.ofInstruction? ix = some .token ↔ ix.OfTokenProgram := by
  have hmark : (ix.programId.any (tokenPrograms.contains ·) ||
      ix.program.any (tokenProgramNames.contains ·)) = true ↔ ix.OfTokenProgram := by
    simp only [Bool.or_eq_true, Option.any_eq_true, List.contains_iff_mem, and_comm]
    exact Iff.rfl
  unfold Asset.ofInstruction?
  rw [← hmark]
  split
  next h => exact iff_of_true rfl h
  next h =>
    refine iff_of_false ?_ h
    split <;> exact nofun

theorem Asset.ofInstruction?_eq_native :
    Asset.ofInstruction? ix = some .native ↔ ix.OfSystemProgram ∧ ¬ ix.OfTokenProgram := by
  rw [← Asset.ofInstruction?_eq_token]
  unfold Asset.ofInstruction? Instruction.OfSystemProgram
  split
  next => simp
  next => split <;> simp_all

/-- The type names transfers of the kind. -/
inductive TransferKind.Named : TransferKind → String → Prop
  | transfer : Named .transfer "transfer"
  | transferChecked : Named .transfer "transferChecked"
  | mintTo : Named .mint "mintTo"
  | mintToChecked : Named .mint "mintToChecked"
  | burn : Named .burn "burn"
  | burnChecked : Named .burn "burnChecked"

theorem TransferKind.ofType?_eq_some : ofType? type = some kind ↔ kind.Named type := by
  constructor
  · intro h
    unfold ofType? at h
    split at h <;> cases h <;> constructor
  · rintro ⟨⟩ <;> rfl

theorem TransferKind.named_transfer (h : kind.Named "transfer") : kind = .transfer := by
  have hkind := TransferKind.ofType?_eq_some.mpr h
  cases hkind
  rfl

/-- The text of the amount of tokens that is stated: of the token amount if there is one, or else
the bare one. -/
inductive InstructionInfo.States (info : InstructionInfo) : String → Prop
  | embedded {amount : TokenAmount} (states : info.tokenAmount = some amount) :
      States info amount.amount
  | bare {text : String} (without : info.tokenAmount = none) (states : info.amount = some text) :
      States info text

theorem InstructionInfo.States.unique {text' : String} (h : info.States text)
    (h' : info.States text') : text = text' := by
  cases h with
  | embedded hstates =>
    cases h' with
    | embedded hstates' =>
      cases hstates.symm.trans hstates'
      rfl
    | bare hwithout' =>
      cases hstates.symm.trans hwithout'
  | bare hwithout hstates =>
    cases h' with
    | embedded hstates' => cases hwithout.symm.trans hstates'
    | bare _ hstates' => exact Option.some.inj (hstates.symm.trans hstates')

theorem InstructionInfo.states_iff :
    info.States text ↔ ∃ stated, Transfer.stated? info = some stated ∧ stated.amount = text := by
  constructor
  · rintro (hstates | ⟨hwithout, hstates⟩)
    · exact ⟨_, by rw [Transfer.stated?, hstates], rfl⟩
    · exact ⟨_, by rw [Transfer.stated?, hwithout, hstates], rfl⟩
  · rintro ⟨stated, hstated, rfl⟩
    unfold Transfer.stated? at hstated
    split at hstated
    next hstates =>
      cases hstated
      exact .embedded hstates
    next hwithout hstates =>
      cases hstated
      exact .bare hwithout hstates
    next => cases hstated

end

/-! ### Recognized instructions -/

namespace Instruction

/-- The parsed instruction, under its type, moves so much of the asset. -/
inductive Moves (ix : Instruction) : String → Asset → Int → Prop
  | lamports {parsed : ParsedInstruction} {n : Int} (parses : ix.parsed = some parsed)
      (program : ix.OfSystemProgram) (other : ¬ ix.OfTokenProgram)
      (states : parsed.info.lamports = some n) : Moves ix parsed.type .native n
  | tokens {parsed : ParsedInstruction} {text : String} {n : Int} (parses : ix.parsed = some parsed)
      (program : ix.OfTokenProgram) (states : parsed.info.States text)
      (denotes : Amount.Denotes text.toList n) : Moves ix parsed.type .token n

/-- An instruction moves one thing at most. -/
theorem Moves.unique {ix : Instruction} {type type' : String} {asset asset' : Asset} {n n' : Int}
    (h : ix.Moves type asset n) (h' : ix.Moves type' asset' n') : asset = asset' ∧ n = n' := by
  cases h with
  | lamports hparses _ hother hstates =>
    cases h' with
    | lamports hparses' _ _ hstates' =>
      obtain rfl := Option.some.inj (hparses.symm.trans hparses')
      exact ⟨rfl, Option.some.inj (hstates.symm.trans hstates')⟩
    | tokens _ htoken => exact absurd htoken hother
  | tokens hparses htoken hstates hdenotes =>
    cases h' with
    | lamports _ _ hother => exact absurd htoken hother
    | tokens hparses' _ hstates' hdenotes' =>
      obtain rfl := Option.some.inj (hparses.symm.trans hparses')
      obtain rfl := hstates.unique hstates'
      exact ⟨rfl, hdenotes.unique hdenotes'⟩

/-- The instruction is recognized as a transfer: its type names one, lamports move under one of
`types`, and an amount of tokens is in range. -/
structure RecognizedBy (types : List String) (ix : Instruction) (kind : TransferKind)
    (asset : Asset) (n : Int) : Prop where
  moves : ∃ type, ix.Moves type asset n ∧ kind.Named type ∧ (asset = .native → type ∈ types)
  inRange : asset = .token → Amount.InRange n

/-- All types that name a transfer. -/
def transferTypes : List String :=
  ["transfer", "transferChecked", "mintTo", "mintToChecked", "burn", "burnChecked"]

/-- The instruction is recognized as a transfer, of lamports too under every type that names one. -/
def Recognized (ix : Instruction) : Prop :=
  ∃ kind asset n, ix.RecognizedBy transferTypes kind asset n

end Instruction

namespace Transfer

variable {accounts : TokenAccounts} {kind : TransferKind} {asset : Asset} {n : Int}
  {ix : Instruction} {position : Position} {record? : Option Transfer}
  {types : List String} {parsed : ParsedInstruction}

theorem recognizedBy_names (h : ix.RecognizedBy types kind asset n) :
    ∃ parsed, ix.parsed = some parsed ∧ TransferKind.ofType? parsed.type = some kind := by
  obtain ⟨⟨type, hmoves, hnamed, -⟩, -⟩ := h
  have hnames := TransferKind.ofType?_eq_some.mpr hnamed
  cases hmoves with
  | lamports hparses => exact ⟨_, hparses, hnames⟩
  | tokens hparses => exact ⟨_, hparses, hnames⟩

theorem not_recognizedBy_of_unnamed (hparses : ix.parsed = some parsed)
    (hnames : TransferKind.ofType? parsed.type = none) : ¬ ix.RecognizedBy types kind asset n := by
  intro h
  obtain ⟨parsed', hparses', hnames'⟩ := recognizedBy_names h
  obtain rfl := Option.some.inj (hparses.symm.trans hparses')
  rw [hnames] at hnames'
  cases hnames'

theorem not_recognizedBy_of_foreign (hprogram : Asset.ofInstruction? ix = none) :
    ¬ ix.RecognizedBy types kind asset n := by
  rintro ⟨⟨_, hmoves, _⟩, _⟩
  cases hmoves with
  | lamports _ hsystem hother =>
    rw [Asset.ofInstruction?_eq_native.mpr ⟨hsystem, hother⟩] at hprogram
    cases hprogram
  | tokens _ htoken =>
    rw [Asset.ofInstruction?_eq_token.mpr htoken] at hprogram
    cases hprogram

/-- A record tells what an instruction does at a position; there is none if it does nothing. -/
inductive Tells (does : TransferKind → Asset → Int → Prop) (position : Position) :
    Option Transfer → Prop
  | nothing (h : ∀ kind asset n, ¬ does kind asset n) : Tells does position none
  | told {t : Transfer} (h : does t.kind t.asset t.amount) (place : t.position = position) :
      Tells does position (some t)

/-- An instruction of the System Program is recognized by its lamports. -/
theorem recognizedBy_native (hparsed : ix.parsed = some parsed)
    (hnamed : TransferKind.ofType? parsed.type = some kind)
    (hprogram : Asset.ofInstruction? ix = some .native) {kind' : TransferKind} :
    ix.RecognizedBy types kind' asset n ↔ kind' = kind ∧ asset = .native ∧
      parsed.info.lamports = some n ∧ parsed.type ∈ types := by
  obtain ⟨hsystem, hother⟩ := Asset.ofInstruction?_eq_native.mp hprogram
  constructor
  · rintro ⟨⟨_, hmoves, hnamed', htypes⟩, -⟩
    cases hmoves with
    | lamports hparsed' _ _ hstates =>
      obtain rfl := Option.some.inj (hparsed.symm.trans hparsed')
      rw [TransferKind.ofType?_eq_some.mpr hnamed'] at hnamed
      exact ⟨Option.some.inj hnamed, rfl, hstates, htypes rfl⟩
    | tokens _ htoken => exact absurd htoken hother
  · rintro ⟨rfl, rfl, hstates, htypes⟩
    exact ⟨⟨_, .lamports hparsed hsystem hother hstates, TransferKind.ofType?_eq_some.mp hnamed,
      fun _ => htypes⟩, nofun⟩

/-- An instruction of a token program is recognized by an amount in range. -/
theorem recognizedBy_token (hparsed : ix.parsed = some parsed)
    (hnamed : TransferKind.ofType? parsed.type = some kind)
    (hprogram : Asset.ofInstruction? ix = some .token) {kind' : TransferKind} :
    ix.RecognizedBy types kind' asset n ↔ kind' = kind ∧ asset = .token ∧
      ∃ stated, stated? parsed.info = some stated ∧ Amount.Denotes stated.amount.toList n ∧
        Amount.InRange n := by
  have htoken := Asset.ofInstruction?_eq_token.mp hprogram
  constructor
  · rintro ⟨⟨_, hmoves, hnamed', -⟩, hrange⟩
    cases hmoves with
    | lamports _ _ hother => exact absurd htoken hother
    | tokens hparsed' _ hstates hdenotes =>
      obtain rfl := Option.some.inj (hparsed.symm.trans hparsed')
      rw [TransferKind.ofType?_eq_some.mpr hnamed'] at hnamed
      obtain ⟨stated, hstated, rfl⟩ := InstructionInfo.states_iff.mp hstates
      exact ⟨Option.some.inj hnamed, rfl, stated, hstated, hdenotes, hrange rfl⟩
  · rintro ⟨rfl, rfl, stated, hstated, hdenotes, hrange⟩
    have hstates := InstructionInfo.states_iff.mpr ⟨stated, hstated, rfl⟩
    exact ⟨⟨_, .tokens hparsed htoken hstates hdenotes, TransferKind.ofType?_eq_some.mp hnamed,
      nofun⟩, fun _ => hrange⟩

theorem mem_transferTypes {type : String} (h : TransferKind.ofType? type = some kind) :
    type ∈ Instruction.transferTypes := by
  cases TransferKind.ofType?_eq_some.mp h <;> decide

theorem tells_of_ofNative (hparses : ix.parsed = some parsed)
    (hnames : TransferKind.ofType? parsed.type = some kind)
    (hprogram : Asset.ofInstruction? ix = some .native)
    (h : OfNative kind parsed.info position record?) :
    Tells (ix.RecognizedBy Instruction.transferTypes) position record? := by
  cases h with
  | silent hstates =>
    refine .nothing fun _ _ _ hrecognized => ?_
    obtain ⟨-, -, hlamports, -⟩ := (recognizedBy_native hparses hnames hprogram).mp hrecognized
    rw [hstates] at hlamports
    cases hlamports
  | told hstates =>
    exact .told ((recognizedBy_native hparses hnames hprogram).mpr
      ⟨rfl, rfl, hstates, mem_transferTypes hnames⟩) rfl

theorem tells_of_ofToken (hparses : ix.parsed = some parsed)
    (hnames : TransferKind.ofType? parsed.type = some kind)
    (hprogram : Asset.ofInstruction? ix = some .token)
    (h : OfToken kind ix parsed.info position accounts record?) :
    Tells (ix.RecognizedBy Instruction.transferTypes) position record? := by
  cases h with
  | silent hstates =>
    refine .nothing fun _ _ _ hrecognized => ?_
    obtain ⟨-, -, stated, hstated, -⟩ :=
      (recognizedBy_token hparses hnames hprogram).mp hrecognized
    rw [hstates] at hstated
    cases hstated
  | unread hstates hreads =>
    refine .nothing fun _ _ _ hrecognized => ?_
    obtain ⟨-, -, stated, hstated, hdenotes⟩ :=
      (recognizedBy_token hparses hnames hprogram).mp hrecognized
    obtain rfl := Option.some.inj (hstates.symm.trans hstated)
    cases (Amount.ofText_eq_ok hreads).mpr hdenotes
  | told _ hstates hreads =>
    exact .told ((recognizedBy_token hparses hnames hprogram).mpr
      ⟨rfl, rfl, _, hstates, (Amount.ofText_eq_ok hreads).mp rfl⟩) rfl

/-- What an instruction comes to tells what it is recognized as. -/
theorem tells_of_ofInstruction (h : ofInstruction ix position accounts = .ok record?) :
    Tells (ix.RecognizedBy Instruction.transferTypes) position record? := by
  cases ofInstruction_eq_ok h with
  | unparsed hparses =>
    refine .nothing fun kind asset n hrecognized => ?_
    obtain ⟨parsed, hparses', -⟩ := recognizedBy_names hrecognized
    rw [hparses] at hparses'
    cases hparses'
  | unnamed hparses hnames => exact .nothing fun _ _ _ => not_recognizedBy_of_unnamed hparses hnames
  | foreign hprogram => exact .nothing fun _ _ _ => not_recognizedBy_of_foreign hprogram
  | native hparses hnames hprogram hcomes =>
    exact tells_of_ofNative hparses hnames hprogram hcomes
  | token hparses hnames hprogram hcomes => exact tells_of_ofToken hparses hnames hprogram hcomes

/-- An instruction that is not recognized is out of range only by a numeral that is not read. -/
theorem tooManyDigits_of_not_recognized {fault : ArithmeticFault} (hno : ¬ ix.Recognized)
    (h : OutOfRange accounts ix fault) : ∃ count, fault = .tooManyDigits count := by
  cases h with
  | lamports hparses hnames hprogram hstates =>
    exact absurd ⟨_, _, _, (recognizedBy_native hparses hnames hprogram).mpr
      ⟨rfl, rfl, hstates, mem_transferTypes hnames⟩⟩ hno
  | digits => exact ⟨_, rfl⟩
  | decimals hparses hnames hprogram hstates hreads =>
    exact absurd ⟨_, _, _, (recognizedBy_token hparses hnames hprogram).mpr
      ⟨rfl, rfl, _, hstates, (Amount.ofText_eq_ok hreads).mp rfl⟩⟩ hno

theorem eq_none_of_not_recognized (hno : ¬ ix.Recognized)
    (h : ofInstruction ix position accounts = .ok record?) : record? = none := by
  cases tells_of_ofInstruction h with
  | nothing => rfl
  | told hrecognized => exact absurd ⟨_, _, _, hrecognized⟩ hno

end Transfer

/-! ### What is not recognized -/

/-- The instructions are the same, or neither is recognized. -/
def Instruction.Alike (ix ix' : Instruction) : Prop := ix = ix' ∨ ¬ ix.Recognized ∧ ¬ ix'.Recognized

/-- The instruction moves lamports under a type of token programs. -/
def Instruction.Mistyped (ix : Instruction) : Prop :=
  ∃ type kind n, ix.Moves type .native n ∧ TransferKind.Named kind type ∧ type ≠ "transfer"

/-- The second transaction has the instructions and token balances of the first, except that
instructions that are not recognized can stand in the place of such. -/
structure Transaction.Alike (tx tx' : Transaction) : Prop where
  instructions : List.Forall₂ Instruction.Alike tx.instructions tx'.instructions
  inner : List.Forall₂ (fun block block' => block.index = block'.index ∧
    List.Forall₂ Instruction.Alike block.instructions block'.instructions) tx.inner tx'.inner
  preTokenBalances : tx'.preTokenBalances = tx.preTokenBalances
  postTokenBalances : tx'.postTokenBalances = tx.postTokenBalances

namespace Indexed

variable {tx tx' : Transaction} {transfers : List Transfer}

/-- Instructions that are alike, in the same place. -/
def AlikeAt (p p' : Instruction × Position) : Prop := p.1.Alike p'.1 ∧ p'.2 = p.2

theorem alikeAt_numbered {ixs ixs' : List Instruction}
    (h : List.Forall₂ Instruction.Alike ixs ixs') (place : Nat → Position) (start : Nat) :
    List.Forall₂ AlikeAt ((ixs.zipIdx start).map fun p => (p.1, place p.2))
      ((ixs'.zipIdx start).map fun p => (p.1, place p.2)) := by
  induction h generalizing start with
  | nil => exact .nil
  | cons halike _ ih => exact .cons ⟨halike, rfl⟩ (ih (start + 1))

theorem alikeAt_walk (h : tx.Alike tx') : List.Forall₂ AlikeAt (walk tx) (walk tx') := by
  unfold walk
  refine List.rel_append (alikeAt_numbered h.instructions (fun n => ⟨n, none⟩) 0) ?_
  refine List.rel_flatMap h.inner fun block block' hblock => ?_
  obtain ⟨hindex, hinstructions⟩ := hblock
  rw [hindex]
  exact alikeAt_numbered hinstructions (fun n => ⟨block'.index, some n⟩) 0

/-- Instructions that are alike and in the same place come to the same, unless the numeral of the
second has too many digits. -/
theorem ofInstruction_alike {ix ix' : Instruction} {position : Position} {accounts : TokenAccounts}
    {record? : Option Transfer} (halike : ix.Alike ix')
    (h : Transfer.ofInstruction ix position accounts = .ok record?) :
    Transfer.ofInstruction ix' position accounts = .ok record? ∨
      ∃ count, Transfer.ofInstruction ix' position accounts = .error (.tooManyDigits count) := by
  rcases halike with rfl | ⟨hno, hno'⟩
  · exact .inl h
  obtain rfl := Transfer.eq_none_of_not_recognized hno h
  cases h' : Transfer.ofInstruction ix' position accounts with
  | ok record? =>
    rw [Transfer.eq_none_of_not_recognized hno' h']
    exact .inl rfl
  | error fault =>
    obtain ⟨count, rfl⟩ :=
      Transfer.tooManyDigits_of_not_recognized hno' (Transfer.ofInstruction_eq_error.mp h')
    exact .inr ⟨count, rfl⟩

theorem mapM_alike {places places' : List (Instruction × Position)} {accounts : TokenAccounts}
    {found : List (Option Transfer)} (halike : List.Forall₂ AlikeAt places places')
    (h : places.mapM (fun p => Transfer.ofInstruction p.1 p.2 accounts) = .ok found) :
    places'.mapM (fun p => Transfer.ofInstruction p.1 p.2 accounts) = .ok found ∨
      ∃ count, places'.mapM (fun p => Transfer.ofInstruction p.1 p.2 accounts) =
        .error (.tooManyDigits count) := by
  induction halike generalizing found with
  | nil => exact .inl h
  | @cons p p' places places' hp _ ih =>
    rw [List.mapM_cons] at h ⊢
    obtain ⟨record?, hone, hrest⟩ := Except.bind_eq_ok.mp h
    obtain ⟨found', hfound, hpure⟩ := Except.bind_eq_ok.mp hrest
    cases hpure
    obtain ⟨hsame, hplace⟩ := hp
    rw [hplace]
    -- the walk of the second list may stop at a numeral that the first does not have
    rcases ofInstruction_alike hsame hone with hone' | ⟨count, hone'⟩
    · rcases ih hfound with hrest' | ⟨count, hrest'⟩
      · rw [hone', hrest']
        exact .inl rfl
      · rw [hone', hrest']
        exact .inr ⟨count, rfl⟩
    · rw [hone']
      exact .inr ⟨count, rfl⟩

/-- Instructions that are not recognized can take each other's place without a difference, as long
as no numeral has too many digits. -/
theorem transfersOf_alike (halike : tx.Alike tx') (h : transfersOf tx = .ok transfers) :
    transfersOf tx' = .ok transfers ∨
      ∃ count, transfersOf tx' = .error (.tooManyDigits count) := by
  have haccounts : TokenAccounts.ofTransaction tx' = TokenAccounts.ofTransaction tx := by
    rw [TokenAccounts.ofTransaction, halike.preTokenBalances, halike.postTokenBalances]
    rfl
  obtain ⟨found, hfound, hpure⟩ := Except.bind_eq_ok.mp h
  cases hpure
  unfold transfersOf
  rw [haccounts]
  dsimp only
  rcases mapM_alike (alikeAt_walk halike) hfound with hsame | ⟨count, hfails⟩
  · rw [hsame]
    exact .inl rfl
  · rw [hfails]
    exact .inr ⟨count, rfl⟩

/-- What is recognized with lamports under no other type than `transfer`. -/
theorem recognizedBy_transfer {ix : Instruction} (h : ¬ ix.Mistyped) {kind : TransferKind}
    {asset : Asset} {n : Int} : ix.RecognizedBy Instruction.transferTypes kind asset n ↔
      ix.RecognizedBy ["transfer"] kind asset n := by
  constructor
  · rintro ⟨⟨type, hmoves, hnamed, -⟩, hrange⟩
    refine ⟨⟨type, hmoves, hnamed, ?_⟩, hrange⟩
    rintro rfl
    -- lamports under another type would make the instruction a mistyped one
    by_contra hother
    exact h ⟨type, kind, n, hmoves, hnamed, fun hsame => hother (hsame ▸ List.mem_cons_self)⟩
  · rintro ⟨⟨type, hmoves, hnamed, htypes⟩, hrange⟩
    exact ⟨⟨type, hmoves, hnamed, fun hnative => List.mem_cons.mpr
      ((List.mem_cons.mp (htypes hnative)).imp_right nofun)⟩, hrange⟩

/-- The transfers of a transaction tell what its instructions are recognized as. -/
theorem yields_tells (h : transfersOf tx = .ok transfers) : Yields tx
    (fun ix => Transfer.Tells (ix.RecognizedBy Instruction.transferTypes)) transfers :=
  (transfersOf_eq_ok.mp h).imp fun _ _ _ => Transfer.tells_of_ofInstruction

/-- Each recognized instruction of a transaction comes to one transfer and the others come to none,
in the order of the walk. Lamports are recognized under every type that names a transfer; where no
such type is another than `transfer`, all transfers of lamports are of that kind. Instructions that
are not recognized make no difference, as long as no numeral has too many digits. -/
theorem transfersOf_tells_recognized (h : transfersOf tx = .ok transfers) :
    Yields tx (fun ix => Transfer.Tells (ix.RecognizedBy Instruction.transferTypes)) transfers ∧
    ((∀ p ∈ walk tx, ¬ p.1.Mistyped) →
      Yields tx (fun ix => Transfer.Tells (ix.RecognizedBy ["transfer"])) transfers ∧
      ∀ t ∈ transfers, t.asset = .native → t.kind = .transfer) ∧
    ∀ tx', tx.Alike tx' → transfersOf tx' = .ok transfers ∨
      ∃ count, transfersOf tx' = .error (.tooManyDigits count) := by
  refine ⟨yields_tells h, fun htyped => ?_, fun tx' halike => transfersOf_alike halike h⟩
  have hdocumented : Yields tx (fun ix => Transfer.Tells (ix.RecognizedBy ["transfer"]))
      transfers := by
    refine (yields_tells h).imp fun p hp record? htold => ?_
    have hsame := @recognizedBy_transfer p.1 (htyped p hp)
    cases htold with
    | nothing hnothing => exact .nothing fun kind asset n => mt hsame.mpr (hnothing kind asset n)
    | told hdoes hplace => exact .told (hsame.mp hdoes) hplace
  refine ⟨hdocumented, fun t ht hnative => ?_⟩
  obtain ⟨p, -, htold⟩ := hdocumented.of_mem ht
  cases htold with
  | told hdoes =>
    obtain ⟨⟨type, -, hnamed, htypes⟩, -⟩ := hdoes
    rw [List.mem_singleton.mp (htypes hnative)] at hnamed
    exact TransferKind.named_transfer hnamed

end Indexed

/-- A burn of tokens between lamports that are transferred and lamports under the type of a mint,
beside an instruction that is not recognized. -/
def Sample.mixed (other : Instruction) : Transaction :=
  { payment 1 "A" "s" with
    instructions := [
      instruction "system" "transfer" { info with lamports := some 5 }, other,
      instruction "spl-token" "burn" { info with amount := some "+07" }]
    inner := [⟨1, [instruction "system" "mintTo" { info with lamports := some 3 }]⟩] }

/-- Lamports of a mint are told beside those of a transfer, and an instruction that is not
recognized is as good as another. -/
theorem Indexed.transfersOf_tells_recognized_of_mixed :
    let opening := Sample.instruction "spl-token" "initializeAccount" Sample.info
    let closing := Sample.instruction "spl-token" "closeAccount" Sample.info
    ∃ transfers, transfersOf (Sample.mixed opening) = .ok transfers ∧
      transfers.map (fun t => (t.kind, t.asset, t.amount)) =
        [(.transfer, .native, 5), (.burn, .token, 7), (.mint, .native, 3)] ∧
      Yields (Sample.mixed opening)
        (fun ix => Transfer.Tells (ix.RecognizedBy Instruction.transferTypes)) transfers ∧
      transfersOf (Sample.mixed closing) = .ok transfers := by
  intro opening closing
  have htold : (·.map fun t => (t.kind, t.asset, t.amount)) <$> transfersOf (Sample.mixed opening) =
      .ok [(.transfer, .native, 5), (.burn, .token, 7), (.mint, .native, 3)] := by decide +kernel
  have hother : (transfersOf (Sample.mixed closing)).isOk := by decide +kernel
  obtain ⟨transfers, h, hmap⟩ := Except.map_eq_ok.mp htold
  obtain ⟨htells, -, halike⟩ := transfersOf_tells_recognized h
  refine ⟨transfers, h, hmap, htells, ?_⟩
  have hno : ∀ type, TransferKind.ofType? type = none →
      ¬ (Sample.instruction "spl-token" type Sample.info).Recognized := by
    rintro type hnone ⟨kind, asset, n, hrecognized⟩
    exact Transfer.not_recognizedBy_of_unnamed rfl hnone hrecognized
  have hchanged : opening.Alike closing := .inr ⟨hno _ rfl, hno _ rfl⟩
  rcases halike (Sample.mixed closing) ⟨.cons (.inl rfl) (.cons hchanged (.cons (.inl rfl) .nil)),
    .cons ⟨rfl, .cons (.inl rfl) .nil⟩ .nil, rfl, rfl⟩ with hsame | ⟨count, hfails⟩
  · exact hsame
  · rw [hfails] at hother
    cases hother

end AddressIndex
