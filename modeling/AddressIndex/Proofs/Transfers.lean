import AddressIndex.Proofs.Amounts
import Mathlib.Data.List.ReduceOption

/-! What becomes of an instruction. It comes to one transfer or to none, and the transfers of a
transaction are those that the instructions of its walk come to, in order. What a transfer is made
of is told once, for lamports and for tokens; its position and the range of its amount follow. -/

namespace AddressIndex

open Binary64 (bound)

namespace Transfer

variable {accounts : TokenAccounts} {kind : TransferKind} {ix : Instruction}
  {info : InstructionInfo} {position : Position} {record? : Option Transfer} {transfer : Transfer}

/-- What an instruction of the System Program comes to. -/
inductive OfNative (kind : TransferKind) (info : InstructionInfo) (position : Position) :
    Option Transfer → Prop
  | silent (states : info.lamports = none) : OfNative kind info position none
  | told {lamports : Int} {display : Binary64} (states : info.lamports = some lamports)
      (shows : Binary64.ofQuotient lamports lamportsPerCoin = .ok display) :
      OfNative kind info position (some {
        amount := lamports
        kind
        asset := .native
        position
        mint := none
        program := none
        sourceOwner := info.source
        destinationOwner := info.destination
        sourceAccount := none
        destinationAccount := none
        display
        decimals := nativeDecimals
        direction := .unknown
        authority := info.authority })

theorem ofNative_eq_ok (h : ofNative kind info position = .ok record?) :
    OfNative kind info position record? := by
  unfold ofNative at h
  split at h
  next hlamports =>
    cases h
    exact .silent hlamports
  next lamports hlamports =>
    obtain ⟨display, hdisplay, hpure⟩ := Except.bind_eq_ok.mp h
    cases hpure
    exact .told hlamports hdisplay

/-- What an instruction of a token program comes to. -/
inductive OfToken (kind : TransferKind) (ix : Instruction) (info : InstructionInfo)
    (position : Position) (accounts : TokenAccounts) : Option Transfer → Prop
  | silent (states : stated? info = none) : OfToken kind ix info position accounts none
  | unread {stated : Stated} (states : stated? info = some stated)
      (reads : Amount.ofText stated.amount = .ok none) :
      OfToken kind ix info position accounts none
  | told {stated : Stated} {amount : Int} (display : Option Binary64)
      (states : stated? info = some stated)
      (reads : Amount.ofText stated.amount = .ok (some amount)) :
      OfToken kind ix info position accounts (some {
        amount
        kind
        asset := .token
        position
        mint := info.mint.or ((knownAccount kind info accounts).map (·.mint))
        program := ix.programId
        sourceOwner := ((sourceOf kind info).bind accounts.find?).bind (·.owner)
        destinationOwner := ((destinationOf kind info).bind accounts.find?).bind (·.owner)
        sourceAccount := sourceOf kind info
        destinationAccount := destinationOf kind info
        display
        decimals := stated.decimals.or ((knownAccount kind info accounts).map (·.decimals))
        direction := .unknown
        authority := info.authority })

theorem ofToken_eq_ok (h : ofToken kind ix info position accounts = .ok record?) :
    OfToken kind ix info position accounts record? := by
  unfold ofToken at h
  split at h
  next hstated =>
    cases h
    exact .silent hstated
  next stated hstated =>
    obtain ⟨amount?, hread, hrest⟩ := Except.bind_eq_ok.mp h
    cases amount? with
    | none =>
      cases hrest
      exact .unread hstated hread
    | some amount =>
      dsimp only at hrest
      split at hrest
      · obtain ⟨display, -, hpure⟩ := Except.bind_eq_ok.mp hrest
        cases hpure
        exact .told display hstated hread
      · cases hrest
        exact .told _ hstated hread

/-- What an instruction comes to. One that is not parsed, or whose type names no transfer, or whose
program moves nothing that is told, comes to nothing. -/
inductive OfInstruction (ix : Instruction) (position : Position) (accounts : TokenAccounts) :
    Option Transfer → Prop
  | unparsed (parses : ix.parsed = none) : OfInstruction ix position accounts none
  | unnamed {parsed : ParsedInstruction} (parses : ix.parsed = some parsed)
      (names : TransferKind.ofType? parsed.type = none) : OfInstruction ix position accounts none
  | foreign (program : Asset.ofInstruction? ix = none) : OfInstruction ix position accounts none
  | native {parsed : ParsedInstruction} {kind : TransferKind} {record? : Option Transfer}
      (parses : ix.parsed = some parsed) (names : TransferKind.ofType? parsed.type = some kind)
      (program : Asset.ofInstruction? ix = some .native)
      (comes : OfNative kind parsed.info position record?) :
      OfInstruction ix position accounts record?
  | token {parsed : ParsedInstruction} {kind : TransferKind} {record? : Option Transfer}
      (parses : ix.parsed = some parsed) (names : TransferKind.ofType? parsed.type = some kind)
      (program : Asset.ofInstruction? ix = some .token)
      (comes : OfToken kind ix parsed.info position accounts record?) :
      OfInstruction ix position accounts record?

theorem ofInstruction_eq_ok (h : ofInstruction ix position accounts = .ok record?) :
    OfInstruction ix position accounts record? := by
  unfold ofInstruction at h
  split at h
  next hparsed =>
    cases h
    exact .unparsed hparsed
  next parsed hparsed =>
    split at h
    next kind hkind hasset => exact .native hparsed hkind hasset (ofNative_eq_ok h)
    next kind hkind hasset => exact .token hparsed hkind hasset (ofToken_eq_ok h)
    next hnative htoken =>
      cases h
      cases hkind : TransferKind.ofType? parsed.type with
      | none => exact .unnamed hparsed hkind
      | some kind =>
        cases hasset : Asset.ofInstruction? ix with
        | none => exact .foreign hasset
        | some asset =>
          cases asset with
          | native => exact (hnative kind hkind hasset).elim
          | token => exact (htoken kind hkind hasset).elim

/-- A transfer has the position of its instruction. -/
theorem position_ofInstruction (h : ofInstruction ix position accounts = .ok (some transfer)) :
    transfer.position = position := by
  cases ofInstruction_eq_ok h with
  | native _ _ _ hcomes =>
    cases hcomes
    rfl
  | token _ _ _ hcomes =>
    cases hcomes
    rfl

end Transfer

namespace Indexed

variable {tx : Transaction} {transfers : List Transfer} {s : String} {t : Indexed}
  {R R' : Instruction → Position → Option Transfer → Prop}

/-- Each instruction of the walk comes to what `R` says, and the transfers are those that come of
them, in order. -/
def Yields (tx : Transaction) (R : Instruction → Position → Option Transfer → Prop)
    (transfers : List Transfer) : Prop :=
  ∃ found : List (Option Transfer),
    List.Forall₂ (fun p record? => R p.1 p.2 record?) (walk tx) found ∧
      transfers = found.reduceOption

theorem Yields.imp (h : Yields tx R transfers)
    (himp : ∀ p ∈ walk tx, ∀ record?, R p.1 p.2 record? → R' p.1 p.2 record?) :
    Yields tx R' transfers := by
  obtain ⟨found, hall, htransfers⟩ := h
  have hboth := (List.forall₂_and_left _ _).mpr ⟨fun p hp => hp, hall⟩
  exact ⟨found, hboth.imp fun p record? h => himp p h.1 record? h.2, htransfers⟩

/-- A transfer is what some instruction of the walk comes to. -/
theorem Yields.of_mem (h : Yields tx R transfers) {transfer : Transfer}
    (hmem : transfer ∈ transfers) : ∃ p ∈ walk tx, R p.1 p.2 (some transfer) := by
  obtain ⟨found, hall, rfl⟩ := h
  exact Except.partner_of_mem hall.flip (List.reduceOption_mem_iff.mp hmem)

/-- What an instruction of the walk comes to is one of the transfers, if it comes to one. -/
theorem Yields.exists_of_mem (h : Yields tx R transfers) {p : Instruction × Position}
    (hmem : p ∈ walk tx) : ∃ record?, R p.1 p.2 record? ∧ ∀ t ∈ record?, t ∈ transfers := by
  obtain ⟨found, hall, rfl⟩ := h
  obtain ⟨record?, hrecord, hp⟩ := Except.partner_of_mem hall hmem
  refine ⟨record?, hp, fun t ht => List.reduceOption_mem_iff.mpr ?_⟩
  rwa [← Option.mem_def.mp ht]

theorem transfersOf_eq_ok : transfersOf tx = .ok transfers ↔
    Yields tx (fun ix position record? =>
      Transfer.ofInstruction ix position (TokenAccounts.ofTransaction tx) = .ok record?)
      transfers := by
  unfold transfersOf Yields
  rw [Except.bind_eq_ok]
  constructor
  · rintro ⟨found, hfound, hpure⟩
    cases hpure
    exact ⟨found, Except.mapM_eq_ok.mp hfound, rfl⟩
  · rintro ⟨found, hall, rfl⟩
    exact ⟨found, Except.mapM_eq_ok.mpr hall, rfl⟩

theorem transfersOf_of_ofTransaction (h : ofTransaction tx s = .ok t) :
    transfersOf tx = .ok t.transfers := by
  obtain ⟨transfers, htransfers, hpure⟩ := Except.bind_eq_ok.mp h
  cases hpure
  exact htransfers

/-- The transfers of a transaction stand where their instructions do, in order. -/
theorem transfers_positions (h : ofTransaction tx s = .ok t) :
    (t.transfers.map (·.position)).Sublist ((walk tx).map (·.2)) := by
  obtain ⟨found, hall, htransfers⟩ := transfersOf_eq_ok.mp (transfersOf_of_ofTransaction h)
  rw [htransfers]
  clear htransfers h
  generalize walk tx = places at hall
  induction hall with
  | nil => exact List.Sublist.refl _
  | @cons p record? places found hp _ ih =>
    cases record? with
    | none => exact ih.cons _
    | some transfer =>
      rw [List.reduceOption_cons_of_some, List.map_cons, List.map_cons,
        Transfer.position_ofInstruction hp]
      exact ih.cons_cons _

end Indexed

/-! ### Instructions for samples -/

namespace Sample

/-- The facts of an instruction that states nothing. -/
def info : InstructionInfo := ⟨none, none, none, none, none, none, none, none, none, none⟩

/-- A parsed instruction of a program. -/
def instruction (program type : String) (info : InstructionInfo) : Instruction :=
  ⟨some program, none, some ⟨type, info⟩, [], none, none⟩

end Sample

end AddressIndex
