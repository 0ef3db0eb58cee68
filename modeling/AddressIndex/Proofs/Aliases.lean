import AddressIndex.Proofs.Recognition

/-! The accounts of tokens. An instruction names the account that tokens leave and the one that they
reach. A burn may leave out the first and a mint the second, and name a bare account in its stead;
of an instruction that names both, the bare account counts. -/

namespace AddressIndex

/-- The order of two values makes no difference unless they are there and differ. -/
theorem Option.or_comm_iff {α : Type} {x y : Option α} :
    x.or y = y.or x ↔ ∀ a b, x = some a → y = some b → a = b := by
  cases x <;> cases y <;> simp

namespace Transfer

variable {ix : Instruction} {info : InstructionInfo} {kind : TransferKind} {type : String}
  {position : Position} {accounts : TokenAccounts} {t : Transfer}
  {pick pick' : Option String → Option String → Option String}

/-- A transfer of tokens has the accounts that an instruction of the type names, and the owners that
are known of them. `pick` makes one account of a side and the bare account beside it. -/
structure Placed (pick : Option String → Option String → Option String) (type : String)
    (info : InstructionInfo) (accounts : TokenAccounts) (t : Transfer) : Prop where
  transfer : TransferKind.Named .transfer type →
    t.sourceAccount = info.source ∧ t.destinationAccount = info.destination
  mint : TransferKind.Named .mint type →
    t.sourceAccount = info.source ∧ t.destinationAccount = pick info.destination info.account
  burn : TransferKind.Named .burn type →
    t.sourceAccount = pick info.source info.account ∧ t.destinationAccount = info.destination
  sourceOwner : t.sourceOwner = (t.sourceAccount.bind accounts.find?).bind (·.owner)
  destinationOwner :
    t.destinationOwner = (t.destinationAccount.bind accounts.find?).bind (·.owner)

/-- The bare account, if there is one, and else the side. -/
def bareFirst (side bare : Option String) : Option String := bare.or side

/-- A mint names its destination, or a burn its source, and a different bare account beside it. -/
inductive Contested (type : String) (info : InstructionInfo) : Prop
  | mint {side bare : String} (named : TransferKind.Named .mint type)
      (destination : info.destination = some side) (account : info.account = some bare)
      (apart : side ≠ bare)
  | burn {side bare : String} (named : TransferKind.Named .burn type)
      (source : info.source = some side) (account : info.account = some bare) (apart : side ≠ bare)

theorem kind_eq (h : kind.Named type) {kind' : TransferKind} (h' : kind'.Named type) :
    kind = kind' := by
  rw [← TransferKind.ofType?_eq_some] at h h'
  exact Option.some.inj (h.symm.trans h')

/-- Accounts that are placed in one way are placed in another where both pick the same. -/
theorem Placed.congr (h : Placed pick type info accounts t)
    (hmint : TransferKind.Named .mint type →
      pick info.destination info.account = pick' info.destination info.account)
    (hburn : TransferKind.Named .burn type →
      pick info.source info.account = pick' info.source info.account) :
    Placed pick' type info accounts t where
  transfer := h.transfer
  mint hnamed := by rw [← hmint hnamed]; exact h.mint hnamed
  burn hnamed := by rw [← hburn hnamed]; exact h.burn hnamed
  sourceOwner := h.sourceOwner
  destinationOwner := h.destinationOwner

theorem placed_ofToken (hnamed : kind.Named type)
    (h : OfToken kind ix info position accounts (some t)) :
    Placed bareFirst type info accounts t := by
  cases h with
  | told display =>
    refine ⟨fun hother => ?_, fun hother => ?_, fun hother => ?_, rfl, rfl⟩
    all_goals
      obtain rfl := kind_eq hother hnamed
      exact ⟨rfl, rfl⟩

/-- Where the bare account counts first, the side does so too exactly if they are not apart. -/
theorem Placed.side_first_iff (h : Placed bareFirst type info accounts t) :
    Placed Option.or type info accounts t ↔ ¬ Contested type info := by
  constructor
  · rintro hside (⟨hnamed, hdestination, haccount, hapart⟩ | ⟨hnamed, hsource, haccount, hapart⟩)
    · have hsame := (hside.mint hnamed).2.symm.trans (h.mint hnamed).2
      exact hapart (Option.or_comm_iff.mp hsame _ _ hdestination haccount)
    · have hsame := (hside.burn hnamed).1.symm.trans (h.burn hnamed).1
      exact hapart (Option.or_comm_iff.mp hsame _ _ hsource haccount)
  · intro hfree
    apply h.congr
    · intro hnamed
      apply Option.or_comm_iff.mpr
      intro bare side haccount hdestination
      by_contra hapart
      exact hfree (.mint hnamed hdestination haccount (Ne.symm hapart))
    · intro hnamed
      apply Option.or_comm_iff.mpr
      intro bare side haccount hsource
      by_contra hapart
      exact hfree (.burn hnamed hsource haccount (Ne.symm hapart))

/-- A transfer of tokens has the accounts that its instruction names, and their owners. The bare
account of a mint or a burn counts before the side that it can stand in for, so it is taken only
where that is left out exactly if the instruction does not name two different accounts. -/
theorem ofInstruction_places (h : ofInstruction ix position accounts = .ok (some t))
    (hasset : t.asset = .token) :
    ∃ parsed, ix.parsed = some parsed ∧ t.kind.Named parsed.type ∧
      Placed bareFirst parsed.type parsed.info accounts t ∧
      (Placed Option.or parsed.type parsed.info accounts t ↔
        ¬ Contested parsed.type parsed.info) := by
  cases ofInstruction_eq_ok h with
  | native _ _ _ hcomes =>
    cases hcomes
    cases hasset
  | @token parsed kind _ hparses hnames _ hcomes =>
    have hnamed := TransferKind.ofType?_eq_some.mp hnames
    have hplaced := placed_ofToken hnamed hcomes
    have hkind : t.kind = kind := by
      cases hcomes
      rfl
    exact ⟨parsed, hparses, hkind ▸ hnamed, hplaced, hplaced.side_first_iff⟩

/-- A mint that names a destination and another account is told as one to that account, and so is
the owner. -/
theorem ofInstruction_places_of_contested :
    let info := { Sample.info with
      amount := some "5", destination := some "D", account := some "A" }
    let accounts : TokenAccounts := [("A", ⟨some "O", "M", 0⟩), ("D", ⟨some "P", "M", 0⟩)]
    ∃ t, ofInstruction (Sample.instruction "spl-token" "mintTo" info) ⟨0, none⟩ accounts =
        .ok (some t) ∧
      t.asset = .token ∧ Contested "mintTo" info ∧ Placed bareFirst "mintTo" info accounts t ∧
      ¬ Placed Option.or "mintTo" info accounts t ∧
      t.destinationAccount = some "A" ∧ t.destinationOwner = some "O" := by
  intro info accounts
  have htold : (·.map fun t => (t.asset, t.destinationAccount, t.destinationOwner)) <$>
      ofInstruction (Sample.instruction "spl-token" "mintTo" info) ⟨0, none⟩ accounts =
        .ok (some (.token, some "A", some "O")) := by decide +kernel
  obtain ⟨record?, h, hmap⟩ := Except.map_eq_ok.mp htold
  obtain ⟨t, rfl, hfields⟩ := Option.map_eq_some_iff.mp hmap
  simp only [Prod.mk.injEq] at hfields
  obtain ⟨hasset, haccount, howner⟩ := hfields
  obtain ⟨parsed, hparses, -, hplaced, hiff⟩ := ofInstruction_places h hasset
  cases hparses
  have hcontested : Contested "mintTo" info := .mint .mintTo rfl rfl (by decide)
  exact ⟨t, h, hasset, hcontested, hplaced, fun hside => hiff.mp hside hcontested, haccount, howner⟩

end Transfer

end AddressIndex
