import AddressIndex.Proofs.Faults
import AddressIndex.Proofs.Range
import AddressIndex.Transfer.Indexed

/-! Amounts out of range. A transaction is indexed unless an instruction in it is a transfer whose
amount cannot be told: lamports that are beyond the floating numbers as coins, a numeral of more
digits than are read, or decimals so far below zero that their power of ten is zero. -/

namespace AddressIndex

open Binary64 (bound)

namespace Amount

/-- The digits of an amount given as a text. -/
def digits (s : String) : List Char := (Text.splitSign s.toList).2

theorem natAbs_lt_bound {n m : Int} (h : fit n = some m) : m.natAbs < bound := by
  obtain ⟨rfl, hleast, hgreatest⟩ := fit_eq_some.mp h
  have hbound : Nat.pow 2 127 < bound := by decide +kernel
  have hpower : Int.pow 2 127 = (Nat.pow 2 127 : Nat) := by decide +kernel
  unfold least at hleast
  unfold greatest at hgreatest
  omega

/-- A text is no readable amount if it is a numeral of too many digits. -/
theorem ofText_eq_error {s : String} {fault : ArithmeticFault} :
    ofText s = .error fault ↔ (digits s).all Text.isDigit ∧
      Text.digitLimit < (digits s).length ∧ fault = .tooManyDigits (digits s).length := by
  unfold ofText digits
  obtain ⟨negative, ds⟩ := Text.splitSign s.toList
  dsimp only
  split
  next h =>
    refine ⟨nofun, fun ⟨hdigits, hlong, _⟩ => ?_⟩
    rw [hdigits, Bool.not_true, Bool.or_false, List.isEmpty_iff] at h
    subst h
    cases hlong
  next h =>
    have hdigits : ds.all Text.isDigit := by
      rw [Bool.not_eq_true, Bool.or_eq_false_iff, Bool.not_eq_false'] at h
      exact h.2
    split
    next hlong => exact ⟨fun h => ⟨hdigits, hlong, (Except.error.inj h).symm⟩, fun h => h.2.2 ▸ rfl⟩
    next hlong => exact ⟨nofun, fun h => absurd h.2.1 hlong⟩

theorem ofText_lt_bound {s : String} {amount : Int} (h : ofText s = .ok (some amount)) :
    amount.natAbs < bound := by
  unfold ofText at h
  dsimp only at h
  split at h
  · cases h
  · split at h
    · cases h
    · exact natAbs_lt_bound (Except.ok.inj h)

/-- The fault of a power of ten that is zero, or that is not even computed. -/
def powerFault (decimals : Int) : ArithmeticFault :=
  if bound ≤ decimals.natAbs then .integerTooLarge else .divisionByZero

/-- An amount in its range is scaled unless the power of ten is zero. -/
theorem scale_eq_error {amount decimals : Int} {fault : ArithmeticFault}
    (hamount : amount.natAbs < bound) :
    scale amount decimals = .error fault ↔ decimals ≤ -324 ∧ fault = powerFault decimals := by
  unfold scale powerFault
  split
  next h =>
    have hpower := Binary64.ten_pow_ne_zero decimals.toNat
    have hscaled : bound ≤ bound * Nat.pow 10 decimals.toNat :=
      Nat.le_mul_of_pos_right _ (Nat.pos_of_ne_zero hpower)
    rw [Binary64.ofQuotient_eq_error hpower]
    omega
  next h =>
    cases hpower : Binary64.tenthPower (-decimals).toNat with
    | error _ =>
      obtain ⟨rfl, hlarge⟩ := Binary64.tenthPower_eq_error.mp hpower
      have hfar : 324 ≤ bound := by decide +kernel
      rw [if_pos (by omega)]
      exact ⟨fun h => ⟨by omega, (Except.error.inj h).symm⟩, fun h => h.2 ▸ rfl⟩
    | ok power =>
      have hsmall : ¬ bound ≤ (-decimals).toNat := by
        intro hlarge
        rw [Binary64.tenthPower_eq_error.mpr ⟨rfl, hlarge⟩] at hpower
        cases hpower
      rw [if_neg (by omega)]
      -- the division fails exactly by a power that rounds to zero, from 324 decimals on
      refine (Binary64.divideInteger_eq_error hamount).trans (and_congr ?_ Iff.rfl)
      rw [Binary64.isZero_tenthPower hpower]
      omega

end Amount

namespace Transfer

variable {accounts : TokenAccounts} {kind : TransferKind} {ix : Instruction}
  {info : InstructionInfo} {position : Position} {fault : ArithmeticFault}

def knownAccount (kind : TransferKind) (info : InstructionInfo) (accounts : TokenAccounts) :
    Option TokenAccount :=
  ((sourceOf kind info).bind accounts.find?).or ((destinationOf kind info).bind accounts.find?)

/-- Why an instruction that is a transfer cannot be told as one. -/
inductive OutOfRange (accounts : TokenAccounts) (ix : Instruction) : ArithmeticFault → Prop
  /-- Lamports that are beyond the floating numbers as coins. -/
  | lamports {parsed : ParsedInstruction} {kind : TransferKind} {lamports : Int}
      (parses : ix.parsed = some parsed) (kinds : TransferKind.ofType? parsed.type = some kind)
      (asset : Asset.ofInstruction? ix = some .native)
      (states : parsed.info.lamports = some lamports)
      (large : bound * lamportsPerCoin ≤ lamports.natAbs) : OutOfRange accounts ix .quotientTooLarge
  /-- A numeral of tokens with more digits than are read. -/
  | digits {parsed : ParsedInstruction} {kind : TransferKind} {stated : Stated}
      (parses : ix.parsed = some parsed) (kinds : TransferKind.ofType? parsed.type = some kind)
      (asset : Asset.ofInstruction? ix = some .token)
      (states : stated? parsed.info = some stated)
      (numeral : (Amount.digits stated.amount).all Text.isDigit)
      (long : Text.digitLimit < (Amount.digits stated.amount).length) :
      OutOfRange accounts ix (.tooManyDigits (Amount.digits stated.amount).length)
  /-- Tokens without a reading of the node's, in decimals whose power of ten is zero. -/
  | decimals {parsed : ParsedInstruction} {kind : TransferKind} {stated : Stated}
      {amount decimals : Int}
      (parses : ix.parsed = some parsed) (kinds : TransferKind.ofType? parsed.type = some kind)
      (asset : Asset.ofInstruction? ix = some .token)
      (states : stated? parsed.info = some stated)
      (reads : Amount.ofText stated.amount = .ok (some amount)) (bare : stated.display = none)
      (takes : stated.decimals.or ((knownAccount kind parsed.info accounts).map (·.decimals)) =
        some decimals)
      (low : decimals ≤ -324) : OutOfRange accounts ix (Amount.powerFault decimals)

theorem ofNative_eq_error : ofNative kind info position = .error fault ↔
    ∃ lamports, info.lamports = some lamports ∧ bound * lamportsPerCoin ≤ lamports.natAbs ∧
      fault = .quotientTooLarge := by
  unfold ofNative
  cases info.lamports with
  | none => exact ⟨nofun, nofun⟩
  | some lamports =>
    simp only [Option.some.injEq, exists_eq_left']
    rw [Except.bind_eq_error, or_iff_left (fun ⟨_, _, h⟩ => nomatch h),
      Binary64.ofQuotient_eq_error (d := lamportsPerCoin) (by decide)]
    exact And.comm

/-- An amount that is read is scaled only if the node did not, and decimals are known. -/
theorem ofToken_eq_error : ofToken kind ix info position accounts = .error fault ↔
    ∃ stated, stated? info = some stated ∧
      (Amount.ofText stated.amount = .error fault ∨ ∃ amount decimals,
        Amount.ofText stated.amount = .ok (some amount) ∧ stated.display = none ∧
        stated.decimals.or ((knownAccount kind info accounts).map (·.decimals)) = some decimals ∧
        Amount.scale amount decimals = .error fault) := by
  unfold ofToken knownAccount
  cases stated? info with
  | none => exact ⟨nofun, nofun⟩
  | some stated =>
    simp only [Option.some.injEq, exists_eq_left']
    rw [Except.bind_eq_error]
    refine or_congr Iff.rfl ?_
    generalize stated.decimals.or _ = decimals?
    cases hread : Amount.ofText stated.amount with
    | error _ => exact ⟨nofun, nofun⟩
    | ok amount? =>
      simp only [Except.ok.injEq, exists_eq_left']
      cases amount? with
      | none => exact ⟨nofun, nofun⟩
      | some amount =>
        cases stated.display with
        | some _ => exact ⟨nofun, nofun⟩
        | none =>
          cases decimals? with
          | none => exact ⟨nofun, nofun⟩
          | some decimals =>
            dsimp only
            rw [Except.bind_eq_error, or_iff_left (fun ⟨_, _, h⟩ => nomatch h), Except.map_eq_error]
            simp

/-- An instruction has no transfer to tell, one, or one that is out of range. -/
theorem ofInstruction_eq_error :
    ofInstruction ix position accounts = .error fault ↔ OutOfRange accounts ix fault := by
  constructor
  · intro h
    unfold ofInstruction at h
    split at h
    next => cases h
    next parsed hparsed =>
      split at h
      next kind hkind hasset =>
        obtain ⟨lamports, hlamports, hlarge, rfl⟩ := ofNative_eq_error.mp h
        exact .lamports hparsed hkind hasset hlamports hlarge
      next kind hkind hasset =>
        obtain ⟨stated, hstated, hdigits | ⟨amount, decimals, hread, hbare, htakes, hscale⟩⟩ :=
          ofToken_eq_error.mp h
        · obtain ⟨hnumeral, hlong, rfl⟩ := Amount.ofText_eq_error.mp hdigits
          exact .digits hparsed hkind hasset hstated hnumeral hlong
        · -- the amount fits in 128 bits, so only the power of ten can fail its scaling
          have hrange := (Amount.scale_eq_error (Amount.ofText_lt_bound hread)).mp hscale
          rw [hrange.2]
          exact .decimals hparsed hkind hasset hstated hread hbare htakes hrange.1
      next => cases h
  · intro h
    cases h with
    | lamports hparsed hkind hasset hlamports hlarge =>
      simp only [ofInstruction, hparsed, hkind, hasset]
      exact ofNative_eq_error.mpr ⟨_, hlamports, hlarge, rfl⟩
    | digits hparsed hkind hasset hstated hnumeral hlong =>
      simp only [ofInstruction, hparsed, hkind, hasset]
      have hdigits := Amount.ofText_eq_error.mpr ⟨hnumeral, hlong, rfl⟩
      exact ofToken_eq_error.mpr ⟨_, hstated, .inl hdigits⟩
    | decimals hparsed hkind hasset hstated hread hbare htakes hlow =>
      simp only [ofInstruction, hparsed, hkind, hasset]
      have hscale := (Amount.scale_eq_error (Amount.ofText_lt_bound hread)).mpr ⟨hlow, rfl⟩
      exact ofToken_eq_error.mpr ⟨_, hstated, .inr ⟨_, _, hread, hbare, htakes, hscale⟩⟩

end Transfer

namespace Indexed

/-- A transaction with a transfer that is out of range. -/
def OutOfRange (tx : Transaction) (fault : ArithmeticFault) : Prop :=
  ∃ p ∈ walk tx, Transfer.OutOfRange (TokenAccounts.ofTransaction tx) p.1 fault

variable {tx : Transaction} {signature : String} {fault : ArithmeticFault}

theorem outOfRange_of_ofTransaction (h : ofTransaction tx signature = .error fault) :
    OutOfRange tx fault := by
  rcases Except.bind_eq_error.mp h with h | ⟨_, -, hpure⟩
  · rcases Except.bind_eq_error.mp h with h | ⟨_, -, hpure⟩
    · obtain ⟨p, hp, hfail⟩ := Except.mem_of_mapM_eq_error h
      exact ⟨p, hp, Transfer.ofInstruction_eq_error.mp hfail⟩
    · cases hpure
  · cases hpure

/-- A transaction is indexed exactly if none of its transfers is out of range. -/
theorem ofTransaction_fails :
    (∃ fault, ofTransaction tx signature = .error fault) ↔ ∃ fault, OutOfRange tx fault := by
  constructor
  · rintro ⟨fault, h⟩
    exact ⟨fault, outOfRange_of_ofTransaction h⟩
  · rintro ⟨fault, p, hp, hrange⟩
    let transferOf (p : Instruction × Position) :=
      Transfer.ofInstruction p.1 p.2 (TokenAccounts.ofTransaction tx)
    -- the walk ends at its first fault, which may be that of an instruction before this one
    have hfail : transferOf p = .error fault := Transfer.ofInstruction_eq_error.mpr hrange
    obtain ⟨fault', hwalk⟩ : ∃ fault', (walk tx).mapM transferOf = .error fault' :=
      Except.mapM_fails.mpr ⟨p, hp, fault, hfail⟩
    have htransfers : transfersOf tx = .error fault' := Except.bind_eq_error.mpr (.inl hwalk)
    exact ⟨fault', Except.bind_eq_error.mpr (.inl htransfers)⟩

end Indexed

end AddressIndex
