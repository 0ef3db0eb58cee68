import AddressIndex.Proofs.Calls
import AddressIndex.Proofs.Transfers

/-! Balance snapshots. What is known of a token account is what the last of its snapshots says, of
those before the transaction and then those after it. Transfers of tokens are completed from the
last snapshots of their two accounts, so the order of snapshots of different accounts makes no
difference. -/

namespace AddressIndex

/-- The last balance that snapshots show of an account. -/
def TokenBalance.lastOf? (balances : List TokenBalance) (account : String) : Option TokenBalance :=
  (balances.filter (·.account = some account)).getLast?

/-- The last balance that a transaction shows of an account, before it and then after it. -/
def Transaction.balanceOf? (tx : Transaction) (account : String) : Option TokenBalance :=
  TokenBalance.lastOf? (tx.preTokenBalances ++ tx.postTokenBalances) account

namespace TokenBalance

variable {balances balances' : List TokenBalance} {account : String}

/-- What a balance says of its account. -/
def known (balance : TokenBalance) : TokenAccount :=
  ⟨balance.owner, balance.mint, balance.amount.decimals⟩

theorem lastOf?_concat (balances : List TokenBalance) (balance : TokenBalance) (account : String) :
    lastOf? (balances ++ [balance]) account =
      if balance.account = some account then some balance else lastOf? balances account := by
  unfold lastOf?
  rw [List.filter_append, List.filter_singleton]
  split
  next h => rw [decide_eq_true h, cond_true, List.getLast?_concat]
  next h => rw [decide_eq_false h, cond_false, List.append_nil]

/-- The second list has the balances of the first in any order, and no account has two of them. -/
structure Reordered (balances balances' : List TokenBalance) : Prop where
  perm : balances'.Perm balances
  distinct : (balances.filterMap (·.account)).Nodup

/-- The balances of one account stay in order, as there is no second one. -/
theorem Reordered.filter_eq (h : Reordered balances balances') :
    balances'.filter (·.account = some account) = balances.filter (·.account = some account) := by
  have hperm := h.perm.filter (·.account = some account)
  have hone : (balances.filter (·.account = some account)).length ≤ 1 := by
    rw [← List.countP_eq_length_filter]
    have hcount := List.nodup_iff_count_le_one.mp h.distinct account
    rw [List.count_filterMap] at hcount
    simpa only [beq_eq_decide] using hcount
  rcases Nat.le_one_iff_eq_zero_or_eq_one.mp hone with hnone | hone
  · rw [List.length_eq_zero_iff.mp hnone] at hperm ⊢
    exact hperm.eq_nil
  · obtain ⟨balance, hbalance⟩ := List.length_eq_one_iff.mp hone
    rw [hbalance] at hperm ⊢
    exact hperm.eq_singleton

end TokenBalance

namespace TokenAccounts

/-- What is known of an account is what its last balance says. -/
theorem find?_ofBalances (balances : List TokenBalance) (account : String) :
    (ofBalances balances).find? account =
      (TokenBalance.lastOf? balances account).map TokenBalance.known := by
  -- from the end, since a balance counts over those entered before it
  induction balances using List.reverseRecOn with
  | nil => rfl
  | append_singleton balances balance ih =>
    rw [TokenBalance.lastOf?_concat, ofBalances, List.foldl_concat, enter]
    split
    next address haddress =>
      rw [find?_put, haddress]
      split
      next h =>
        rw [if_pos (congrArg some h.symm)]
        rfl
      next h =>
        rw [if_neg (fun hsame => h (Option.some.inj hsame).symm)]
        exact ih
    next hnone =>
      rw [hnone, if_neg nofun]
      exact ih

theorem bind_find?_ofTransaction (tx : Transaction) (account? : Option String) :
    account?.bind (ofTransaction tx).find? =
      (account?.bind tx.balanceOf?).map TokenBalance.known := by
  cases account? with
  | none => rfl
  | some account => exact find?_ofBalances _ account

end TokenAccounts

namespace Transfer

/-- A transfer of tokens is completed from the last balances of its two accounts. Its owners are
theirs; mint and decimals that the instruction leaves out are those of the account that tokens
leave, or else of the one that they reach. -/
structure Completed (tx : Transaction) (info : InstructionInfo) (t : Transfer) : Prop where
  sourceOwner : t.sourceOwner = (t.sourceAccount.bind tx.balanceOf?).bind (·.owner)
  destinationOwner : t.destinationOwner = (t.destinationAccount.bind tx.balanceOf?).bind (·.owner)
  mint : t.mint = (info.mint.or ((t.sourceAccount.bind tx.balanceOf?).map (·.mint))).or
    ((t.destinationAccount.bind tx.balanceOf?).map (·.mint))
  decimals : t.decimals = (((info.tokenAmount.map (·.decimals)).or info.decimals).or
    ((t.sourceAccount.bind tx.balanceOf?).map (·.amount.decimals))).or
      ((t.destinationAccount.bind tx.balanceOf?).map (·.amount.decimals))

variable {ix : Instruction} {info : InstructionInfo} {kind : TransferKind} {position : Position}
  {tx : Transaction} {t : Transfer} {stated : Stated}

theorem stated_decimals (h : stated? info = some stated) :
    stated.decimals = (info.tokenAmount.map (·.decimals)).or info.decimals := by
  unfold stated? at h
  split at h
  next hamount =>
    cases h
    rw [hamount]
    rfl
  next hnone _ =>
    cases h
    rw [hnone]
    rfl
  next => cases h

theorem map_knownAccount {α : Type} (f : TokenAccount → α) :
    (knownAccount kind info (TokenAccounts.ofTransaction tx)).map f =
      (((sourceOf kind info).bind tx.balanceOf?).map (f ∘ TokenBalance.known)).or
        (((destinationOf kind info).bind tx.balanceOf?).map (f ∘ TokenBalance.known)) := by
  rw [knownAccount, TokenAccounts.bind_find?_ofTransaction,
    TokenAccounts.bind_find?_ofTransaction, Option.map_or, Option.map_map, Option.map_map]

theorem bind_owner (account? : Option String) :
    (account?.bind (TokenAccounts.ofTransaction tx).find?).bind (·.owner) =
      (account?.bind tx.balanceOf?).bind (·.owner) := by
  rw [TokenAccounts.bind_find?_ofTransaction, Option.bind_map]
  rfl

theorem completed_ofToken
    (h : OfToken kind ix info position (TokenAccounts.ofTransaction tx) (some t)) :
    Completed tx info t := by
  cases h with
  | told display hstates =>
    refine ⟨bind_owner _, bind_owner _, ?_, ?_⟩
    · dsimp only
      rw [map_knownAccount]
      exact Option.or_assoc.symm
    · dsimp only
      rw [map_knownAccount, stated_decimals hstates]
      exact Option.or_assoc.symm

/-- Only what is found in the index of token accounts counts. -/
theorem ofInstruction_congr {accounts accounts' : TokenAccounts}
    (h : ∀ account, accounts.find? account = accounts'.find? account) :
    ofInstruction ix position accounts = ofInstruction ix position accounts' := by
  have hfind : accounts.find? = accounts'.find? := funext h
  unfold ofInstruction ofToken
  rw [hfind]

end Transfer

namespace Indexed

variable {tx : Transaction}

/-- The transaction with other balances of token accounts. -/
def showing (tx : Transaction) (pre post : List TokenBalance) : Transaction :=
  { tx with preTokenBalances := pre, postTokenBalances := post }

theorem transfersOf_showing {pre post : List TokenBalance}
    (hpre : TokenBalance.Reordered tx.preTokenBalances pre)
    (hpost : TokenBalance.Reordered tx.postTokenBalances post) :
    transfersOf (showing tx pre post) = transfersOf tx := by
  have hfind (account : String) :
      (TokenAccounts.ofTransaction (showing tx pre post)).find? account =
        (TokenAccounts.ofTransaction tx).find? account := by
    rw [TokenAccounts.ofTransaction, TokenAccounts.ofTransaction, TokenAccounts.find?_ofBalances,
      TokenAccounts.find?_ofBalances, TokenBalance.lastOf?, TokenBalance.lastOf?,
      List.filter_append, List.filter_append, showing]
    dsimp only
    rw [hpre.filter_eq, hpost.filter_eq]
  unfold transfersOf
  simp only [Transfer.ofInstruction_congr hfind]
  rfl

/-- The transfers of tokens in a transaction are completed from the last balances of their accounts.
Balances in another order, before the transaction or after it, make no difference as long as no
account has two of them there. -/
theorem transfersOf_completes (tx : Transaction) :
    (∀ transfers, transfersOf tx = .ok transfers → Yields tx (fun ix _ record? =>
      ∀ t ∈ record?, t.asset = .token → ∃ parsed, ix.parsed = some parsed ∧
        Transfer.Completed tx parsed.info t) transfers) ∧
    ∀ pre post, TokenBalance.Reordered tx.preTokenBalances pre →
      TokenBalance.Reordered tx.postTokenBalances post →
        transfersOf (showing tx pre post) = transfersOf tx := by
  refine ⟨fun transfers h => (transfersOf_eq_ok.mp h).imp fun p _ record? hp t ht hasset => ?_,
    fun _ _ => transfersOf_showing⟩
  rw [Option.mem_def.mp ht] at hp
  cases Transfer.ofInstruction_eq_ok hp with
  | native _ _ _ hcomes =>
    cases hcomes
    cases hasset
  | token hparses _ _ hcomes => exact ⟨_, hparses, Transfer.completed_ofToken hcomes⟩

end Indexed

namespace Sample

/-- A balance of a token account. -/
def balance (account mint owner : String) (decimals : Int) : TokenBalance :=
  ⟨0, some account, mint, some owner, none, ⟨"0", decimals, none, none⟩⟩

/-- Tokens that leave one account for another, with two balances before and one after. -/
def handed : Transaction :=
  { payment 1 "A" "s" with
    instructions := [instruction "spl-token" "transfer"
      { info with amount := some "10", source := some "T", destination := some "U" }]
    inner := []
    preTokenBalances := [balance "T" "M" "A" 6, balance "U" "N" "B" 7]
    postTokenBalances := [balance "T" "M" "C" 6] }

end Sample

/-- The owner that tokens leave is the one after the transaction, whatever the order before it. -/
theorem Indexed.transfersOf_completes_of_handed :
    let turned := [Sample.balance "U" "N" "B" 7, Sample.balance "T" "M" "A" 6]
    let after := Sample.handed.postTokenBalances
    ∃ transfers, transfersOf Sample.handed = .ok transfers ∧
      transfers.map (fun t => (t.sourceOwner, t.destinationOwner, t.mint, t.decimals)) =
        [(some "C", some "B", some "M", some 6)] ∧
      Yields Sample.handed (fun ix _ record? => ∀ t ∈ record?, t.asset = .token →
        ∃ parsed, ix.parsed = some parsed ∧ Transfer.Completed Sample.handed parsed.info t)
        transfers ∧
      transfersOf (showing Sample.handed turned after) = .ok transfers := by
  intro turned after
  have htold : (·.map fun t => (t.sourceOwner, t.destinationOwner, t.mint, t.decimals)) <$>
      transfersOf Sample.handed = .ok [(some "C", some "B", some "M", some 6)] := by
    decide +kernel
  obtain ⟨transfers, h, hmap⟩ := Except.map_eq_ok.mp htold
  obtain ⟨hcompleted, hreordered⟩ := transfersOf_completes Sample.handed
  refine ⟨transfers, h, hmap, hcompleted transfers h, ?_⟩
  rw [hreordered turned after ⟨.swap _ _ _, by decide⟩ ⟨.refl _, by decide⟩]
  exact h

end AddressIndex
