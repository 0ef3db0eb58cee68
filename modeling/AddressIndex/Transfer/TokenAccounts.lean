import AddressIndex.Ledger.Transaction

/-!
What a transaction's balance snapshots say of its token accounts: owner, mint and decimals. The
snapshots before it come first, then those after it, and a later one counts.
-/

namespace AddressIndex

structure TokenAccount where
  owner : Option String
  mint : String
  decimals : Int
deriving DecidableEq, Repr

/-- Token accounts by address, in the order in which they first came. -/
abbrev TokenAccounts := List (String × TokenAccount)

namespace TokenAccounts

def find? (index : TokenAccounts) (address : String) : Option TokenAccount := index.lookup address

/-- Enters an account, in the place of what is known of it. -/
def put (index : TokenAccounts) (address : String) (account : TokenAccount) : TokenAccounts :=
  match index with
  | [] => [(address, account)]
  | (a, old) :: rest =>
    if a = address then (a, account) :: rest else (a, old) :: put rest address account

/-- Enters the account of a balance, if it was resolved. -/
def enter (index : TokenAccounts) (balance : TokenBalance) : TokenAccounts :=
  match balance.account with
  | some address => index.put address ⟨balance.owner, balance.mint, balance.amount.decimals⟩
  | none => index

def ofBalances (balances : List TokenBalance) : TokenAccounts := balances.foldl enter []

def ofTransaction (tx : Transaction) : TokenAccounts :=
  ofBalances (tx.preTokenBalances ++ tx.postTokenBalances)

theorem find?_put (index : TokenAccounts) (address other : String) (account : TokenAccount) :
    (index.put address account).find? other =
      if other = address then some account else index.find? other := by
  have cons (a : String) (x : TokenAccount) (rest : TokenAccounts) (b : String) :
      find? ((a, x) :: rest) b = if b = a then some x else rest.find? b := by
    unfold find?
    rw [List.lookup_cons]
    by_cases h : b = a
    · simp [h]
    · have h' : (b == a) = false := beq_eq_false_iff_ne.2 h
      simp [h, h']
  induction index with
  | nil => simp [put, cons]
  | cons p rest ih =>
    obtain ⟨a, old⟩ := p
    by_cases ha : a = address <;> by_cases ho : other = address <;> by_cases h : other = a <;>
      simp_all [put]

end TokenAccounts

end AddressIndex
