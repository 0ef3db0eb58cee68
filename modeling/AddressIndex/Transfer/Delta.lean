import AddressIndex.Ledger.Transaction
import AddressIndex.Log.Line

/-!
Balance deltas: what each account of a transaction lost, before less after. Only the indices that
both balance lists and the account table reach have one.
-/

namespace AddressIndex

/-- The lamports that left an account; negative if it gained. -/
structure BalanceDelta where
  account : String
  delta : Int
deriving DecidableEq, Repr

namespace BalanceDelta

/-- The deltas of accounts whose balance changed, in order. -/
def compute (accounts : List String) (pre post : List Int) : List BalanceDelta :=
  match accounts, pre, post with
  | a :: accounts, x :: pre, y :: post =>
    if x = y then compute accounts pre post else ⟨a, x - y⟩ :: compute accounts pre post
  | _, _, _ => []

/-- The deltas of a transaction. -/
def ofTransaction (tx : Transaction) : List BalanceDelta :=
  compute tx.accounts.addresses tx.preBalances tx.postBalances

/-- Whether the balance lists are as long as the account table. -/
def aligned (tx : Transaction) : Bool :=
  tx.preBalances.length == tx.accounts.addresses.length &&
    tx.postBalances.length == tx.accounts.addresses.length

/-- The warning about lists of different lengths, if they are. -/
def warnings (tx : Transaction) : List Log.Line :=
  if aligned tx then []
  else [⟨.warning, "balance_length_mismatch", [
    ("signature", .str (Log.mask tx.signature)),
    ("pre_len", .int tx.preBalances.length),
    ("post_len", .int tx.postBalances.length),
    ("keys_len", .int tx.accounts.addresses.length)]⟩]

end BalanceDelta

end AddressIndex
