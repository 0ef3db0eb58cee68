import AddressIndex.Proofs.Calls
import AddressIndex.Proofs.Execution
import AddressIndex.Proofs.Fetch
import AddressIndex.Proofs.Records

/-! Balance deltas. Only the indices that the account table and both lists of balances reach count.
Each of them with two different balances has one delta, in order, so the deltas add up to what the
balances lost together, and they turn around with them. -/

namespace AddressIndex.BalanceDelta

/-! ### Lists of balances -/

section Lists

variable {accounts : List String} {pre post : List Int} {i : Nat} {d : BalanceDelta}

/-- How many indices the lists all reach. -/
def overlap (accounts : List String) (pre post : List Int) : Nat :=
  min accounts.length (min pre.length post.length)

/-- The delta is that of index `i`: what the account there had before, less what it had after. -/
structure StandsAt (accounts : List String) (pre post : List Int) (i : Nat) (d : BalanceDelta) :
    Prop where
  account : accounts[i]? = some d.account
  delta : ∃ before after, pre[i]? = some before ∧ post[i]? = some after ∧ d.delta = before - after

/-- The indices that have a delta. -/
def changes (accounts : List String) (pre post : List Int) : List Nat :=
  (List.range (overlap accounts pre post)).filter fun i => pre[i]? ≠ post[i]?

theorem overlap_eq_zero
    (h : ∀ a accounts' x pre' y post', accounts = a :: accounts' → pre = x :: pre' →
      post = y :: post' → False) : overlap accounts pre post = 0 := by
  cases accounts with
  | nil => simp [overlap]
  | cons a accounts =>
    cases pre with
    | nil => simp [overlap]
    | cons x pre =>
      cases post with
      | nil => simp [overlap]
      | cons y post => exact (h a accounts x pre y post rfl rfl rfl).elim

theorem overlap_cons (a : String) (accounts : List String) (x y : Int) (pre post : List Int) :
    overlap (a :: accounts) (x :: pre) (y :: post) = overlap accounts pre post + 1 := by
  simp only [overlap, List.length_cons]
  omega

/-- Behind the first index, the changes are those of the rest of the lists. -/
theorem changes_cons (a : String) (accounts : List String) (x y : Int) (pre post : List Int) :
    changes (a :: accounts) (x :: pre) (y :: post) =
      (if x = y then [] else [0]) ++ (changes accounts pre post).map Nat.succ := by
  have hrest : (List.range (overlap accounts pre post)).filter
      ((fun i => decide ((x :: pre)[i]? ≠ (y :: post)[i]?)) ∘ Nat.succ) =
      changes accounts pre post := rfl
  rw [changes, overlap_cons, List.range_succ_eq_map, List.filter_cons, List.filter_map, hrest]
  by_cases h : x = y <;> simp [h]

theorem standsAt_succ {a : String} {x y : Int} (h : StandsAt accounts pre post i d) :
    StandsAt (a :: accounts) (x :: pre) (y :: post) i.succ d :=
  ⟨h.account, h.delta⟩

/-- The deltas stand at the changes, in order. -/
theorem compute_standsAt (accounts : List String) (pre post : List Int) :
    List.Forall₂ (StandsAt accounts pre post) (changes accounts pre post)
      (compute accounts pre post) := by
  fun_induction compute accounts pre post with
  | case1 a accounts x pre post ih =>
    rw [changes_cons, if_pos rfl, List.nil_append, List.forall₂_map_left_iff]
    exact ih.imp fun _ _ => standsAt_succ
  | case2 a accounts x pre y post hne ih =>
    rw [changes_cons, if_neg hne, List.singleton_append]
    refine .cons ⟨rfl, x, y, rfl, rfl, rfl⟩ ?_
    rw [List.forall₂_map_left_iff]
    exact ih.imp fun _ _ => standsAt_succ
  | case3 accounts pre post hnone =>
    rw [changes, overlap_eq_zero hnone]
    exact .nil

/-- What is left of a change of nothing is nothing. -/
theorem ne_zero_of_mem (h : d ∈ compute accounts pre post) : d.delta ≠ 0 := by
  obtain ⟨i, hi, -, before, after, hpre, hpost, hdelta⟩ :=
    Except.partner_of_mem (compute_standsAt accounts pre post).flip h
  have hchanges : pre[i]? ≠ post[i]? := of_decide_eq_true (List.mem_filter.mp hi).2
  intro hzero
  obtain rfl : before = after := by omega
  exact hchanges (hpre.trans hpost.symm)

/-- The deltas add up to what the balances that have an account lost together. -/
theorem sum_compute (accounts : List String) (pre post : List Int) :
    ((compute accounts pre post).map (·.delta)).sum =
      (pre.take (overlap accounts pre post)).sum - (post.take (overlap accounts pre post)).sum := by
  fun_induction compute accounts pre post with
  | case1 a accounts x pre post ih =>
    rw [overlap_cons, List.take_succ_cons, List.take_succ_cons, List.sum_cons, List.sum_cons, ih]
    omega
  | case2 a accounts x pre y post hne ih =>
    rw [overlap_cons, List.take_succ_cons, List.take_succ_cons, List.sum_cons, List.sum_cons,
      List.map_cons, List.sum_cons, ih]
    dsimp only
    omega
  | case3 accounts pre post hnone =>
    rw [overlap_eq_zero hnone]
    rfl

/-- The delta of the change the other way. -/
def turned (d : BalanceDelta) : BalanceDelta := { d with delta := -d.delta }

theorem compute_turned (accounts : List String) (pre post : List Int) :
    compute accounts post pre = (compute accounts pre post).map turned := by
  fun_induction compute accounts pre post with
  | case1 a accounts x pre post ih => rw [compute, if_pos rfl, ih]
  | case2 a accounts x pre y post hne ih =>
    have hturned : (⟨a, y - x⟩ : BalanceDelta) = turned ⟨a, x - y⟩ := by
      rw [turned, Int.neg_sub]
    rw [compute, if_neg (Ne.symm hne), List.map_cons, ih, hturned]
  | case3 accounts pre post hnone =>
    cases accounts with
    | nil => rfl
    | cons a accounts =>
      cases pre with
      | nil => cases post <;> rfl
      | cons x pre =>
        cases post with
        | nil => rfl
        | cons y post => exact (hnone a accounts x pre y post rfl rfl rfl).elim

end Lists

/-! ### Transactions -/

variable {tx : Transaction}

/-- The account table and both lists of balances are of one length. -/
def SameLength (tx : Transaction) : Prop :=
  tx.preBalances.length = tx.postBalances.length ∧
    tx.postBalances.length = tx.accounts.addresses.length

instance : Decidable (SameLength tx) := inferInstanceAs (Decidable (_ ∧ _))

theorem aligned_iff : aligned tx ↔ SameLength tx := by
  simp only [aligned, SameLength, Bool.and_eq_true, beq_iff_eq]
  omega

/-- The warning about lengths is in a trace. -/
def Warns (t : Trace) : Prop :=
  ∃ source line, ⟨.log source line, ()⟩ ∈ t ∧ line.level = .warning ∧
    line.event = "balance_length_mismatch"

theorem warns_iff {source : Log.Source} :
    Warns (.logged source (warnings tx)) ↔ ¬ SameLength tx := by
  rw [← aligned_iff, warnings]
  split
  next haligned =>
    refine iff_of_false ?_ (not_not_intro haligned)
    rintro ⟨_, _, hmem, -⟩
    cases hmem
  next haligned => exact iff_of_true ⟨source, _, List.mem_cons_self, rfl, rfl⟩ haligned

/-- The transaction with what its accounts had before and after exchanged. -/
def exchanged (tx : Transaction) : Transaction :=
  { tx with preBalances := tx.postBalances, postBalances := tx.preBalances }

/-- The deltas of a transaction stand at the indices that the account table and both lists reach and
where these differ, in order. None is zero, they add up to what these balances lost together, and
they are turned around if the lists are exchanged. Lists of different lengths are warned about when
the transaction is indexed, and others are not. -/
theorem ofTransaction_tells_changes (tx : Transaction) :
    let n := overlap tx.accounts.addresses tx.preBalances tx.postBalances
    List.Forall₂ (StandsAt tx.accounts.addresses tx.preBalances tx.postBalances)
      ((List.range n).filter fun i => tx.preBalances[i]? ≠ tx.postBalances[i]?)
      (ofTransaction tx) ∧
    (∀ d ∈ ofTransaction tx, d.delta ≠ 0) ∧
    ((ofTransaction tx).map (·.delta)).sum =
      (tx.preBalances.take n).sum - (tx.postBalances.take n).sum ∧
    ofTransaction (exchanged tx) = (ofTransaction tx).map turned ∧
    ∀ s t r, (Batch.indexOne (s, tx)).run.Runs t r → (Warns t ↔ ¬ SameLength tx) := by
  refine ⟨compute_standsAt _ _ _, fun d hd => ne_zero_of_mem hd, sum_compute _ _ _,
    compute_turned _ _ _, fun s t r hruns => ?_⟩
  obtain ⟨rfl, -⟩ := Batch.runs_indexOne hruns
  exact warns_iff

/-- Of three balances before and two after, the second is the same and the third has none to compare
it with; that they are not as many is warned about. -/
theorem ofTransaction_tells_changes_of_three :
    let tx := { Sample.payment 1 "A" "s" with
      accounts := ⟨["A", "B"], 1⟩, preBalances := [5, 7, 9], postBalances := [3, 7] }
    let p := (Batch.indexOne ("s", tx)).run
    let w := Sample.world .unreachable
    ofTransaction tx = [⟨"A", 2⟩] ∧ ofTransaction (exchanged tx) = [⟨"A", -2⟩] ∧
      Warns (p.trace w) := by
  intro tx p w
  have hdeltas : ofTransaction tx = [⟨"A", 2⟩] := rfl
  obtain ⟨-, -, -, hturned, hwarns⟩ := ofTransaction_tells_changes tx
  refine ⟨hdeltas, ?_, (hwarns "s" _ _ (p.runs_trace w)).mpr (by decide)⟩
  rw [hturned, hdeltas]
  rfl

end AddressIndex.BalanceDelta
