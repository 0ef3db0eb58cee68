import AddressIndex.Proofs.Query
import AddressIndex.Proofs.Transfers
import Mathlib.Data.List.Perm.Subperm

/-! What a save keeps of a transaction. Of the records that fall on one key the first is stored and
the others are not: one balance change for each account, and one transfer for each position. So all
records are stored exactly if no two of them fall on one key; an account table that repeats an
address, or two blocks of called instructions for one index, can make them. -/

namespace AddressIndex

namespace Store

/-- The first elements of their keys, in order. -/
structure Firsts {α κ : Type} [DecidableEq κ] (key : α → κ) (xs kept : List α) : Prop where
  sublist : kept.Sublist xs
  nodup : (kept.map key).Nodup
  first : ∀ x ∈ xs, ∃ y ∈ kept, xs.find? (fun z => key z = key x) = some y

namespace Firsts

variable {α κ : Type} [DecidableEq κ] {key : α → κ} {xs kept : List α}

/-- Rows that go into an empty table. -/
theorem of_insertAll (key : α → κ) (xs : List α) : Firsts key xs (insertAll key [] xs) := by
  induction xs using List.reverseRecOn with
  | nil => exact ⟨List.Sublist.refl _, .nil, by simp⟩
  | append_singleton xs x ih =>
    have hsnoc : insertAll key [] (xs ++ [x]) = insertNew key (insertAll key [] xs) x :=
      insertAll_append
    -- what was the first of its key among `xs` still is
    have hold : ∀ x' ∈ xs, ∃ y ∈ insertAll key [] (xs ++ [x]),
        (xs ++ [x]).find? (fun z => key z = key x') = some y := by
      intro x' hx'
      obtain ⟨y, hy, hfirst⟩ := ih.first x' hx'
      rw [hsnoc]
      exact ⟨y, (prefix_insertNew x).subset hy, by rw [List.find?_append, hfirst, Option.some_or]⟩
    refine ⟨?_, nodup_insertAll .nil, fun x' hx' => ?_⟩
    · rw [hsnoc]
      by_cases hkey : key x ∈ (insertAll key [] xs).map key
      · rw [insertNew_of_mem hkey]
        exact ih.sublist.trans (List.sublist_append_left _ _)
      · rw [insertNew_of_not_mem hkey]
        exact ih.sublist.append_right [x]
    · rcases List.mem_append.mp hx' with hx' | hx'
      · exact hold x' hx'
      · obtain rfl := List.mem_singleton.mp hx'
        by_cases hkey : key x' ∈ xs.map key
        · obtain ⟨x, hx, hsame⟩ := List.mem_map.mp hkey
          obtain ⟨y, hy, hfirst⟩ := hold x hx
          exact ⟨y, hy, by simpa only [hsame] using hfirst⟩
        · have hnone : xs.find? (fun z => key z = key x') = none :=
            List.find?_eq_none.mpr fun z hz hsame =>
              hkey (List.mem_map.mpr ⟨z, hz, of_decide_eq_true hsame⟩)
          have hnew : key x' ∉ (insertAll key [] xs).map key := fun hmem =>
            hkey ((ih.sublist.map key).subset hmem)
          refine ⟨x', ?_, ?_⟩
          · rw [hsnoc, insertNew_of_not_mem hnew]
            exact List.mem_append_right _ List.mem_cons_self
          · rw [List.find?_append, hnone, Option.none_or, List.find?_cons_of_pos (by simp)]

/-- A key that tells the same elements apart. -/
theorem congr {κ' : Type} [DecidableEq κ'] {key' : α → κ'} (h : Firsts key xs kept)
    (hkey : ∀ x ∈ xs, ∀ y ∈ xs, key x = key y ↔ key' x = key' y) : Firsts key' xs kept := by
  refine ⟨h.sublist, ?_, fun x hx => ?_⟩
  · refine List.Nodup.map_on ?_ h.nodup.of_map
    intro x hx y hy hsame
    exact List.inj_on_of_nodup_map h.nodup hx hy
      ((hkey x (h.sublist.subset hx) y (h.sublist.subset hy)).mpr hsame)
  · obtain ⟨y, hy, hfirst⟩ := h.first x hx
    refine ⟨y, hy, ?_⟩
    rw [← hfirst, ← List.head?_filter, ← List.head?_filter]
    exact congrArg _ (List.filter_congr fun z hz => decide_eq_decide.mpr (hkey z hz x hx).symm)

/-- Nothing is left out exactly if no two elements have one key. -/
theorem eq_self_iff (h : Firsts key xs kept) : kept = xs ↔ (xs.map key).Nodup := by
  constructor
  · rintro rfl
    exact h.nodup
  · intro hnodup
    have hsub : xs ⊆ kept := fun x hx => by
      obtain ⟨y, hy, hfirst⟩ := h.first x hx
      have hsame : key y = key x := by simpa using List.find?_some hfirst
      rwa [← List.inj_on_of_nodup_map hnodup (List.mem_of_find?_eq_some hfirst) hx hsame]
    exact h.sublist.eq_of_length_le (hnodup.of_map.subperm hsub).length_le

end Firsts

end Store

/-! ### Records of a transaction -/

namespace BalanceDelta

/-- Each delta is that of an entry of the account table. -/
theorem compute_accounts (accounts : List String) (pre post : List Int) :
    ((compute accounts pre post).map (·.account)).Sublist accounts := by
  fun_induction compute accounts pre post with
  | case1 a accounts x pre post ih => exact ih.cons a
  | case2 a accounts x pre y post hne ih => exact ih.cons_cons a
  | case3 => exact List.nil_sublist _

end BalanceDelta

namespace Indexed

variable {tx : Transaction} {s : String} {t : Indexed}

/-- A called instruction has a place among those of its block. -/
theorem walk_inner {p : Instruction × Position} (h : p ∈ walk tx) :
    p.2.inner = none ∨ ∃ n : Nat, p.2.inner = some (n : Int) := by
  rcases List.mem_append.mp h with h | h
  · obtain ⟨q, -, rfl⟩ := List.mem_map.mp h
    exact .inl rfl
  · obtain ⟨block, -, hblock⟩ := List.mem_flatMap.mp h
    obtain ⟨q, -, rfl⟩ := List.mem_map.mp hblock
    exact .inr ⟨q.2, rfl⟩

/-- No two instructions stand in one place if no two blocks are for one index. -/
theorem walk_positions (h : (tx.inner.map (·.index)).Nodup) :
    ((walk tx).map (·.2)).Nodup := by
  have hplaces : ∀ (xs : List Instruction) (f : Nat → Position), Function.Injective f →
      ((xs.zipIdx.map fun p => (p.1, f p.2)).map (·.2)).Nodup := by
    intro xs f hf
    have hall : (xs.zipIdx.map fun p => (p.1, f p.2)).map (·.2) = (xs.zipIdx.map (·.2)).map f := by
      simp only [List.map_map, Function.comp_def]
    have hindices : (List.range' 0 xs.length).Nodup := List.nodup_range'
    rw [hall, List.zipIdx_map_snd]
    exact hindices.map hf
  rw [walk, List.map_append]
  refine List.nodup_append.mpr ⟨?_, ?_, ?_⟩
  · exact hplaces _ (fun n => ⟨n, none⟩) fun m n hmn =>
      Int.ofNat.inj (congrArg Position.index hmn)
  · rw [List.map_flatMap]
    refine List.nodup_flatMap.mpr ⟨fun block _ => ?_, ?_⟩
    · exact hplaces _ (fun n => ⟨block.index, some n⟩) fun m n hmn =>
        Int.ofNat.inj (Option.some.inj (congrArg Position.inner hmn))
    · refine (List.pairwise_map.mp h).imp fun hne => ?_
      intro position h₁ h₂
      simp only [List.map_map, List.mem_map, Function.comp_apply] at h₁ h₂
      obtain ⟨_, -, rfl⟩ := h₁
      obtain ⟨_, -, hsame⟩ := h₂
      exact hne (congrArg Position.index hsame).symm
  · intro position h₁ position' h₂
    simp only [List.map_map, List.map_flatMap, List.mem_map, List.mem_flatMap] at h₁ h₂
    obtain ⟨_, -, rfl⟩ := h₁
    obtain ⟨_, -, _, -, rfl⟩ := h₂
    exact fun hsame => nomatch congrArg Position.inner hsame

theorem deltas_accounts (h : ofTransaction tx s = .ok t) :
    (t.deltas.map (·.account)).Sublist tx.accounts.addresses := by
  obtain ⟨transfers, -, hpure⟩ := Except.bind_eq_ok.mp h
  cases hpure
  exact BalanceDelta.compute_accounts _ _ _

end Indexed

/-! ### Rows of a transaction -/

namespace Store

variable {address : String} {tx : Transaction} {s : String} {t : Indexed} {ts : List Indexed}

/-- What different transactions derive goes apart. -/
theorem filter_flatMap_signature {α : Type} {p : α → Bool} {rows : Indexed → List α}
    (hp : ∀ t', ∀ row ∈ rows t', p row = decide (t'.signature = t.signature)) (ht : t ∈ ts)
    (hnames : (ts.map (·.signature)).Nodup) : (ts.flatMap rows).filter p = rows t := by
  have hrows : ∀ t', (rows t').filter p = if t'.signature = t.signature then rows t' else [] := by
    intro t'
    split
    next hsame => exact List.filter_eq_self.mpr fun row hrow => by rw [hp t' row hrow]; simpa
    next hne => exact List.filter_eq_nil_iff.mpr fun row hrow => by rw [hp t' row hrow]; simpa
  rw [List.filter_flatMap]
  simp only [hrows]
  clear hrows hp
  induction ts with
  | nil => cases ht
  | cons t' ts ih =>
    obtain ⟨hnew, hnames⟩ := List.nodup_cons.mp hnames
    rw [List.flatMap_cons]
    rcases List.mem_cons.mp ht with rfl | ht
    · have hothers : (ts.flatMap fun t'' => if t''.signature = t.signature then rows t'' else []) =
          [] := by
        refine List.flatMap_eq_nil_iff.mpr fun t'' ht'' => if_neg fun hsame => hnew ?_
        exact List.mem_map.mpr ⟨t'', ht'', hsame⟩
      rw [if_pos rfl, hothers, List.append_nil]
    · rw [if_neg fun hsame => hnew (List.mem_map.mpr ⟨t, ht, hsame.symm⟩), List.nil_append,
        ih ht hnames]

/-- Of rows that are inserted for several transactions, those of one that had none before. -/
theorem filter_insertAll_signature {α κ : Type} [DecidableEq κ] {key : α → κ} {p : α → Bool}
    {rows : Indexed → List α} {held : List α} (hkey : ∀ a b, key a = key b → p a = p b)
    (hp : ∀ t', ∀ row ∈ rows t', p row = decide (t'.signature = t.signature))
    (hheld : ∀ row ∈ held, ¬ p row) (ht : t ∈ ts) (hnames : (ts.map (·.signature)).Nodup) :
    (insertAll key held (ts.flatMap rows)).filter p = insertAll key [] (rows t) := by
  rw [filter_insertAll_key hkey, List.filter_eq_nil_iff.mpr hheld,
    filter_flatMap_signature hp ht hnames]

/-- Whether a balance change belongs to a transaction in an address's history. -/
def BalanceRow.isOf (address signature : String) (row : BalanceRow) : Bool :=
  row.owner = address && row.signature = signature

def TransferRow.isOf (address signature : String) (row : TransferRow) : Bool :=
  row.owner = address && row.signature = signature

theorem BalanceRow.isOf_congr {signature : String} {a b : BalanceRow} (h : a.key = b.key) :
    a.isOf address signature = b.isOf address signature := by
  simp only [key, Prod.mk.injEq] at h
  simp only [isOf, h]

theorem TransferRow.isOf_congr {signature : String} {a b : TransferRow} (h : a.key = b.key) :
    a.isOf address signature = b.isOf address signature := by
  simp only [key, Prod.mk.injEq] at h
  simp only [isOf, h]

theorem BalanceRow.isOf_ofIndexed {signature : String} {row : BalanceRow}
    (h : row ∈ ofIndexed address t) :
    row.isOf address signature = decide (t.signature = signature) := by
  obtain ⟨change, -, rfl⟩ := List.mem_map.mp h
  simp [isOf]

theorem TransferRow.isOf_ofIndexed {signature : String} {row : TransferRow}
    (h : row ∈ ofIndexed address t) :
    row.isOf address signature = decide (t.signature = signature) := by
  obtain ⟨transfer, -, rfl⟩ := List.mem_map.mp h
  simp [isOf]

theorem BalanceRow.firsts (t : Indexed) :
    Firsts (·.change.account) (ofIndexed address t) (insertAll key [] (ofIndexed address t)) := by
  refine (Firsts.of_insertAll key _).congr fun x hx y hy => ?_
  obtain ⟨_, -, rfl⟩ := List.mem_map.mp hx
  obtain ⟨_, -, rfl⟩ := List.mem_map.mp hy
  simp [key]

/-- The key of what is at the top level is that of no called instruction. -/
theorem TransferRow.firsts (h : Indexed.ofTransaction tx s = .ok t) :
    Firsts (·.transfer.position) (ofIndexed address t)
      (insertAll key [] (ofIndexed address t)) := by
  have hinner : ∀ row ∈ ofIndexed address t, row.transfer.position.inner = none ∨
      ∃ n : Nat, row.transfer.position.inner = some (n : Int) := by
    intro row hrow
    obtain ⟨transfer, htransfer, rfl⟩ := List.mem_map.mp hrow
    have hplace := (Indexed.transfers_positions h).subset (List.mem_map_of_mem htransfer)
    obtain ⟨p, hp, hsame⟩ := List.mem_map.mp hplace
    change transfer.position.inner = none ∨ ∃ n : Nat, transfer.position.inner = some (n : Int)
    rw [← hsame]
    exact Indexed.walk_inner hp
  have hplace : ∀ p q : Position, (p.inner = none ∨ ∃ n : Nat, p.inner = some (n : Int)) →
      (q.inner = none ∨ ∃ n : Nat, q.inner = some (n : Int)) →
      (p.index = q.index ∧ p.inner.getD topLevel = q.inner.getD topLevel ↔ p = q) := by
    rintro ⟨i, inner⟩ ⟨j, inner'⟩ hp hq
    dsimp only at hp hq
    rcases hp with rfl | ⟨m, rfl⟩ <;> rcases hq with rfl | ⟨n, rfl⟩ <;>
      simp only [topLevel, Option.getD_none, Option.getD_some, Position.mk.injEq,
        Option.some.injEq, reduceCtorEq]
  refine (Firsts.of_insertAll key _).congr fun x hx y hy => ?_
  rw [← hplace _ _ (hinner x hx) (hinner y hy)]
  obtain ⟨_, -, rfl⟩ := List.mem_map.mp hx
  obtain ⟨_, -, rfl⟩ := List.mem_map.mp hy
  simp [key, innerKey]

/-- Of a transaction that had no rows a save leaves one balance change for each account, its first
one, and one transfer for each position. Nothing is lost exactly if no two records meet, as when the
account table repeats no address and no two blocks of called instructions are for one index. -/
theorem Query.save_keeps_firsts {clock : Instant} {db db' : Database} {count : SaveCount}
    (hindexed : Indexed.ofTransaction tx s = .ok t) (ht : t ∈ ts)
    (hnames : (ts.map (·.signature)).Nodup)
    (hbalances : ∀ row ∈ db.tables.balances, ¬ row.isOf address t.signature)
    (htransfers : ∀ row ∈ db.tables.transfers, ¬ row.isOf address t.signature)
    (hrun : ((save address ts).perform clock).run.run db = (.ok count, db')) :
    let balances := db'.tables.balances.filter (·.isOf address t.signature)
    let transfers := db'.tables.transfers.filter (·.isOf address t.signature)
    Firsts (·.change.account) (BalanceRow.ofIndexed address t) balances ∧
      Firsts (·.transfer.position) (TransferRow.ofIndexed address t) transfers ∧
      (balances = BalanceRow.ofIndexed address t ↔ (t.deltas.map (·.account)).Nodup) ∧
      (transfers = TransferRow.ofIndexed address t ↔ (t.transfers.map (·.position)).Nodup) ∧
      (tx.accounts.addresses.Nodup → balances = BalanceRow.ofIndexed address t) ∧
      ((tx.inner.map (·.index)).Nodup → transfers = TransferRow.ofIndexed address t) := by
  intro balances transfers
  obtain ⟨now, -, hafter⟩ := perform_ok clock (save address ts) _ _ _ hrun
  have hbalanceRows : balances = insertAll BalanceRow.key [] (BalanceRow.ofIndexed address t) := by
    simp only [balances, hafter, next]
    exact filter_insertAll_signature (fun _ _ => BalanceRow.isOf_congr)
      (fun _ _ => BalanceRow.isOf_ofIndexed) hbalances ht hnames
  have htransferRows :
      transfers = insertAll TransferRow.key [] (TransferRow.ofIndexed address t) := by
    simp only [transfers, hafter, next]
    exact filter_insertAll_signature (fun _ _ => TransferRow.isOf_congr)
      (fun _ _ => TransferRow.isOf_ofIndexed) htransfers ht hnames
  have hfirsts : Firsts _ (BalanceRow.ofIndexed address t) balances :=
    hbalanceRows ▸ BalanceRow.firsts t
  have hfirsts' : Firsts _ (TransferRow.ofIndexed address t) transfers :=
    htransferRows ▸ TransferRow.firsts hindexed
  have haccounts : (BalanceRow.ofIndexed address t).map (·.change.account) =
      t.deltas.map (·.account) := List.map_map
  have hpositions : (TransferRow.ofIndexed address t).map (·.transfer.position) =
      t.transfers.map (·.position) := List.map_map
  have hall : balances = BalanceRow.ofIndexed address t ↔ (t.deltas.map (·.account)).Nodup :=
    haccounts ▸ hfirsts.eq_self_iff
  have hall' : transfers = TransferRow.ofIndexed address t ↔
      (t.transfers.map (·.position)).Nodup := hpositions ▸ hfirsts'.eq_self_iff
  exact ⟨hfirsts, hfirsts', hall, hall',
    fun h => hall.mpr (h.sublist (Indexed.deltas_accounts hindexed)),
    fun h => hall'.mpr ((Indexed.walk_positions h).sublist (Indexed.transfers_positions hindexed))⟩

/-- A transaction with two accounts, both of which lose lamports. -/
def pairOf (first second : String) : Json :=
  .obj [
    ("slot", .int 1),
    ("transaction", .obj [
      ("message", .obj [("accountKeys", .arr [.str first, .str second])]),
      ("signatures", .arr [.str "s"])]),
    ("meta", .obj [
      ("fee", .int 1),
      ("preBalances", .arr [.int 5, .int 9]),
      ("postBalances", .arr [.int 3, .int 8])])]

/-- What comes of a save of a decoded transaction in blank tables: how many deltas it has, and the
changes that are stored. -/
def changesSaved (result : Json) : Option (Nat × List BalanceDelta) :=
  match Transaction.ofJson result with
  | .error _ => none
  | .ok tx =>
    match Indexed.ofTransaction tx "s" with
    | .error _ => none
    | .ok t =>
      match ((Query.save "A" [t]).perform (.whole 0)).run.run (.ready .blank) with
      | (.error _, _) => none
      | (.ok _, db) => some (t.deltas.length,
          (db.tables.balances.filter (·.isOf "A" t.signature)).map (·.change))

theorem of_changesSaved {result : Json} {n : Nat} {changes : List BalanceDelta}
    (h : changesSaved result = some (n, changes)) :
    ∃ tx t count db', Transaction.ofJson result = .ok tx ∧ Indexed.ofTransaction tx "s" = .ok t ∧
      ((Query.save "A" [t]).perform (.whole 0)).run.run (.ready .blank) = (.ok count, db') ∧
      t.deltas.length = n ∧
      (db'.tables.balances.filter (·.isOf "A" t.signature)).map (·.change) = changes := by
  unfold changesSaved at h
  split at h
  · cases h
  next tx hdecoded =>
    split at h
    · cases h
    next t hindexed =>
      split at h
      · cases h
      next count db' hrun =>
        cases h
        exact ⟨tx, t, count, db', hdecoded, hindexed, hrun, rfl, rfl⟩

/-- Two accounts that differ have a balance change each. -/
theorem save_keeps_firsts_of_two :
    ∃ tx t count db', Transaction.ofJson (pairOf "B" "C") = .ok tx ∧
      Indexed.ofTransaction tx "s" = .ok t ∧
      ((Query.save "A" [t]).perform (.whole 0)).run.run (.ready .blank) = (.ok count, db') ∧
      t.deltas.length = 2 ∧
      db'.tables.balances.filter (·.isOf "A" t.signature) = BalanceRow.ofIndexed "A" t := by
  have hsaved : changesSaved (pairOf "B" "C") = some (2, [⟨"B", 2⟩, ⟨"C", 1⟩]) := by
    decide +kernel
  obtain ⟨tx, t, count, db', hdecoded, hindexed, hrun, hlength, hchanges⟩ := of_changesSaved hsaved
  have hblank {α : Type} (p : α → Prop) : ∀ row ∈ ([] : List α), p row :=
    fun _ hrow => absurd hrow List.not_mem_nil
  obtain ⟨hfirsts, -⟩ := Query.save_keeps_firsts hindexed (List.mem_singleton_self t)
    (List.nodup_singleton _) (hblank _) (hblank _) hrun
  have hcount := congrArg List.length hchanges
  rw [List.length_map] at hcount
  refine ⟨tx, t, count, db', hdecoded, hindexed, hrun, hlength, hfirsts.sublist.eq_of_length ?_⟩
  rw [hcount, BalanceRow.ofIndexed, List.length_map, hlength]
  rfl

/-- A transaction that names one account twice has two deltas, and one of them is lost. -/
theorem save_loses_repeated_account :
    ∃ tx t count db', Transaction.ofJson (pairOf "B" "B") = .ok tx ∧
      Indexed.ofTransaction tx "s" = .ok t ∧
      ((Query.save "A" [t]).perform (.whole 0)).run.run (.ready .blank) = (.ok count, db') ∧
      t.deltas.length = 2 ∧
      (db'.tables.balances.filter (·.isOf "A" t.signature)).map (·.change) = [⟨"B", 2⟩] :=
  of_changesSaved (by decide +kernel)

end Store

end AddressIndex
