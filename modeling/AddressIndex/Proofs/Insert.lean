import AddressIndex.Store.Statement
import Mathlib.Data.List.Infix
import Mathlib.Data.List.Nodup

/-! Rows go into a table by their keys. A row is added unless its key is there, what is there stays
as it is, and the pieces in which rows are passed to the database make no difference: an insert of
many rows that succeeds is `insertAll` of all of them, and it counts by how much the table grew. -/

namespace AddressIndex

variable {α : Type}

theorem length_pieces (size : Nat) (xs : List α) :
    (pieces size xs).length = (xs.length + size - 1) / size := by
  simp [pieces]

theorem pieces_nil (size : Nat) : pieces size ([] : List α) = [] := by
  have none_left : (size - 1) / size = 0 := Nat.div_eq_zero_iff.mpr (by omega)
  simp [pieces, none_left]

/-- The first piece, and the pieces of what comes after it. -/
theorem pieces_cons {size : Nat} (hsize : 0 < size) {xs : List α} (hxs : xs ≠ []) :
    pieces size xs = xs.take size :: pieces size (xs.drop size) := by
  have hlength : 0 < xs.length := List.length_pos_iff.mpr hxs
  have hcount : (xs.length + size - 1) / size = (xs.length - size + size - 1) / size + 1 := by
    by_cases hshort : xs.length ≤ size
    · have h1 : (xs.length + size - 1) / size = 1 :=
        Nat.div_eq_of_lt_le (by omega) (by omega)
      have h0 : (xs.length - size + size - 1) / size = 0 :=
        Nat.div_eq_zero_iff.mpr (by omega)
      rw [h1, h0]
    · have : xs.length + size - 1 = xs.length - size + size - 1 + size := by omega
      rw [this, Nat.add_div_right _ hsize]
  simp only [pieces, hcount, List.length_drop, List.range_succ_eq_map, List.map_cons, List.map_map,
    Nat.zero_mul, List.drop_zero]
  congr 1
  apply List.map_congr_left
  intro i _
  simp only [Function.comp_apply, List.drop_drop, Nat.succ_eq_add_one, Nat.add_mul, Nat.one_mul]
  rw [Nat.add_comm]

/-- The pieces make up the list. -/
theorem pieces_flatten {size : Nat} (hsize : 0 < size) (xs : List α) :
    (pieces size xs).flatten = xs := by
  by_cases hxs : xs = []
  · subst hxs
    simp [pieces_nil]
  · have hlength : 0 < xs.length := List.length_pos_iff.mpr hxs
    rw [pieces_cons hsize hxs, List.flatten_cons, pieces_flatten hsize, List.take_append_drop]
termination_by xs.length
decreasing_by simp only [List.length_drop]; omega

theorem exists_mem_pieces {size : Nat} (hsize : 0 < size) {x : α} {xs : List α} :
    (∃ piece ∈ pieces size xs, x ∈ piece) ↔ x ∈ xs := by
  rw [← List.mem_flatten, pieces_flatten hsize]

@[simp] theorem total_nil : total [] = 0 := rfl

@[simp] theorem total_cons (n : Nat) (counts : List Nat) : total (n :: counts) = n + total counts :=
  rfl

end AddressIndex

namespace AddressIndex.Store

/-! ### Rows by key -/

section Rows

variable {α κ : Type} [DecidableEq κ] {key : α → κ} {rows new : List α}

theorem insertNew_of_mem {row : α} (h : key row ∈ rows.map key) :
    insertNew key rows row = rows := by
  obtain ⟨r, hr, hkey⟩ := List.mem_map.mp h
  exact if_pos (List.any_eq_true.mpr ⟨r, hr, by simpa using hkey⟩)

theorem insertNew_of_not_mem {row : α} (h : key row ∉ rows.map key) :
    insertNew key rows row = rows ++ [row] := by
  refine if_neg fun hany => h ?_
  obtain ⟨r, hr, hkey⟩ := List.any_eq_true.mp hany
  exact List.mem_map.mpr ⟨r, hr, by simpa using hkey⟩

@[simp] theorem insertAll_nil : insertAll key rows [] = rows := rfl

@[simp] theorem insertAll_cons {row : α} :
    insertAll key rows (row :: new) = insertAll key (insertNew key rows row) new := rfl

theorem insertAll_append {more : List α} :
    insertAll key rows (new ++ more) = insertAll key (insertAll key rows new) more := by
  simp [insertAll]

theorem prefix_insertNew (row : α) : rows <+: insertNew key rows row := by
  by_cases h : key row ∈ rows.map key
  · rw [insertNew_of_mem h]
  · rw [insertNew_of_not_mem h]
    exact List.prefix_append _ _

/-- What is in a table stays there, where it is. -/
theorem prefix_insertAll : rows <+: insertAll key rows new := by
  induction new generalizing rows with
  | nil => exact List.prefix_refl rows
  | cons row new ih => exact (prefix_insertNew row).trans ih

theorem mem_keys_insertNew {row : α} {k : κ} :
    k ∈ (insertNew key rows row).map key ↔ k ∈ rows.map key ∨ k = key row := by
  by_cases h : key row ∈ rows.map key
  · rw [insertNew_of_mem h]
    constructor
    · exact .inl
    · rintro (hk | rfl)
      · exact hk
      · exact h
  · rw [insertNew_of_not_mem h]
    simp

/-- The keys of a table after an insert: those that were there and those that were offered. -/
theorem mem_keys_insertAll {k : κ} :
    k ∈ (insertAll key rows new).map key ↔ k ∈ rows.map key ∨ k ∈ new.map key := by
  induction new generalizing rows with
  | nil => simp
  | cons row new ih => 
    rw [insertAll_cons, ih, mem_keys_insertNew, List.map_cons, List.mem_cons, or_assoc]

/-- A row that is in a table after an insert was there before, or it was offered and its key is
new. -/
theorem mem_insertAll {row : α} (h : row ∈ insertAll key rows new) :
    row ∈ rows ∨ row ∈ new ∧ key row ∉ rows.map key := by
  induction new generalizing rows with
  | nil => exact .inl h
  | cons first new ih =>
    by_cases hfirst : key first ∈ rows.map key
    · rw [insertAll_cons, insertNew_of_mem hfirst] at h
      rcases ih h with hrow | ⟨hrow, hkey⟩
      · exact .inl hrow
      · exact .inr ⟨List.mem_cons_of_mem _ hrow, hkey⟩
    · rw [insertAll_cons, insertNew_of_not_mem hfirst] at h
      rcases ih h with hrow | ⟨hrow, hkey⟩
      · rcases List.mem_append.mp hrow with hrow | hrow
        · exact .inl hrow
        · obtain rfl := List.mem_singleton.mp hrow
          exact .inr ⟨List.mem_cons_self, hfirst⟩
      · refine .inr ⟨List.mem_cons_of_mem _ hrow, fun hold => hkey ?_⟩
        rw [List.map_append]
        exact List.mem_append_left _ hold

/-- A filter that no offered row passes sees no insert. -/
theorem filter_insertAll {p : α → Bool} (h : ∀ row ∈ new, ¬ p row) :
    (insertAll key rows new).filter p = rows.filter p := by
  induction new generalizing rows with
  | nil => rfl
  | cons row new ih =>
    obtain ⟨hrow, hnew⟩ := List.forall_mem_cons.mp h
    rw [insertAll_cons, ih hnew]
    by_cases hkey : key row ∈ rows.map key
    · rw [insertNew_of_mem hkey]
    · rw [insertNew_of_not_mem hkey, List.filter_append, List.filter_singleton,
        Bool.eq_false_iff.mpr hrow, Bool.cond_false, List.append_nil]

theorem filter_insertNew_key {p : α → Bool} (hp : ∀ a b, key a = key b → p a = p b) (row : α) :
    (insertNew key rows row).filter p =
      if p row then insertNew key (rows.filter p) row else rows.filter p := by
  by_cases h : key row ∈ rows.map key
  · rw [insertNew_of_mem h]
    split
    next hrow =>
      obtain ⟨r, hr, hkey⟩ := List.mem_map.mp h
      have hkept : r ∈ rows.filter p := List.mem_filter.mpr ⟨hr, (hp r row hkey).trans hrow⟩
      exact (insertNew_of_mem (List.mem_map.mpr ⟨r, hkept, hkey⟩)).symm
    next => rfl
  · have hnone : key row ∉ (rows.filter p).map key := fun hmem =>
      h ((List.filter_sublist.map key).subset hmem)
    rw [insertNew_of_not_mem h, List.filter_append, insertNew_of_not_mem hnone]
    split
    next hrow => rw [List.filter_cons_of_pos hrow, List.filter_nil]
    next hrow => rw [List.filter_cons_of_neg hrow, List.filter_nil, List.append_nil]

/-- A filter that goes by the key sees the insert of the rows that pass it. -/
theorem filter_insertAll_key {p : α → Bool} (hp : ∀ a b, key a = key b → p a = p b) :
    (insertAll key rows new).filter p = insertAll key (rows.filter p) (new.filter p) := by
  induction new generalizing rows with
  | nil => rfl
  | cons row new ih =>
    rw [insertAll_cons, ih, filter_insertNew_key hp]
    split
    next hrow => rw [List.filter_cons_of_pos hrow, insertAll_cons]
    next hrow => rw [List.filter_cons_of_neg hrow]

/-- Rows whose keys are there already change nothing. -/
theorem insertAll_of_mem (h : ∀ row ∈ new, key row ∈ rows.map key) :
    insertAll key rows new = rows := by
  induction new with
  | nil => rfl
  | cons row new ih =>
    obtain ⟨hrow, hnew⟩ := List.forall_mem_cons.mp h
    rw [insertAll_cons, insertNew_of_mem hrow, ih hnew]

/-- Rows that are inserted once more change nothing. -/
theorem insertAll_again : insertAll key (insertAll key rows new) new = insertAll key rows new :=
  insertAll_of_mem fun _ hrow => mem_keys_insertAll.mpr (.inr (List.mem_map_of_mem hrow))

/-- A change of rows that keeps their keys can come before or after an insert. -/
theorem map_insertAll {f : α → α} (hf : ∀ row, key (f row) = key row) :
    (insertAll key rows new).map f = insertAll key (rows.map f) (new.map f) := by
  have hkeys : ∀ rows : List α, (rows.map f).map key = rows.map key := fun rows => by
    rw [List.map_map]
    exact List.map_congr_left fun row _ => hf row
  induction new generalizing rows with
  | nil => rfl
  | cons row new ih =>
    rw [List.map_cons, insertAll_cons, insertAll_cons, ih]
    by_cases h : key row ∈ rows.map key
    · rw [insertNew_of_mem h, insertNew_of_mem (by rwa [hkeys, hf])]
    · rw [insertNew_of_not_mem h, insertNew_of_not_mem (by rwa [hkeys, hf]), List.map_append,
        List.map_singleton]

/-- No two rows of a table get one key. -/
theorem nodup_insertAll (h : (rows.map key).Nodup) : ((insertAll key rows new).map key).Nodup := by
  induction new generalizing rows with
  | nil => exact h
  | cons row new ih =>
    refine ih ?_
    by_cases hrow : key row ∈ rows.map key
    · rwa [insertNew_of_mem hrow]
    · rw [insertNew_of_not_mem hrow, List.map_append, List.map_singleton]
      refine List.nodup_append.mpr ⟨h, List.nodup_singleton _, fun k hk k' hk' heq => hrow ?_⟩
      rw [← List.mem_singleton.mp hk', ← heq]
      exact hk

theorem all_ne_key {k : κ} : (rows.all fun held => k ≠ key held) = true ↔ k ∉ rows.map key := by
  simp only [List.all_eq_true, decide_eq_true_eq, List.mem_map, not_exists, not_and, ne_eq]
  exact forall₂_congr fun held _ => not_congr eq_comm

/-- Rows are added as the first of their keys, in the order in which they are offered. -/
theorem insertAll_eq_append :
    insertAll key rows new =
      rows ++ (new.filter fun row => rows.all fun held => key row ≠ key held).eraseDupsBy
        fun a b => key a = key b := by
  induction new generalizing rows with
  | nil => simp
  | cons row new ih =>
    rw [insertAll_cons, ih]
    by_cases hrow : key row ∈ rows.map key
    · rw [insertNew_of_mem hrow, List.filter_cons_of_neg (by rwa [all_ne_key, not_not])]
    · rw [insertNew_of_not_mem hrow, List.filter_cons_of_pos (by rwa [all_ne_key]),
        List.eraseDupsBy_cons, List.append_assoc, List.singleton_append, List.filter_filter]
      congr 3
      apply List.filter_congr
      intro other _
      simp [Bool.and_comm]

/-- What goes into an empty table is the first row of each key. -/
theorem insertAll_nil_eq : insertAll key [] new = new.eraseDupsBy fun a b => key a = key b := by
  rw [insertAll_eq_append]
  simp

end Rows

/-! ### Sessions -/

section Run

variable {σ α β : Type}

/-- Steps that succeed one after another succeed each. -/
theorem run_bind_ok {x : ExceptT Fault (StateM σ) α} {f : α → ExceptT Fault (StateM σ) β}
    {s s' : σ} {b : β} :
    (x >>= f).run.run s = (.ok b, s') ↔
      ∃ a mid, x.run.run s = (.ok a, mid) ∧ (f a).run.run mid = (.ok b, s') := by
  rw [ExceptT.run_bind, StateT.run_bind]
  rcases StateT.run x.run s with ⟨_ | a, mid⟩
  · constructor
    · intro h
      cases h
    · rintro ⟨_, _, ⟨⟩, _⟩
  · constructor
    · exact fun h => ⟨a, mid, rfl, h⟩
    · rintro ⟨_, _, ⟨⟩, h⟩
      exact h

/-- Where all of a list is done, each of it is, from some state on. -/
theorem run_mapM_ok {f : α → ExceptT Fault (StateM σ) β} {xs : List α} {ys : List β} {s s' : σ}
    (h : (xs.mapM f).run.run s = (.ok ys, s')) :
    ∀ x ∈ xs, ∃ y mid mid', (f x).run.run mid = (.ok y, mid') := by
  induction xs generalizing ys s s' with
  | nil => exact fun x hx => absurd hx List.not_mem_nil
  | cons x xs ih =>
    rw [List.mapM_cons] at h
    obtain ⟨y, mid, hx, hrest⟩ := run_bind_ok.mp h
    obtain ⟨ys, mid', hxs, -⟩ := run_bind_ok.mp hrest
    exact List.forall_mem_cons.mpr ⟨⟨y, s, mid, hx⟩, ih hxs⟩

end Run

/-- What is put into a table is what is in it, and nothing else changes. -/
structure Table.Lawful {α κ : Type} (table : Table α κ) : Prop where
  rows_put (rows : List α) (tables : Tables) : table.rows (table.put rows tables) = rows
  put_put (rows rows' : List α) (tables : Tables) :
    table.put rows (table.put rows' tables) = table.put rows tables
  put_rows (tables : Tables) : table.put (table.rows tables) tables = tables

theorem Tables.signatureTable_lawful : signatureTable.Lawful :=
  ⟨fun _ _ => rfl, fun _ _ _ => rfl, fun _ => rfl⟩

theorem Tables.transactionTable_lawful : transactionTable.Lawful :=
  ⟨fun _ _ => rfl, fun _ _ _ => rfl, fun _ => rfl⟩

theorem Tables.balanceTable_lawful : balanceTable.Lawful :=
  ⟨fun _ _ => rfl, fun _ _ _ => rfl, fun _ => rfl⟩

theorem Tables.transferTable_lawful : transferTable.Lawful :=
  ⟨fun _ _ => rfl, fun _ _ _ => rfl, fun _ => rfl⟩

namespace Session

variable {α κ : Type} [DecidableEq κ] {table : Table α κ}

theorem passParameters_ok {parameters : List Parameter} {tables tables' : Tables} {u : Unit}
    (h : (passParameters parameters).run.run tables = (.ok u, tables')) :
    (∀ p ∈ parameters, p.fault? = none) ∧ tables' = tables := by
  unfold passParameters at h
  split at h
  · cases h
  next hnone =>
    cases h
    exact ⟨fun p hp => List.findSome?_eq_none_iff.mp hnone p hp, rfl⟩

theorem insertPiece_ok {new : List α} {tables tables' : Tables} {count : Nat}
    (h : (insertPiece table new).run.run tables = (.ok count, tables')) :
    tables' = table.put (insertAll table.key (table.rows tables) new) tables ∧
      count = (insertAll table.key (table.rows tables) new).length -
        (table.rows tables).length := by
  obtain ⟨_, mid, hpass, hrest⟩ := run_bind_ok.mp h
  obtain ⟨-, rfl⟩ := passParameters_ok hpass
  cases hrest
  exact ⟨rfl, rfl⟩

theorem insertPieces_ok (lawful : table.Lawful) {news : List (List α)} {tables tables' : Tables}
    {counts : List Nat}
    (h : (news.mapM (insertPiece table)).run.run tables = (.ok counts, tables')) :
    tables' = table.put (insertAll table.key (table.rows tables) news.flatten) tables ∧
      total counts + (table.rows tables).length =
        (insertAll table.key (table.rows tables) news.flatten).length := by
  induction news generalizing tables counts with
  | nil =>
    cases h
    exact ⟨(lawful.put_rows _).symm, by simp⟩
  | cons new news ih =>
    rw [List.mapM_cons] at h
    obtain ⟨count, mid, hpiece, hrest⟩ := run_bind_ok.mp h
    obtain ⟨counts, _, hpieces, hpure⟩ := run_bind_ok.mp hrest
    cases hpure
    obtain ⟨hmid, hcount⟩ := insertPiece_ok hpiece
    obtain ⟨htables, htotal⟩ := ih hpieces
    subst hmid hcount htables
    rw [lawful.rows_put] at htotal ⊢
    rw [lawful.put_put, List.flatten_cons, insertAll_append]
    have hgrown : (table.rows tables).length ≤
        (insertAll table.key (table.rows tables) new).length := prefix_insertAll.length_le
    exact ⟨rfl, by rw [total_cons]; omega⟩

/-- An insert that succeeds adds all rows by their keys and tells by how much the table grew. -/
theorem insert_ok (lawful : table.Lawful) {new : List α} {tables tables' : Tables} {count : Nat}
    (h : (insert table new).run.run tables = (.ok count, tables')) :
    tables' = table.put (insertAll table.key (table.rows tables) new) tables ∧
      count + (table.rows tables).length =
        (insertAll table.key (table.rows tables) new).length := by
  obtain ⟨counts, _, hpieces, hpure⟩ := run_bind_ok.mp h
  cases hpure
  have := insertPieces_ok lawful hpieces
  rwa [pieces_flatten (by decide)] at this

end Session

end AddressIndex.Store
