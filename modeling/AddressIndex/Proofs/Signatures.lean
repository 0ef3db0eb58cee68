import AddressIndex.Proofs.Calls
import AddressIndex.Proofs.Storable
import AddressIndex.Proofs.Tables

/-! The table of signatures after any calls. It holds the first row of each signature that was ever
appended. A row is processed from the first mark on that names its signature for its owner, if the
signature was there by then. And appends and marks tell how many rows they added and changed, so
what they told adds up to what the table holds. -/

namespace AddressIndex.Store

variable {clock : Instant} {now : Int} {tables : Tables} {rows new : List SignatureRow}
  {owner name : String} {db db' : Database} {made : List Made} {last : Made}

/-! ### What calls append and mark -/

/-- The rows that an append offers, if the call is an append that was done. -/
def Made.appended : Made → List SignatureRow
  | ⟨clock, .query (.append address records) _, .ok _⟩ =>
    records.map fun record => ⟨address, record, false, shown clock⟩
  | _ => []

/-- Whether the call is a mark that was done, and names a signature for its owner. -/
def Made.marks : Made → String → String → Bool
  | ⟨_, .query (.mark address names) _, .ok _⟩, owner, name =>
    address = owner && names.contains name
  | _, _, _ => false

/-- How many rows an append told to have added. -/
def Made.added : Made → Nat
  | ⟨_, .query (.append _ _) _, .ok count⟩ => count
  | _ => 0

/-- How many rows a mark told to have changed. -/
def Made.flipped : Made → Nat
  | ⟨_, .query (.mark _ _) _, .ok count⟩ => count
  | _ => 0

/-- A call that was done neither as an append nor as a mark. -/
structure Made.Silent (last : Made) : Prop where
  appended : last.appended = []
  marks : ∀ owner name, last.marks owner name = false
  added : last.added = 0
  flipped : last.flipped = 0

theorem Made.silent_of_error {q : Query} {whole : q.operation ≠ .claim}
    {fault : AddressIndex.Fault} :
    Silent ⟨clock, .query q whole, (.error fault : Except _ q.Reply)⟩ := by
  cases q <;> exact ⟨rfl, fun _ _ => rfl, rfl, rfl⟩

theorem Made.silent_of_other {q : Query} {whole : q.operation ≠ .claim}
    {result : Except AddressIndex.Fault q.Reply} (hq : ∀ owner, ¬ q.WritesHistory owner) :
    Silent ⟨clock, .query q whole, result⟩ := by
  cases q with
  | append address records => exact absurd rfl (hq address)
  | mark address names => exact absurd rfl (hq address)
  | _ => exact ⟨rfl, fun _ _ => rfl, rfl, rfl⟩

theorem Query.signatures_next {q : Query} (hq : ∀ owner, ¬ q.WritesHistory owner) :
    (q.next now tables).signatures = tables.signatures := by
  obtain ⟨address, records, rfl⟩ | ⟨address, names, rfl⟩ | ⟨address, ts, rfl⟩ | ⟨jobs, hnext⟩ :=
    next_cases now q tables
  · exact absurd rfl (hq address)
  · exact absurd rfl (hq address)
  · rfl
  · rw [hnext]

/-- What a call does to the signature rows: it appends, or it marks, or it leaves them. -/
theorem Made.signatures_cases (h : last.call.Goes last.clock db last.result db') :
    (∃ clock address records whole, ∃ count : Nat,
      last = ⟨clock, .query (.append address records) whole, .ok count⟩ ∧
        db'.tables.signatures = insertAll SignatureRow.key db.tables.signatures last.appended ∧
        count = db'.tables.signatures.length - db.tables.signatures.length) ∨
    (∃ clock address names whole, ∃ count : Nat,
      last = ⟨clock, .query (.mark address names) whole, .ok count⟩ ∧
        db'.tables.signatures = markRows db.tables.signatures address names ∧
        count = db.tables.signatures.countP fun row =>
          row.isWaiting address && names.contains row.record.signature) ∨
    last.Silent ∧ db'.tables.signatures = db.tables.signatures := by
  obtain ⟨clock, call, result⟩ := last
  cases call with
  | claim worker owner =>
    refine .inr (.inr ⟨⟨rfl, fun _ _ => rfl, rfl, rfl⟩, ?_⟩)
    refine h.keeps (R := fun tables => tables.signatures = db.tables.signatures) ?_ rfl
    intro q tables hmakes hsame
    refine (Query.signatures_next fun owner hwrites => ?_).trans hsame
    rcases hmakes with rfl | ⟨_, rfl⟩ <;> cases hwrites
  | query q whole =>
    rcases Call.goes_query.mp h with ⟨reply, rfl, hgoes⟩ | ⟨fault, rfl, hgoes⟩
    · obtain ⟨hreply, htables⟩ := hgoes.answers
      by_cases hq : ∀ owner, ¬ q.WritesHistory owner
      · refine .inr (.inr ⟨silent_of_other hq, ?_⟩)
        rw [htables, Query.signatures_next hq]
      · cases q with
        | append address records =>
          exact .inl ⟨clock, address, records, whole, reply, rfl, congrArg _ htables,
            htables ▸ hreply⟩
        | mark address names =>
          exact .inr (.inl ⟨clock, address, names, whole, reply, rfl, congrArg _ htables, hreply⟩)
        | _ => exact absurd (fun _ => id) hq
    · exact .inr (.inr ⟨silent_of_error, by rw [hgoes.error]⟩)

/-! ### Rows -/

namespace SignatureRow

variable {row : SignatureRow} {names : List String}

/-- A row as it was appended. -/
def fresh (row : SignatureRow) : SignatureRow := { row with processed := false }

@[simp] theorem fresh_mark : (row.mark owner names).fresh = row.fresh := by
  unfold mark
  split <;> rfl

/-- A mark makes the rows of its owner processed that it names. -/
theorem processed_mark :
    (row.mark owner names).processed =
      (row.processed || (owner = row.owner && names.contains row.key)) := by
  unfold mark isWaiting key
  by_cases howner : owner = row.owner
  · subst howner
    cases hprocessed : row.processed <;> cases names.contains row.record.signature <;>
      simp [hprocessed]
  · have hother : row.owner ≠ owner := Ne.symm howner
    simp [howner, hother]

end SignatureRow

theorem map_fresh_markRows {names : List String} :
    (markRows rows owner names).map SignatureRow.fresh = rows.map SignatureRow.fresh := by
  rw [markRows_eq_map, List.map_map]
  exact List.map_congr_left fun row _ => SignatureRow.fresh_mark

/-- How many rows a mark makes processed. -/
theorem countP_processed_markRows {names : List String} :
    (markRows rows owner names).countP (·.processed) =
      (rows.countP fun row => row.isWaiting owner && names.contains row.record.signature) +
        rows.countP (·.processed) := by
  rw [markRows_eq_map]
  induction rows with
  | nil => rfl
  | cons row rows ih =>
    rw [List.map_cons, List.countP_cons, List.countP_cons, List.countP_cons, ih,
      SignatureRow.processed_mark]
    have howner : row.isWaiting owner = (decide (owner = row.owner) && !row.processed) := by
      rw [SignatureRow.isWaiting, decide_eq_decide.mpr eq_comm]
    rw [howner]
    cases row.processed <;> cases decide (owner = row.owner) <;>
      cases hnamed : names.contains row.key <;>
      simp only [SignatureRow.key] at hnamed <;>
      simp only [hnamed, Bool.false_and, Bool.true_and, Bool.not_true, Bool.not_false,
        Bool.false_or, Bool.true_or, Bool.false_eq_true, if_true, if_false] <;>
      omega

/-- Appended rows are not processed. -/
theorem countP_processed_insertAll (hnew : ∀ row ∈ new, row.processed = false) :
    (insertAll SignatureRow.key rows new).countP (·.processed) = rows.countP (·.processed) := by
  induction new generalizing rows with
  | nil => rfl
  | cons row new ih =>
    obtain ⟨hrow, hnew⟩ := List.forall_mem_cons.mp hnew
    rw [insertAll_cons, ih hnew]
    by_cases hkey : row.key ∈ rows.map SignatureRow.key
    · rw [insertNew_of_mem hkey]
    · rw [insertNew_of_not_mem hkey, List.countP_append, List.countP_singleton, hrow]
      rfl

theorem Made.fresh_of_appended {row : SignatureRow} (h : row ∈ last.appended) :
    row.processed = false ∧ row.fresh = row := by
  unfold appended at h
  split at h
  · obtain ⟨record, -, rfl⟩ := List.mem_map.mp h
    exact ⟨rfl, rfl⟩
  · cases h

theorem Made.map_fresh_appended : last.appended.map SignatureRow.fresh = last.appended :=
  (List.map_congr_left fun _ hrow => (fresh_of_appended hrow).2).trans (List.map_id _)

/-- The rows after a call, as they were appended. -/
theorem Made.map_fresh (h : last.call.Goes last.clock db last.result db') :
    db'.tables.signatures.map SignatureRow.fresh =
      insertAll SignatureRow.key (db.tables.signatures.map SignatureRow.fresh) last.appended := by
  obtain ⟨_, _, _, _, _, -, hrows, -⟩ | ⟨_, _, _, _, _, rfl, hrows, -⟩ | ⟨hsilent, hrows⟩ :=
    signatures_cases h
  · rw [hrows, map_insertAll fun row => show row.fresh.key = row.key from rfl, map_fresh_appended]
  · rw [hrows, map_fresh_markRows]
    rfl
  · rw [hrows, hsilent.appended, insertAll_nil]

/-- A row after a call was there, or it is appended and not processed. What was there may have been
marked. -/
theorem Made.mem_signatures {row : SignatureRow}
    (h : last.call.Goes last.clock db last.result db') (hrow : row ∈ db'.tables.signatures) :
    (∃ old ∈ db.tables.signatures, row.owner = old.owner ∧ row.key = old.key ∧
      row.processed = (old.processed || last.marks old.owner old.key)) ∨
    row.processed = false ∧ row.key ∉ db.tables.signatures.map SignatureRow.key := by
  obtain ⟨_, _, _, _, _, rfl, hrows, -⟩ | ⟨_, _, names, _, _, rfl, hrows, -⟩ | ⟨hsilent, hrows⟩ :=
    signatures_cases h
  · rw [hrows] at hrow
    rcases mem_insertAll hrow with hold | ⟨hnew, hkey⟩
    · exact .inl ⟨row, hold, rfl, rfl, (Bool.or_false _).symm⟩
    · exact .inr ⟨(fresh_of_appended hnew).1, hkey⟩
  · rw [hrows, markRows_eq_map] at hrow
    obtain ⟨old, hold, rfl⟩ := List.mem_map.mp hrow
    exact .inl ⟨old, hold, SignatureRow.owner_mark, SignatureRow.key_mark,
      SignatureRow.processed_mark⟩
  · rw [hrows] at hrow
    exact .inl ⟨row, hrow, rfl, rfl, by rw [hsilent.marks, Bool.or_false]⟩

/-- What is in the table stays there, and a processed row stays processed. -/
theorem Made.signatures_stay {row : SignatureRow}
    (h : last.call.Goes last.clock db last.result db') (hrow : row ∈ db.tables.signatures) :
    ∃ row' ∈ db'.tables.signatures, row'.fresh = row.fresh ∧ (row.processed → row'.processed) := by
  obtain ⟨_, _, _, _, _, -, hrows, -⟩ | ⟨_, address, names, _, _, -, hrows, -⟩ | ⟨-, hrows⟩ :=
    signatures_cases h
  · exact ⟨row, hrows ▸ prefix_insertAll.subset hrow, rfl, id⟩
  · exact ⟨row.mark address names, hrows ▸ List.mem_map_of_mem hrow, SignatureRow.fresh_mark,
      SignatureRow.mark_grows⟩
  · exact ⟨row, hrows ▸ hrow, rfl, id⟩

/-- What a call told is by how much the rows, and the processed ones, became more. -/
theorem Made.signatures_counted (last : Made) (h : last.call.Goes last.clock db last.result db') :
    last.added + db.tables.signatures.length = db'.tables.signatures.length ∧
      last.flipped + db.tables.signatures.countP (·.processed) =
        db'.tables.signatures.countP (·.processed) := by
  obtain ⟨_, _, _, _, count, rfl, hrows, hcount⟩ | ⟨_, _, _, _, count, rfl, hrows, hcount⟩ |
    ⟨hsilent, hrows⟩ := signatures_cases h
  · refine ⟨?_, ?_⟩
    · change count + _ = _
      rw [hcount, hrows]
      exact Nat.sub_add_cancel prefix_insertAll.length_le
    · rw [hrows, countP_processed_insertAll fun _ hrow => (fresh_of_appended hrow).1]
      exact Nat.zero_add _
  · refine ⟨?_, ?_⟩
    · rw [hrows, markRows_eq_map, List.length_map]
      exact Nat.zero_add _
    · change count + _ = _
      rw [hcount, hrows, countP_processed_markRows]
  · rw [hrows, hsilent.added, hsilent.flipped, Nat.zero_add, Nat.zero_add]
    exact ⟨rfl, rfl⟩

/-! ### Any calls -/

/-- One of the calls marks the signature for the owner, and one before it appended the signature. -/
def Calls.Marked (made : List Made) (owner name : String) : Prop :=
  ∃ before mark after, made = before ++ mark :: after ∧
    name ∈ (before.flatMap Made.appended).map SignatureRow.key ∧ mark.marks owner name

/-- The table of signatures after some calls. -/
structure SignatureHistory (made : List Made) (db : Database) : Prop where
  /-- Each signature that was appended has one row, as it was appended first. -/
  rows : db.tables.signatures.map SignatureRow.fresh =
    (made.flatMap Made.appended).eraseDupsBy fun a b => a.key = b.key
  /-- A row is processed if its signature was appended and then marked for its owner. -/
  processed : ∀ row ∈ db.tables.signatures, row.processed ↔ Calls.Marked made row.owner row.key
  /-- Later calls leave a row as it was appended, and a processed row processed. -/
  stays : ∀ later db', Calls db later db' → ∀ row ∈ db.tables.signatures,
    ∃ row' ∈ db'.tables.signatures, row'.fresh = row.fresh ∧ (row.processed → row'.processed)
  /-- The next append tells how many rows it adds; none of them is processed. -/
  appends : ∀ clock address records whole, ∀ (count : Nat) (db' : Database),
    (Call.query (.append address records) whole).Goes clock db (.ok count) db' →
      count + db.tables.signatures.length = db'.tables.signatures.length ∧
      db.tables.signatures.countP (·.processed) = db'.tables.signatures.countP (·.processed)
  /-- The next mark tells how many rows it makes processed; it adds none. -/
  marks : ∀ clock address names whole, ∀ (count : Nat) (db' : Database),
    (Call.query (.mark address names) whole).Goes clock db (.ok count) db' →
      db.tables.signatures.length = db'.tables.signatures.length ∧
      count + db.tables.signatures.countP (·.processed) =
        db'.tables.signatures.countP (·.processed)
  /-- What appends told amounts to the rows, and what marks told to the processed ones. -/
  totals : total (made.map Made.added) = db.tables.signatures.length ∧
    total (made.map Made.flipped) = db.tables.signatures.countP (·.processed)

theorem total_append (counts more : List Nat) :
    total (counts ++ more) = total counts + total more := by
  induction counts with
  | nil => rw [List.nil_append, total_nil, Nat.zero_add]
  | cons n counts ih => rw [List.cons_append, total_cons, total_cons, ih, Nat.add_assoc]

namespace Calls

theorem map_fresh {start : Database} (h : Calls start made db) :
    db.tables.signatures.map SignatureRow.fresh =
      insertAll SignatureRow.key (start.tables.signatures.map SignatureRow.fresh)
        (made.flatMap Made.appended) := by
  induction h with
  | start => rfl
  | next before goes ih =>
    rw [Made.map_fresh goes, ih, List.flatMap_append, List.flatMap_singleton, insertAll_append]

/-- The signatures in the table are those that were appended. -/
theorem mem_keys_signatures (h : Calls (.ready .blank) made db) :
    name ∈ db.tables.signatures.map SignatureRow.key ↔
      name ∈ (made.flatMap Made.appended).map SignatureRow.key := by
  have hkeys : db.tables.signatures.map SignatureRow.key =
      (db.tables.signatures.map SignatureRow.fresh).map SignatureRow.key := by
    rw [List.map_map]
    rfl
  rw [hkeys, h.map_fresh, mem_keys_insertAll]
  simp only [Database.tables, Tables.blank, List.map_nil, List.not_mem_nil, false_or]

theorem signatures_stay {start : Database} (h : Calls start made db) {row : SignatureRow}
    (hrow : row ∈ start.tables.signatures) :
    ∃ row' ∈ db.tables.signatures, row'.fresh = row.fresh ∧ (row.processed → row'.processed) := by
  induction h with
  | start => exact ⟨row, hrow, rfl, id⟩
  | next before goes ih =>
    obtain ⟨mid, hmid, hsame, hprocessed⟩ := ih
    obtain ⟨row', hrow', hsame', hprocessed'⟩ := Made.signatures_stay goes hmid
    exact ⟨row', hrow', hsame'.trans hsame, hprocessed' ∘ hprocessed⟩

theorem signatures_counted (h : Calls (.ready .blank) made db) :
    total (made.map Made.added) = db.tables.signatures.length ∧
      total (made.map Made.flipped) = db.tables.signatures.countP (·.processed) := by
  induction h with
  | start => exact ⟨rfl, rfl⟩
  | next before goes ih =>
    obtain ⟨hadded, hflipped⟩ := Made.signatures_counted _ goes
    simp only [List.map_append, List.map_singleton, total_append, total_cons, total_nil, ih.1, ih.2]
    omega

/-- One more call marks what it names and what is known, beside what was marked before. -/
theorem marked_snoc :
    Marked (made ++ [last]) owner name ↔ Marked made owner name ∨
      name ∈ (made.flatMap Made.appended).map SignatureRow.key ∧ last.marks owner name := by
  constructor
  · rintro ⟨before, mark, after, hsplit, hknown, hmarks⟩
    rcases concat_eq_split.mp hsplit with ⟨rfl, rfl, rfl⟩ | ⟨rest, rfl, rfl⟩
    · exact .inr ⟨hknown, hmarks⟩
    · exact .inl ⟨before, mark, rest, rfl, hknown, hmarks⟩
  · rintro (⟨before, mark, after, rfl, hknown, hmarks⟩ | ⟨hknown, hmarks⟩)
    · exact ⟨before, mark, after ++ [last], by simp, hknown, hmarks⟩
    · exact ⟨made, last, [], rfl, hknown, hmarks⟩

theorem processed_iff (h : Calls (.ready .blank) made db) {row : SignatureRow}
    (hrow : row ∈ db.tables.signatures) : row.processed ↔ Marked made row.owner row.key := by
  induction h generalizing row with
  | start => cases hrow
  | @next made last db db' before goes ih =>
    rw [marked_snoc, ← before.mem_keys_signatures]
    rcases Made.mem_signatures goes hrow with
      ⟨old, hold, howner, hname, hprocessed⟩ | ⟨hnot, hkey⟩
    · have hknown : old.key ∈ db.tables.signatures.map SignatureRow.key := List.mem_map_of_mem hold
      rw [hprocessed, Bool.or_eq_true, ih hold, howner, hname]
      simp only [hknown, true_and]
    · -- a row that is new was not known before, so no call can have marked it
      have hfirst : ¬ Marked made row.owner row.key := by
        rintro ⟨first, mark, rest, rfl, hknown, -⟩
        refine hkey (before.mem_keys_signatures.mpr ?_)
        rw [List.flatMap_append, List.map_append]
        exact List.mem_append_left _ hknown
      simp only [hnot, hfirst, hkey, false_and, or_self, Bool.false_eq_true]

end Calls

/-- After any calls on a store that was empty at first each appended signature has one row, which is
processed from the first mark on that names it. -/
theorem Calls.signature_history (h : Calls (.ready .blank) made db) : SignatureHistory made db where
  rows := h.map_fresh.trans insertAll_nil_eq
  processed _ hrow := h.processed_iff hrow
  stays _ _ hlater _ hrow := hlater.signatures_stay hrow
  appends clock address records whole count db' hgoes := by
    obtain ⟨hadded, hflipped⟩ := Made.signatures_counted
      ⟨clock, .query (.append address records) whole, .ok count⟩ hgoes
    exact ⟨hadded, (Nat.zero_add _).symm.trans hflipped⟩
  marks clock address names whole count db' hgoes := by
    obtain ⟨hadded, hflipped⟩ := Made.signatures_counted
      ⟨clock, .query (.mark address names) whole, .ok count⟩ hgoes
    exact ⟨(Nat.zero_add _).symm.trans hadded, hflipped⟩
  totals := h.signatures_counted

/-- Two addresses share a signature, which the first of them appended twice. A mark for the second
leaves it, as does one that came before it was known. -/
theorem Calls.signature_history_of_two :
    ∃ made db, Calls (.ready .blank) made db ∧ made.length = 5 ∧
      db.tables.signatures.map (fun row => (row.key, row.owner, row.record.slot, row.processed)) =
        [("s", "A", some 1, true), ("t", "B", some 4, false)] ∧
      total (made.map Made.flipped) = 1 := by
  let first : List SignatureRecord := [⟨"s", none, some 1⟩, ⟨"s", none, some 2⟩]
  let second : List SignatureRecord := [⟨"s", none, some 3⟩, ⟨"t", none, some 4⟩]
  have hstored : ∀ p ∈ (Query.append "A" first).parameters 0 ++
      (Query.append "B" second).parameters 5, p.fault? = none := by decide +kernel
  obtain ⟨hfirst, hsecond⟩ := List.forall_mem_append.mp hstored
  have hmarks : ∀ p ∈ (Query.mark "B" ["s"]).parameters 5 ++
      ((Query.mark "B" ["s", "t"]).parameters 0 ++ (Query.mark "A" ["s", "t", "s"]).parameters 5),
      p.fault? = none := by decide +kernel
  obtain ⟨hmark, hmarks⟩ := List.forall_mem_append.mp hmarks
  obtain ⟨hearly, hmine⟩ := List.forall_mem_append.mp hmarks
  have h₀ : Calls (.ready .blank) [] (.ready .blank) := .start
  have h₁ := h₀.next_done (.whole 0) (.append "A" first) (by decide) trivial rfl hfirst trivial
  have h₂ := h₁.next_done (.whole 0) (.mark "B" ["s", "t"]) (by decide) trivial rfl hearly trivial
  have h₃ := h₂.next_done (.whole 5) (.append "B" second) (by decide) trivial rfl hsecond trivial
  have h₄ := h₃.next_done (.whole 5) (.mark "B" ["s"]) (by decide) trivial rfl hmark trivial
  have h := h₄.next_done (.whole 5) (.mark "A" ["s", "t", "s"]) (by decide) trivial rfl hmine
    trivial
  refine ⟨_, _, h, rfl, by decide +kernel, ?_⟩
  rw [(Calls.signature_history h).totals.2]
  decide +kernel

end AddressIndex.Store
