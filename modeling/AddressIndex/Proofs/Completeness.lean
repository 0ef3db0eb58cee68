import AddressIndex.Proofs.Ownership
import AddressIndex.Proofs.Persistence

/-! What a ready job comes to when the node is honest. While a worker indexes the address of a job
nobody else writes for this address, since there is one job for an address and one worker that was
given it. So at the end every signature of the address's history has a row, and those rows that are
the address's own are processed. A signature that two histories share has one row: it belongs to the
address that came first, and only this one has the transaction. -/

namespace AddressIndex

open Store (Database Tables Query Numbered leaseOrder)

/-- A node that keeps to a history of different signatures for each address, tells it page by page
and knows the transactions of all the signatures in it. -/
structure Honest (H : String → List String) (answers : Answers) : Prop where
  distinct : ∀ address, (H address).Nodup
  pages : ∀ request answer, answers request answer → Worker.Tells H request answer
  transactions : ∀ address, ∀ s ∈ H address, ∀ answer, answers (.transaction s) answer →
    ∃ tx status, Rpc.Outcome.ofAnswer s answer = .ok (.fetched tx, status) ∧ tx.signature = s

/-- Whatever came for the signatures holds their transactions. -/
def Trace.Knows (t : Trace) (signatures : List String) : Prop :=
  ∀ s ∈ signatures, ∀ answer, (⟨.ask (.transaction s), answer⟩ : Event) ∈ t →
    ∃ tx status, Rpc.Outcome.ofAnswer s answer = .ok (.fetched tx, status) ∧ tx.signature = s

theorem Trace.Knows.mono {t t' : Trace} {signatures signatures' : List String}
    (h : t.Knows signatures) (ht : t' ⊆ t) (hs : signatures' ⊆ signatures) :
    t'.Knows signatures' :=
  fun s hmem answer hasked => h s (hs hmem) answer (ht hasked)

/-! ### Passes that an honest node serves -/

theorem Rpc.Client.asks_of_receive {client : Client} {answer answer' : Answer}
    (h : client.receive answer = .ok answer') : client.Asks := by
  unfold receive at h
  unfold Asks
  split at h
  · cases h
  next hurl => simp [hurl, Except.isOk, Except.toBool]
  next hurl => simp [hurl, Except.isOk, Except.toBool]

theorem Batch.failed_eq_nil {client : Rpc.Client} {config : Config} {signatures : List String}
    {t : Trace} {result : Result} (htakes : ∀ answer, client.receive answer = .ok answer)
    (hknows : t.Knows signatures)
    (h : (fetchMany (Rpc.Outcome.fetch client) config signatures).run.Runs t (.ok result)) :
    result.failed = [] := by
  obtain ⟨fetches, ⟨rfl, hruns⟩, hcalls, hreports⟩ := runs_fetchMany h
  rw [hreports.failed, List.map_eq_nil_iff, List.eq_nil_iff_forall_not_mem]
  rintro ⟨s, error⟩ hmem
  obtain ⟨f, hf, hsame⟩ := List.mem_map.mp (Fetched.mem_failures.mp hmem)
  obtain ⟨rfl, hfailed⟩ := Prod.mk.inj hsame
  rcases runs_fetchOne (hruns f hf) with ⟨-, answer, hcall, houtcome⟩ | ⟨hasks, -⟩
  · have hasked : (⟨.ask (.transaction f.signature), answer⟩ : Event) ∈ t := by
      refine (Trace.mem_calls.mp ?_).1
      rw [hcalls]
      refine List.mem_flatMap.mpr ⟨f, hf, ?_⟩
      rw [hcall]
      exact List.mem_cons_self
    obtain ⟨tx, status, htx, hsignature⟩ := hknows _ (List.mem_map_of_mem hf) answer hasked
    have hfetched : client.outcome f.signature answer = .fetched tx := by
      unfold Rpc.Client.outcome
      rw [htakes answer]
      change Rpc.Outcome.settled _ ((Rpc.Outcome.ofAnswer f.signature answer).map (·.1)) = _
      rw [htx]
      exact if_pos hsignature
    rw [houtcome, hfetched] at hfailed
    cases hfailed
  · exact absurd (Rpc.Client.asks_of_receive (htakes (.crash ""))) hasks

theorem Worker.Drained.failed_eq_nil {limits : Limits} {address : String}
    {failed leased : List String} {passes : List Pass} {t : Trace}
    (htakes : ∀ answer, limits.client.receive answer = .ok answer)
    (h : Drained limits address failed leased passes t)
    (hknows : t.Knows (passes.flatMap (·.leased))) : passes.flatMap (·.batch.failed) = [] := by
  induction h with
  | done _ => rfl
  | pass _ hpass _ ih =>
    obtain ⟨t₁, t₂, t₃, t₄, saved, rfl, hfetch, -⟩ := runs_runPass hpass
    rw [List.flatMap_cons, List.append_eq_nil_iff]
    rw [List.flatMap_cons] at hknows
    constructor
    · refine Batch.failed_eq_nil htakes (hknows.mono ?_ (List.subset_append_left _ _)) hfetch
      exact List.Subset.trans (List.subset_append_left _ _) (List.subset_append_left _ _)
    · refine ih (hknows.mono ?_ (List.subset_append_right _ _))
      exact List.Subset.trans (List.subset_cons_self _ _) (List.subset_append_right _ _)

section Pool

variable {ι : Type} [DecidableEq ι] {answers : Answers} {database : Database}
  {config : ι → Worker.Config} {limit : ι → Nat} {state : ι → Worker.State}
  {pool pool' : Pool ι (Except Fault Unit × Worker.State)} {history : History ι} {i j : ι}
  {H : String → List String}

/-! ### Where rows come from -/

/-- A signature row is of the history of an address that has a job, as the node tells it, and a
transaction has the signature row of its address. -/
structure Grounded (H : String → List String) (tables : Tables) : Prop where
  tracked : ∀ row ∈ tables.signatures, ∃ job ∈ tables.jobs, job.address = row.owner
  signatures : ∀ row ∈ tables.signatures, row.key ∈ H row.owner
  transactions : ∀ row ∈ tables.transactions, ∃ sig ∈ tables.signatures,
    sig.owner = row.owner ∧ sig.key = row.signature

theorem Grounded.step {who : Option ι} {ev : Event} (hnode : Honest H answers)
    (hkeyed : database.tables.Keyed) (hnumbered : Numbered database.tables.jobs)
    (inv : Grounded H pool.database.tables)
    (r : Pool.Reaches answers (Worker.pool database config limit state) history pool)
    (step : pool.Step answers (who, ev) pool') : Grounded H pool'.database.tables where
  tracked row hrow := by
    refine step.happens.address_stays (r.numbered hnumbered) ?_
    obtain hrow | ⟨_, _, _, -, -, -, hold⟩ | ⟨i, records, count, rfl, rfl, -⟩ := step.signature hrow
    · exact inv.tracked row hrow
    · have htracked := inv.tracked _ hold
      exact htracked
    · obtain ⟨job, hheld, haddress⟩ := r.heedful step
      obtain ⟨taken, htaken, -, hsame⟩ := r.row_of_held hnumbered hheld
      exact ⟨taken, htaken, hsame.trans haddress⟩
  signatures row hrow := by
    obtain hrow | ⟨_, _, _, -, -, -, hold⟩ | ⟨i, records, count, rfl, rfl, hrecord, -⟩ :=
      step.signature hrow
    · exact inv.signatures row hrow
    · have htold := inv.signatures _ hold
      exact htold
    · -- what is appended was told by the node on a page of the history
      obtain ⟨before, answer, status, hasked, hrecords⟩ := r.faithful step
      obtain ⟨status', records', hrecords', hnames⟩ :=
        hnode.pages _ _ (r.answered (History.mem_own.mp hasked))
          (config i).limits.client.pageSize_range.1
      cases hrecords.symm.trans hrecords'
      have hname : row.key ∈ records.map (·.signature) := List.mem_map_of_mem hrecord
      rw [hnames] at hname
      exact Worker.older_subset _ _ (List.mem_of_mem_take hname)
  transactions row hrow := by
    obtain ⟨sig, hsig, howner, hkey⟩ : ∃ sig ∈ pool.database.tables.signatures,
        sig.owner = row.owner ∧ sig.key = row.signature := by
      rcases step.transaction hrow with hrow | ⟨i, ts, count, rfl, rfl, now, t, ht, hrow⟩
      · exact inv.transactions row hrow
      · obtain ⟨leased, pass, hpass, hsaved⟩ := r.faithful step
        obtain ⟨hnodup, hleased⟩ := r.leased hkeyed hpass
        obtain ⟨s, hs, tx, found, hfetched, hfound, rfl⟩ := hsaved hnodup t ht
        obtain ⟨sig, hsig, howner, hkey⟩ := hleased s hs
        refine ⟨sig, hsig, howner, hkey.trans ?_⟩
        rw [hrow]
        exact (hfetched.signature hfound).symm
    obtain ⟨sig', hsig', howner', hrecord', -⟩ := step.happens.grows.signatures sig hsig
    exact ⟨sig', hsig', howner'.trans howner,
      (congrArg SignatureRecord.signature hrecord').trans hkey⟩

theorem Grounded.reached (hnode : Honest H answers)
    (r : Pool.Reaches answers (Worker.pool (.ready .blank) config limit state) history pool) :
    Grounded H pool.database.tables := by
  induction r with
  | refl => exact ⟨(fun _ h => nomatch h), (fun _ h => nomatch h), fun _ h => nomatch h⟩
  | step r step ih => exact ih.step hnode .blank .blank r step

/-- What was appended has a row from then on. -/
theorem Pool.Reaches.appended {ρ : Type} {start pool : Pool ι ρ} {address s : String}
    (r : Pool.Reaches answers start history pool)
    (h : Worker.Appended address (history.own i) s) :
    ∃ row ∈ pool.database.tables.signatures, row.key = s := by
  obtain ⟨records, count, hmem, hs⟩ := h
  obtain ⟨h₁, h₂, rfl⟩ := List.append_of_mem (History.mem_own.mp hmem)
  obtain ⟨before, after, -, step, r₂⟩ := r.split_at
  obtain ⟨now, -, hafter⟩ := Event.Happens.of_reply step.happens
  have hkey : s ∈ after.database.tables.signatures.map Store.SignatureRow.key := by
    rw [hafter]
    obtain ⟨record, hrecord, rfl⟩ := List.mem_map.mp hs
    exact Store.mem_keys_insertAll.mpr (.inr (List.mem_map.mpr
      ⟨_, List.mem_map_of_mem hrecord, rfl⟩))
  obtain ⟨row, hrow, rfl⟩ := List.mem_map.mp hkey
  obtain ⟨row', hrow', -, hrecord, -⟩ := r₂.grows.signatures row hrow
  exact ⟨row', hrow', congrArg SignatureRecord.signature hrecord⟩

/-! ### One worker for an address -/

/-- Two workers do not hold jobs for one address. -/
theorem Pool.Reaches.holds_alone {job job' : Job} (hnumbered : Numbered database.tables.jobs)
    (haddresses : (database.tables.jobs.map (·.address)).Nodup)
    (r : Pool.Reaches answers (Worker.pool database config limit state) history pool)
    (hheld : (history.own i).held = some job) (hheld' : (history.own j).held = some job')
    (hsame : job.address = job'.address) : i = j := by
  obtain ⟨row, hrow, hid, haddress⟩ := r.row_of_held hnumbered hheld
  obtain ⟨row', hrow', hid', haddress'⟩ := r.row_of_held hnumbered hheld'
  have hrows : row = row' := List.inj_on_of_nodup_map (r.addresses hnumbered haddresses) hrow hrow'
    (haddress.trans (hsame.trans haddress'.symm))
  exact r.held_once hnumbered hheld hheld' (by rw [← hid, hrows, hid'])

/-- While a worker does nothing but index the address of the job that it holds, nobody else writes
to the history of the address. -/
theorem Pool.Reaches.served_alone {h₁ h₂ : History ι} {job : Job}
    {mid : Pool ι (Except Fault Unit × Worker.State)} (hnumbered : Numbered database.tables.jobs)
    (haddresses : (database.tables.jobs.map (·.address)).Nodup)
    (r₁ : Pool.Reaches answers (Worker.pool database config limit state) h₁ mid)
    (r₂ : Pool.Reaches answers mid h₂ pool) (hheld : (History.own i h₁).held = some job)
    (hindexes : ∀ ev ∈ History.own i h₂, ev.effect.Indexes job.address) :
    Served answers (Store.KeepsHistory job.address) mid.database (History.own i h₂)
      pool.database := by
  refine r₂.served (fun _ => rfl) (fun hab hbc => Eq.trans hbc hab)
    fun who ev before after hmem hwho happens => happens.historyOf fun hwrites => ?_
  obtain ⟨x, y, rfl⟩ := List.append_of_mem hmem
  obtain ⟨p, p', r₃, step, -⟩ := r₂.split_at
  have r := r₁.trans r₃
  cases who with
  | none =>
    cases step
    exact hwrites
  | some j =>
    have hstill : (History.own i (h₁ ++ x)).held = some job := by
      rw [History.own_append, Trace.held_append_of_not_writes, hheld]
      refine fun ev hev => (hindexes ev ?_).not_writesJobs
      rw [History.own_append]
      exact List.mem_append_left _ hev
    -- another who writes for the address holds a job for it as well
    obtain ⟨job', hheld', haddress⟩ := (r.heedful step).writes hwrites
    exact hwho (congrArg some (r.holds_alone hnumbered haddresses hheld' hstill haddress))

/-! ### Ready jobs -/

theorem Worker.HasIndexed.append {limits : Worker.Limits} {past later : Trace} {job : Job}
    (h : Worker.HasIndexed limits past job) : Worker.HasIndexed limits (past ++ later) job := by
  obtain ⟨before, t, after, counts, rfl, hrest⟩ := h
  exact ⟨before, t, after ++ later, counts, by simp, hrest⟩

/-- A job that is ready was so before the step, or the worker that holds it has indexed it. -/
theorem Pool.Step.ready {who : Option ι} {ev : Event} {row : Job}
    (hnumbered : Numbered database.tables.jobs)
    (r : Pool.Reaches answers (Worker.pool database config limit state) history pool)
    (step : pool.Step answers (who, ev) pool') (hrow : row ∈ pool'.database.tables.jobs)
    (hready : row.status = .ready) :
    row ∈ pool.database.tables.jobs ∨ ∃ i job, row.owner = some (config i).owner ∧
      job.address = row.address ∧ Worker.HasIndexed (config i).limits (history.own i) job := by
  have happens : ev.Happens answers pool.database pool'.database := step.happens
  have hnumbered' := r.numbered hnumbered
  rcases happens.cases with ⟨q, reply, now, rfl, -, hafter⟩ | ⟨-, hafter⟩
  · rw [hafter] at hrow
    obtain hrow | ⟨_, rfl, -, -, hpending, -⟩ | ⟨id, worker, owner, rfl, htaken⟩ |
      ⟨word, worker, owner, status, rfl, hword, old, hold, hheldBy, hnew⟩ :=
        Query.job_of_next hnumbered' hrow
    · exact .inl hrow
    · rw [hpending] at hready
      cases hready
    · obtain ⟨_, -, -, -, hnew⟩ := Query.granted_some htaken
      rw [hnew] at hready
      cases hready
    · obtain ⟨i, rfl⟩ := step.program nofun
      obtain ⟨-, rfl, job, status', hheld, hid, rfl, hended⟩ := r.heedful step
      rw [JobStatus.ofWord?_word] at hword
      obtain rfl := Option.some.inj hword
      rw [hnew] at hready
      rcases hended with rfl | ⟨-, hindexed⟩
      · cases hready
      -- the row that is updated is that of the job that the worker holds
      obtain ⟨taken, htaken, hsame, haddress⟩ := r.row_of_held hnumbered hheld
      rw [hnew] at hid ⊢
      obtain rfl := hnumbered'.eq_of_id hold htaken (hsame.trans hid).symm
      exact .inr ⟨i, job, (Job.heldBy_some hheldBy).2, haddress.symm, hindexed⟩
  · rw [hafter] at hrow
    exact .inl hrow

/-- A job that is ready was indexed by the worker whose tag it bears. -/
theorem Pool.Reaches.ready_was_indexed {row : Job}
    (r : Pool.Reaches answers (Worker.pool (.ready .blank) config limit state) history pool)
    (hrow : row ∈ pool.database.tables.jobs) (hready : row.status = .ready) :
    ∃ i job, row.owner = some (config i).owner ∧ job.address = row.address ∧
      Worker.HasIndexed (config i).limits (history.own i) job := by
  induction r with
  | refl => cases hrow
  | step r step ih =>
    obtain ⟨i, job, howner, haddress, hindexed⟩ := (step.ready .blank r hrow hready).elim ih id
    refine ⟨i, job, howner, haddress, ?_⟩
    rw [History.own_append]
    exact hindexed.append

/-- What an address comes to that was indexed with an honest node, if the pages sufficed. -/
theorem Pool.Reaches.indexed_is_complete {job : Job} (hnode : Honest H answers)
    (r : Pool.Reaches answers (Worker.pool (.ready .blank) config limit state) history pool)
    (hindexed : Worker.HasIndexed (config i).limits (history.own i) job)
    (hlimit : 1 ≤ (config i).limits.leaseLimit)
    (hpages : (H job.address).length <
      (config i).limits.maxPages.toNat * (config i).limits.client.pageSize.toNat) :
    ∀ s ∈ H job.address, ∃ row ∈ pool.database.tables.signatures, row.key = s ∧
      (row.owner = job.address →
        (job.address, s) ∈ pool.database.tables.transactions.map Store.TransactionRow.key) := by
  obtain ⟨before, t, later, counts, hown, hheld, hruns⟩ := hindexed
  obtain ⟨t₁, t₂, rfl, hpaging, hdraining⟩ := Worker.runs_index hruns
  obtain ⟨h₀, after, rfl, rfl, hafter⟩ := History.own_eq_append hown
  rw [List.append_assoc] at hafter
  obtain ⟨h₁, after', rfl, rfl, hafter'⟩ := History.own_eq_append hafter
  obtain ⟨h₂, h₃, rfl, rfl, -⟩ := History.own_eq_append hafter'
  obtain ⟨p₀, r₀, r⟩ := r.split
  obtain ⟨p₁, r₁, r⟩ := r.split
  obtain ⟨p₂, r₂, r₃⟩ := r.split
  have r₀₁ := r₀.trans r₁
  have r₀₁₂ := r₀₁.trans r₂
  -- the pages are stored
  obtain ⟨-, hstores⟩ := Worker.syncPages_stores (hnode.distinct job.address)
    (List.nil_append _).symm rfl
    (fun _ _ hmem => hnode.pages _ _ (r₁.answered (History.mem_own.mp hmem))) hpaging rfl
  obtain ⟨hstored, htakes⟩ := hstores hpages
  -- and then drained, while nobody else writes for the address
  have hindexes : ∀ ev ∈ History.own i h₁ ++ History.own i h₂, ev.effect.Indexes job.address :=
    Worker.only_indexes.runs hruns
  have hstill : (History.own i (h₀ ++ h₁)).held = some job := by
    rw [History.own_append, Trace.held_append_of_not_writes, hheld]
    exact fun ev hev => (hindexes ev (List.mem_append_left _ hev)).not_writesJobs
  have hserved := r₀₁.served_alone .blank .nil r₂ hstill fun ev hev =>
    hindexes ev (List.mem_append_right _ hev)
  obtain ⟨lease, passes, t', hown₂, -, hdrains⟩ := Worker.syncTransactions_drains hlimit
    (r₀₁.keyed .blank).signatures hdraining hserved
  have hknows : Trace.Knows t' (passes.flatMap (·.leased)) := by
    rw [hdrains.fetched hlimit]
    intro s hs answer hmem
    obtain ⟨row, hrow, hwaiting, rfl, -⟩ := Store.mem_leaseOrder.mp hs
    have hasked := List.mem_cons_of_mem
      ⟨.query (.lease job.address (config i).limits.leaseLimit []), .ok lease⟩ hmem
    rw [← hown₂] at hasked
    exact hnode.transactions row.owner row.key
      ((Grounded.reached hnode r₀₁).signatures row hrow) answer
      (r₂.answered (History.mem_own.mp hasked))
  have hdone : leaseOrder p₂.database.tables.signatures job.address [] = [] := by
    rw [hdrains.left, hdrains.loop.failed_eq_nil htakes hknows]
    rfl
  intro s hs
  have happended : Worker.Appended job.address (History.own i (h₀ ++ h₁ ++ h₂)) s := by
    rw [History.own_append, History.own_append]
    exact ((hstored s hs).append_right).append_left
  obtain ⟨row, hrow, rfl⟩ := r₀₁₂.appended happended
  obtain ⟨row', hrow', howner, hrecord, -⟩ := r₃.grows.signatures row hrow
  refine ⟨row', hrow', congrArg SignatureRecord.signature hrecord, fun hsame => ?_⟩
  rw [howner] at hsame
  have hprocessed : row.processed := by
    by_contra hwaits
    have hwaiting : row.key ∈ leaseOrder p₂.database.tables.signatures job.address [] :=
      Store.mem_leaseOrder.mpr ⟨row, hrow, by simp [Store.SignatureRow.isWaiting, hsame, hwaits],
        rfl, List.not_mem_nil⟩
    rw [hdone] at hwaiting
    cases hwaiting
  obtain ⟨found, -, hsignature, hholds⟩ :=
    (Persistent.reached r₀₁₂).processed row hrow hprocessed
  have htransaction := (hholds.grows r₃.grows).transaction
  rwa [hsame, hsignature] at htransaction

/-- Every signature in the history of an address whose job is ready has one row, which belongs to an
address with a job in whose history the signature is. The first address has the transaction if and
only if the row is its own; so it has those of all signatures that no other address shares. -/
theorem Pool.Reaches.ready_is_complete {job : Job} (hnode : Honest H answers)
    (r : Pool.Reaches answers (Worker.pool (.ready .blank) config limit state) history pool)
    (hjob : job ∈ pool.database.tables.jobs) (hready : job.status = .ready)
    (hlimits : ∀ i, job.owner = some (config i).owner → 1 ≤ (config i).limits.leaseLimit ∧
      (H job.address).length <
        (config i).limits.maxPages.toNat * (config i).limits.client.pageSize.toNat) :
    ∀ s ∈ H job.address, ∃ row ∈ pool.database.tables.signatures, row.key = s ∧
      (∀ other ∈ pool.database.tables.signatures, other.key = s → other = row) ∧
      s ∈ H row.owner ∧ (∃ other ∈ pool.database.tables.jobs, other.address = row.owner) ∧
      ((job.address, s) ∈ pool.database.tables.transactions.map Store.TransactionRow.key ↔
        row.owner = job.address) := by
  intro s hs
  obtain ⟨i, held, howner, haddress, hindexed⟩ := r.ready_was_indexed hjob hready
  obtain ⟨hlimit, hpages⟩ := hlimits i howner
  rw [← haddress] at hs hpages ⊢
  obtain ⟨row, hrow, rfl, hown⟩ := r.indexed_is_complete hnode hindexed hlimit hpages s hs
  have hgrounded := Grounded.reached hnode r
  have honly : ∀ other ∈ pool.database.tables.signatures, other.key = row.key → other = row :=
    fun other hother hkey =>
      List.inj_on_of_nodup_map (r.keyed .blank).signatures hother hrow hkey
  refine ⟨row, hrow, rfl, honly, hgrounded.signatures row hrow, hgrounded.tracked row hrow, ?_,
    hown⟩
  intro hheld
  -- the address of a transaction has a row of the signature, and this is the only one
  obtain ⟨transaction, htransaction, hkey⟩ := List.mem_map.mp hheld
  obtain ⟨sig, hsig, hsame, hname⟩ := hgrounded.transactions transaction htransaction
  obtain ⟨hfirst, hsecond⟩ := Prod.mk.inj hkey
  obtain rfl := honly sig hsig (hname.trans hsecond)
  exact hsame.trans hfirst

end Pool

/-! ### Two addresses with one signature -/

theorem Sample.names_of_records {r : Except Fault (Int × List SignatureRecord)}
    {names : List String} (h : r.toOption.map (fun r => r.2.map (·.signature)) = some names) :
    ∃ status records, r = .ok (status, records) ∧ records.map (·.signature) = names := by
  cases r with
  | error _ => cases h
  | ok result => exact ⟨result.1, result.2, rfl, Option.some.inj h⟩

/-- What the sample node tells does not depend on the address. -/
theorem Sample.page (address : String) (before : Option String) (limit : Int) :
    ∃ status records, Rpc.Page.recordsOf (.signatures address before limit)
        (node (.signatures address before limit)) = .ok (status, records) ∧
      records.map (·.signature) = if before.isNone then ["s"] else [] := by
  cases before with
  | none =>
    have hnames : (Rpc.Page.recordsOf (.signatures "" none 0)
        (node (.signatures "" none 0))).toOption.map (fun r => r.2.map (·.signature)) =
          some ["s"] := by
      decide +kernel
    exact names_of_records hnames
  | some bound =>
    have hnames : (Rpc.Page.recordsOf (.signatures "" (some "") 0)
        (node (.signatures "" (some "") 0))).toOption.map (fun r => r.2.map (·.signature)) =
          some [] := by
      decide +kernel
    exact names_of_records hnames

/-- The sample node keeps to the history of one signature for every address. -/
theorem Sample.honest :
    Honest (fun _ => ["s"]) fun request answer => answer = Sample.node request where
  distinct _ := List.nodup_singleton "s"
  pages := by
    rintro (⟨address, before, limit⟩ | _) _ rfl
    · intro hlimit
      obtain ⟨status, records, hrecords, hnames⟩ := page address before limit
      refine ⟨status, records, hrecords, hnames.trans ?_⟩
      obtain ⟨n, hn⟩ : ∃ n, limit.toNat = n + 1 := ⟨limit.toNat - 1, by omega⟩
      rw [hn]
      cases before with
      | none => simp [Worker.older]
      | some bound => by_cases h : "s" = bound <;> simp [Worker.older, h]
    · trivial
  transactions := by
    rintro _ s hs _ rfl
    obtain rfl := List.mem_singleton.mp hs
    have hsignature : (Rpc.Outcome.ofAnswer "s" (node (.transaction "s"))).toOption.map (fun r =>
        (Batch.Fetched.ofOutcomes [("s", r.1)]).successes.map (·.2.signature)) = some ["s"] := by
      decide +kernel
    cases h : Rpc.Outcome.ofAnswer "s" (node (.transaction "s")) with
    | error fault =>
      rw [h] at hsignature
      cases hsignature
    | ok result =>
      rw [h] at hsignature
      obtain ⟨tx | error, status⟩ := result
      · exact ⟨tx, status, rfl, List.singleton_inj.mp (Option.some.inj hsignature)⟩
      · cases hsignature

/-- One worker indexes an address, then another worker a second address with the same history. -/
def sampleTurns : List (Turn (Fin 2)) :=
  .handIn "A" :: List.replicate 20 (.work ⟨0, by decide⟩) ++
    .handIn "B" :: List.replicate 20 (.work ⟨1, by decide⟩)

theorem sampleTurns_jobs :
    (turns sampleTurns (Sample.world (.ready .blank)) Sample.workers).1.database.tables.jobs.map
      (fun job => (job.address, job.status)) = [("A", .ready), ("B", .ready)] := by
  decide +kernel

/-- The address that came first has the row of the signature that both have. -/
theorem ready_is_complete_of_two :
    ∃ history pool, Pool.Reaches (fun request answer => answer = Sample.node request)
        (Worker.pool (.ready .blank) Sample.config (fun _ => 3) fun _ => Sample.state)
        history pool ∧
      ∃ job ∈ pool.database.tables.jobs, job.address = "A" ∧ job.status = .ready ∧
        ∃ row ∈ pool.database.tables.signatures, row.key = "s" ∧
          ((job.address, "s") ∈ pool.database.tables.transactions.map Store.TransactionRow.key ↔
            row.owner = job.address) := by
  obtain ⟨history, r⟩ := reaches_turns (Sample.within (.ready .blank)) Sample.workers sampleTurns
  have hjobs := sampleTurns_jobs
  generalize turns sampleTurns (Sample.world (.ready .blank)) Sample.workers = last at r hjobs
  obtain ⟨job, rest, hall, hjob, -⟩ := List.map_eq_cons_iff.mp hjobs
  obtain ⟨haddress, hready⟩ := Prod.mk.inj hjob
  have hmem : job ∈ last.1.database.tables.jobs := by
    rw [hall]
    exact List.mem_cons_self
  have hlimits : ∀ i, 1 ≤ (Sample.config i).limits.leaseLimit ∧ ["s"].length <
      (Sample.config i).limits.maxPages.toNat * (Sample.config i).limits.client.pageSize.toNat := by
    decide
  obtain ⟨row, hrow, hkey, -, -, -, hiff⟩ :=
    Pool.Reaches.ready_is_complete Sample.honest r hmem hready (fun i _ => hlimits i) "s"
      List.mem_cons_self
  exact ⟨history, _, r, job, hmem, haddress, hready, row, hrow, hkey, hiff⟩

/-- A ready address need not have all the transactions of its history: another one may have the row
of a signature that both share. -/
theorem ready_shares_signatures :
    ¬ ∀ (H : String → List String) (answers : Answers) (history : History (Fin 2))
      (pool : Pool (Fin 2) (Except Fault Unit × Worker.State)) (job : Job), Honest H answers →
      Pool.Reaches answers
        (Worker.pool (.ready .blank) Sample.config (fun _ => 3) fun _ => Sample.state)
        history pool →
      job ∈ pool.database.tables.jobs → job.status = .ready →
      (H job.address).length <
        Sample.limits.maxPages.toNat * Sample.limits.client.pageSize.toNat →
      ∀ s ∈ H job.address,
        (job.address, s) ∈ pool.database.tables.transactions.map Store.TransactionRow.key := by
  intro hall
  obtain ⟨history, r⟩ := reaches_turns (Sample.within (.ready .blank)) Sample.workers sampleTurns
  have hjobs := sampleTurns_jobs
  have htransactions : (turns sampleTurns (Sample.world (.ready .blank))
      Sample.workers).1.database.tables.transactions.map Store.TransactionRow.key =
        [("A", "s")] := by
    decide +kernel
  generalize turns sampleTurns (Sample.world (.ready .blank)) Sample.workers = last
    at r hjobs htransactions
  obtain ⟨first, rest, hfirst, -, hrest⟩ := List.map_eq_cons_iff.mp hjobs
  obtain ⟨job, rest', rfl, hjob, -⟩ := List.map_eq_cons_iff.mp hrest
  obtain ⟨haddress, hready⟩ := Prod.mk.inj hjob
  have hmem : job ∈ last.1.database.tables.jobs := by
    rw [hfirst]
    simp
  have hheld := hall (fun _ => ["s"]) _ history _ job Sample.honest r hmem hready (by decide) "s"
    List.mem_cons_self
  dsimp only at hheld
  rw [htransactions, haddress] at hheld
  simp at hheld

end AddressIndex
