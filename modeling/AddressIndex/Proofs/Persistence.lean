import AddressIndex.Proofs.Calls
import AddressIndex.Proofs.Execution
import AddressIndex.Proofs.Pages
import AddressIndex.Proofs.Poll

/-! What is stored before a signature is marked. A worker writes only what the node told it: the
records of a page, and in each pass the transactions that it fetched in this pass. A signature is
marked when its transaction was saved; so whatever the order of steps and whatever fails, a
processed signature has its transaction in the tables, with all that was derived from it. -/

namespace AddressIndex

open Store (Database Tables Query)

/-- The transaction that came for a signature: something came, and whatever came holds it. -/
structure Trace.Fetched (client : Rpc.Client) (t : Trace) (s : String) (tx : Transaction) :
    Prop where
  asked : ∃ answer, (⟨.ask (.transaction s), answer⟩ : Event) ∈ t
  holds : ∀ answer, (⟨.ask (.transaction s), answer⟩ : Event) ∈ t →
    client.outcome s answer = .fetched tx

/-- What was fetched for a signature goes by it. -/
theorem Trace.Fetched.signature {client : Rpc.Client} {t : Trace} {s : String} {tx : Transaction}
    {found : Indexed} (h : t.Fetched client s tx)
    (hfound : Indexed.ofTransaction tx s = .ok found) :
    found.signature = s := by
  obtain ⟨answer, hmem⟩ := h.asked
  have hsame : tx.signature = s := (Rpc.Client.outcome_fetched (h.holds answer hmem)).1
  unfold Indexed.ofTransaction at hfound
  cases htransfers : Indexed.transfersOf tx with
  | error _ =>
    rw [htransfers] at hfound
    cases hfound
  | ok transfers =>
    rw [htransfers] at hfound
    cases hfound
    simp [Indexed.of, hsame]

/-- One more event that asks nothing. -/
theorem Trace.Fetched.snoc {client : Rpc.Client} {t : Trace} {s : String} {tx : Transaction}
    {q : Query} {reply : Except Store.Fault q.Reply} (h : t.Fetched client s tx) :
    Trace.Fetched client (t ++ [⟨.query q, reply⟩]) s tx := by
  obtain ⟨⟨answer, hmem⟩, holds⟩ := h
  refine ⟨⟨answer, List.mem_append_left _ hmem⟩, fun answer' hmem' => holds answer' ?_⟩
  rcases List.mem_append.mp hmem' with hmem' | hmem'
  · exact hmem'
  · obtain ⟨⟩ := List.mem_singleton.mp hmem'

namespace Batch

variable {client : Rpc.Client} {config : Config} {signatures : List String} {t : Trace}
  {result : Result}

theorem fetched_of_outcome {fetches : List Fetch} {s : String} {tx : Transaction}
    (hnodup : (fetches.map (·.signature)).Nodup)
    (hruns : ∀ f ∈ fetches,
      (fetchOne (Rpc.Outcome.fetch client) f.signature).Runs f.trace f.outcome)
    (hcalls : t.calls = Fetch.calls fetches)
    (h : (s, .fetched tx) ∈ Fetch.outcomes fetches) :
    s ∈ fetches.map (·.signature) ∧ t.Fetched client s tx := by
  obtain ⟨f, hf, hsame⟩ := List.mem_map.mp h
  obtain ⟨rfl, hfetched⟩ := Prod.mk.inj hsame
  rcases runs_fetchOne (hruns f hf) with ⟨-, answer, hcall, houtcome⟩ | ⟨-, -, _, hfailed⟩
  · refine ⟨List.mem_map_of_mem hf, ⟨answer, ?_⟩, fun answer' hmem => ?_⟩
    · refine (Trace.mem_calls.mp ?_).1
      rw [hcalls]
      refine List.mem_flatMap.mpr ⟨f, hf, ?_⟩
      rw [hcall]
      exact List.mem_cons_self
    · -- only the fetch of this signature asks for it
      have hmem' : (⟨.ask (.transaction f.signature), answer'⟩ : Event) ∈ t.calls :=
        Trace.mem_calls.mpr ⟨hmem, rfl⟩
      rw [hcalls] at hmem'
      obtain ⟨f', hf', hmem'⟩ := List.mem_flatMap.mp hmem'
      rcases runs_fetchOne (hruns f' hf') with ⟨-, answer'', hcall', -⟩ | ⟨-, hcall', -⟩
      · rw [hcall'] at hmem'
        have heffect := congrArg Event.effect (List.mem_singleton.mp hmem')
        have hsignature : f.signature = f'.signature := by simpa using heffect
        obtain rfl := List.inj_on_of_nodup_map hnodup hf hf' hsignature
        rw [hcall'] at hcall
        cases hcall
        obtain ⟨⟩ := List.mem_singleton.mp hmem'
        rw [← houtcome, hfetched]
      · rw [hcall'] at hmem'
        cases hmem'
  · rw [hfetched] at hfailed
    cases hfailed

/-- What a batch holds was fetched in it, and indexed. -/
theorem fetched_of_runs (hnodup : signatures.Nodup)
    (h : (fetchMany (Rpc.Outcome.fetch client) config signatures).run.Runs t (.ok result)) :
    (∀ s ∈ result.processed, s ∈ signatures ∧ ∃ tx, t.Fetched client s tx ∧
      ∃ found ∈ result.succeeded, Indexed.ofTransaction tx s = .ok found) ∧
    ∀ found ∈ result.succeeded, ∃ s ∈ signatures, ∃ tx, t.Fetched client s tx ∧
      Indexed.ofTransaction tx s = .ok found := by
  obtain ⟨fetches, ⟨rfl, hruns⟩, hcalls, hreports⟩ := runs_fetchMany h
  have hfetched (s : String) (tx : Transaction)
      (hmem : (s, tx) ∈ (Fetched.ofOutcomes (Fetch.outcomes fetches)).successes) :=
    fetched_of_outcome hnodup hruns hcalls (Fetched.mem_successes.mp hmem)
  constructor
  · intro s hs
    rw [hreports.processed] at hs
    obtain ⟨⟨_, tx⟩, hmem, rfl⟩ := List.mem_map.mp hs
    obtain ⟨found, hfound, hindexed⟩ := Except.partner_of_mem hreports.succeeded hmem
    exact ⟨(hfetched _ tx hmem).1, tx, (hfetched _ tx hmem).2, found, hfound, hindexed⟩
  · intro found hfound
    obtain ⟨⟨s, tx⟩, hmem, hindexed⟩ := Except.partner_of_mem hreports.succeeded.flip hfound
    exact ⟨s, (hfetched s tx hmem).1, tx, (hfetched s tx hmem).2, hindexed⟩

end Batch

/-! ### What a worker writes -/

/-- Whether the effect asks the store for a lease. -/
def Effect.Leases : Effect → Prop
  | .query (.lease _ _ _) => True
  | _ => False

/-- The pass that is under way at the end of `past`: what was leased for an address, and what was
done since. -/
def Trace.InPass (past : Trace) (address : String) (leased : List String) (pass : Trace) : Prop :=
  (∃ earlier limit exclude lease,
    past = earlier ++ ⟨.query (.lease address limit exclude), .ok lease⟩ :: pass ∧
      lease.signatures = leased) ∧
    ∀ ev ∈ pass, ¬ ev.effect.Leases

theorem Trace.InPass.append {address : String} {leased : List String} {pass past t : Trace}
    (h : past.InPass address leased pass) (hnot : ∀ ev ∈ t, ¬ ev.effect.Leases) :
    InPass (past ++ t) address leased (pass ++ t) := by
  obtain ⟨⟨earlier, limit, exclude, lease, rfl, hleased⟩, hpass⟩ := h
  refine ⟨⟨earlier, limit, exclude, lease, by simp, hleased⟩, fun ev hev => ?_⟩
  rcases List.mem_append.mp hev with hev | hev
  · exact hpass ev hev
  · exact hnot ev hev

theorem Trace.InPass.start {address : String} {past : Trace} {limit : Int} {exclude : List String}
    {lease : Store.Lease} :
    InPass (past ++ [⟨.query (.lease address limit exclude), .ok lease⟩]) address
      lease.signatures [] :=
  ⟨⟨past, limit, exclude, lease, rfl, rfl⟩, by simp⟩

theorem Trace.InPass.subset {address : String} {leased : List String} {pass past : Trace}
    (h : past.InPass address leased pass) : pass ⊆ past := by
  obtain ⟨⟨earlier, _, _, _, rfl, -⟩, -⟩ := h
  exact fun ev hev => List.mem_append_right _ (List.mem_cons_of_mem _ hev)

/-- What was fetched for a signature, as it is saved for an address. -/
def Trace.Brought (client : Rpc.Client) (pass : Trace) (address s : String) (t : Indexed) : Prop :=
  ∃ tx found, pass.Fetched client s tx ∧ Indexed.ofTransaction tx s = .ok found ∧
    t = found.direct address

theorem Trace.Brought.snoc {client : Rpc.Client} {pass : Trace} {address s : String} {t : Indexed}
    {q : Query} {reply : Except Store.Fault q.Reply} (h : pass.Brought client address s t) :
    Trace.Brought client (pass ++ [⟨.query q, reply⟩]) address s t := by
  obtain ⟨tx, found, hfetched, hfound⟩ := h
  exact ⟨tx, found, hfetched.snoc, hfound⟩

namespace Worker

/-- A worker appends the records of a page that the node told it. It saves what it fetched in the
pass for signatures that were leased, and marks signatures when what it fetched for them was saved
in the pass. -/
def Faithful (client : Rpc.Client) (past : Trace) : Effect → Prop
  | .query (.append address records) =>
    ∃ before answer status,
      (⟨.ask (.signatures address before client.pageSize), answer⟩ : Event) ∈ past ∧
      Rpc.Page.recordsOf (.signatures address before client.pageSize) answer =
        .ok (status, records)
  | .query (.save address ts) =>
    ∃ leased pass, past.InPass address leased pass ∧
      (leased.Nodup → ∀ t ∈ ts, ∃ s ∈ leased, pass.Brought client address s t)
  | .query (.mark address names) =>
    ∃ leased pass, past.InPass address leased pass ∧
      (leased.Nodup → ∀ s ∈ names, s ∈ leased ∧ ∃ ts count,
        (⟨.query (.save address ts), .ok count⟩ : Event) ∈ pass ∧
        ∃ t ∈ ts, pass.Brought client address s t)
  | _ => True

section Faithful

variable {client : Rpc.Client} {limits : Limits} {address : String} {past : Trace}
  {leased failed : List String} {sync : TransactionSync}

/-- Effects that `Faithful` says nothing about. -/
def Free : Effect → Prop
  | .query (.append _ _) | .query (.save _ _) | .query (.mark _ _) => False
  | _ => True

theorem faithful_of_free {effect : Effect} (h : Free effect) : Faithful client past effect := by
  cases effect with
  | query q =>
    cases q with
    | append | save | mark => exact h.elim
    | _ => trivial
  | _ => trivial

theorem heeds_of_free {α : Type} {p : Program α} {post : α → Trace → Prop} (h : p.Only Free)
    (hpost : ∀ t r, p.Runs t r → post r (past ++ t)) : p.Heeds (Faithful client) past post :=
  h.heeds (fun _ _ => faithful_of_free) hpost

theorem heeds_markBatch {batch : Batch.Result}
    (hmark : batch.processed ≠ [] → Faithful client past (.query (.mark address batch.processed))) :
    (markBatch address batch).run.Heeds (Faithful client) past fun _ _ => True := by
  by_cases hempty : batch.processed.isEmpty
  · rw [markBatch_empty hempty]
    trivial
  · rw [markBatch_of_ne hempty]
    exact Attempt.heeds_then (Attempt.heeds_query (hmark (mt List.isEmpty_iff.mpr hempty))
      (fun _ => trivial) fun _ => trivial) fun _ _ => trivial

/-- The end of a pass, after what it fetched was saved or there was nothing to save. -/
theorem heeds_endPass {batch : Batch.Result} {sync' : TransactionSync}
    (hmark : batch.processed ≠ [] → Faithful client past (.query (.mark address batch.processed))) :
    (do
      markBatch address batch
      if !batch.failed.isEmpty then
        Attempt.log .worker (softFailures (sync.passes + 1) batch)
      pure (batch, sync') : Attempt (Batch.Result × TransactionSync)).run.Heeds (Faithful client)
        past fun _ _ => True := by
  apply Attempt.heeds_then (heeds_markBatch hmark)
  intro _ past
  refine heeds_of_free ?_ fun _ _ _ => trivial
  dsimp only
  split
  · exact Attempt.only_bind (Attempt.only_log trivial) fun _ => Attempt.only_pure _
  · exact Attempt.only_pure _

/-- A pass saves what it fetched and marks what it saved. -/
theorem heeds_runPass (hpass : past.InPass address leased []) :
    (runPass limits address leased sync).run.Heeds (Faithful limits.client) past
      fun _ _ => True := by
  unfold runPass
  rw [Attempt.heeds_bind]
  have hfree : (Batch.fetchMany (Rpc.Outcome.fetch limits.client) limits.batch leased).run.Only
      fun effect => Free effect ∧ ¬ effect.Leases :=
    Batch.only_fetchMany (fun _ _ => ⟨trivial, id⟩) ⟨trivial, id⟩ fun s _ =>
      Rpc.Outcome.only_fetch ⟨trivial, id⟩ fun _ _ => ⟨trivial, id⟩
  apply heeds_of_free (hfree.mono fun _ h => h.1)
  intro t r hruns
  cases r with
  | error _ => trivial
  | ok batch =>
    have hpass' : (past ++ t).InPass address leased t := by
      simpa using hpass.append fun ev hev => (hfree.runs hruns ev hev).2
    dsimp only
    rw [Attempt.heeds_bind]
    by_cases hempty : batch.succeeded.isEmpty
    · rw [saveBatch_empty hempty]
      refine heeds_endPass fun hprocessed => ⟨leased, t, hpass', fun hnodup s hs => ?_⟩
      obtain ⟨-, tx, -, found, hfound, -⟩ := (Batch.fetched_of_runs hnodup hruns).1 s hs
      rw [List.isEmpty_iff.mp hempty] at hfound
      cases hfound
    · rw [saveBatch_of_ne hempty]
      refine Attempt.heeds_query ⟨leased, t, hpass', fun hnodup saved hsaved => ?_⟩
        (fun count => ?_) fun _ => trivial
      · obtain ⟨found, hfound, rfl⟩ := List.mem_map.mp hsaved
        obtain ⟨s, hs, tx, hfetched, hindexed⟩ :=
          (Batch.fetched_of_runs hnodup hruns).2 found hfound
        exact ⟨s, hs, tx, found, hfetched, hindexed, rfl⟩
      · refine heeds_endPass fun _ => ⟨leased, _, hpass'.append (by simp [Effect.Leases]),
          fun hnodup s hs => ?_⟩
        obtain ⟨hs', tx, hfetched, found, hfound, hindexed⟩ :=
          (Batch.fetched_of_runs hnodup hruns).1 s hs
        refine ⟨hs', _, count, List.mem_append_right _ List.mem_cons_self, found.direct address,
          List.mem_map_of_mem hfound, ?_⟩
        exact Trace.Brought.snoc ⟨tx, found, hfetched, hindexed, rfl⟩

theorem heeds_drain {left : Nat} (hpass : past.InPass address leased []) :
    (drain limits address left leased failed sync).run.Heeds (Faithful limits.client) past
      fun _ _ => True := by
  induction left generalizing past leased failed sync with
  | zero => trivial
  | succ left ih =>
    rw [drain]
    split
    · trivial
    apply Attempt.heeds_then (heeds_runPass hpass)
    intro result past
    dsimp only
    -- the next lease begins a new pass
    rw [Attempt.heeds_bind]
    exact Attempt.heeds_query trivial (fun lease => ih .start) fun _ => trivial

theorem heeds_syncTransactions :
    (syncTransactions limits address).run.Heeds (Faithful limits.client) past fun _ _ => True := by
  unfold syncTransactions
  rw [Attempt.heeds_bind]
  exact Attempt.heeds_query trivial (fun lease => heeds_drain .start) fun _ => trivial

theorem heeds_storePage {records : List SignatureRecord}
    (happend : Faithful client past (.query (.append address records))) :
    (storePage address records).run.Heeds (Faithful client) past fun _ _ => True := by
  by_cases hempty : records.isEmpty
  · rw [storePage_empty hempty]
    trivial
  · rw [storePage_of_ne hempty]
    exact Attempt.heeds_query happend (fun _ => trivial) fun _ => trivial

/-- A run of pages appends the records of the pages. -/
theorem heeds_syncPages {left : Nat} {before : Option String} {sync : SignatureSync} :
    (syncPages limits address left before sync).run.Heeds (Faithful limits.client) past
      fun _ _ => True := by
  induction left generalizing past before sync with
  | zero =>
    refine heeds_of_free ?_ fun _ _ _ => trivial
    exact Attempt.only_bind (Attempt.only_log trivial) fun _ => Attempt.only_pure _
  | succ left ih =>
    rw [syncPages, Attempt.heeds_bind]
    apply heeds_of_free (only_nextPage (fun _ => trivial) fun _ _ => trivial)
    intro t r hruns
    rcases r with _ | _ | page
    · trivial
    · trivial
    · dsimp only
      obtain ⟨answer, status, hcalls, -, hrecords, -⟩ := runs_nextPage_some hruns
      refine Attempt.heeds_then (heeds_storePage ⟨before, answer, status,
        List.mem_append_right _ (Trace.mem_of_calls hcalls), hrecords⟩) fun inserted past => ?_
      apply Attempt.heeds_then (Attempt.heeds_log trivial trivial)
      intro _ past
      split
      · trivial
      refine Attempt.heeds_then ?_ fun _ past => ih
      exact heeds_of_free (Attempt.only_sleep trivial) fun _ _ _ => trivial

theorem heeds_runStage {α : Type} {stage : String} {x : Attempt α}
    (h : x.run.Heeds (Faithful client) past fun _ _ => True) :
    (runStage stage x).run.Heeds (Faithful client) past fun _ _ => True :=
  Program.heeds_bind.mpr (h.mono fun r _ _ => by cases r <;> trivial)

/-- Indexing an address is faithful in both stages. -/
theorem heeds_index :
    (index limits address).run.Heeds (Faithful limits.client) past fun _ _ => True := by
  unfold index
  apply Attempt.heeds_then (heeds_runStage heeds_syncPages)
  intro signatures past
  exact Attempt.heeds_then (heeds_runStage heeds_syncTransactions) fun transactions past => trivial

theorem free_of_quiet {effect : Effect} (h : effect.isCall = false) : Free effect := by
  cases effect with
  | query _ => simp at h
  | _ => trivial

/-- A worker is faithful whatever it did before. -/
theorem faithful_course {config : Config} :
    Course config (Faithful config.limits.client) (fun _ => True) (fun _ _ => True)
      fun _ _ _ => True where
  keepsIdle _ _ quiet _ := ⟨faithful_of_free (free_of_quiet quiet), fun _ => trivial⟩
  keepsBusy _ _ _ quiet _ := ⟨faithful_of_free (free_of_quiet quiet), fun _ => trivial⟩
  keepsEnded _ _ _ _ quiet _ := ⟨faithful_of_free (free_of_quiet quiet), fun _ => trivial⟩
  claims _ _ := heeds_of_free (Store.only_claim trivial fun _ => trivial) fun _ r _ => by
    rcases r with _ | _ | _ <;> trivial
  indexes _ _ _ := heeds_index.mono fun r _ _ => by cases r <;> trivial
  updates _ _ _ _ := Attempt.heeds_query trivial (fun _ => trivial) fun _ => trivial

end Faithful

end Worker

/-! ### What the tables hold -/

/-- The tables have the rows of a transaction that an address is to be told of. -/
structure Store.Tables.Holds (tables : Tables) (address : String) (t : Indexed) : Prop where
  transaction : (address, t.signature) ∈ tables.transactions.map Store.TransactionRow.key
  balances : ∀ delta ∈ t.deltas,
    (address, t.signature, delta.account) ∈ tables.balances.map Store.BalanceRow.key
  transfers : ∀ transfer ∈ t.transfers,
    (address, t.signature, transfer.position.index,
      transfer.position.inner.getD Store.TransferRow.topLevel) ∈
        tables.transfers.map Store.TransferRow.key

theorem Store.Tables.Holds.grows {before after : Tables} {address : String} {t : Indexed}
    (h : before.Holds address t) (hgrows : before.Grows after) : after.Holds address t where
  transaction := List.map_subset _ hgrows.transactions h.transaction
  balances delta hdelta := List.map_subset _ hgrows.balances (h.balances delta hdelta)
  transfers transfer htransfer :=
    List.map_subset _ hgrows.transfers (h.transfers transfer htransfer)

/-- From which side transfers are seen is not part of their keys. -/
theorem Store.Tables.Holds.of_direct {tables : Tables} {address owner : String} {t : Indexed}
    (h : tables.Holds address (t.direct owner)) : tables.Holds address t where
  transaction := h.transaction
  balances := h.balances
  transfers transfer htransfer :=
    h.transfers (transfer.direct owner) (List.mem_map_of_mem htransfer)

theorem Store.Query.holds_save {now : Int} {address : String} {ts : List Indexed} {t : Indexed}
    {tables : Tables} (ht : t ∈ ts) :
    ((Query.save address ts).next now tables).Holds address t where
  transaction :=
    Store.mem_keys_insertAll.mpr (.inr (List.mem_map.mpr ⟨_, List.mem_map_of_mem ht, rfl⟩))
  balances _ hdelta :=
    Store.mem_keys_insertAll.mpr (.inr (List.mem_map.mpr
      ⟨_, List.mem_flatMap.mpr ⟨t, ht, List.mem_map_of_mem hdelta⟩, rfl⟩))
  transfers _ htransfer :=
    Store.mem_keys_insertAll.mpr (.inr (List.mem_map.mpr
      ⟨_, List.mem_flatMap.mpr ⟨t, ht, List.mem_map_of_mem htransfer⟩, rfl⟩))

section Pool

variable {ι : Type} [DecidableEq ι] {answers : Answers} {database : Database}
  {config : ι → Worker.Config} {limit : ι → Nat} {state : ι → Worker.State}
  {pool pool' : Pool ι (Except Fault Unit × Worker.State)} {history : History ι} {i : ι}
  {ev : Event}

theorem Pool.Reaches.faithful
    (r : Pool.Reaches answers (Worker.pool database config limit state) history pool)
    (step : pool.Step answers (some i, ev) pool') :
    Worker.Faithful (config i).limits.client (history.own i) ev.effect :=
  r.heeds (Worker.faithful_course.heeds_run (limit i) trivial) step

/-- What was saved is held from then on. -/
theorem Pool.Reaches.holds {ρ : Type} {start pool : Pool ι ρ} {who : Option ι} {address : String}
    {ts : List Indexed} {count : Store.SaveCount} {t : Indexed}
    (r : Pool.Reaches answers start history pool)
    (hsaved : (who, ⟨.query (.save address ts), .ok count⟩) ∈ history) (ht : t ∈ ts) :
    pool.database.tables.Holds address t := by
  obtain ⟨h₁, h₂, rfl⟩ := List.append_of_mem hsaved
  obtain ⟨before, after, -, step, r₂⟩ := r.split_at
  obtain ⟨now, -, hafter⟩ := Event.Happens.of_reply step.happens
  refine Store.Tables.Holds.grows ?_ r₂.grows
  rw [hafter]
  exact Query.holds_save ht

/-- A lease names signatures of the address, each once. -/
theorem Pool.Reaches.leased {ρ : Type} {start pool : Pool ι ρ} {address : String}
    {leased : List String} {pass : Trace} (hkeyed : start.database.tables.Keyed)
    (r : Pool.Reaches answers start history pool)
    (hpass : (history.own i).InPass address leased pass) :
    leased.Nodup ∧ ∀ s ∈ leased, ∃ row ∈ pool.database.tables.signatures,
      row.owner = address ∧ row.key = s := by
  obtain ⟨⟨earlier, limit, exclude, lease, hown, rfl⟩, -⟩ := hpass
  obtain ⟨h₁, h₂, rfl, -, -⟩ := History.own_split hown
  obtain ⟨before, after, r₁, step, r₂⟩ := r.split_at
  obtain ⟨now, rfl, hafter⟩ := Event.Happens.of_reply step.happens
  have hsub : List.Sublist (Store.limited limit
      (Store.leaseOrder before.database.tables.signatures address exclude))
      (Store.leaseOrder before.database.tables.signatures address exclude) := by
    unfold Store.limited
    split
    · exact List.Sublist.refl _
    · exact List.take_sublist _ _
  refine ⟨(Store.leaseOrder_nodup (r₁.keyed hkeyed).signatures).sublist hsub, fun s hs => ?_⟩
  obtain ⟨row, hrow, hwaiting, rfl, -⟩ := Store.mem_leaseOrder.mp (hsub.subset hs)
  obtain ⟨row', hrow', howner, hrecord, -⟩ :=
    (step.happens.grows.trans r₂.grows).signatures row hrow
  refine ⟨row', hrow', howner.trans ?_, by rw [Store.SignatureRow.key, hrecord]; rfl⟩
  rw [Store.SignatureRow.isWaiting, Bool.and_eq_true] at hwaiting
  exact of_decide_eq_true hwaiting.1

/-- Worker by worker, in which pass a signature of an address was marked, and what was fetched for
it in this pass. -/
def History.Marked (config : ι → Worker.Config) (history : History ι) (address s : String)
    (found : Indexed) : Prop :=
  ∃ i h₁ names count h₂ leased pass tx,
    history = h₁ ++ (some i, ⟨.query (.mark address names), .ok count⟩) :: h₂ ∧ s ∈ names ∧
      Trace.InPass (History.own i h₁) address leased pass ∧
      pass.Fetched (config i).limits.client s tx ∧ Indexed.ofTransaction tx s = .ok found

theorem History.Marked.append {address s : String} {found : Indexed} {later : History ι}
    (h : History.Marked config history address s found) :
    History.Marked config (history ++ later) address s found := by
  obtain ⟨i, h₁, names, count, h₂, leased, pass, tx, rfl, hrest⟩ := h
  exact ⟨i, h₁, names, count, h₂ ++ later, leased, pass, tx, by simp, hrest⟩

/-- A processed signature was marked in a pass that fetched its transaction, and the tables hold
what was derived from it. -/
structure Persistent (config : ι → Worker.Config) (history : History ι) (tables : Tables) :
    Prop where
  processed : ∀ row ∈ tables.signatures, row.processed → ∃ found,
    History.Marked config history row.owner row.key found ∧ found.signature = row.key ∧
      tables.Holds row.owner found
  directed : ∀ row ∈ tables.transfers, row.transfer.direction =
    Transfer.directionFor row.transfer.sourceOwner row.transfer.destinationOwner row.owner

theorem Persistent.start : Persistent config ([] : History ι) Tables.blank where
  processed _ h := nomatch h
  directed _ h := nomatch h

theorem Persistent.step {who : Option ι} (hkeyed : database.tables.Keyed)
    (inv : Persistent config history pool.database.tables)
    (r : Pool.Reaches answers (Worker.pool database config limit state) history pool)
    (step : pool.Step answers (who, ev) pool') :
    Persistent config (history ++ [(who, ev)]) pool'.database.tables where
  processed row hrow hprocessed := by
    obtain hrow | ⟨i, names, count, rfl, rfl, hname, -⟩ | ⟨_, _, _, -, -, -, hfresh⟩ :=
      step.signature hrow
    · obtain ⟨found, hmarked, hsignature, hholds⟩ := inv.processed row hrow hprocessed
      exact ⟨found, hmarked.append, hsignature, hholds.grows step.happens.grows⟩
    · -- the worker saved in this pass what it fetched for the signature, and what is saved stays
      obtain ⟨leased, pass, hpass, hnames⟩ := r.faithful step
      obtain ⟨-, ts, _, hsaved, t, ht, tx, found, hfetched, hfound, rfl⟩ :=
        hnames (r.leased hkeyed hpass).1 _ hname
      have hholds := r.holds (History.mem_own.mp (hpass.subset hsaved)) ht
      exact ⟨found, ⟨i, history, names, count, [], leased, pass, tx, rfl, hname, hpass, hfetched,
        hfound⟩, hfetched.signature hfound, hholds.of_direct.grows step.happens.grows⟩
    · rw [hfresh] at hprocessed
      cases hprocessed
  directed row hrow := by
    rcases step.transfer hrow with hrow | ⟨i, ts, count, rfl, rfl, t, ht, hrow⟩
    · exact inv.directed row hrow
    · obtain ⟨leased, pass, hpass, hsaved⟩ := r.faithful step
      obtain ⟨-, -, tx, found, -, -, rfl⟩ := hsaved (r.leased hkeyed hpass).1 t ht
      obtain ⟨_, htransfer, hsame⟩ := List.mem_map.mp hrow
      obtain ⟨transfer, -, rfl⟩ := List.mem_map.mp htransfer
      rw [← hsame]
      rfl

theorem Persistent.reached
    (r : Pool.Reaches answers (Worker.pool (.ready .blank) config limit state) history pool) :
    Persistent config history pool.database.tables := by
  induction r with
  | refl => exact .start
  | step r step ih => exact ih.step Tables.Keyed.blank r step

/-- From blank tables on, whatever comes when and whatever fails: a processed signature was marked
in a pass that fetched its transaction, and the tables hold the transaction, its balance deltas and
its transfers; every transfer is told from the side of its address; and a mark names only signatures
whose transactions were fetched in its pass. -/
theorem Pool.Reaches.processed_is_held
    (r : Pool.Reaches answers (Worker.pool (.ready .blank) config limit state) history pool) :
    (∀ row ∈ pool.database.tables.signatures, row.processed → ∃ found,
      History.Marked config history row.owner row.key found ∧ found.signature = row.key ∧
        pool.database.tables.Holds row.owner found) ∧
    (∀ row ∈ pool.database.tables.transfers, row.transfer.direction =
      Transfer.directionFor row.transfer.sourceOwner row.transfer.destinationOwner row.owner) ∧
    ∀ i (h₁ h₂ : History ι) address names reply,
      history = h₁ ++ (some i, ⟨.query (.mark address names), reply⟩) :: h₂ →
      ∃ leased pass, Trace.InPass (History.own i h₁) address leased pass ∧
        ∀ s ∈ names, ∃ tx, pass.Fetched (config i).limits.client s tx := by
  have inv := Persistent.reached r
  refine ⟨inv.processed, inv.directed, ?_⟩
  rintro i h₁ h₂ address names reply rfl
  obtain ⟨before, after, r₁, step, -⟩ := r.split_at
  obtain ⟨leased, pass, hpass, hnames⟩ := r₁.faithful step
  refine ⟨leased, pass, hpass, fun s hs => ?_⟩
  have hnodup := (r₁.leased Tables.Keyed.blank hpass).1
  obtain ⟨-, _, _, -, _, -, tx, _, hfetched, -⟩ := hnames hnodup s hs
  exact ⟨tx, hfetched⟩

end Pool

set_option maxRecDepth 20000 in
/-- A worker indexes an address with one signature. -/
theorem processed_is_held_of_one :
    ∃ history pool, Pool.Reaches (fun request answer => answer = Sample.node request)
        (Worker.pool (.ready .blank) Sample.config (fun _ => 3) fun _ => Sample.state)
        history pool ∧
      ∃ row ∈ pool.database.tables.signatures, row.processed ∧ ∃ found,
        History.Marked Sample.config history row.owner row.key found ∧
          pool.database.tables.Holds row.owner found := by
  obtain ⟨history, r⟩ := reaches_turns (Sample.within (.ready .blank)) Sample.workers
    (.handIn "A" :: List.replicate 20 (.work 0))
  have hrows : (turns (.handIn "A" :: List.replicate 20 (.work 0))
      (Sample.world (.ready .blank)) Sample.workers).1.database.tables.signatures.map
      (·.processed) = [true] := by
    decide +kernel
  generalize turns (.handIn "A" :: List.replicate 20 (.work 0)) (Sample.world (.ready .blank))
    Sample.workers = last at r hrows
  obtain ⟨row, hone, hprocessed⟩ := List.map_eq_singleton_iff.mp hrows
  have hrow := List.mem_singleton_self row
  rw [← hone] at hrow
  obtain ⟨found, hmarked, -, hholds⟩ := (Pool.Reaches.processed_is_held r).1 row hrow hprocessed
  exact ⟨history, _, r, row, hrow, hprocessed, found, hmarked, hholds⟩

end AddressIndex
