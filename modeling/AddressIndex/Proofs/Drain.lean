import AddressIndex.Proofs.Execution
import AddressIndex.Proofs.Fetch
import AddressIndex.Proofs.Pool
import AddressIndex.Worker.Pipeline

/-! Draining the unprocessed signatures of an address. As long as nobody else writes to the
address's history, what is still to be leased loses its first piece in every pass: what a pass
fetches is marked, and what it fails to fetch is excluded from then on. So the passes work off the
lease order piece by piece, and what is unprocessed in the end is what failed. -/

namespace AddressIndex

open Store (Database Tables Query leaseOrder markRows historyOf limited)

/-- The signature rows of an owner stay as they are. -/
def Store.KeepsHistory (owner : String) (before after : Tables) : Prop :=
  historyOf owner after.signatures = historyOf owner before.signatures

/-- Whether the effect adds to or marks the signature rows of an owner. -/
def Effect.WritesHistory (owner : String) : Effect → Prop
  | .query q => q.WritesHistory owner
  | _ => False

theorem Event.Happens.historyOf {answers : Answers} {before after : Database} {ev : Event}
    {owner : String} (h : ev.Happens answers before after)
    (hnot : ¬ ev.effect.WritesHistory owner) :
    historyOf owner after.tables.signatures = historyOf owner before.tables.signatures := by
  rcases h.cases with ⟨q, _, now, rfl, -, hafter⟩ | ⟨-, rfl⟩
  · rw [hafter]
    exact Query.historyOf_next hnot
  · rfl

theorem Served.historyOf {answers : Answers} {owner : String} {db db' : Database} {t : Trace}
    (h : Served answers (Store.KeepsHistory owner) db t db')
    (hnot : ∀ ev ∈ t, ¬ ev.effect.WritesHistory owner) :
    historyOf owner db'.tables.signatures = historyOf owner db.tables.signatures := by
  induction h with
  | done hkept => exact hkept
  | event hkept happens _ ih =>
    obtain ⟨hev, hrest⟩ := List.forall_mem_cons.mp hnot
    exact ((ih hrest).trans (happens.historyOf hev)).trans hkept

namespace Worker

open Attempt (runs_bind runs_bind_ok runs_log runs_query)

variable {limits : Limits} {address : String} {leased failed : List String}
  {sync sync' : TransactionSync} {batch : Batch.Result} {t : Trace}

theorem saveBatch_empty (h : batch.succeeded.isEmpty) :
    saveBatch address batch = pure ⟨0, 0, 0⟩ :=
  if_pos h

theorem saveBatch_of_ne (h : ¬ batch.succeeded.isEmpty) :
    saveBatch address batch =
      Attempt.query (.save address (batch.succeeded.map (·.direct address))) :=
  if_neg h

theorem markBatch_empty (h : batch.processed.isEmpty) : markBatch address batch = pure () :=
  if_pos h

theorem markBatch_of_ne (h : ¬ batch.processed.isEmpty) :
    markBatch address batch =
      (do
        let _ ← Attempt.query (.mark address batch.processed)
        pure ()) :=
  if_neg h

/-! ### What the loop does -/

section Only

variable {P : Effect → Prop} (hask : ∀ s, P (.ask (.transaction s)))
  (hlog : ∀ source line, P (.log source line)) (hsleep : ∀ seconds, P (.sleep seconds))
  (hsave : ∀ ts, P (.query (.save address ts)))
  (hmark : ∀ names, P (.query (.mark address names)))

include hlog hsleep hsave hmark

theorem only_runPass (hleased : ∀ s ∈ leased, P (.ask (.transaction s))) :
    (runPass limits address leased sync).run.Only P := by
  refine Attempt.only_bind (Batch.only_fetchMany hlog (hsleep _) ?_) fun batch => ?_
  · exact fun s hs => Rpc.Outcome.only_fetch (hleased s hs) hlog
  refine Attempt.only_bind ?_ fun saved => Attempt.only_bind ?_ fun _ => ?_
  · by_cases hempty : batch.succeeded.isEmpty
    · rw [saveBatch_empty hempty]
      exact Attempt.only_pure _
    · rw [saveBatch_of_ne hempty]
      exact Attempt.only_query (hsave _)
  · unfold markBatch
    split
    · exact Attempt.only_pure _
    · exact Attempt.only_bind (Attempt.only_query (hmark _)) fun _ => Attempt.only_pure _
  · dsimp only
    split
    · exact Attempt.only_bind (Attempt.only_log (hlog _ _)) fun _ => Attempt.only_pure _
    · exact Attempt.only_pure _

variable (hlease : ∀ exclude, P (.query (.lease address limits.leaseLimit exclude)))

include hask hlease

theorem only_drain (left : Nat) :
    (drain limits address left leased failed sync).run.Only P := by
  induction left generalizing leased failed sync with
  | zero => exact Attempt.only_pure sync
  | succ left ih =>
    unfold drain
    split
    · exact Attempt.only_pure sync
    apply Attempt.only_bind (only_runPass hlog hsleep hsave hmark fun s _ => hask s)
    intro result
    exact Attempt.only_bind (Attempt.only_query (hlease _)) fun lease => ih

theorem only_syncTransactions : (syncTransactions limits address).run.Only P :=
  Attempt.only_bind (Attempt.only_query (hlease _)) fun _ =>
    only_drain hask hlog hsleep hsave hmark hlease _

end Only

/-- The parts of a pass that returns. -/
theorem runs_runPass (h : (runPass limits address leased sync).run.Runs t (.ok (batch, sync'))) :
    ∃ t₁ t₂ t₃ t₄ saved, t = t₁ ++ (t₂ ++ (t₃ ++ t₄)) ∧
      (Batch.fetchMany (Rpc.Outcome.fetch limits.client) limits.batch leased).run.Runs t₁
        (.ok batch) ∧
      (saveBatch address batch).run.Runs t₂ (.ok saved) ∧
      (markBatch address batch).run.Runs t₃ (.ok ()) ∧ t₄.calls = [] ∧
      sync' = {
        passes := sync.passes + 1
        processed := sync.processed + batch.processed.length
        failed := sync.failed + batch.failed.length
        transactions := sync.transactions + saved.transactions
        transfers := sync.transfers + saved.transfers } := by
  obtain ⟨t₁, t₂, batch, rfl, hfetch, hrest⟩ := runs_bind_ok.mp h
  obtain ⟨t₃, t₄, saved, rfl, hsave, hrest⟩ := runs_bind_ok.mp hrest
  obtain ⟨t₅, t₆, _, rfl, hmark, hrest⟩ := runs_bind_ok.mp hrest
  dsimp only at hrest
  split at hrest
  · obtain ⟨t₇, t₈, _, rfl, hlog, hpure⟩ := runs_bind_ok.mp hrest
    obtain ⟨_, rfl⟩ := runs_log.mp hlog
    obtain ⟨rfl, hsame⟩ := Attempt.runs_pure.mp hpure
    cases hsame
    exact ⟨t₁, t₃, t₅, _, saved, rfl, hfetch, hsave, hmark, by simp, rfl⟩
  · obtain ⟨rfl, hsame⟩ := Attempt.runs_pure.mp hrest
    cases hsame
    exact ⟨t₁, t₃, t₅, _, saved, rfl, hfetch, hsave, hmark, rfl, rfl⟩

theorem runs_saveBatch {saved : Store.SaveCount}
    (h : (saveBatch address batch).run.Runs t (.ok saved)) :
    (batch.succeeded = [] ∧ t = []) ∨
      t = [⟨.query (.save address (batch.succeeded.map (·.direct address))), .ok saved⟩] := by
  by_cases hempty : batch.succeeded.isEmpty
  · rw [saveBatch_empty hempty] at h
    exact .inl ⟨List.isEmpty_iff.mp hempty, (Attempt.runs_pure.mp h).1⟩
  · rw [saveBatch_of_ne hempty] at h
    exact .inr (Attempt.runs_query_ok.mp h)

theorem runs_markBatch (h : (markBatch address batch).run.Runs t (.ok ())) :
    (batch.processed = [] ∧ t = []) ∨
      ∃ count, t = [⟨.query (.mark address batch.processed), .ok count⟩] := by
  by_cases hempty : batch.processed.isEmpty
  · rw [markBatch_empty hempty] at h
    exact .inl ⟨List.isEmpty_iff.mp hempty, (Attempt.runs_pure.mp h).1⟩
  · rw [markBatch_of_ne hempty] at h
    obtain ⟨t₁, t₂, count, rfl, hmark, hpure⟩ := runs_bind_ok.mp h
    obtain rfl := Attempt.runs_query_ok.mp hmark
    obtain ⟨rfl, _⟩ := Attempt.runs_pure.mp hpure
    exact .inr ⟨count, rfl⟩

/-! ### Passes -/

/-- A pass of the loop: the signatures that it fetched, and what came of them. -/
structure Pass where
  leased : List String
  batch : Batch.Result

/-- The passes of the loop, without a bound on their number: it goes on after a lease that is not
empty, and it ends at an empty one. -/
inductive Drained (limits : Limits) (address : String) :
    List String → List String → List Pass → Trace → Prop
  | done (failed : List String) : Drained limits address failed [] [] []
  | pass {failed leased : List String} {sync sync' : TransactionSync} {batch : Batch.Result}
      {lease : Store.Lease} {passes : List Pass} {t t' : Trace} : leased ≠ [] →
      (runPass limits address leased sync).run.Runs t (.ok (batch, sync')) →
      Drained limits address (failed ++ batch.failed) lease.signatures passes t' →
      Drained limits address failed leased (⟨leased, batch⟩ :: passes)
        (t ++ ⟨.query (.lease address limits.leaseLimit (failed ++ batch.failed)), .ok lease⟩ :: t')

section Served

variable {answers : Answers} {db db' : Database}

/-- A pass marks what was fetched. -/
theorem historyOf_runPass
    (h : (runPass limits address leased sync).run.Runs t (.ok (batch, sync')))
    (hserved : Served answers (Store.KeepsHistory address) db t db') :
    historyOf address db'.tables.signatures =
      markRows (historyOf address db.tables.signatures) address batch.processed := by
  obtain ⟨t₁, t₂, t₃, t₄, saved, rfl, hfetch, hsave, hmark, hquiet, -⟩ := runs_runPass h
  have hrefl : ∀ tables, Store.KeepsHistory address tables tables := fun _ => rfl
  obtain ⟨db₁, h₁, hserved⟩ := hserved.split hrefl
  obtain ⟨db₂, h₂, hserved⟩ := hserved.split hrefl
  obtain ⟨db₃, h₃, h₄⟩ := hserved.split hrefl
  -- of the four parts only the third writes to the history
  have hreads : (Batch.fetchMany (Rpc.Outcome.fetch limits.client) limits.batch leased).run.Only
      fun effect => ¬ effect.WritesHistory address :=
    Batch.only_fetchMany (fun _ _ => id) id fun s _ =>
      Rpc.Outcome.only_fetch id fun _ _ => id
  have hfetched : historyOf address db₁.tables.signatures =
      historyOf address db.tables.signatures := h₁.historyOf (hreads.runs hfetch)
  have hsaved : historyOf address db₂.tables.signatures =
      historyOf address db₁.tables.signatures := by
    apply h₂.historyOf
    intro ev hev
    rcases runs_saveBatch hsave with ⟨-, rfl⟩ | rfl
    · simp at hev
    · obtain rfl := List.mem_singleton.mp hev
      exact id
  have hmarked : historyOf address db₃.tables.signatures =
      markRows (historyOf address db₂.tables.signatures) address batch.processed := by
    rcases runs_markBatch hmark with ⟨hnone, rfl⟩ | ⟨count, rfl⟩
    · rw [hnone, Store.markRows_nil]
      exact h₃.historyOf (by simp)
    · rcases h₃ with _ | ⟨hbefore, happens, hlast⟩
      obtain ⟨now, -, hafter⟩ := happens.of_reply
      have hkept := hlast.historyOf (by simp)
      rw [hkept, hafter, Query.next, Store.historyOf_markRows, hbefore]
  have hlogged : historyOf address db'.tables.signatures =
      historyOf address db₃.tables.signatures := by
    apply h₄.historyOf
    intro ev hev hwrites
    have hcall : ev ∈ t₄.calls := Trace.mem_calls.mpr ⟨hev, by
      revert hwrites
      cases ev.effect <;> simp [Effect.WritesHistory]⟩
    rw [hquiet] at hcall
    simp at hcall
  rw [hlogged, hmarked, hsaved, hfetched]

/-- What a pass fails to fetch stays where it is among the unprocessed signatures, and what it
fetches leaves them. -/
theorem leaseOrder_runPass {rest : List String}
    (h : (runPass limits address leased sync).run.Runs t (.ok (batch, sync')))
    (hserved : Served answers (Store.KeepsHistory address) db t db')
    (hwaiting : leaseOrder db.tables.signatures address [] = failed ++ (leased ++ rest))
    (hnodup : (failed ++ (leased ++ rest)).Nodup) :
    leaseOrder db'.tables.signatures address [] = failed ++ batch.failed ++ rest ∧
      (failed ++ batch.failed ++ rest).Nodup := by
  obtain ⟨t₁, _, _, _, _, rfl, hfetch, -⟩ := runs_runPass h
  obtain ⟨fetches, hfetches, -, hreports⟩ := Batch.runs_fetchMany hfetch
  have hasked : (Batch.Fetch.outcomes fetches).map (·.1) = leased := by
    rw [← hfetches.signatures, Batch.Fetch.outcomes, List.map_map]
    rfl
  have hpart : (leased ++ rest).Nodup := (List.nodup_append.mp hnodup).2.1
  have hleased : leased.Nodup := (List.nodup_append.mp hpart).1
  have hsub : ∀ s ∈ batch.processed, s ∈ leased := fun s hs => by
    rw [hreports.processed] at hs
    rw [← hasked]
    exact (Batch.Fetched.ofOutcomes_perm _).subset (List.mem_append_left _ hs)
  -- of the three parts of the lease order the marks only touch the one that was leased
  have hold : failed.filter (fun s => !batch.processed.contains s) = failed :=
    List.filter_eq_self.mpr fun s hs => by
      simpa using fun hdone => List.disjoint_of_nodup_append hnodup hs
        (List.mem_append_left _ (hsub s hdone))
  have hnew : leased.filter (fun s => !batch.processed.contains s) = batch.failed := by
    rw [hreports.processed, hreports.failed, ← Batch.Fetched.filter_successes (hasked ▸ hleased),
      hasked]
  have hlater : rest.filter (fun s => !batch.processed.contains s) = rest :=
    List.filter_eq_self.mpr fun s hs => by
      simpa using fun hdone => List.disjoint_of_nodup_append hpart (hsub s hdone) hs
  have hall : (failed ++ (leased ++ rest)).filter (fun s => !batch.processed.contains s) =
      failed ++ batch.failed ++ rest := by
    rw [List.filter_append, List.filter_append, hold, hnew, hlater, List.append_assoc]
  refine ⟨?_, hall ▸ hnodup.filter _⟩
  rw [← Store.leaseOrder_historyOf, historyOf_runPass h hserved, Store.leaseOrder_markRows,
    Store.leaseOrder_historyOf, hwaiting, hall]

theorem length_runPass (h : (runPass limits address leased sync).run.Runs t (.ok (batch, sync'))) :
    sync'.passes = sync.passes + 1 ∧
      sync'.processed + sync'.failed = sync.processed + sync.failed + leased.length := by
  obtain ⟨t₁, _, _, _, _, rfl, hfetch, -, -, -, rfl⟩ := runs_runPass h
  obtain ⟨fetches, hfetches, -, hreports⟩ := Batch.runs_fetchMany hfetch
  have hlength : batch.processed.length + batch.failed.length = leased.length := by
    rw [hreports.processed, hreports.failed, ← List.length_append,
      (Batch.Fetched.ofOutcomes_perm _).length_eq, ← hfetches.signatures]
    simp [Batch.Fetch.outcomes]
  refine ⟨rfl, ?_⟩
  dsimp only
  omega

/-- What a drain of the waiting signatures `rest` comes to, after `failed` have failed. -/
structure Drains (limits : Limits) (address : String) (failed rest : List String)
    (sync result : TransactionSync) (after : Database) (passes : List Pass) (t : Trace) : Prop where
  loop : Drained limits address failed (rest.take limits.leaseLimit.toNat) passes t
  leased : passes.map (·.leased) = pieces limits.leaseLimit.toNat rest
  passCount : result.passes = sync.passes + passes.length
  counts : result.processed + result.failed = sync.processed + sync.failed + rest.length
  left : leaseOrder after.tables.signatures address [] = failed ++ passes.flatMap (·.batch.failed)

theorem drains_nothing (hserved : Served answers (Store.KeepsHistory address) db [] db')
    (hwaiting : leaseOrder db.tables.signatures address [] = failed ++ []) :
    Drains limits address failed [] sync sync db' [] [] := by
  rcases hserved with hkept | _
  refine ⟨?_, by simp [pieces_nil], rfl, rfl, ?_⟩
  · rw [List.take_nil]
    exact .done failed
  · rw [Store.leaseOrder_congr hkept, hwaiting]
    rfl

/-- The loop works off the waiting signatures piece by piece. Its bound is never what ends it: as
long as there is a lease that is not empty, there are no fewer passes left than signatures. -/
theorem drain_ok {left : Nat} {rest : List String} {result : TransactionSync}
    (hlimit : 1 ≤ limits.leaseLimit)
    (hruns : (drain limits address left leased failed sync).run.Runs t (.ok result))
    (hserved : Served answers (Store.KeepsHistory address) db t db')
    (hwaiting : leaseOrder db.tables.signatures address [] = failed ++ rest)
    (hnodup : (failed ++ rest).Nodup) (hleased : leased = rest.take limits.leaseLimit.toNat)
    (hleft : rest.length ≤ left) :
    ∃ passes, Drains limits address failed rest sync result db' passes t := by
  have hlimit' : 0 < limits.leaseLimit.toNat := by omega
  induction left generalizing leased failed sync t db rest with
  | zero =>
    obtain ⟨rfl, hresult⟩ := Attempt.runs_pure.mp hruns
    cases hresult
    obtain rfl := List.eq_nil_of_length_eq_zero (Nat.le_zero.mp hleft)
    exact ⟨[], drains_nothing hserved hwaiting⟩
  | succ left ih =>
    rw [drain] at hruns
    split at hruns
    next hempty =>
      obtain ⟨rfl, hresult⟩ := Attempt.runs_pure.mp hruns
      cases hresult
      rw [hleased, List.isEmpty_iff, List.take_eq_nil_iff] at hempty
      obtain rfl := hempty.resolve_left (by omega)
      exact ⟨[], drains_nothing hserved hwaiting⟩
    next hne =>
      rw [List.isEmpty_iff] at hne
      obtain ⟨t₁, t₂, ⟨batch, sync'⟩, rfl, hpass, hrest⟩ := runs_bind_ok.mp hruns
      obtain ⟨t₃, t₄, lease, rfl, hquery, hdrain⟩ := runs_bind_ok.mp hrest
      obtain rfl := Attempt.runs_query_ok.mp hquery
      -- what is left after this pass is the rest behind its piece
      have hsplit : leased ++ rest.drop limits.leaseLimit.toNat = rest := by
        rw [hleased, List.take_append_drop]
      have hshorter : (rest.drop limits.leaseLimit.toNat).length + leased.length = rest.length := by
        rw [← hsplit, List.length_append, hsplit, Nat.add_comm]
      have hpos : 0 < leased.length := List.length_pos_iff.mpr hne
      rw [← hsplit] at hwaiting hnodup
      have hrefl : ∀ tables, Store.KeepsHistory address tables tables := fun _ => rfl
      obtain ⟨db₁, h₁, hserved⟩ := hserved.split hrefl
      cases hserved with
      | @event _ before after _ _ _ hbefore happens hserved =>
      obtain ⟨hpassed, hnodup⟩ := leaseOrder_runPass hpass h₁ hwaiting hnodup
      obtain ⟨now, hreply, hafter⟩ := happens.of_reply
      have hsame : leaseOrder before.tables.signatures address [] =
          failed ++ batch.failed ++ rest.drop limits.leaseLimit.toNat :=
        (Store.leaseOrder_congr hbefore).trans hpassed
      have hlease : lease.signatures =
          (rest.drop limits.leaseLimit.toNat).take limits.leaseLimit.toNat := by
        rw [hreply, Query.answer]
        dsimp only
        rw [Store.limited_of_pos hlimit, Store.leaseOrder_exclude, hsame,
          Store.filter_not_front hnodup]
      have hlater : leaseOrder after.tables.signatures address [] =
          failed ++ batch.failed ++ rest.drop limits.leaseLimit.toNat := by
        rw [hafter]
        exact hsame
      obtain ⟨passes, hloop, hpieces, hcount, hcounts, hleft⟩ :=
        ih hdrain hserved hlater hnodup hlease (by omega)
      obtain ⟨hcount', hcounts'⟩ := length_runPass hpass
      refine ⟨⟨leased, batch⟩ :: passes, ?_, ?_, ?_, by omega, ?_⟩
      · rw [← hlease] at hloop
        rw [← hleased]
        exact .pass hne hpass hloop
      · have hrest : rest ≠ [] := fun hnil => hne (by rw [hleased, hnil, List.take_nil])
        rw [pieces_cons hlimit' hrest, List.map_cons, hpieces, hleased]
      · rw [hcount, hcount', List.length_cons]
        omega
      · rw [hleft, List.flatMap_cons, List.append_assoc]

end Served

/-! ### Faults -/

/-- The fault is that of a query, or it ended a batch. -/
def Raised (limits : Limits) (t : Trace) (fault : Fault) : Prop :=
  (∃ q f, (⟨.query q, .error f⟩ : Event) ∈ t ∧ fault = .store f) ∨
    ∃ leased t', t' <:+: t ∧
      (Batch.fetchMany (Rpc.Outcome.fetch limits.client) limits.batch leased).run.Runs t'
        (.error fault)

theorem Raised.mono {t t' : Trace} {fault : Fault} (h : Raised limits t fault) (ht : t <:+: t') :
    Raised limits t' fault := by
  rcases h with ⟨q, f, hmem, rfl⟩ | ⟨leased, t₁, hsub, hruns⟩
  · exact .inl ⟨q, f, ht.subset hmem, rfl⟩
  · exact .inr ⟨leased, t₁, hsub.trans ht, hruns⟩

/-- The attempt fails for no other reason. -/
def FailsOnlySo {α : Type} (limits : Limits) (x : Attempt α) : Prop :=
  ∀ t fault, x.run.Runs t (.error fault) → Raised limits t fault

namespace FailsOnlySo

variable {α β : Type}

theorem bind {x : Attempt α} {f : α → Attempt β} (hx : FailsOnlySo limits x)
    (hf : ∀ a, FailsOnlySo limits (f a)) : FailsOnlySo limits (x >>= f) := by
  intro t fault h
  rcases runs_bind.mp h with ⟨t₁, t₂, a, rfl, -, hrest⟩ | ⟨_, hfault, hfirst⟩
  · exact (hf a t₂ fault hrest).mono (List.suffix_append t₁ t₂).isInfix
  · cases hfault
    exact hx t fault hfirst

theorem pure (a : α) : FailsOnlySo limits (Pure.pure a) := by
  intro t fault h
  simp at h

theorem log {source : Log.Source} {line : Log.Line} :
    FailsOnlySo limits (Attempt.log source line) := by
  intro t fault h
  simp [runs_log] at h

theorem query {q : Query} : FailsOnlySo limits (Attempt.query q) := by
  intro t fault h
  rcases runs_query.mp h with ⟨_, ⟨⟩, _⟩ | ⟨f, hfault, rfl⟩
  cases hfault
  exact .inl ⟨q, f, by simp, rfl⟩

theorem runPass : FailsOnlySo limits (runPass limits address leased sync) := by
  refine .bind (fun t fault h => .inr ⟨leased, t, List.infix_refl t, h⟩) fun batch => ?_
  refine .bind ?_ fun saved => .bind ?_ fun _ => ?_
  · by_cases hempty : batch.succeeded.isEmpty
    · rw [saveBatch_empty hempty]
      exact .pure _
    · rw [saveBatch_of_ne hempty]
      exact .query
  · unfold markBatch
    split
    · exact .pure _
    · exact .bind .query fun _ => .pure _
  · dsimp only
    split
    · exact .bind .log fun _ => .pure _
    · exact .pure _

theorem drain (left : Nat) : FailsOnlySo limits (drain limits address left leased failed sync) := by
  induction left generalizing leased failed sync with
  | zero => exact .pure sync
  | succ left ih =>
    unfold Worker.drain
    split
    · exact .pure sync
    · exact .bind .runPass fun _ => .bind .query fun _ => ih

theorem syncTransactions : FailsOnlySo limits (syncTransactions limits address) :=
  .bind .query fun _ => .drain _

end FailsOnlySo

/-! ### The whole loop -/

theorem requests_runPass (hasks : limits.client.Asks)
    (h : (runPass limits address leased sync).run.Runs t (.ok (batch, sync'))) :
    t.requests = leased.map .transaction := by
  obtain ⟨t₁, t₂, t₃, t₄, saved, rfl, hfetch, hsave, hmark, hquiet, -⟩ := runs_runPass h
  have hsaved : t₂.requests = [] := by
    rcases runs_saveBatch hsave with ⟨-, rfl⟩ | rfl <;> rfl
  have hmarked : t₃.requests = [] := by
    rcases runs_markBatch hmark with ⟨-, rfl⟩ | ⟨_, rfl⟩ <;> rfl
  have hlogged : t₄.requests = [] := by rw [← Trace.requests_calls, hquiet, Trace.requests_nil]
  rw [Trace.requests_append, Trace.requests_append, Trace.requests_append,
    Batch.requests_fetchMany hasks hfetch, hsaved, hmarked, hlogged]
  simp

theorem Drained.requests {passes : List Pass} (hasks : limits.client.Asks)
    (h : Drained limits address failed leased passes t) :
    t.requests = (passes.flatMap (·.leased)).map .transaction := by
  induction h with
  | done _ => rfl
  | pass _ hpass _ ih =>
    rw [Trace.requests_append, requests_runPass hasks hpass, Trace.requests_query, ih,
      List.flatMap_cons, List.map_append]

/-- An attempt that returns has drained the address, if nobody else writes to its history. -/
theorem syncTransactions_drains {answers : Answers} {db db' : Database}
    (hlimit : 1 ≤ limits.leaseLimit)
    (hkeys : (db.tables.signatures.map Store.SignatureRow.key).Nodup)
    (hruns : (syncTransactions limits address).run.Runs t (.ok sync))
    (hserved : Served answers (Store.KeepsHistory address) db t db') :
    ∃ lease passes t',
      t = ⟨.query (.lease address limits.leaseLimit []), .ok lease⟩ :: t' ∧
      lease.signatures =
        (leaseOrder db.tables.signatures address []).take limits.leaseLimit.toNat ∧
      Drains limits address [] (leaseOrder db.tables.signatures address []) ⟨0, 0, 0, 0, 0⟩ sync db'
        passes t' := by
  obtain ⟨t₁, t', lease, rfl, hlease, hdrain⟩ := runs_bind_ok.mp hruns
  obtain rfl := Attempt.runs_query_ok.mp hlease
  cases hserved with
  | @event _ before after _ _ _ hbefore happens hserved =>
  obtain ⟨now, hreply, hafter⟩ := happens.of_reply
  have hsame : leaseOrder before.tables.signatures address [] =
      leaseOrder db.tables.signatures address [] := Store.leaseOrder_congr hbefore
  have hlater : leaseOrder after.tables.signatures address [] =
      [] ++ leaseOrder db.tables.signatures address [] := by
    rw [hafter, List.nil_append]
    exact hsame
  have hfirst : lease.signatures =
      (leaseOrder db.tables.signatures address []).take limits.leaseLimit.toNat := by
    rw [hreply, Query.answer]
    dsimp only
    rw [Store.limited_of_pos hlimit, hsame]
  have hbound : (leaseOrder db.tables.signatures address []).length ≤ lease.waiting := by
    rw [hreply, Query.answer]
    dsimp only
    rw [hsame]
  obtain ⟨passes, hdrains⟩ := drain_ok hlimit hdrain hserved hlater (Store.leaseOrder_nodup hkeys)
    hfirst hbound
  exact ⟨lease, passes, t', rfl, hfirst, hdrains⟩

theorem Drains.fetched {failed rest : List String} {result : TransactionSync} {after : Database}
    {passes : List Pass} (hlimit : 1 ≤ limits.leaseLimit)
    (h : Drains limits address failed rest sync result after passes t) :
    passes.flatMap (·.leased) = rest := by
  rw [List.flatMap_def, h.leased, pieces_flatten (by omega)]

/-- What a drained address comes to, if nobody else writes to its history. An attempt that fails
fails in a query or in a batch. One that returns has fetched the waiting signatures in lease order,
each once, in as many passes as it takes pieces; what is unprocessed then is what failed. The
histories of others are left alone. -/
theorem syncTransactions_fetches_each_once {answers : Answers} {db db' : Database}
    {r : Except Fault TransactionSync} (hlimit : 1 ≤ limits.leaseLimit)
    (hkeys : (db.tables.signatures.map Store.SignatureRow.key).Nodup)
    (hruns : (syncTransactions limits address).run.Runs t r)
    (hserved : Served answers (Store.KeepsHistory address) db t db') :
    (match r with
      | .error fault => Raised limits t fault
      | .ok sync =>
        let waiting := leaseOrder db.tables.signatures address []
        let size := limits.leaseLimit.toNat
        ∃ lease passes t',
          t = ⟨.query (.lease address limits.leaseLimit []), .ok lease⟩ :: t' ∧
          Drained limits address [] lease.signatures passes t' ∧
          passes.flatMap (·.leased) = waiting ∧
          (limits.client.Asks → t.requests = waiting.map .transaction) ∧
          passes.length = (waiting.length + size - 1) / size ∧
          sync.passes = passes.length ∧
          sync.processed + sync.failed = waiting.length ∧
          leaseOrder db'.tables.signatures address [] = passes.flatMap (·.batch.failed)) ∧
    ∀ ev ∈ t, ∀ before after, ev.Happens answers before after → ∀ other ≠ address,
      historyOf other after.tables.signatures = historyOf other before.tables.signatures := by
  constructor
  · cases r with
    | error fault => exact FailsOnlySo.syncTransactions t fault hruns
    | ok sync =>
      obtain ⟨lease, passes, t', rfl, hfirst, hdrains⟩ :=
        syncTransactions_drains hlimit hkeys hruns hserved
      have hloop := hdrains.loop
      rw [← hfirst] at hloop
      have hflat := hdrains.fetched hlimit
      refine ⟨lease, passes, t', rfl, hloop, hflat, fun hasks => ?_, ?_, ?_, ?_, hdrains.left⟩
      · exact (hloop.requests hasks).trans (congrArg _ hflat)
      · rw [← length_pieces, ← hdrains.leased, List.length_map]
      · simpa using hdrains.passCount
      · simpa using hdrains.counts
  · intro ev hev before after happens other hother
    have hothers : (syncTransactions limits address).run.Only
        fun effect => ¬ effect.WritesHistory other :=
      only_syncTransactions (fun _ => id) (fun _ _ => id) (fun _ => id) (fun _ => id)
        (fun _ h => hother h.symm) fun _ => id
    exact happens.historyOf (hothers.runs hruns ev hev)

/-- The history of an address with five signatures, one of them processed, two in blocks of one time
and one in a block of unknown time, as pages bring them; and a signature of another address. -/
def tiedHistory : Database := .ready { Tables.blank with
  signatures := [⟨"A", ⟨"r", some 9, none⟩, true, 0⟩, ⟨"A", ⟨"x", some 8, none⟩, false, 0⟩,
    ⟨"A", ⟨"s", some 5, none⟩, false, 0⟩, ⟨"B", ⟨"t", some 7, none⟩, false, 0⟩,
    ⟨"A", ⟨"v", some 5, none⟩, false, 0⟩, ⟨"A", ⟨"u", none, none⟩, false, 0⟩] }

/-- A node that knows the transaction of each signature but one. -/
def forgetfulNode : Rpc.Request → Rpc.Answer
  | .transaction s =>
    if s = "s" then .reply 200 "\x7b\"result\":null\x7d"
    else .reply 200 ("\x7b\"result\":\x7b\"transaction\":\x7b\"message\":" ++
      "\x7b\"accountKeys\":[]\x7d,\"signatures\":[\"" ++ s ++ "\"]\x7d," ++
      "\"meta\":\x7b\"fee\":0\x7d,\"slot\":0\x7d\x7d")
  | request => Sample.node request

set_option maxRecDepth 20000 in
/-- Four signatures wait and three are leased at a time. The second cannot be fetched. It is not
asked for again, and it is what is left. -/
theorem syncTransactions_fetches_each_once_of_tied :
    let limits := { Sample.limits with leaseLimit := 3 }
    let p := (syncTransactions limits "A").run
    let w := { Sample.world tiedHistory with node := fun _ => forgetfulNode }
    ∃ sync, p.Runs (p.trace w) (.ok sync) ∧
      (p.trace w).requests = ["x", "s", "v", "u"].map .transaction ∧
      sync.passes = 2 ∧ sync.processed + sync.failed = 4 ∧
      leaseOrder (p.run w).2.database.tables.signatures "A" [] = ["s"] ∧
      historyOf "B" (p.run w).2.database.tables.signatures =
        historyOf "B" w.database.tables.signatures := by
  intro limits p w
  have hwaiting : leaseOrder w.database.tables.signatures "A" [] = ["x", "s", "v", "u"] := by
    rw [leaseOrder, List.mergeSort_of_pairwise (by decide)]
    rfl
  -- the kernel cannot open the sort of the first lease; later ones sort one row at most
  have hlease : w.reply (.query (.lease "A" 3 [])) = (.ok ⟨["x", "s", "v"], 4⟩, w) := by
    have hreply : w.reply (.query (.lease "A" 3 [])) =
      (.ok ⟨(leaseOrder w.database.tables.signatures "A" []).take 3,
        (leaseOrder w.database.tables.signatures "A" []).length⟩, w) := rfl
    rw [hreply, hwaiting]
    rfl
  have hrun : p.run w = (drain limits "A" 4 ["x", "s", "v"] [] ⟨0, 0, 0, 0, 0⟩).run.run w :=
    Program.run_query_bind hlease
  have hsome : (p.run w).1.toOption.isSome := by
    rw [hrun]
    decide +kernel
  obtain ⟨sync, hsync⟩ := Option.isSome_iff_exists.mp hsome
  have hruns : p.Runs (p.trace w) (.ok sync) :=
    Except.toOption_eq_some.mp hsync ▸ p.runs_trace w
  have hlimit : 1 ≤ limits.leaseLimit := by decide
  have hkeys : (w.database.tables.signatures.map Store.SignatureRow.key).Nodup := by decide
  have hrefl : ∀ tables, Store.KeepsHistory "A" tables tables := fun _ => rfl
  have hwithin : w.Within fun request answer => answer = forgetfulNode request :=
    ⟨rfl, fun _ _ => rfl⟩
  obtain ⟨⟨lease, passes, t', -, -, -, hrequests, hcount, hpasses, htotal, -⟩, -⟩ :=
    syncTransactions_fetches_each_once hlimit hkeys hruns (p.served_trace hrefl hwithin)
  rw [hwaiting] at hrequests hcount htotal
  have hasks : limits.client.Asks := show Sample.limits.client.Asks by rfl
  refine ⟨sync, hruns, hrequests hasks, hpasses.trans (hcount.trans (by decide)), htotal, ?_, ?_⟩
  · rw [hrun]
    decide +kernel
  · rw [hrun]
    decide +kernel

end Worker

end AddressIndex
