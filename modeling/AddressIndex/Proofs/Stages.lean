import AddressIndex.Proofs.Pages
import AddressIndex.Proofs.Surroundings
import AddressIndex.Proofs.Yield

/-! The two stages of indexing where the node tells the same whenever it is asked. The records that
the pages hold are stored, and the waiting signatures are worked off: `Paged` and `Works` say what
that takes. A stage that succeeds had what it takes, and one that has it succeeds from any tables
and can be cut off only where part of the records is stored or of the signatures worked off. -/

namespace AddressIndex.Worker

open Store (Tables Query leaseOrder limited)
open Batch (derived CanWork)
open Surroundings (Carries)

/-- What the node tells of an address does not depend on when it is asked. -/
structure Told (answers : Answers) (limits : Limits) (address : String)
    (page : Option String → Except Fault (Option Rpc.Page))
    (outcome : String → Except Fault Rpc.Outcome) : Prop where
  pages {before : Option String} {t : Trace} {r : Except Fault (Option Rpc.Page)} :
    (nextPage limits address before).run.Runs t r → t.Answered answers → r = page before
  outcomes : limits.client.Steady answers outcome

variable {S : Surroundings} {limits : Limits} {address : String}
  {page : Option String → Except Fault (Option Rpc.Page)}
  {outcome : String → Except Fault Rpc.Outcome} {tables tables' : Tables}

/-! ### Signatures -/

/-- The records of at most so many pages from a bound back, and whether the bound on the pages ended
them. All of it can be fetched and stored. -/
inductive Paged (S : Surroundings) (limits : Limits) (address : String)
    (page : Option String → Except Fault (Option Rpc.Page)) :
    Nat → Option String → List SignatureRecord → Bool → Prop
  | stopped (before : Option String) : Paged S limits address page 0 before [] true
  | complete {left : Nat} {before : Option String} : page before = .ok none →
    Paged S limits address page (left + 1) before [] false
  | last {left : Nat} {before : Option String} {found : Rpc.Page} :
    page before = .ok (some found) → (Query.append address found.records).Storable →
    (found.records.length < limits.client.pageSize || found.cursor.isNone) →
    Paged S limits address page (left + 1) before found.records false
  | more {left : Nat} {before : Option String} {found : Rpc.Page}
    {records : List SignatureRecord} {capped : Bool} :
    page before = .ok (some found) → (Query.append address found.records).Storable →
    ¬ (found.records.length < limits.client.pageSize || found.cursor.isNone) →
    S.pause limits.pageDelay = .ok () →
    Paged S limits address page left found.cursor records capped →
    Paged S limits address page (left + 1) before (found.records ++ records) capped

theorem only_nextPage_quiet {before : Option String} :
    (nextPage limits address before).run.Only fun effect => ∀ q, effect ≠ .query q :=
  only_nextPage (fun _ => nofun) fun _ _ => nofun

theorem ends_nextPage (told : Told S.answers limits address page outcome) {before : Option String}
    {r : Except Fault (Option Rpc.Page)}
    (h : S.Ends (nextPage limits address before) tables r tables') :
    r = page before ∧ tables' = tables := by
  refine ⟨?_, h.passes.quiet only_nextPage_quiet⟩
  obtain ⟨t, hruns, hleads⟩ := h
  exact told.pages hruns hleads.answered

theorem carries_nextPage (told : Told S.answers limits address page outcome)
    {before : Option String} {found : Option Rpc.Page} {cut : Tables → Prop}
    (h : page before = .ok found) (hcut : cut tables) :
    S.Carries (nextPage limits address before) tables
      (fun next after => next = found ∧ after = tables) cut := by
  refine .quiet only_nextPage_quiet (fun r hends => ⟨found, ?_, rfl, rfl⟩) hcut
  rw [(ends_nextPage told hends).1, h]

theorem carries_storePage {records : List SignatureRecord}
    (h : (Query.append address records).Storable) :
    S.Carries (storePage address records) tables
      (fun _ after => after.untimed = tables.untimed.stored address records)
      fun after => after.untimed = tables.untimed ∨
        after.untimed = tables.untimed.stored address records := by
  by_cases hempty : records.isEmpty
  · rw [storePage_empty hempty, List.isEmpty_iff.mp hempty]
    exact .pure rfl (.inl rfl)
  · rw [storePage_of_ne hempty]
    exact .whole trivial h

theorem storable_of_storePage {records : List SignatureRecord} {count : Nat}
    (h : S.Ends (storePage address records) tables (.ok count) tables') :
    (Query.append address records).Storable := by
  by_cases hempty : records.isEmpty
  · rw [List.isEmpty_iff.mp hempty]
    exact ⟨fun p hp => absurd hp List.not_mem_nil, trivial⟩
  · rw [storePage_of_ne hempty] at h
    have hq : (Query.append address records).Indexes := trivial
    exact (Surroundings.ends_query_ok hq h).1

/-- Pages that can be stored are stored, and a cut leaves the first of their records. -/
theorem carries_syncPages (told : Told S.answers limits address page outcome) {left : Nat}
    {before : Option String} {records : List SignatureRecord} {capped : Bool}
    (h : Paged S limits address page left before records capped) (sync : SignatureSync) :
    S.Carries (syncPages limits address left before sync) tables
      (fun sync' after => sync'.capReached = (sync.capReached || capped) ∧
        after.untimed = tables.untimed.stored address records)
      fun after => ∃ done later, records = done ++ later ∧
        after.untimed = tables.untimed.stored address done := by
  induction h generalizing sync tables with
  | stopped before =>
    refine (Carries.log ⟨[], [], rfl, rfl⟩).bind ?_
    rintro _ _ rfl
    exact .pure ⟨by simp, rfl⟩ ⟨[], [], rfl, rfl⟩
  | complete hpage =>
    rw [syncPages]
    refine (carries_nextPage told hpage ⟨[], [], rfl, rfl⟩).bind ?_
    rintro _ _ ⟨rfl, rfl⟩
    exact .pure ⟨by simp, rfl⟩ ⟨[], [], rfl, rfl⟩
  | @last left before found hpage hstorable hlast =>
    rw [syncPages]
    refine (carries_nextPage told hpage ⟨[], _, rfl, rfl⟩).bind ?_
    rintro _ _ ⟨rfl, rfl⟩
    refine ((carries_storePage hstorable).mono_cut ?_).bind ?_
    · rintro after (hafter | hafter)
      · exact ⟨[], _, rfl, hafter⟩
      · exact ⟨found.records, [], by simp, hafter⟩
    intro inserted mid hmid
    refine (Carries.log ⟨found.records, [], by simp, hmid⟩).bind ?_
    rintro _ _ rfl
    rw [if_pos hlast]
    exact .pure ⟨by simp, hmid⟩ ⟨found.records, [], by simp, hmid⟩
  | @more left before found records capped hpage hstorable hmore hpause _ ih =>
    rw [syncPages]
    refine (carries_nextPage told hpage ⟨[], _, rfl, rfl⟩).bind ?_
    rintro _ _ ⟨rfl, rfl⟩
    refine ((carries_storePage hstorable).mono_cut ?_).bind ?_
    · rintro after (hafter | hafter)
      · exact ⟨[], _, rfl, hafter⟩
      · exact ⟨found.records, records, rfl, hafter⟩
    intro inserted mid hmid
    refine (Carries.log ⟨found.records, records, rfl, hmid⟩).bind ?_
    rintro _ _ rfl
    rw [if_neg hmore]
    refine (Carries.sleep hpause ⟨found.records, records, rfl, hmid⟩).bind ?_
    rintro _ _ rfl
    refine (ih _).mono ?_ ?_
    · rintro sync' after ⟨hcap, hafter⟩
      exact ⟨hcap, by rw [hafter, hmid, Tables.stored_append]⟩
    · rintro after ⟨done, later, rfl, hafter⟩
      exact ⟨found.records ++ done, later, (List.append_assoc _ _ _).symm,
        by rw [hafter, hmid, Tables.stored_append]⟩

/-- Pages that were stored can be. -/
theorem paged_of_syncPages (told : Told S.answers limits address page outcome) {left : Nat}
    {before : Option String} {sync sync' : SignatureSync}
    (h : S.Ends (syncPages limits address left before sync) tables (.ok sync') tables') :
    ∃ records capped, Paged S limits address page left before records capped := by
  induction left generalizing before sync tables with
  | zero => exact ⟨_, _, .stopped before⟩
  | succ left ih =>
    rw [syncPages] at h
    obtain ⟨found, mid, hnext, h⟩ := Surroundings.ends_bind_ok.mp h
    have hpage := (ends_nextPage told hnext).1.symm
    cases found with
    | none => exact ⟨_, _, .complete hpage⟩
    | some found =>
      obtain ⟨inserted, mid, hstore, h⟩ := Surroundings.ends_bind_ok.mp h
      have hstorable := storable_of_storePage hstore
      obtain ⟨_, mid, -, h⟩ := Surroundings.ends_bind_ok.mp h
      split at h
      next hlast => exact ⟨_, _, .last hpage hstorable hlast⟩
      next hmore =>
        obtain ⟨_, mid, hsleep, h⟩ := Surroundings.ends_bind_ok.mp h
        obtain ⟨records, capped, hrest⟩ := ih h
        have hpause : S.pause limits.pageDelay = .ok () :=
          Except.mapError_eq_ok (Surroundings.ends_sleep hsleep).symm
        exact ⟨_, _, .more hpage hstorable hmore hpause hrest⟩

/-! ### Transactions -/

/-- What it takes to work off signatures: a pause after a chunk goes well, and of each signature
what is fetched can be indexed and stored. -/
structure Works (S : Surroundings) (limits : Limits) (address : String)
    (outcome : String → Except Fault Rpc.Outcome) (signatures : List String) : Prop where
  pause : signatures ≠ [] → S.pause limits.batch.delay = .ok ()
  each : ∀ s ∈ signatures, CanWork address outcome s

section Works

variable {signatures more : List String}

theorem Works.nil : Works S limits address outcome [] where
  pause hne := absurd rfl hne
  each _ hs := absurd hs List.not_mem_nil

theorem Works.subset (h : Works S limits address outcome signatures) (hsub : more ⊆ signatures) :
    Works S limits address outcome more where
  pause hne := h.pause fun hnil => hne (List.subset_nil.mp (hnil ▸ hsub))
  each s hs := h.each s (hsub hs)

theorem Works.append (h : Works S limits address outcome signatures)
    (hmore : Works S limits address outcome more) :
    Works S limits address outcome (signatures ++ more) where
  pause hne := by
    by_cases hnil : signatures = []
    · exact hmore.pause (by simpa [hnil] using hne)
    · exact h.pause hnil
  each s hs := (List.mem_append.mp hs).elim (h.each s) (hmore.each s)

end Works

section Batches

variable {signatures : List String} {batch : Batch.Result}

theorem only_fetchMany_quiet : (Batch.fetchMany (Rpc.Outcome.fetch limits.client) limits.batch
    signatures).run.Only fun effect => ∀ q, effect ≠ .query q :=
  Batch.only_fetchMany (fun _ _ => nofun) nofun fun _ _ =>
    Rpc.Outcome.only_fetch nofun fun _ _ => nofun

/-- All pauses of a batch are the pause after a chunk. -/
theorem pause_of_mem {t : Trace} {r : Except Fault Batch.Result}
    {pause : Except ArithmeticFault Unit}
    (hruns : (Batch.fetchMany (Rpc.Outcome.fetch limits.client) limits.batch
      signatures).run.Runs t r) (hleads : S.Leads tables t tables') (h : pause ∈ t.pauses) :
    S.pause limits.batch.delay = pause := by
  obtain ⟨seconds, hmem⟩ := Trace.slept_of_pauses h
  have honly : (Batch.fetchMany (Rpc.Outcome.fetch limits.client) limits.batch
      signatures).run.Only fun effect => ∀ seconds, effect = .sleep seconds →
        seconds = limits.batch.delay :=
    Batch.only_fetchMany (fun _ _ => nofun) (fun _ hsame => Effect.sleep.inj hsame.symm)
      fun _ _ => Rpc.Outcome.only_fetch nofun fun _ _ => nofun
  obtain rfl := honly.runs hruns _ hmem seconds rfl
  exact (hleads.slept hmem).symm

/-- A batch comes to what its report says, unless its pause fails. -/
theorem ends_fetchMany (told : Told S.answers limits address page outcome) (hne : signatures ≠ [])
    {r : Except Fault Batch.Result}
    (h : S.Ends (Batch.fetchMany (Rpc.Outcome.fetch limits.client) limits.batch signatures) tables r
      tables') :
    (S.pause limits.batch.delay = .ok () ∧
      (∀ s ∈ signatures, ∀ o, outcome s = .ok o → o.signature = s) ∧
      r = (Batch.report (signatures.map fun s => (s, .settled s (outcome s)))).mapError
        .arithmetic) ∨
      S.pause limits.batch.delay ≠ .ok () ∧ ∃ fault, r = .error fault := by
  obtain ⟨t, hruns, hleads⟩ := h
  rcases Batch.report_of_steady told.outcomes hruns hleads.answered with
    ⟨fault, hfault, rfl⟩ | ⟨hr, hown, -⟩
  · refine .inr ⟨?_, _, rfl⟩
    rw [pause_of_mem hruns hleads hfault]
    exact nofun
  by_cases hpause : S.pause limits.batch.delay = .ok ()
  · exact .inl ⟨hpause, hown, hr⟩
  · refine .inr ⟨hpause, ?_⟩
    cases r with
    | ok result =>
      exact absurd (pause_of_mem hruns hleads (Batch.pause_of_fetchMany hne hruns)) hpause
    | error fault => exact ⟨fault, rfl⟩

theorem carries_fetchMany (told : Told S.answers limits address page outcome)
    (hne : signatures ≠ []) (hworks : Works S limits address outcome signatures)
    {cut : Tables → Prop} (hcut : cut tables) :
    S.Carries (Batch.fetchMany (Rpc.Outcome.fetch limits.client) limits.batch signatures) tables
      (fun batch after => batch.Yields address outcome signatures ∧ after = tables) cut := by
  refine .quiet only_fetchMany_quiet (fun r hends => ?_) hcut
  rcases ends_fetchMany told hne hends with ⟨-, hown, hr⟩ | ⟨hnot, -⟩
  · obtain ⟨batch, hreport, hyields⟩ := Batch.report_yields hown hworks.each
    rw [hreport] at hr
    exact ⟨batch, hr, hyields, rfl⟩
  · exact absurd (hworks.pause hne) hnot

theorem works_of_fetchMany (told : Told S.answers limits address page outcome)
    (hne : signatures ≠ [])
    (h : S.Ends (Batch.fetchMany (Rpc.Outcome.fetch limits.client) limits.batch signatures) tables
      (.ok batch) tables')
    (hsave : (Query.save address (batch.succeeded.map (·.direct address))).Storable) :
    Works S limits address outcome signatures := by
  rcases ends_fetchMany told hne h with ⟨hpause, hown, hr⟩ | ⟨-, _, ⟨⟩⟩
  exact ⟨fun _ => hpause, Batch.canWork_of_report hown (Except.mapError_eq_ok hr.symm) hsave⟩

theorem carries_saveBatch (h : batch.Yields address outcome signatures)
    (hworks : Works S limits address outcome signatures) :
    S.Carries (saveBatch address batch) tables
      (fun _ after => after.untimed =
        tables.untimed.saved address (derived address outcome) signatures)
      fun after => after.untimed = tables.untimed ∨ after.untimed =
        tables.untimed.saved address (derived address outcome) signatures := by
  by_cases hempty : batch.succeeded.isEmpty
  · have hnone : signatures.filterMap (derived address outcome) = [] := by
      rw [← h.succeeded, List.isEmpty_iff.mp hempty, List.map_nil]
    have hsame : tables.untimed.saved address (derived address outcome) signatures =
        tables.untimed := by
      rw [Tables.saved, hnone]
      rfl
    rw [saveBatch_empty hempty, hsame]
    exact .pure rfl (.inl rfl)
  · rw [saveBatch_of_ne hempty, h.succeeded]
    refine .whole trivial (Query.storable_save.mpr fun t ht => ?_)
    obtain ⟨s, hs, hderived⟩ := List.mem_filterMap.mp ht
    exact (hworks.each s hs).storable hderived

theorem storable_of_saveBatch {saved : Store.SaveCount}
    (h : S.Ends (saveBatch address batch) tables (.ok saved) tables') :
    (Query.save address (batch.succeeded.map (·.direct address))).Storable := by
  by_cases hempty : batch.succeeded.isEmpty
  · rw [List.isEmpty_iff.mp hempty]
    exact ⟨fun p hp => absurd hp List.not_mem_nil, trivial⟩
  · rw [saveBatch_of_ne hempty] at h
    have hq : (Query.save address (batch.succeeded.map (·.direct address))).Indexes := trivial
    exact (Surroundings.ends_query_ok hq h).1

theorem carries_markBatch (h : batch.Yields address outcome signatures)
    (hworks : Works S limits address outcome signatures) :
    S.Carries (markBatch address batch) tables
      (fun _ after => after.untimed =
        tables.untimed.marked address (derived address outcome) signatures)
      fun after => after.untimed = tables.untimed ∨ after.untimed =
        tables.untimed.marked address (derived address outcome) signatures := by
  by_cases hempty : batch.processed.isEmpty
  · have hsame : tables.untimed.marked address (derived address outcome) signatures =
        tables.untimed := by
      rw [Tables.marked, ← h.processed, List.isEmpty_iff.mp hempty, Query.next, Store.markRows_nil]
    rw [markBatch_empty hempty, hsame]
    exact .pure rfl (.inl rfl)
  · rw [markBatch_of_ne hempty, h.processed]
    refine Carries.bind (.whole trivial (Query.storable_mark.mpr fun s hs => ?_))
      fun _ mid hmid => .pure hmid (.inr hmid)
    obtain ⟨hs, hsome⟩ := List.mem_filter.mp hs
    exact (hworks.each s hs).writable hsome

/-- A pass works off what was leased. It can be cut off between its save and its mark. -/
theorem carries_runPass (told : Told S.answers limits address page outcome) (hne : signatures ≠ [])
    (hworks : Works S limits address outcome signatures) (sync : TransactionSync) :
    S.Carries (runPass limits address signatures sync) tables
      (fun out after => out.1.Yields address outcome signatures ∧ after.untimed =
        tables.untimed.worked address (derived address outcome) signatures)
      fun after => after.untimed = tables.untimed ∨
        after.untimed = tables.untimed.saved address (derived address outcome) signatures ∨
        after.untimed = tables.untimed.worked address (derived address outcome) signatures := by
  refine (carries_fetchMany told hne hworks (.inl rfl)).bind ?_
  rintro batch mid ⟨hyields, hmid⟩
  subst mid
  refine ((carries_saveBatch hyields hworks).mono_cut ?_).bind ?_
  · rintro after (hafter | hafter)
    · exact .inl hafter
    · exact .inr (.inl hafter)
  intro saved mid hsaved
  refine ((carries_markBatch hyields hworks).mono_cut ?_).bind ?_
  · rintro after (hafter | hafter)
    · exact .inr (.inl (hafter.trans hsaved))
    · exact .inr (.inr (by rw [hafter, hsaved, Tables.worked]))
  intro _ last hlast
  have hworked : last.untimed =
      tables.untimed.worked address (derived address outcome) signatures := by
    rw [hlast, hsaved, Tables.worked]
  split
  · refine (Carries.log (.inr (.inr hworked))).bind ?_
    rintro _ _ rfl
    exact .pure ⟨hyields, hworked⟩ (.inr (.inr hworked))
  · exact .pure ⟨hyields, hworked⟩ (.inr (.inr hworked))

theorem works_of_runPass (told : Told S.answers limits address page outcome)
    (hne : signatures ≠ []) {sync : TransactionSync} {out : Batch.Result × TransactionSync}
    (h : S.Ends (runPass limits address signatures sync) tables (.ok out) tables') :
    Works S limits address outcome signatures := by
  obtain ⟨batch, mid, hfetch, h⟩ := Surroundings.ends_bind_ok.mp h
  obtain ⟨saved, mid, hsave, -⟩ := Surroundings.ends_bind_ok.mp h
  exact works_of_fetchMany told hne hfetch (storable_of_saveBatch hsave)

end Batches

section Drain

variable {left : Nat} {leased failed rest : List String} {base : Tables}
  {sync : TransactionSync}

/-- The signatures of a list that nothing is derived from. -/
def failures (address : String) (outcome : String → Except Fault Rpc.Outcome)
    (signatures : List String) : List String :=
  signatures.filter fun s => !(derived address outcome s).isSome

@[simp] theorem failures_nil : failures address outcome [] = [] := rfl

theorem failures_append {names more : List String} :
    failures address outcome (names ++ more) =
      failures address outcome names ++ failures address outcome more :=
  List.filter_append ..

/-- Before a pass: what still waits, the part of it that is leased, and passes for all of it. -/
structure Waits (limits : Limits) (address : String) (left : Nat) (leased failed rest : List String)
    (base : Tables) : Prop where
  order : leaseOrder base.signatures address failed = rest
  nodup : rest.Nodup
  leased : leased = limited limits.leaseLimit rest
  enough : rest.length ≤ left

theorem Waits.split (h : Waits limits address left leased failed rest base)
    (hlimit : limits.leaseLimit ≠ 0) :
    ∃ later, rest = leased ++ later ∧ (leased = [] → rest = []) := by
  obtain ⟨later, hrest, hnil⟩ := Store.limited_append hlimit rest
  rw [← h.leased] at hrest hnil
  exact ⟨later, hrest, hnil⟩

/-- After a pass what comes after the lease waits. -/
theorem Waits.pass {later next : List String} {after : Tables} {batch : Batch.Result}
    (h : Waits limits address (left + 1) leased failed (leased ++ later) base) (hne : leased ≠ [])
    (hyields : batch.Yields address outcome leased)
    (hafter : after = base.worked address (derived address outcome) leased)
    (hnext : next = limited limits.leaseLimit
      (leaseOrder after.signatures address (failed ++ batch.failed))) :
    Waits limits address left next (failed ++ batch.failed) later after := by
  have horder : leaseOrder after.signatures address (failed ++ batch.failed) = later := by
    rw [hyields.failed, hafter]
    exact Tables.leaseOrder_rest h.order h.nodup
  refine ⟨horder, (List.nodup_append.mp h.nodup).2.1, by rw [hnext, horder], ?_⟩
  have hsome : 0 < leased.length := List.length_pos_iff.mpr hne
  have henough := h.enough
  rw [List.length_append] at henough
  omega

theorem drain_nothing : drain limits address left [] failed sync = pure sync := by
  cases left <;> rfl

theorem carries_lease {exclude : List String} {cut : Tables → Prop}
    (hlease : (Query.lease address limits.leaseLimit exclude).Storable)
    (hcut : ∀ after : Tables, after.untimed = tables.untimed → cut after) :
    S.Carries (Attempt.query (.lease address limits.leaseLimit exclude)) tables
      (fun lease after => after.untimed = tables.untimed ∧
        lease.signatures = limited limits.leaseLimit
          (leaseOrder after.untimed.signatures address exclude) ∧
        lease.waiting = (leaseOrder after.untimed.signatures address exclude).length) cut := by
  refine .query trivial hlease (fun _ after hafter => ?_) (hcut _ rfl) hcut
  have hsame : leaseOrder after.untimed.signatures address exclude =
      leaseOrder tables.signatures address exclude := by
    rw [hafter]
    exact Store.leaseOrder_untimed _
  rw [hsame]
  exact ⟨hafter, rfl, rfl⟩

/-- Passes work off all that waits. A cut leaves some of it worked off, and perhaps a piece more
that is saved. -/
theorem carries_drain (told : Told S.answers limits address page outcome)
    (hlimit : limits.leaseLimit ≠ 0)
    (hlease : (Query.lease address limits.leaseLimit
      (failed ++ failures address outcome rest)).Storable)
    (hwaits : Waits limits address left leased failed rest tables.untimed)
    (hworks : Works S limits address outcome rest) :
    S.Carries (drain limits address left leased failed sync) tables
      (fun _ after => after.untimed =
        tables.untimed.worked address (derived address outcome) rest)
      fun after => ∃ done piece later, rest = done ++ (piece ++ later) ∧ after.untimed =
        (tables.untimed.worked address (derived address outcome) done).saved address
          (derived address outcome) piece := by
  induction left generalizing leased failed rest tables sync with
  | zero =>
    obtain rfl : rest = [] := List.length_eq_zero_iff.mp (Nat.le_zero.mp hwaits.enough)
    exact .pure (by simp) ⟨[], [], [], rfl, by simp⟩
  | succ left ih =>
    -- what waits is what is leased and what comes after it; nothing is leased only if nothing waits
    obtain ⟨later, rfl, hempty⟩ := hwaits.split hlimit
    by_cases hnil : leased = []
    · rw [hempty hnil, hnil, drain_nothing]
      exact .pure (by simp) ⟨[], [], [], rfl, by simp⟩
    rw [drain, if_neg (by simpa using hnil)]
    have hleased := hworks.subset (List.subset_append_left leased later)
    refine ((carries_runPass told hnil hleased sync).mono_cut ?_).bind ?_
    · rintro after (hafter | hafter | hafter)
      · exact ⟨[], [], leased ++ later, rfl, by simpa using hafter⟩
      · exact ⟨[], leased, later, rfl, by simpa using hafter⟩
      · exact ⟨leased, [], later, rfl, by simpa using hafter⟩
    rintro ⟨batch, sync'⟩ mid ⟨hyields, hmid⟩
    -- the last lease excludes the most
    rw [failures_append, ← List.append_assoc] at hlease
    have hfailed : batch.failed = failures address outcome leased := hyields.failed
    rw [← hfailed] at hlease
    have hnow := Query.storable_lease_of_sublist hlease (List.sublist_append_left _ _)
    refine (carries_lease hnow fun after hafter => ?_).bind ?_
    · exact ⟨leased, [], later, rfl, by simpa [hmid] using hafter⟩
    rintro lease next ⟨hnext, hsignatures, -⟩
    have hworked := hnext.trans hmid
    have hlater := hworks.subset (List.subset_append_right leased later)
    refine (ih hlease (hwaits.pass hnil hyields hworked hsignatures) hlater).mono ?_ ?_
    · intro _ after hafter
      rw [hafter, hworked, Tables.worked_append]
    · rintro after ⟨done, piece, more, rfl, hafter⟩
      refine ⟨leased ++ done, piece, more, (List.append_assoc _ _ _).symm, ?_⟩
      rw [hafter, hworked, Tables.worked_append]

/-- Signatures that were worked off can be, and so can the leases that it took. -/
theorem works_of_drain (told : Told S.answers limits address page outcome)
    (hlimit : limits.leaseLimit ≠ 0)
    (hlease : (Query.lease address limits.leaseLimit failed).Storable)
    (hwaits : Waits limits address left leased failed rest tables.untimed)
    {sync' : TransactionSync}
    (h : S.Ends (drain limits address left leased failed sync) tables (.ok sync') tables') :
    (Query.lease address limits.leaseLimit (failed ++ failures address outcome rest)).Storable ∧
      Works S limits address outcome rest := by
  induction left generalizing leased failed rest tables sync with
  | zero =>
    obtain rfl : rest = [] := List.length_eq_zero_iff.mp (Nat.le_zero.mp hwaits.enough)
    exact ⟨by simpa using hlease, .nil⟩
  | succ left ih =>
    obtain ⟨later, rfl, hempty⟩ := hwaits.split hlimit
    by_cases hnil : leased = []
    · rw [hempty hnil]
      exact ⟨by simpa using hlease, .nil⟩
    rw [drain, if_neg (by simpa using hnil)] at h
    obtain ⟨⟨batch, sync₁⟩, mid, hpass, h⟩ := Surroundings.ends_bind_ok.mp h
    have hleased := works_of_runPass told hnil hpass
    obtain ⟨_, ⟨⟩, hyields, hmid⟩ := (carries_runPass told hnil hleased sync).ends hpass
    obtain ⟨lease, next, hnext, h⟩ := Surroundings.ends_bind_ok.mp h
    have hq : (Query.lease address limits.leaseLimit (failed ++ batch.failed)).Indexes := trivial
    have hnow := (Surroundings.ends_query_ok hq hnext).1
    obtain ⟨_, ⟨⟩, hsame, hsignatures, -⟩ :=
      (carries_lease hnow fun _ _ => trivial).ends hnext
    obtain ⟨hlast, hlater⟩ := ih hnow (hwaits.pass hnil hyields (hsame.trans hmid) hsignatures) h
    have hfailed : batch.failed = failures address outcome leased := hyields.failed
    rw [hfailed, List.append_assoc, ← failures_append] at hlast
    exact ⟨hlast, hleased.append hlater⟩

end Drain

/-- The signatures that an attempt works off: under a limit of zero nothing is leased. -/
def toWork (limits : Limits) (address : String) (base : Tables) : List String :=
  if limits.leaseLimit = 0 then [] else leaseOrder base.signatures address []

theorem nodup_toWork (hkeys : (tables.signatures.map Store.SignatureRow.key).Nodup) :
    (toWork limits address tables).Nodup := by
  unfold toWork
  split
  · exact List.nodup_nil
  · exact Store.leaseOrder_nodup hkeys

/-- Of what waited the failures and the rest are left. -/
theorem toWork_worked {derived : String → Option Indexed} {done piece : List String} :
    toWork limits address ((tables.worked address derived done).saved address derived piece) =
      (toWork limits address tables).filter fun s =>
        !(done.filter fun s => (derived s).isSome).contains s := by
  unfold toWork
  split
  · rfl
  · exact Tables.leaseOrder_worked

/-- The first lease. -/
theorem waits_toWork (hkeys : (tables.signatures.map Store.SignatureRow.key).Nodup)
    (hlimit : limits.leaseLimit ≠ 0) {lease : Store.Lease} {mid : Tables}
    (hmid : mid.untimed = tables.untimed)
    (hsignatures : lease.signatures =
      limited limits.leaseLimit (leaseOrder mid.untimed.signatures address []))
    (hwaiting : lease.waiting = (leaseOrder mid.untimed.signatures address []).length) :
    Waits limits address lease.waiting lease.signatures []
      (toWork limits address mid.untimed) mid.untimed := by
  rw [toWork, if_neg hlimit]
  have hkeys' := Store.nodup_keys_untimed.mpr hkeys
  exact ⟨rfl, Store.leaseOrder_nodup (hmid ▸ hkeys'), hsignatures, hwaiting.ge⟩

theorem carries_syncTransactions (told : Told S.answers limits address page outcome)
    (hkeys : (tables.signatures.map Store.SignatureRow.key).Nodup)
    (hlease : (Query.lease address limits.leaseLimit
      (failures address outcome (toWork limits address tables.untimed))).Storable)
    (hworks : Works S limits address outcome (toWork limits address tables.untimed)) :
    S.Carries (syncTransactions limits address) tables
      (fun _ after => after.untimed = tables.untimed.worked address (derived address outcome)
        (toWork limits address tables.untimed))
      fun after => ∃ done piece later,
        toWork limits address tables.untimed = done ++ (piece ++ later) ∧ after.untimed =
          (tables.untimed.worked address (derived address outcome) done).saved address
            (derived address outcome) piece := by
  have hfirst := Query.storable_lease_of_sublist hlease (List.nil_sublist _)
  refine (carries_lease hfirst fun after hafter => ?_).bind ?_
  · exact ⟨[], [], _, rfl, by simpa using hafter⟩
  rintro lease mid ⟨hmid, hsignatures, hwaiting⟩
  rw [← hmid] at hworks hlease ⊢
  by_cases hlimit : limits.leaseLimit = 0
  · have hnone : lease.signatures = [] := by
      rw [hsignatures, hlimit]
      rfl
    rw [hnone, drain_nothing, toWork, if_pos hlimit]
    exact .pure (by simp) ⟨[], [], [], rfl, by simp⟩
  · exact carries_drain told hlimit hlease (waits_toWork hkeys hlimit hmid hsignatures hwaiting)
      hworks

theorem works_of_syncTransactions (told : Told S.answers limits address page outcome)
    (hkeys : (tables.signatures.map Store.SignatureRow.key).Nodup) {sync : TransactionSync}
    (h : S.Ends (syncTransactions limits address) tables (.ok sync) tables') :
    (Query.lease address limits.leaseLimit
      (failures address outcome (toWork limits address tables.untimed))).Storable ∧
      Works S limits address outcome (toWork limits address tables.untimed) := by
  obtain ⟨lease, mid, hlease, h⟩ := Surroundings.ends_bind_ok.mp h
  have hq : (Query.lease address limits.leaseLimit []).Indexes := trivial
  have hstorable := (Surroundings.ends_query_ok hq hlease).1
  obtain ⟨_, ⟨⟩, hmid, hsignatures, hwaiting⟩ :=
    (carries_lease hstorable fun _ _ => trivial).ends hlease
  rw [← hmid]
  by_cases hlimit : limits.leaseLimit = 0
  · rw [toWork, if_pos hlimit]
    exact ⟨hstorable, .nil⟩
  · exact works_of_drain told hlimit hstorable
      (waits_toWork hkeys hlimit hmid hsignatures hwaiting) h

/-! ### Both stages -/

theorem run_runStage {α : Type} (stage : String) (x : Attempt α) :
    (runStage stage x).run = x.run >>= fun r => pure (r.mapError (⟨stage, ·⟩)) := by
  refine congrArg (x.run >>= ·) (funext fun r => ?_)
  cases r <;> rfl

section Stage

variable {α : Type} {stage : String} {x : Attempt α} {post : α → Tables → Prop}
  {cut : Tables → Prop}

theorem ends_runStage {r : Except Abort α}
    (h : S.Ends (runStage stage x) tables r tables') :
    ∃ r', r = r'.mapError (⟨stage, ·⟩) ∧ S.Ends x tables r' tables' := by
  obtain ⟨t, hruns, hleads⟩ := h
  rw [run_runStage] at hruns
  obtain ⟨t₁, t₂, r', rfl, hx, hpure⟩ := Program.runs_bind.mp hruns
  obtain ⟨rfl, rfl⟩ := Program.runs_pure.mp hpure
  rw [List.append_nil] at hleads
  exact ⟨r', rfl, t₁, hx, hleads⟩

theorem ends_runStage_ok {value : α} (h : S.Ends (runStage stage x) tables (.ok value) tables') :
    S.Ends x tables (.ok value) tables' := by
  obtain ⟨r', hr, hx⟩ := ends_runStage h
  rwa [Except.mapError_eq_ok hr.symm] at hx

/-- To be a stage changes nothing but the name of a fault. -/
theorem carries_runStage (h : S.Carries x tables post cut) :
    S.Carries (runStage stage x) tables post cut where
  ends hends := by
    obtain ⟨r', rfl, hx⟩ := ends_runStage hends
    obtain ⟨a, rfl, ha⟩ := h.ends hx
    exact ⟨a, rfl, ha⟩
  passes hpasses := by
    obtain ⟨t, left, hleft, hleads⟩ := hpasses
    rw [run_runStage] at hleft
    rcases Program.leaves_bind hleft with ⟨p, hx⟩ | ⟨t₁, t₂, r', rfl, hx, hpure⟩
    · exact h.passes ⟨t, p, hx, hleads⟩
    · cases hpure
      rw [List.append_nil] at hleads
      exact h.passes ⟨t₁, _, hx.leaves, hleads⟩

end Stage

/-- What it takes to index an address: its pages can be stored, and what waits then can be leased
and worked off, also when all the failures have come to be excluded. -/
structure Indexable (S : Surroundings) (limits : Limits) (address : String)
    (page : Option String → Except Fault (Option Rpc.Page))
    (outcome : String → Except Fault Rpc.Outcome) (base : Tables) (records : List SignatureRecord)
    (capped : Bool) : Prop where
  pages : Paged S limits address page limits.maxPages.toNat none records capped
  lease : (Query.lease address limits.leaseLimit (failures address outcome
    (toWork limits address (base.stored address records)))).Storable
  works : Works S limits address outcome (toWork limits address (base.stored address records))

/-- Tables in which indexing is under way: part of the records is stored, or they all are and part
of the signatures is worked off, with perhaps a piece more that is saved. -/
inductive Underway (limits : Limits) (address : String)
    (outcome : String → Except Fault Rpc.Outcome) (base : Tables)
    (records : List SignatureRecord) : Tables → Prop
  | paging {done later : List SignatureRecord} : records = done ++ later →
    Underway limits address outcome base records (base.stored address done)
  | draining {done piece later : List String} :
    toWork limits address (base.stored address records) = done ++ (piece ++ later) →
    Underway limits address outcome base records
      (((base.stored address records).worked address (derived address outcome) done).saved address
        (derived address outcome) piece)

section Index

variable {records : List SignatureRecord} {capped : Bool}

/-- The tables after indexing. -/
def indexed (limits : Limits) (address : String) (outcome : String → Except Fault Rpc.Outcome)
    (records : List SignatureRecord) (base : Tables) : Tables :=
  let stored := base.stored address records
  stored.worked address (derived address outcome) (toWork limits address stored)

theorem nodup_keys_stored (hkeys : (tables.signatures.map Store.SignatureRow.key).Nodup)
    {after : Tables} (hafter : after.untimed = tables.untimed.stored address records) :
    (after.signatures.map Store.SignatureRow.key).Nodup := by
  rw [← Store.nodup_keys_untimed, hafter]
  exact Tables.nodup_stored (Store.nodup_keys_untimed.mpr hkeys) records

theorem carries_index (told : Told S.answers limits address page outcome)
    (hkeys : (tables.signatures.map Store.SignatureRow.key).Nodup)
    (h : Indexable S limits address page outcome tables.untimed records capped) :
    S.Carries (index limits address) tables
      (fun counts after => counts.1.capReached = capped ∧
        after.untimed = indexed limits address outcome records tables.untimed)
      fun after => Underway limits address outcome tables.untimed records after.untimed := by
  unfold index
  refine (carries_runStage ((carries_syncPages told h.pages _).mono_cut ?_)).bind ?_
  · rintro after ⟨done, later, hrecords, hafter⟩
    rw [hafter]
    exact .paging hrecords
  rintro signatures mid ⟨hcapped, hmid⟩
  obtain ⟨-, hlease, hworks⟩ := h
  rw [← hmid] at hlease hworks
  refine (carries_runStage ((carries_syncTransactions told (nodup_keys_stored hkeys hmid) hlease
    hworks).mono_cut ?_)).bind ?_
  · rintro after ⟨done, piece, later, hwaiting, hafter⟩
    rw [hafter, hmid]
    exact .draining (hmid ▸ hwaiting)
  intro transactions after hafter
  rw [hmid] at hafter
  refine .pure ⟨hcapped, hafter⟩ ?_
  have hall : toWork limits address (tables.untimed.stored address records) =
      toWork limits address (tables.untimed.stored address records) ++ ([] ++ []) := by simp
  have hunderway : Underway limits address outcome tables.untimed records _ := .draining hall
  rwa [Tables.saved_nil, ← hafter] at hunderway

/-- Indexing that succeeds had what it takes. -/
theorem indexable_of_index (told : Told S.answers limits address page outcome)
    (hkeys : (tables.signatures.map Store.SignatureRow.key).Nodup)
    {counts : SignatureSync × TransactionSync}
    (h : S.Ends (index limits address) tables (.ok counts) tables') :
    ∃ records capped, Indexable S limits address page outcome tables.untimed records capped := by
  unfold index at h
  obtain ⟨signatures, mid, hpages, h⟩ := Surroundings.ends_bind_ok.mp h
  have hpages := ends_runStage_ok hpages
  obtain ⟨records, capped, hpaged⟩ := paged_of_syncPages told hpages
  obtain ⟨_, ⟨⟩, -, hmid⟩ := (carries_syncPages told hpaged _).ends hpages
  obtain ⟨transactions, last, hdrain, -⟩ := Surroundings.ends_bind_ok.mp h
  obtain ⟨hlease, hworks⟩ :=
    works_of_syncTransactions told (nodup_keys_stored hkeys hmid) (ends_runStage_ok hdrain)
  exact ⟨records, capped, hpaged, hmid ▸ hlease, hmid ▸ hworks⟩

end Index

end AddressIndex.Worker
