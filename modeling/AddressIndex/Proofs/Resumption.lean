import AddressIndex.Proofs.Stages

/-! Resumption. Indexing that is cut off anywhere can be done again from the beginning: where it
would have succeeded it succeeds again, and it leaves the tables that it would have left. What a cut
can leave is told by `Underway`, and from all of that indexing ends in the same tables. -/

namespace AddressIndex

open Store (Tables Query leaseOrder fits)

namespace Worker

variable {limits : Limits} {address : String} {node : Rpc.Request → Rpc.Answer}

theorem told_of_node : Told (fun request answer => answer = node request) limits address
    (fun before => pageOf limits address before
      (node (.signatures address before limits.client.pageSize)))
    fun s =>
      (limits.client.receive (node (.transaction s)) >>= Rpc.Outcome.ofAnswer s).map (·.1) where
  pages {before t r} hruns hanswered := by
    rcases runs_nextPage hruns with ⟨-, answer, hcalls, rfl⟩ | ⟨-, -, fault, rfl, hnone⟩
    · rw [hanswered _ _ (Trace.mem_of_calls hcalls)]
    · rw [pageOf, hnone]
      rfl
  outcomes := Rpc.Client.steady_of_node node

section Underway

variable {S : Surroundings} {page : Option String → Except Fault (Option Rpc.Page)}
  {outcome : String → Except Fault Rpc.Outcome} {base reached : Tables}
  {records : List SignatureRecord} {capped : Bool}

theorem Underway.nodup_keys (hkeys : (base.signatures.map Store.SignatureRow.key).Nodup)
    (h : Underway limits address outcome base records reached) :
    (reached.signatures.map Store.SignatureRow.key).Nodup := by
  cases h with
  | paging _ => exact Tables.nodup_stored hkeys _
  | draining _ =>
    rw [Tables.signatures_saved, Tables.keys_worked]
    exact Tables.nodup_stored hkeys records

/-- From tables in which indexing is under way it takes no more to index the address, and it leaves
the same tables. -/
theorem Underway.resumes (hkeys : (base.signatures.map Store.SignatureRow.key).Nodup)
    (h : Underway limits address outcome base records reached)
    (hindexable : Indexable S limits address page outcome base records capped) :
    Indexable S limits address page outcome reached records capped ∧
      indexed limits address outcome records reached =
        indexed limits address outcome records base := by
  obtain ⟨hpages, hlease, hworks⟩ := hindexable
  cases h with
  | @paging done later hrecords =>
    have hsame : (base.stored address done).stored address records =
        base.stored address records := by
      rw [hrecords, Tables.stored_resumed]
    refine ⟨⟨hpages, hsame.symm ▸ hlease, hsame.symm ▸ hworks⟩, ?_⟩
    simp only [indexed, hsame]
  | @draining done piece later hwaiting =>
    generalize hstored : base.stored address records = stored at hwaiting hlease hworks
    have hnodup : (toWork limits address stored).Nodup :=
      nodup_toWork (hstored ▸ Tables.nodup_stored hkeys records)
    generalize hreached : (stored.worked address (Batch.derived address outcome) done).saved address
      (Batch.derived address outcome) piece = reached
    -- the records are there already
    have hsame : reached.stored address records = reached := by
      refine Tables.stored_of_mem fun r hr => ?_
      rw [← hreached, Tables.signatures_saved, Tables.keys_worked, ← hstored, Tables.keys_stored]
      exact .inr (List.mem_map_of_mem hr)
    have hleft : toWork limits address reached = (toWork limits address stored).filter fun s =>
        !(done.filter fun s => (Batch.derived address outcome s).isSome).contains s :=
      hreached ▸ toWork_worked
    refine ⟨⟨hpages, ?_, ?_⟩, ?_⟩
    · rw [hsame, hleft]
      exact Query.storable_lease_of_sublist hlease (List.filter_sublist.filter _)
    · rw [hsame, hleft]
      exact hworks.subset (List.filter_subset_self _)
    · rw [hwaiting] at hleft hnodup
      simp only [indexed, hsame, hstored]
      rw [hwaiting]
      exact Tables.worked_resumed hleft hnodup hreached.symm

end Underway

/-- Indexing that would succeed and is cut off anywhere, even between the save and the mark of a
pass or between two pages, can be done again from the beginning. Whenever it is, it succeeds, and it
leaves the same rows in all tables, but for times, as if it had not been cut off. -/
theorem index_resumes {pause : Binary64 → Except ArithmeticFault Unit} {start cut after : Tables}
    {t₁ t₂ : Trace} {counts : SignatureSync × TransactionSync}
    (hkeys : (start.signatures.map Store.SignatureRow.key).Nodup)
    (hruns : (index limits address).run.Runs (t₁ ++ t₂) (.ok counts))
    (hdone : (Surroundings.ofNode node pause).Leads start t₁ cut)
    (hlost : (Surroundings.ofNode node pause).Leads cut t₂ after) :
    (∃ t r again, (index limits address).run.Runs t r ∧
      (Surroundings.ofNode node pause).Leads cut t again) ∧
    ∀ t r again, (index limits address).run.Runs t r →
      (Surroundings.ofNode node pause).Leads cut t again →
      (∃ counts', r = .ok counts') ∧ again.untimed = after.untimed := by
  have told : Told (Surroundings.ofNode node pause).answers limits address _ _ := told_of_node
  have hends : (Surroundings.ofNode node pause).Ends (index limits address) start (.ok counts)
      after := ⟨_, hruns, Surroundings.leads_append.mpr ⟨cut, hdone, hlost⟩⟩
  obtain ⟨records, capped, hindexable⟩ := indexable_of_index told hkeys hends
  have hcarries := carries_index told hkeys hindexable
  obtain ⟨_, -, -, hafter⟩ := hcarries.ends hends
  obtain ⟨left, hleft, -⟩ := hruns.split
  have hunderway := hcarries.passes ⟨t₁, left, hleft, hdone⟩
  -- what the cut left is enough to go on from, and leads to the same tables
  have hstart := Store.nodup_keys_untimed.mpr hkeys
  obtain ⟨hagain, hsame⟩ := hunderway.resumes hstart hindexable
  have hcut := Store.nodup_keys_untimed.mp (hunderway.nodup_keys hstart)
  refine ⟨Surroundings.exists_leads (fun request => ⟨node request, rfl⟩) _ cut,
    fun t r again hruns' hleads => ?_⟩
  obtain ⟨counts', hr, -, hagain'⟩ := (carries_index told hcut hagain).ends ⟨t, hruns', hleads⟩
  exact ⟨⟨counts', hr⟩, by rw [hagain', hsame, hafter]⟩

/-- The operations on the database in a trace. -/
def operations (t : Trace) : List Store.Operation :=
  t.filterMap fun ev =>
    match ev.effect with
    | .query q => some q.operation
    | _ => none

set_option maxRecDepth 20000 in
/-- Indexing that is cut off between its save and its mark. -/
theorem index_resumes_between_save_and_mark :
    let p := (index Sample.limits "A").run
    let t := p.trace (Sample.world (.ready .blank))
    let S := Surroundings.ofNode Sample.node fun _ => .ok ()
    ∃ n cut after, S.Leads .blank (t.take n) cut ∧ S.Leads cut (t.drop n) after ∧
      operations (t.take n) = [.append, .lease, .save] ∧ operations (t.drop n) = [.mark, .lease] ∧
      ∃ t' counts again, p.Runs t' (.ok counts) ∧ S.Leads cut t' again ∧
        again.untimed = after.untimed := by
  intro p t S
  have hsome : (p.run (Sample.world (.ready .blank))).1.toOption.isSome := by decide +kernel
  have hruns := p.runs_trace (Sample.world (.ready .blank))
  cases hr : (p.run (Sample.world (.ready .blank))).1 with
  | error _ =>
    rw [hr] at hsome
    cases hsome
  | ok counts =>
    rw [hr] at hruns
    obtain ⟨after, -, hleads⟩ := p.leads_trace (Sample.calm (.ready .blank)) rfl
    obtain ⟨n, hbefore, hbehind⟩ : ∃ n, operations (t.take n) = [.append, .lease, .save] ∧
        operations (t.drop n) = [.mark, .lease] := ⟨11, by decide +kernel, by decide +kernel⟩
    change p.Runs t (.ok counts) at hruns
    change S.Leads .blank t after at hleads
    rw [← List.take_append_drop n t] at hruns hleads
    obtain ⟨cut, hdone, hlost⟩ := Surroundings.leads_append.mp hleads
    have hkeys : (Tables.blank.signatures.map Store.SignatureRow.key).Nodup := List.nodup_nil
    obtain ⟨⟨t', r, again, hruns', hleads'⟩, hsame⟩ := index_resumes hkeys hruns hdone hlost
    obtain ⟨⟨counts', rfl⟩, huntimed⟩ := hsame t' r again hruns' hleads'
    exact ⟨n, cut, after, hdone, hlost, hbefore, hbehind, t', counts', again, hruns', hleads',
      huntimed⟩

end Worker

end AddressIndex
