import AddressIndex.Proofs.Storable

/-! What a batch yields. If what comes of a fetch depends on the signature alone, so does what is
derived from a signature for the history of an address. A batch of signatures that can all be worked
off yields what is derived from each, and one whose yield could be saved was such a batch. -/

namespace AddressIndex.Batch

open Store (Query)

section Signatures

variable {address : String} {outcome : String → Except Fault Rpc.Outcome} {s : String}

/-- What is derived from a signature, if its transaction is fetched and indexed. -/
def derived (address : String) (outcome : String → Except Fault Rpc.Outcome) (s : String) :
    Option Indexed :=
  match outcome s with
  | .ok (.fetched tx) => (Indexed.ofTransaction tx s).toOption.map (·.direct address)
  | _ => none

/-- A transaction that is fetched for the signature can be indexed and stored. -/
def CanWork (address : String) (outcome : String → Except Fault Rpc.Outcome) (s : String) : Prop :=
  ∀ tx, outcome s = .ok (.fetched tx) → ∃ indexed, Indexed.ofTransaction tx s = .ok indexed ∧
    (Query.save address [indexed.direct address]).Storable

theorem derived_of_ofTransaction {tx : Transaction} {indexed : Indexed}
    (hfetched : outcome s = .ok (.fetched tx)) (h : Indexed.ofTransaction tx s = .ok indexed) :
    derived address outcome s = some (indexed.direct address) := by
  simp only [derived, hfetched, h]
  rfl

theorem map_direct {names : List String} {found : List Indexed}
    (h : List.Forall₂ (fun s indexed => ∃ tx, outcome s = .ok (.fetched tx) ∧
      Indexed.ofTransaction tx s = .ok indexed) names found) :
    found.map (·.direct address) = names.filterMap (derived address outcome) := by
  induction h with
  | nil => rfl
  | cons hfirst _ ih =>
    obtain ⟨tx, hfetched, hof⟩ := hfirst
    rw [List.map_cons, ih, List.filterMap_cons_some (derived_of_ofTransaction hfetched hof)]

theorem CanWork.storable {t : Indexed} (h : CanWork address outcome s)
    (ht : derived address outcome s = some t) : (Query.save address [t]).Storable := by
  rcases hr : outcome s with fault | tx | error
  · simp [derived, hr] at ht
  · obtain ⟨indexed, hof, hstorable⟩ := h tx hr
    rw [derived_of_ofTransaction hr hof] at ht
    cases ht
    exact hstorable
  · simp [derived, hr] at ht

/-- Of what can be worked off the signature and the address can be written. -/
theorem CanWork.writable (h : CanWork address outcome s)
    (hsome : (derived address outcome s).isSome) :
    Text.hasHalf address = false ∧ Text.hasHalf s = false := by
  rcases hr : outcome s with fault | tx | error
  · simp [derived, hr] at hsome
  · obtain ⟨indexed, hof, hstorable⟩ := h tx hr
    obtain ⟨haddress, hsignature⟩ := Query.writable_of_storable hstorable
    refine ⟨haddress, ?_⟩
    obtain ⟨transfers, -, hpure⟩ := Except.bind_eq_ok.mp hof
    cases hpure
    change Text.hasHalf (if s.isEmpty then tx.signature else s) = false at hsignature
    split at hsignature
    next hempty =>
      rw [String.isEmpty_iff.mp hempty]
      rfl
    next => exact hsignature
  · simp [derived, hr] at hsome

theorem CanWork.isSome_derived (h : CanWork address outcome s) :
    (derived address outcome s).isSome = Rpc.Outcome.gives (outcome s) := by
  rcases hr : outcome s with fault | tx | error
  · simp only [derived, hr]
    rfl
  · obtain ⟨indexed, hof, -⟩ := h tx hr
    rw [derived_of_ofTransaction hr hof]
    rfl
  · simp only [derived, hr]
    rfl

end Signatures

/-- A result that has what is derived from each of its signatures. -/
structure Result.Yields (address : String) (outcome : String → Except Fault Rpc.Outcome)
    (signatures : List String) (result : Result) : Prop where
  succeeded : result.succeeded.map (·.direct address) =
    signatures.filterMap (derived address outcome)
  processed : result.processed = signatures.filter fun s => (derived address outcome s).isSome
  failed : result.failed = signatures.filter fun s => !(derived address outcome s).isSome

section Batches

variable {address : String} {outcome : String → Except Fault Rpc.Outcome}
  {signatures : List String} {result : Result}

theorem Result.Plain.yields (h : result.Plain outcome signatures)
    (hworks : ∀ s ∈ signatures, CanWork address outcome s) :
    result.Yields address outcome signatures := by
  have hsome : ∀ s ∈ signatures, Rpc.Outcome.gives (outcome s) =
      (derived address outcome s).isSome := fun s hs => (hworks s hs).isSome_derived.symm
  have hprocessed : result.processed =
      signatures.filter fun s => (derived address outcome s).isSome :=
    h.processed.trans (List.filter_congr hsome)
  refine ⟨?_, hprocessed, h.failed.trans (List.filter_congr fun s hs => by rw [hsome s hs])⟩
  rw [map_direct h.succeeded, hprocessed, List.filterMap_filter]
  refine List.filterMap_congr fun s _ => ?_
  cases derived address outcome s <;> rfl

variable (hown : ∀ s ∈ signatures, ∀ o, outcome s = .ok o → o.signature = s)

include hown

theorem mem_successes_settled {s : String} {tx : Transaction} :
    (s, tx) ∈ (Fetched.ofOutcomes
      (signatures.map fun s => (s, .settled s (outcome s)))).successes ↔
        s ∈ signatures ∧ outcome s = .ok (.fetched tx) := by
  rw [Fetched.mem_successes, List.mem_map]
  constructor
  · rintro ⟨s', hs', hsame⟩
    obtain ⟨rfl, hsettled⟩ := Prod.mk.inj hsame
    exact ⟨hs', (Rpc.Outcome.settled_fetched_iff (hown s' hs')).mp hsettled⟩
  · rintro ⟨hs, hfetched⟩
    exact ⟨s, hs, Prod.ext rfl ((Rpc.Outcome.settled_fetched_iff (hown s hs)).mpr hfetched)⟩

theorem report_yields (hworks : ∀ s ∈ signatures, CanWork address outcome s) :
    ∃ result, report (signatures.map fun s => (s, .settled s (outcome s))) = .ok result ∧
      result.Yields address outcome signatures := by
  cases hreport : report (signatures.map fun s => (s, .settled s (outcome s))) with
  | ok result => exact ⟨result, rfl, ((reports_of_report hreport).plain hown).yields hworks⟩
  | error fault =>
    rcases Except.bind_eq_error.mp hreport with hindex | ⟨_, _, ⟨⟩⟩
    obtain ⟨⟨s, tx⟩, hmem, hfails⟩ := Except.mem_of_mapM_eq_error hindex
    obtain ⟨hs, hfetched⟩ := (mem_successes_settled hown).mp hmem
    obtain ⟨indexed, hof, -⟩ := hworks s hs tx hfetched
    rw [hof] at hfails
    cases hfails

/-- Signatures of a batch whose transactions could be saved can be worked off. -/
theorem canWork_of_report
    (h : report (signatures.map fun s => (s, .settled s (outcome s))) = .ok result)
    (hsave : (Query.save address (result.succeeded.map (·.direct address))).Storable) :
    ∀ s ∈ signatures, CanWork address outcome s := by
  intro s hs tx hfetched
  obtain ⟨indexed, hindexed, hof⟩ := Except.partner_of_mem (reports_of_report h).succeeded
    ((mem_successes_settled hown).mpr ⟨hs, hfetched⟩)
  exact ⟨indexed, hof, Query.storable_save.mp hsave _ (List.mem_map_of_mem hindexed)⟩

end Batches

end AddressIndex.Batch
