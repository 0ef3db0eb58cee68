import AddressIndex.Proofs.Amounts
import AddressIndex.Proofs.Execution
import AddressIndex.Proofs.Together

/-! What batches come to. A batch fails only for a transaction that is out of range, and then as a
whole. One that returns is the plain map of its signatures: if what is fetched depends on the
signature alone, neither the size of the chunks nor how many fetches run at once changes it. -/

namespace AddressIndex

namespace Rpc

namespace Outcome

/-- The signature that an outcome is for. -/
def signature : Outcome → String
  | .fetched tx => tx.signature
  | .failed error => error.signature

def isFetched : Outcome → Bool
  | .fetched _ => true
  | .failed _ => false

theorem ofAnswer_signature {s : String} {answer : Answer} {outcome : Outcome} {status : Option Int}
    (h : ofAnswer s answer = .ok (outcome, status)) : outcome.signature = s := by
  unfold ofAnswer at h
  dsimp only at h
  split at h
  · cases h
    rfl
  · cases h
    rfl
  · cases h
  · split at h
    · split at h
      · cases h
        rfl
      · cases h
    · cases h
      rfl
    · split at h
      next hsame =>
        cases h
        exact hsame
      · cases h
        rfl

/-- A fetch that does not fail makes its outcome of the one answer that it got. -/
theorem runs_fetch_ok {client : Client} {s : String} {t : Trace} {outcome : Outcome}
    (h : (fetch client s).run.Runs t (.ok outcome)) :
    ∃ answer status?, t.calls = [⟨.ask (.transaction s), answer⟩] ∧
      ofAnswer s answer = .ok (outcome, status?) := by
  rcases runs_fetch h with ⟨-, answer, hcalls, hr⟩ | ⟨-, -, _, ⟨⟩, -⟩
  cases hreceive : client.receive answer with
  | error fault =>
    rw [hreceive] at hr
    cases hr
  | ok answer' =>
    obtain rfl := Client.receive_ok hreceive
    rw [hreceive] at hr
    change _ = (ofAnswer s answer').map (·.1) at hr
    cases hof : ofAnswer s answer' with
    | error fault =>
      rw [hof] at hr
      cases hr
    | ok result =>
      rw [hof] at hr
      cases hr
      exact ⟨answer', result.2, hcalls, hof⟩

/-- A fetch is for the signature that was asked for. -/
theorem fetch_signature {client : Client} {s : String} {t : Trace} {outcome : Outcome}
    (h : (fetch client s).run.Runs t (.ok outcome)) : outcome.signature = s := by
  obtain ⟨_, _, -, hof⟩ := runs_fetch_ok h
  exact ofAnswer_signature hof

/-- Whether a fetch gave a transaction. -/
def gives : Except Fault Outcome → Bool
  | .ok (.fetched _) => true
  | _ => false

section Settled

variable {s : String} {r : Except Fault Outcome}
  (h : ∀ outcome, r = .ok outcome → outcome.signature = s)

include h

/-- A batch takes a fetch that is for its signature as it is. -/
theorem settled_fetched_iff {tx : Transaction} :
    settled s r = .fetched tx ↔ r = .ok (.fetched tx) := by
  refine ⟨fun hsettled => (settled_fetched hsettled).2, ?_⟩
  rintro rfl
  exact if_pos (h _ rfl)

theorem settled_signature : (settled s r).signature = s := by
  rcases r with fault | tx | error
  · rfl
  · rw [(settled_fetched_iff h).mpr rfl]
    exact h _ rfl
  · exact h _ rfl

theorem settled_isFetched : (settled s r).isFetched = gives r := by
  rcases r with fault | tx | error
  · rfl
  · rw [(settled_fetched_iff h).mpr rfl]
    rfl
  · rfl

end Settled

end Outcome

/-- What comes of a fetch depends on the signature alone. -/
def Client.Steady (client : Client) (answers : Answers)
    (outcome : String → Except Fault Outcome) : Prop :=
  ∀ s t r, (Outcome.fetch client s).run.Runs t r → t.Answered answers → r = outcome s

/-- How many signatures a client asks for at once has nothing to do with it. -/
theorem Client.Steady.of_url {client client' : Client} {answers : Answers}
    {outcome : String → Except Fault Outcome} (h : client.Steady answers outcome)
    (hurl : client'.url = client.url) : client'.Steady answers outcome := by
  intro s t r hruns
  have hsame : Outcome.fetch client' s = Outcome.fetch client s := by
    simp only [Outcome.fetch, Client.ask, hurl]
  exact h s t r (hsame ▸ hruns)

/-- A client is steady if its node answers every request in one way. -/
theorem Client.steady_of_node {client : Client} (node : Request → Answer) :
    client.Steady (fun request answer => answer = node request) fun s =>
      (client.receive (node (.transaction s)) >>= Outcome.ofAnswer s).map (·.1) := by
  intro s t r hruns hanswered
  rcases Outcome.runs_fetch hruns with ⟨-, answer, hcalls, rfl⟩ | ⟨-, -, fault, rfl, hnone⟩
  · rw [hanswered _ _ (Trace.mem_of_calls hcalls)]
  · dsimp only
    rw [hnone]
    rfl

end Rpc

namespace Batch

variable {fetch : String → Attempt Rpc.Outcome} {config : Config} {signatures : List String}
  {t : Trace}

/-! ### Failures of a batch -/

/-- Outcomes have a report exactly if no transaction among them is out of range. -/
theorem report_fails {outcomes : List (String × Rpc.Outcome)} :
    (∃ fault, report outcomes = .error fault) ↔
      ∃ s tx, (s, .fetched tx) ∈ outcomes ∧ ∃ fault, Indexed.OutOfRange tx fault := by
  have hmap : (∃ fault, report outcomes = .error fault) ↔ ∃ fault,
      ((Fetched.ofOutcomes outcomes).successes.mapM fun x => Indexed.ofTransaction x.2 x.1) =
        .error fault :=
    exists_congr fun fault => Except.bind_eq_error.trans (or_iff_left fun ⟨_, _, h⟩ => nomatch h)
  rw [hmap, Except.mapM_fails]
  constructor
  · rintro ⟨⟨s, tx⟩, hmem, hfails⟩
    exact ⟨s, tx, Fetched.mem_successes.mp hmem, Indexed.ofTransaction_fails.mp hfails⟩
  · rintro ⟨s, tx, hmem, hrange⟩
    exact ⟨(s, tx), Fetched.mem_successes.mpr hmem, Indexed.ofTransaction_fails.mpr hrange⟩

theorem outOfRange_of_report {outcomes : List (String × Rpc.Outcome)} {fault : ArithmeticFault}
    (h : report outcomes = .error fault) :
    ∃ s tx, (s, .fetched tx) ∈ outcomes ∧ Indexed.OutOfRange tx fault := by
  rcases Except.bind_eq_error.mp h with h | ⟨_, _, ⟨⟩⟩
  obtain ⟨⟨s, tx⟩, hmem, hfails⟩ := Except.mem_of_mapM_eq_error h
  exact ⟨s, tx, Fetched.mem_successes.mp hmem, Indexed.outOfRange_of_ofTransaction hfails⟩

/-- A batch whose pauses go well returns unless a transaction that it fetched is out of range, and
then it fails as a whole. Nothing else that the node answers ends it. -/
theorem fetchMany_fails_out_of_range {r : Except Fault Result}
    (hruns : (fetchMany fetch config signatures).run.Runs t r)
    (hpauses : ∀ pause ∈ t.pauses, pause = .ok ()) :
    ∃ fetches, Fetches fetch signatures fetches ∧ t.calls = Fetch.calls fetches ∧
      ((∃ result, r = .ok result) ↔ ∀ f ∈ fetches, ∀ tx, f.outcome = .fetched tx →
        ∀ range, ¬ Indexed.OutOfRange tx range) ∧
      (∀ result, r = .ok result → result.Reports (Fetch.outcomes fetches)) ∧
      ∀ fault, r = .error fault → ∃ f ∈ fetches, ∃ tx range, f.outcome = .fetched tx ∧
        Indexed.OutOfRange tx range ∧ fault = .arithmetic range := by
  rcases runs_batch hruns with ⟨fault, hfault, -⟩ | ⟨fetches, hfetches, hcalls, -, rfl⟩
  · cases hpauses _ hfault
  have hmem {s : String} {tx : Transaction} :
      (s, .fetched tx) ∈ Fetch.outcomes fetches ↔
        ∃ f ∈ fetches, f.signature = s ∧ f.outcome = .fetched tx := by
    simp [Fetch.outcomes]
  refine ⟨fetches, hfetches, hcalls, ?_, fun result hresult => ?_, fun fault hfault => ?_⟩
  · cases hreport : report (Fetch.outcomes fetches) with
    | ok result =>
      refine ⟨fun _ f hf tx htx range hrange => ?_, fun _ => ⟨result, rfl⟩⟩
      obtain ⟨fault, hfails⟩ := report_fails.mpr
        ⟨f.signature, tx, hmem.mpr ⟨f, hf, rfl, htx⟩, range, hrange⟩
      rw [hreport] at hfails
      cases hfails
    | error fault =>
      obtain ⟨s, tx, htx, hrange⟩ := outOfRange_of_report hreport
      obtain ⟨f, hf, -, houtcome⟩ := hmem.mp htx
      refine ⟨?_, fun h => absurd hrange (h f hf tx houtcome fault)⟩
      rintro ⟨_, ⟨⟩⟩
  · exact reports_of_report (Except.mapError_eq_ok hresult)
  · obtain ⟨range, rfl, hreport⟩ := Except.mapError_eq_error hfault
    obtain ⟨s, tx, htx, hrange⟩ := outOfRange_of_report hreport
    obtain ⟨f, hf, -, houtcome⟩ := hmem.mp htx
    exact ⟨f, hf, tx, range, houtcome, hrange, rfl⟩

/-- A node that also knows a burn of tokens with 400 decimals below zero. -/
def oddNode : Rpc.Request → Rpc.Answer
  | .transaction "odd" => .reply 200 ("\x7b\"result\":\x7b\"transaction\":\x7b\"message\":" ++
    "\x7b\"accountKeys\":[],\"instructions\":[\x7b\"program\":\"spl-token\",\"parsed\":" ++
    "\x7b\"type\":\"burn\",\"info\":\x7b\"amount\":\"1\",\"decimals\":-400\x7d\x7d\x7d]\x7d," ++
    "\"signatures\":[\"odd\"]\x7d,\"meta\":\x7b\"fee\":0\x7d,\"slot\":0\x7d\x7d")
  | request => Sample.node request

set_option maxRecDepth 20000 in
/-- Of two transactions one is out of range, and the batch has none of them. -/
theorem fetchMany_fails_out_of_range_of_two :
    let fetch := Rpc.Outcome.fetch Sample.limits.client
    let p := (fetchMany fetch ⟨2, 2, .zero, by decide⟩ ["s", "odd"]).run
    let w := { Sample.world .unreachable with node := fun _ => oddNode }
    ∃ fetches fault, Fetches fetch ["s", "odd"] fetches ∧ (p.run w).1 = .error fault ∧
      ∃ f ∈ fetches, ∃ tx range, f.outcome = .fetched tx ∧ Indexed.OutOfRange tx range ∧
        fault = .arithmetic range := by
  intro fetch p w
  have hfails : (p.run w).1.toOption.isNone := by decide +kernel
  obtain ⟨fetches, hfetches, -, -, -, hrange⟩ :=
    fetchMany_fails_out_of_range (p.runs_trace w) (p.pauses_trace rfl)
  cases hr : (p.run w).1 with
  | ok result =>
    rw [hr] at hfails
    cases hfails
  | error fault => exact ⟨fetches, fault, hfetches, rfl, hrange fault hr⟩

/-! ### Batches as plain maps -/

section Plain

variable {client : Rpc.Client} {answers : Answers} {outcome : String → Except Fault Rpc.Outcome}
  {result : Result} {fetches : List Fetch}

/-- Fetches of a steady client give what it makes of their signatures, each for its own. -/
theorem Fetches.steady (hsteady : client.Steady answers outcome)
    (hfetches : Fetches (Rpc.Outcome.fetch client) signatures fetches)
    (hcalls : t.calls = Fetch.calls fetches) (hanswered : t.Answered answers) :
    Fetch.outcomes fetches = signatures.map (fun s => (s, .settled s (outcome s))) ∧
      ∀ s ∈ signatures, ∀ o, outcome s = .ok o → o.signature = s := by
  obtain ⟨rfl, hruns⟩ := hfetches
  have hfetch : ∀ f ∈ fetches, ∃ t', (Rpc.Outcome.fetch client f.signature).run.Runs t'
      (outcome f.signature) ∧ f.outcome = .settled f.signature (outcome f.signature) := by
    intro f hf
    have hrun := hruns f hf
    rw [fetchOne_eq] at hrun
    obtain ⟨t₁, t₂, r, htrace, hrun, hpure⟩ := Program.runs_bind.mp hrun
    obtain ⟨rfl, houtcome⟩ := Program.runs_pure.mp hpure
    rw [List.append_nil] at htrace
    -- what one fetch asks is among the calls of the batch
    have hwithin : t₁.Answered answers := by
      intro request answer hasked
      rw [← htrace] at hasked
      have hcall : (⟨.ask request, answer⟩ : Event) ∈ t.calls := by
        rw [hcalls]
        exact List.mem_flatMap.mpr ⟨f, hf, Trace.mem_calls.mpr ⟨hasked, rfl⟩⟩
      exact hanswered request answer (Trace.mem_calls.mp hcall).1
    obtain rfl := hsteady _ t₁ r hrun hwithin
    exact ⟨t₁, hrun, houtcome⟩
  constructor
  · rw [Fetch.outcomes, List.map_map]
    refine List.map_congr_left fun f hf => ?_
    obtain ⟨_, -, houtcome⟩ := hfetch f hf
    exact Prod.ext rfl houtcome
  · intro s hs o ho
    obtain ⟨f, hf, rfl⟩ := List.mem_map.mp hs
    obtain ⟨t', hrun, -⟩ := hfetch f hf
    rw [ho] at hrun
    exact Rpc.Outcome.fetch_signature hrun

theorem Fetched.map_successes (outcomes : List (String × Rpc.Outcome)) :
    (ofOutcomes outcomes).successes.map (·.1) =
      (outcomes.filter (·.2.isFetched)).map (·.1) := by
  induction outcomes with
  | nil => rfl
  | cons x outcomes ih =>
    obtain ⟨s, outcome⟩ := x
    cases outcome with
    | fetched tx => simpa [Rpc.Outcome.isFetched] using ih
    | failed error => simpa [Rpc.Outcome.isFetched] using ih

theorem Fetched.map_failures (outcomes : List (String × Rpc.Outcome)) :
    (ofOutcomes outcomes).failures.map (·.1) =
      (outcomes.filter (!·.2.isFetched)).map (·.1) := by
  induction outcomes with
  | nil => rfl
  | cons x outcomes ih =>
    obtain ⟨s, outcome⟩ := x
    cases outcome with
    | fetched tx => simpa [Rpc.Outcome.isFetched] using ih
    | failed error => simpa [Rpc.Outcome.isFetched] using ih

/-- A result that is the plain map of its signatures, each on its own. -/
structure Result.Plain (outcome : String → Except Fault Rpc.Outcome) (signatures : List String)
    (result : Result) : Prop where
  processed : result.processed = signatures.filter fun s => Rpc.Outcome.gives (outcome s)
  failed : result.failed = signatures.filter fun s => !Rpc.Outcome.gives (outcome s)
  perm : (result.processed ++ result.failed).Perm signatures
  succeeded : List.Forall₂ (fun s indexed => ∃ tx, outcome s = .ok (.fetched tx) ∧
    Indexed.ofTransaction tx s = .ok indexed) result.processed result.succeeded
  keys : result.succeeded.map (·.signature) = result.processed
  errors : result.errors.map (·.signature) = result.failed

/-- A transaction is indexed under the signature that it was asked for by. -/
theorem ofTransaction_signature {tx : Transaction} {s : String} {indexed : Indexed}
    (hsame : tx.signature = s) (h : Indexed.ofTransaction tx s = .ok indexed) :
    indexed.signature = s := by
  obtain ⟨transfers, -, hpure⟩ := Except.bind_eq_ok.mp h
  cases hpure
  rw [Indexed.of, hsame, ite_self]

theorem Result.Reports.plain
    (h : result.Reports (signatures.map fun s => (s, .settled s (outcome s))))
    (hown : ∀ s ∈ signatures, ∀ o, outcome s = .ok o → o.signature = s) :
    result.Plain outcome signatures := by
  have hgives : ∀ s ∈ signatures, (Rpc.Outcome.settled s (outcome s)).isFetched =
      Rpc.Outcome.gives (outcome s) := fun s hs => Rpc.Outcome.settled_isFetched (hown s hs)
  have hprocessed :
      result.processed = signatures.filter fun s => Rpc.Outcome.gives (outcome s) := by
    rw [h.processed, Fetched.map_successes, List.filter_map, List.map_map]
    refine (List.map_id _).trans (List.filter_congr fun s hs => hgives s hs)
  have hfailed : result.failed = signatures.filter fun s => !Rpc.Outcome.gives (outcome s) := by
    rw [h.failed, Fetched.map_failures, List.filter_map, List.map_map]
    refine (List.map_id _).trans (List.filter_congr fun s hs => congrArg _ (hgives s hs))
  have hfetched : ∀ x ∈ (Fetched.ofOutcomes (signatures.map fun s =>
      (s, Rpc.Outcome.settled s (outcome s)))).successes,
      x.2.signature = x.1 ∧ outcome x.1 = .ok (.fetched x.2) := by
    rintro ⟨s, tx⟩ hx
    obtain ⟨s', hs', hsame⟩ := List.mem_map.mp (Fetched.mem_successes.mp hx)
    obtain ⟨rfl, hsettled⟩ := Prod.mk.inj hsame
    exact Rpc.Outcome.settled_fetched hsettled
  have hindexed := (List.forall₂_and_left _ _).mpr ⟨hfetched, h.succeeded⟩
  refine ⟨hprocessed, hfailed, ?_, ?_, ?_, ?_⟩
  · rw [hprocessed, hfailed]
    exact List.filter_append_perm _ _
  · rw [h.processed, List.forall₂_map_left_iff]
    exact hindexed.imp fun x indexed ⟨⟨_, hx⟩, hof⟩ => ⟨x.2, hx, hof⟩
  · rw [h.processed, eq_comm, ← List.forall₂_eq_eq_eq, List.forall₂_map_left_iff,
      List.forall₂_map_right_iff]
    exact hindexed.imp fun x indexed ⟨⟨hsame, _⟩, hof⟩ => (ofTransaction_signature hsame hof).symm
  · rw [h.errors, h.failed, List.map_map]
    refine List.map_congr_left ?_
    rintro ⟨s, error⟩ hx
    obtain ⟨s', hs', hsame⟩ := List.mem_map.mp (Fetched.mem_failures.mp hx)
    obtain ⟨rfl, hsettled⟩ := Prod.mk.inj hsame
    have hsignature := Rpc.Outcome.settled_signature (hown s' hs')
    rwa [hsettled] at hsignature

/-- A client makes no pauses of its own. -/
theorem Fetches.pauses_eq_nil (h : Fetches (Rpc.Outcome.fetch client) signatures fetches) :
    Fetch.pauses fetches = [] := by
  refine List.flatMap_eq_nil_iff.mpr fun f hf => Trace.pauses_eq_nil ?_
  have hquiet : (fetchOne (Rpc.Outcome.fetch client) f.signature).Only
      fun effect => ∀ seconds, effect ≠ .sleep seconds :=
    only_fetchOne (Rpc.Outcome.only_fetch nofun nofun)
  exact hquiet.runs (h.runs f hf)

/-- What a batch of a steady client comes to is a function of its signatures, unless a pause
fails. -/
theorem report_of_steady {r : Except Fault Result} (hsteady : client.Steady answers outcome)
    (hruns : (fetchMany (Rpc.Outcome.fetch client) config signatures).run.Runs t r)
    (hanswered : t.Answered answers) :
    (∃ fault, .error fault ∈ t.pauses ∧ r = .error (.arithmetic fault)) ∨
      r = (report (signatures.map fun s => (s, .settled s (outcome s)))).mapError .arithmetic ∧
        (∀ s ∈ signatures, ∀ o, outcome s = .ok o → o.signature = s) ∧
        t.pauses.length = (signatures.length + config.chunkSize - 1) / config.chunkSize := by
  rcases runs_batch hruns with hfault | ⟨fetches, hfetches, hcalls, hpauses, hresult⟩
  · exact .inl hfault
  obtain ⟨houtcomes, hown⟩ := hfetches.steady hsteady hcalls hanswered
  rw [hfetches.pauses_eq_nil, List.length_nil, Nat.zero_add, length_chunksOf] at hpauses
  rw [houtcomes] at hresult
  exact .inr ⟨hresult, hown, hpauses⟩

/-- A batch of a steady client that returns is the plain map of its signatures, with a pause for
each chunk. Another one on the same signatures, whatever the size of its chunks, returns the same
unless a pause fails; and so does one that fetches as many of a chunk at once as it may. -/
theorem fetchMany_is_plain (hsteady : client.Steady answers outcome)
    (hruns : (fetchMany (Rpc.Outcome.fetch client) config signatures).run.Runs t (.ok result))
    (hanswered : t.Answered answers) :
    result.Plain outcome signatures ∧
      t.pauses.length = (signatures.length + config.chunkSize - 1) / config.chunkSize ∧
      (∀ (config' : Config) (t' : Trace) (r : Except Fault Result),
        (fetchMany (Rpc.Outcome.fetch client) config' signatures).run.Runs t' r →
        t'.Answered answers →
        (∃ fault, .error fault ∈ t'.pauses ∧ r = .error (.arithmetic fault)) ∨ r = .ok result) ∧
      ∀ (config' : Config) (t' : Trace) (result' : Result),
        AtOnce (Rpc.Outcome.fetch client) config' signatures t' result' → t'.Answered answers →
        result' = result ∧ t'.pauses.length =
          (signatures.length + config'.chunkSize - 1) / config'.chunkSize := by
  rcases report_of_steady hsteady hruns hanswered with ⟨_, _, ⟨⟩⟩ | ⟨hresult, hown, hpauses⟩
  have hreport := Except.mapError_eq_ok hresult.symm
  refine ⟨(reports_of_report hreport).plain hown, hpauses, ?_, ?_⟩
  · intro config' t' r hruns' hanswered'
    exact (report_of_steady hsteady hruns' hanswered').imp_right fun h => by rw [h.1, hreport]; rfl
  · intro config' t' result' honce hanswered'
    -- up to order it does what some batch does that fetches in turn
    obtain ⟨t'', hperm, hruns'⟩ := honce.in_turn
    have hanswered'' : t''.Answered answers :=
      fun request answer hasked => hanswered' request answer (hperm.subset hasked)
    rcases report_of_steady hsteady hruns' hanswered'' with ⟨_, _, ⟨⟩⟩ | ⟨hresult', -, hpauses'⟩
    rw [hreport] at hresult'
    refine ⟨Except.ok.inj hresult', ?_⟩
    rw [← hpauses', Trace.pauses, Trace.pauses, (hperm.filterMap _).length_eq]

set_option maxRecDepth 20000 in
/-- Three signatures, one of which the node does not know, in chunks of one and of two; the fetches
of two are at once. -/
theorem fetchMany_is_plain_of_three :
    let fetch := Rpc.Outcome.fetch Sample.limits.client
    let pairs : Config := ⟨2, 2, .zero, by decide⟩
    let p₁ := (fetchMany fetch ⟨1, 1, .zero, by decide⟩ ["s", "t", "s"]).run
    let p₂ := (fetchMany fetch pairs ["s", "t", "s"]).run
    let w := Sample.world .unreachable
    ∃ result result', (p₁.run w).1 = .ok result ∧ (p₁.trace w).pauses.length = 3 ∧
      AtOnce fetch pairs ["s", "t", "s"] (p₂.trace w) result' ∧ result' = result ∧
      (p₂.trace w).pauses.length = 2 ∧
      (result.processed ++ result.failed).Perm ["s", "t", "s"] ∧
      result.succeeded.map (·.signature) = result.processed := by
  intro fetch pairs p₁ p₂ w
  have hwithin := Sample.within .unreachable
  have hsome₁ : (p₁.run w).1.toOption.isSome := by decide +kernel
  have hsome₂ : (p₂.run w).1.toOption.isSome := by decide +kernel
  obtain ⟨result, hresult⟩ := Option.isSome_iff_exists.mp hsome₁
  obtain ⟨result', hresult'⟩ := Option.isSome_iff_exists.mp hsome₂
  rw [Except.toOption_eq_some] at hresult hresult'
  have hruns := p₁.runs_trace w
  have hruns' := p₂.runs_trace w
  rw [hresult] at hruns
  rw [hresult'] at hruns'
  have honce : AtOnce fetch pairs ["s", "t", "s"] (p₂.trace w) result' :=
    .of_runs (by decide) hruns'
  obtain ⟨hplain, hpauses, -, honces⟩ := fetchMany_is_plain
    (Rpc.Client.steady_of_node Sample.node) hruns (p₁.answered_trace hwithin)
  obtain ⟨hsame, hpauses'⟩ := honces pairs _ _ honce (p₂.answered_trace hwithin)
  exact ⟨result, result', hresult, hpauses, honce, hsame, hpauses'.trans (by decide), hplain.perm,
    hplain.keys⟩

end Plain

end Batch

end AddressIndex
