import AddressIndex.Batch
import AddressIndex.Proofs.Faults
import AddressIndex.Proofs.Insert
import AddressIndex.Proofs.Trace

/-! Fetching. A client makes one request for one fetch, or none if its URL is no URL, and the
outcome is a function of the answer. A batch is one fetch after another, whatever the chunks are,
and what it reports can be read off the outcomes of its fetches. -/

namespace AddressIndex

namespace Rpc

open Attempt (runs_bind runs_perform)

/-- What a batch makes of a fetch: a fault counts as a failure, and so does another transaction. -/
def Outcome.settled (signature : String) : Except Fault Outcome → Outcome
  | .ok (.fetched tx) =>
    if tx.signature = signature then .fetched tx else .failed ⟨signature, .swapped tx.signature⟩
  | .ok (.failed error) => .failed error
  | .error fault => .failed ⟨signature, .unforeseen fault.kind fault.message⟩

theorem Outcome.settled_fetched {signature : String} {r : Except Fault Outcome} {tx : Transaction}
    (h : settled signature r = .fetched tx) : tx.signature = signature ∧ r = .ok (.fetched tx) := by
  unfold settled at h
  split at h
  · split at h
    next hsame =>
      cases h
      exact ⟨hsame, rfl⟩
    next => cases h
  · cases h
  · cases h

namespace Client

/-- Whether requests go out at all. -/
def Asks (client : Client) : Prop := (Http.Url.read client.url >>= unplaced?).isOk

/-- What a client makes of an answer: none is taken from a node whose server is not named. -/
def receive (client : Client) (answer : Answer) : Except Fault Answer :=
  match Http.Url.read client.url >>= unplaced? with
  | .error fault => .error (.url fault)
  | .ok none => .ok answer
  | .ok (some target) =>
    match answer with
    | .reply _ _ => .error (.unplaced target)
    | answer => .ok answer

/-- A client asks once, or not at all. -/
theorem runs_ask {client : Client} {request : Request} {t : Trace} {r : Except Fault Answer}
    (h : (client.ask request).run.Runs t r) :
    (client.Asks ∧ ∃ answer, t = [⟨.ask request, answer⟩] ∧ r = client.receive answer) ∨
      ¬ client.Asks ∧ t = [] ∧ ∃ fault, r = .error (.url fault) ∧
        ∀ answer, client.receive answer = .error (.url fault) := by
  unfold ask at h
  unfold Asks receive
  cases hurl : Http.Url.read client.url >>= unplaced? with
  | error fault =>
    rw [hurl] at h
    obtain ⟨rfl, rfl⟩ := Attempt.runs_throw.mp h
    exact .inr ⟨by simp [Except.isOk, Except.toBool], rfl, _, rfl, fun _ => rfl⟩
  | ok target? =>
    rw [hurl] at h
    refine .inl ⟨rfl, ?_⟩
    cases target? with
    | none =>
      obtain ⟨answer, rfl, rfl⟩ := runs_perform.mp h
      exact ⟨answer, rfl, rfl⟩
    | some target =>
      rcases runs_bind.mp h with ⟨t₁, t₂, answer, rfl, hask, hrest⟩ | ⟨e, rfl, hask⟩
      · obtain ⟨_, ⟨⟩, rfl⟩ := runs_perform.mp hask
        refine ⟨answer, ?_⟩
        cases answer with
        | reply status body =>
          obtain ⟨rfl, rfl⟩ := Attempt.runs_throw.mp hrest
          exact ⟨rfl, rfl⟩
        | unreachable detail | crash detail =>
          obtain ⟨rfl, rfl⟩ := Attempt.runs_pure.mp hrest
          exact ⟨rfl, rfl⟩
      · obtain ⟨_, ⟨⟩, _⟩ := runs_perform.mp hask

theorem receive_ne_rpc {client : Client} {answer : Answer} {error : Error} :
    client.receive answer ≠ .error (.rpc error) := by
  unfold receive
  split
  · exact nofun
  · exact nofun
  · split <;> exact nofun

/-- All replies are taken alike. -/
theorem receive_reply (client : Client) (status status' : Int) (body body' : String) :
    client.receive (.reply status body) =
      (client.receive (.reply status' body')).map fun _ => .reply status body := by
  unfold receive
  split <;> rfl

/-- A node whose reply is taken has a server that is named, and all its answers are taken. -/
theorem receive_of_reply {client : Client} {status : Int} {body : String} {answer : Answer}
    (h : client.receive (.reply status body) = .ok answer) (other : Answer) :
    client.receive other = .ok other := by
  unfold receive at h ⊢
  split at h
  · cases h
  · rfl
  · cases h

/-- An answer is taken as it is, or not at all. -/
theorem receive_ok {client : Client} {answer answer' : Answer}
    (h : client.receive answer = .ok answer') : answer' = answer := by
  unfold receive at h
  split at h
  · cases h
  · cases h
    rfl
  · split at h
    · cases h
    · cases h
      rfl

/-- The outcome of a fetch in a batch, by the answer. -/
def outcome (client : Client) (signature : String) (answer : Answer) : Outcome :=
  .settled signature ((client.receive answer >>= Outcome.ofAnswer signature).map (·.1))

theorem outcome_fetched {client : Client} {signature : String} {answer : Answer} {tx : Transaction}
    (h : client.outcome signature answer = .fetched tx) :
    tx.signature = signature ∧
      ∃ status, Outcome.ofAnswer signature answer = .ok (.fetched tx, status) := by
  obtain ⟨hsame, hfetch⟩ := Outcome.settled_fetched h
  cases hreceive : client.receive answer with
  | error _ =>
    rw [hreceive] at hfetch
    cases hfetch
  | ok answer' =>
    obtain rfl := receive_ok hreceive
    rw [hreceive] at hfetch
    change (Outcome.ofAnswer signature answer').map (·.1) = _ at hfetch
    cases hof : Outcome.ofAnswer signature answer' with
    | error _ =>
      rw [hof] at hfetch
      cases hfetch
    | ok result =>
      rw [hof] at hfetch
      exact ⟨hsame, result.2, by rw [← Except.ok.inj hfetch]⟩

end Client

theorem Client.only_ask {P : Effect → Prop} {client : Client} {request : Request}
    (hask : P (.ask request)) : (client.ask request).run.Only P := by
  unfold Client.ask
  split
  · exact Attempt.only_throw _
  · exact Attempt.only_ask hask
  · apply Attempt.only_bind (Attempt.only_ask hask)
    intro answer
    split
    · exact Attempt.only_throw _
    · exact Attempt.only_pure _

theorem Outcome.only_fetch {P : Effect → Prop} {client : Client} {signature : String}
    (hask : P (.ask (.transaction signature))) (hlog : ∀ source line, P (.log source line)) :
    (Outcome.fetch client signature).run.Only P := by
  apply Attempt.only_bind (Client.only_ask hask)
  intro answer
  apply Attempt.only_bind (Attempt.only_ofExcept _)
  intro result
  obtain ⟨outcome, status⟩ := result
  cases status with
  | none => exact Attempt.only_pure outcome
  | some status =>
    exact Attempt.only_bind (Attempt.only_log (hlog _ _)) fun _ => Attempt.only_pure _

/-- The calls of a fetch and what the client got. -/
theorem Outcome.runs_fetch {client : Client} {signature : String} {t : Trace}
    {r : Except Fault Outcome} (h : (Outcome.fetch client signature).run.Runs t r) :
    (client.Asks ∧ ∃ answer, t.calls = [⟨.ask (.transaction signature), answer⟩] ∧
      r = (client.receive answer >>= Outcome.ofAnswer signature).map (·.1)) ∨
      ¬ client.Asks ∧ t.calls = [] ∧ ∃ fault, r = .error fault ∧
        ∀ answer, client.receive answer = .error fault := by
  rcases runs_bind.mp h with ⟨t₁, t₂, answer, rfl, hask, hrest⟩ | ⟨e, rfl, hask⟩
  · rcases Client.runs_ask hask with ⟨hasks, answer', rfl, hreceive⟩ | ⟨_, _, _, ⟨⟩, _⟩
    refine .inl ⟨hasks, answer', ?_⟩
    rw [← hreceive]
    rcases runs_bind.mp hrest with ⟨t₃, t₄, ⟨outcome, status⟩, rfl, hof, hlast⟩ | ⟨e, rfl, hof⟩
    · obtain ⟨rfl, hvalue⟩ := Attempt.runs_ofExcept.mp hof
      obtain ⟨hcalls, rfl⟩ : t₄.calls = [] ∧ r = .ok outcome := by
        cases status with
        | none =>
          obtain ⟨rfl, rfl⟩ := Attempt.runs_pure.mp hlast
          exact ⟨rfl, rfl⟩
        | some status =>
          rcases runs_bind.mp hlast with ⟨t₅, t₆, _, rfl, hlog, hpure⟩ | ⟨_, _, hlog⟩
          · obtain ⟨_, rfl⟩ := Attempt.runs_log.mp hlog
            obtain ⟨rfl, rfl⟩ := Attempt.runs_pure.mp hpure
            exact ⟨rfl, rfl⟩
          · obtain ⟨⟨⟩, _⟩ := Attempt.runs_log.mp hlog
      refine ⟨by simp [hcalls], ?_⟩
      change _ = (Outcome.ofAnswer signature answer).map (·.1)
      rw [← hvalue]
      rfl
    · obtain ⟨rfl, hvalue⟩ := Attempt.runs_ofExcept.mp hof
      refine ⟨by simp, ?_⟩
      change _ = (Outcome.ofAnswer signature answer).map (·.1)
      rw [← hvalue]
      rfl
  · rcases Client.runs_ask hask with ⟨hasks, answer, rfl, hreceive⟩ | ⟨hasks, rfl, _, ⟨⟩, hnone⟩
    · refine .inl ⟨hasks, answer, by simp, ?_⟩
      rw [← hreceive]
      rfl
    · exact .inr ⟨hasks, rfl, _, rfl, hnone⟩

end Rpc

/-! ### Batches -/

namespace Batch

open Attempt (runs_bind runs_log_bind runs_lift)

/-- One fetch of a batch: the signature asked for, what came of it, and what was done. -/
structure Fetch where
  signature : String
  outcome : Rpc.Outcome
  trace : Trace

namespace Fetched

@[simp] theorem ofOutcomes_nil : ofOutcomes [] = ⟨[], []⟩ := rfl

@[simp] theorem ofOutcomes_fetched {s : String} {tx : Transaction}
    {rest : List (String × Rpc.Outcome)} :
    ofOutcomes ((s, .fetched tx) :: rest) =
      ⟨(s, tx) :: (ofOutcomes rest).successes, (ofOutcomes rest).failures⟩ := rfl

@[simp] theorem ofOutcomes_failed {s : String} {error : Rpc.FetchError}
    {rest : List (String × Rpc.Outcome)} :
    ofOutcomes ((s, .failed error) :: rest) =
      ⟨(ofOutcomes rest).successes, (s, error) :: (ofOutcomes rest).failures⟩ := rfl

theorem ofOutcomes_append (xs ys : List (String × Rpc.Outcome)) :
    ofOutcomes (xs ++ ys) = (ofOutcomes xs).append (ofOutcomes ys) := by
  induction xs with
  | nil => rfl
  | cons x xs ih =>
    obtain ⟨s, outcome⟩ := x
    cases outcome with
    | fetched tx => simp [ih, append]
    | failed error => simp [ih, append]

theorem mem_successes {outcomes : List (String × Rpc.Outcome)} {s : String} {tx : Transaction} :
    (s, tx) ∈ (ofOutcomes outcomes).successes ↔ (s, .fetched tx) ∈ outcomes := by
  induction outcomes with
  | nil => simp
  | cons x xs ih =>
    obtain ⟨s', outcome⟩ := x
    cases outcome with
    | fetched tx' => simp [ih]
    | failed error => simp [ih]

theorem mem_failures {outcomes : List (String × Rpc.Outcome)} {s : String}
    {error : Rpc.FetchError} :
    (s, error) ∈ (ofOutcomes outcomes).failures ↔ (s, .failed error) ∈ outcomes := by
  induction outcomes with
  | nil => simp
  | cons x xs ih =>
    obtain ⟨s', outcome⟩ := x
    cases outcome with
    | fetched tx' => simp [ih]
    | failed error => simp [ih]

/-- Every signature is reported as a success or as a failure. -/
theorem ofOutcomes_perm (outcomes : List (String × Rpc.Outcome)) :
    ((ofOutcomes outcomes).successes.map (·.1) ++ (ofOutcomes outcomes).failures.map (·.1)).Perm
      (outcomes.map (·.1)) := by
  induction outcomes with
  | nil => exact .nil
  | cons x xs ih =>
    obtain ⟨s, outcome⟩ := x
    cases outcome with
    | fetched tx => exact ih.cons s
    | failed error => exact List.perm_middle.trans (ih.cons s)

/-- Without repeats, the failures are what is left without the successes. -/
theorem filter_successes {outcomes : List (String × Rpc.Outcome)}
    (h : (outcomes.map (·.1)).Nodup) :
    ((outcomes.map (·.1)).filter fun s =>
      !((ofOutcomes outcomes).successes.map (·.1)).contains s) =
      (ofOutcomes outcomes).failures.map (·.1) := by
  induction outcomes with
  | nil => rfl
  | cons x xs ih =>
    obtain ⟨s, outcome⟩ := x
    obtain ⟨hnot, hnodup⟩ := List.nodup_cons.mp h
    cases outcome with
    | fetched tx =>
      simp only [ofOutcomes_fetched, List.map_cons]
      rw [List.filter_cons_of_neg (by simp), ← ih hnodup]
      apply List.filter_congr
      intro s' hs'
      have hne : s' ≠ s := fun heq => hnot (heq ▸ hs')
      rw [List.contains_cons, beq_eq_false_iff_ne.mpr hne, Bool.false_or]
    | failed error =>
      have hkept : s ∉ (ofOutcomes xs).successes.map (·.1) := fun hs =>
        hnot ((ofOutcomes_perm xs).subset (List.mem_append_left _ hs))
      simp only [ofOutcomes_failed, List.map_cons]
      rw [List.filter_cons_of_pos (by simpa using hkept), ih hnodup]

end Fetched

/-- A result that reports the outcomes of some fetches. -/
structure Result.Reports (result : Result) (outcomes : List (String × Rpc.Outcome)) : Prop where
  succeeded : List.Forall₂ (fun fetched t => Indexed.ofTransaction fetched.2 fetched.1 = .ok t)
    (Fetched.ofOutcomes outcomes).successes result.succeeded
  processed : result.processed = (Fetched.ofOutcomes outcomes).successes.map (·.1)
  failed : result.failed = (Fetched.ofOutcomes outcomes).failures.map (·.1)
  errors : result.errors = (Fetched.ofOutcomes outcomes).failures.map (·.2)

/-- What a batch comes to, by the outcomes of its fetches alone. -/
def report (outcomes : List (String × Rpc.Outcome)) : Except ArithmeticFault Result := do
  let fetched := Fetched.ofOutcomes outcomes
  let succeeded ← fetched.successes.mapM fun x => Indexed.ofTransaction x.2 x.1
  pure ⟨succeeded, fetched.successes.map (·.1), fetched.failures.map (·.1),
    fetched.failures.map (·.2)⟩

theorem reports_of_report {outcomes : List (String × Rpc.Outcome)} {result : Result}
    (h : report outcomes = .ok result) : result.Reports outcomes := by
  obtain ⟨succeeded, hsucceeded, hpure⟩ := Except.bind_eq_ok.mp h
  cases hpure
  exact ⟨Except.mapM_eq_ok.mp hsucceeded, rfl, rfl, rfl⟩

/-- The fetches of some signatures, one after another. -/
structure Fetches (fetch : String → Attempt Rpc.Outcome) (signatures : List String)
    (fetches : List Fetch) : Prop where
  signatures : fetches.map (·.signature) = signatures
  runs : ∀ f ∈ fetches, (fetchOne fetch f.signature).Runs f.trace f.outcome

/-- What fetches give, each with its signature. -/
def Fetch.outcomes (fetches : List Fetch) : List (String × Rpc.Outcome) :=
  fetches.map fun f => (f.signature, f.outcome)

/-- The calls of fetches, in turn. -/
def Fetch.calls (fetches : List Fetch) : Trace := fetches.flatMap (·.trace.calls)

/-- The pauses that fetches made of their own. -/
def Fetch.pauses (fetches : List Fetch) : List (Except ArithmeticFault Unit) :=
  fetches.flatMap (·.trace.pauses)

variable {fetch : String → Attempt Rpc.Outcome} {config : Config} {t : Trace}

theorem Fetches.append {xs ys : List String} {fs gs : List Fetch} (hf : Fetches fetch xs fs)
    (hg : Fetches fetch ys gs) : Fetches fetch (xs ++ ys) (fs ++ gs) := by
  refine ⟨by rw [List.map_append, hf.signatures, hg.signatures], fun f hmem => ?_⟩
  rcases List.mem_append.mp hmem with hmem | hmem
  · exact hf.runs f hmem
  · exact hg.runs f hmem

theorem flatten_chunksOf (signatures : List String) :
    ((chunksOf config signatures).map (·.1)).flatten = signatures := by
  rw [chunksOf, List.zipIdx_map_fst, pieces_flatten config.chunkSize_pos]

section Only

variable {P : Effect → Prop}

theorem only_fetchOne {s : String} (hfetch : (fetch s).run.Only P) :
    (fetchOne fetch s).Only P := by
  apply Program.only_bind hfetch
  intro r
  rcases r with _ | _ | _
  · trivial
  · dsimp only
    split <;> trivial
  · trivial

variable (hlog : ∀ source line, P (.log source line)) (hsleep : P (.sleep config.delay))

include hlog in
theorem only_indexOne (fetched : String × Transaction) : (indexOne fetched).run.Only P := by
  refine Attempt.only_bind ?_ fun _ => ?_
  · generalize BalanceDelta.warnings fetched.2 = lines
    induction lines with
    | nil => exact Attempt.only_pure _
    | cons line lines ih => exact Attempt.only_bind (Attempt.only_log (hlog _ _)) fun _ => ih
  · split
    · exact Attempt.only_pure _
    · exact Attempt.only_throw _

include hlog in
theorem only_conclude (fetched : Fetched) : (conclude fetched).run.Only P := by
  apply Attempt.only_bind (Attempt.only_mapM fun fetched _ => only_indexOne hlog fetched)
  intro succeeded
  apply Attempt.only_bind (Attempt.only_log (hlog _ _))
  intro _
  dsimp only
  split
  · exact Attempt.only_bind (Attempt.only_log (hlog _ _)) fun _ => Attempt.only_pure _
  · exact Attempt.only_pure _

include hlog hsleep

theorem only_fetchChunk (before : Fetched) {chunk : List String × Nat}
    (hfetch : ∀ s ∈ chunk.1, (fetch s).run.Only P) :
    (fetchChunk fetch config before chunk).run.Only P := by
  have hend (total : Fetched) :
      (do Attempt.sleep config.delay; pure total : Attempt Fetched).run.Only P :=
    Attempt.only_bind (Attempt.only_sleep hsleep) fun _ => Attempt.only_pure _
  refine Attempt.only_bind (Attempt.only_mapM fun s hs => ?_) fun outcomes => ?_
  · exact Attempt.only_lift (only_fetchOne (hfetch s hs))
  apply Attempt.only_bind (Attempt.only_log (hlog _ _))
  intro _
  dsimp only
  split
  · exact Attempt.only_bind (Attempt.only_log (hlog _ _)) fun _ => hend _
  · exact hend _

theorem only_fetchChunks (before : Fetched) {chunks : List (List String × Nat)}
    (hfetch : ∀ s ∈ (chunks.map (·.1)).flatten, (fetch s).run.Only P) :
    (chunks.foldlM (fetchChunk fetch config) before).run.Only P := by
  induction chunks generalizing before with
  | nil => exact Attempt.only_pure before
  | cons chunk chunks ih =>
    refine Attempt.only_bind (only_fetchChunk hlog hsleep before fun s hs => ?_) fun fetched =>
      ih fetched fun s hs => ?_
    · exact hfetch s (by simp [hs])
    · exact hfetch s (by rw [List.map_cons, List.flatten_cons]; exact List.mem_append_right _ hs)

/-- A batch only has the effects of its fetches, log lines and pauses. -/
theorem only_fetchMany {signatures : List String}
    (hfetch : ∀ s ∈ signatures, (fetch s).run.Only P) :
    (fetchMany fetch config signatures).run.Only P := by
  unfold fetchMany
  split
  · exact Attempt.only_pure _
  rw [← @flatten_chunksOf config signatures] at hfetch
  exact Attempt.only_bind (only_fetchChunks hlog hsleep _ hfetch) (only_conclude hlog)

end Only

/-- Fetching a list never fails as a whole. -/
theorem runs_fetchAll {signatures : List String} {r : Except Fault (List Rpc.Outcome)}
    (h : (signatures.mapM fun s =>
      (ExceptT.lift (fetchOne fetch s) : Attempt Rpc.Outcome)).run.Runs t r) :
    ∃ fetches, Fetches fetch signatures fetches ∧ t = fetches.flatMap (·.trace) ∧
      r = .ok (fetches.map (·.outcome)) := by
  induction signatures generalizing t r with
  | nil =>
    obtain ⟨rfl, rfl⟩ := Attempt.runs_pure.mp h
    exact ⟨[], ⟨rfl, by simp⟩, rfl, rfl⟩
  | cons s signatures ih =>
    rw [List.mapM_cons] at h
    rcases runs_bind.mp h with ⟨t₁, t₂, outcome, rfl, hone, hrest⟩ | ⟨_, _, hone⟩
    · obtain ⟨_, ⟨⟩, hone⟩ := runs_lift.mp hone
      rcases runs_bind.mp hrest with ⟨t₃, t₄, outcomes, rfl, hall, hpure⟩ | ⟨_, _, hall⟩
      · obtain ⟨fetches, hfetches, rfl, hsame⟩ := ih hall
        cases hsame
        obtain ⟨rfl, rfl⟩ := Attempt.runs_pure.mp hpure
        refine ⟨⟨s, outcome, t₁⟩ :: fetches, ⟨by simp [hfetches.signatures], ?_⟩, by simp, rfl⟩
        exact List.forall_mem_cons.mpr ⟨hone, hfetches.runs⟩
      · obtain ⟨_, _, _, ⟨⟩⟩ := ih hall
    · obtain ⟨_, ⟨⟩, _⟩ := runs_lift.mp hone

theorem runs_chunkEnd {total : Fetched} {r : Except Fault Fetched}
    (h : (do Attempt.sleep config.delay; pure total : Attempt Fetched).run.Runs t r) :
    ∃ pause, t.calls = [] ∧ t.pauses = [pause] ∧
      r = (pause.mapError .arithmetic).map fun _ => total := by
  rcases runs_bind.mp h with ⟨t₁, t₂, _, rfl, hsleep, hpure⟩ | ⟨fault, rfl, hsleep⟩
  · obtain ⟨pause, rfl, hpause⟩ := Attempt.runs_sleep.mp hsleep
    obtain ⟨rfl, rfl⟩ := Attempt.runs_pure.mp hpure
    exact ⟨pause, rfl, rfl, by rw [← hpause]; rfl⟩
  · obtain ⟨pause, rfl, hpause⟩ := Attempt.runs_sleep.mp hsleep
    exact ⟨pause, rfl, rfl, by rw [← hpause]; rfl⟩

/-- Unless its pause fails, a chunk adds the outcomes of its fetches to what was fetched before. -/
theorem runs_closeChunk {before : Fetched} {chunk : List String × Nat}
    {outcomes : List Rpc.Outcome} {r : Except Fault Fetched}
    (h : (closeChunk config before chunk outcomes).run.Runs t r) :
    ∃ pause, t.calls = [] ∧ t.pauses = [pause] ∧
      r = (pause.mapError .arithmetic).map fun _ =>
        before.append (.ofOutcomes (chunk.1.zip outcomes)) := by
  obtain ⟨t₁, rfl, hwarn⟩ := runs_log_bind.mp h
  suffices hend : ∃ pause, t₁.calls = [] ∧ t₁.pauses = [pause] ∧
      r = (pause.mapError .arithmetic).map fun _ =>
        before.append (.ofOutcomes (chunk.1.zip outcomes)) by
    obtain ⟨pause, hcalls, hpauses, hr⟩ := hend
    exact ⟨pause, by simp [hcalls], by simp [hpauses], hr⟩
  split at hwarn
  · obtain ⟨t₂, rfl, hend⟩ := runs_log_bind.mp hwarn
    obtain ⟨pause, hcalls, hpauses, hr⟩ := runs_chunkEnd hend
    exact ⟨pause, by simp [hcalls], by simp [hpauses], hr⟩
  · exact runs_chunkEnd hwarn

/-- A chunk makes its fetches and a pause. -/
theorem runs_fetchChunk {before : Fetched} {chunk : List String × Nat} {r : Except Fault Fetched}
    (h : (fetchChunk fetch config before chunk).run.Runs t r) :
    ∃ fetches pause, Fetches fetch chunk.1 fetches ∧ t.calls = Fetch.calls fetches ∧
      t.pauses = Fetch.pauses fetches ++ [pause] ∧
      r = (pause.mapError .arithmetic).map fun _ =>
        before.append (.ofOutcomes (Fetch.outcomes fetches)) := by
  rcases runs_bind.mp h with ⟨t₁, t₂, outcomes, rfl, hall, hclose⟩ | ⟨_, _, hall⟩
  · obtain ⟨fetches, hfetches, rfl, hsame⟩ := runs_fetchAll hall
    cases hsame
    obtain ⟨pause, hcalls, hpauses, hr⟩ := runs_closeChunk hclose
    have houtcomes : chunk.1.zip (fetches.map (·.outcome)) = Fetch.outcomes fetches := by
      rw [← hfetches.signatures, List.zip_map', Fetch.outcomes]
    rw [houtcomes] at hr
    refine ⟨fetches, pause, hfetches, ?_, ?_, hr⟩
    · simp [hcalls, Fetch.calls, Trace.calls_flatMap]
    · simp [hpauses, Fetch.pauses, Trace.pauses_flatMap]
  · obtain ⟨_, _, _, ⟨⟩⟩ := runs_fetchAll hall

theorem Fetched.append_assoc (x y z : Fetched) : (x.append y).append z = x.append (y.append z) := by
  simp [append]

/-- Chunks in a row make the fetches of all their signatures and a pause for each, unless a pause
fails. -/
theorem runs_fetchChunks {before : Fetched} {chunks : List (List String × Nat)}
    {r : Except Fault Fetched}
    (h : (chunks.foldlM (fetchChunk fetch config) before).run.Runs t r) :
    (∃ fault, .error fault ∈ t.pauses ∧ r = .error (.arithmetic fault)) ∨
      ∃ fetches, Fetches fetch (chunks.map (·.1)).flatten fetches ∧ t.calls = Fetch.calls fetches ∧
        t.pauses.length = (Fetch.pauses fetches).length + chunks.length ∧
        r = .ok (before.append (.ofOutcomes (Fetch.outcomes fetches))) := by
  induction chunks generalizing before t with
  | nil =>
    obtain ⟨rfl, rfl⟩ := Attempt.runs_pure.mp h
    exact .inr ⟨[], ⟨rfl, by simp⟩, rfl, rfl, by simp [Fetch.outcomes, Fetched.append]⟩
  | cons chunk chunks ih =>
    rw [List.foldlM_cons] at h
    rcases runs_bind.mp h with ⟨t₁, t₂, mid, rfl, hchunk, hrest⟩ | ⟨fault, rfl, hchunk⟩
    · obtain ⟨fs, pause, hfs, hcalls, hpauses, hmid⟩ := runs_fetchChunk hchunk
      cases pause with
      | error fault => cases hmid
      | ok _ =>
        cases hmid
        -- the fetches of this chunk go before those of the later ones
        rcases ih hrest with ⟨fault, hfault, rfl⟩ | ⟨gs, hgs, hcalls', hpauses', rfl⟩
        · exact .inl ⟨fault, by simp [hfault], rfl⟩
        · refine .inr ⟨fs ++ gs, hfs.append hgs, ?_, ?_, ?_⟩
          · rw [Trace.calls_append, hcalls, hcalls', Fetch.calls, Fetch.calls, Fetch.calls,
              List.flatMap_append]
          · rw [Trace.pauses_append, hpauses, Fetch.pauses, Fetch.pauses, List.flatMap_append]
            simp only [List.length_append, List.length_cons, List.length_nil, hpauses',
              Fetch.pauses]
            omega
          · rw [Fetched.append_assoc, ← Fetched.ofOutcomes_append, Fetch.outcomes, Fetch.outcomes,
              Fetch.outcomes, List.map_append]
    · obtain ⟨fs, pause, -, -, hpauses, hfailed⟩ := runs_fetchChunk hchunk
      cases pause with
      | error fault' =>
        cases hfailed
        exact .inl ⟨fault', by simp [hpauses], rfl⟩
      | ok _ => cases hfailed

theorem runs_warnings {lines : List Log.Line} {r : Except Fault PUnit}
    (h : (lines.forM (Attempt.log .fetcher)).run.Runs t r) :
    t = .logged .fetcher lines ∧ r = .ok () := by
  induction lines generalizing t with
  | nil => exact Attempt.runs_pure.mp h
  | cons line lines ih =>
    have hcons : (Attempt.log .fetcher line >>= fun _ =>
        lines.forM (Attempt.log .fetcher)).run.Runs t r := h
    obtain ⟨t', rfl, hrest⟩ := runs_log_bind.mp hcons
    obtain ⟨rfl, hr⟩ := ih hrest
    exact ⟨rfl, hr⟩

/-- Indexing writes its warnings and does nothing else, and fails as its derivations do. -/
theorem runs_indexOne {fetched : String × Transaction} {r : Except Fault Indexed}
    (h : (indexOne fetched).run.Runs t r) :
    t = .logged .fetcher (BalanceDelta.warnings fetched.2) ∧
      r = (Indexed.ofTransaction fetched.2 fetched.1).mapError .arithmetic := by
  rcases runs_bind.mp h with ⟨t₁, t₂, _, rfl, hwarn, hrest⟩ | ⟨_, _, hwarn⟩
  swap
  · obtain ⟨_, ⟨⟩⟩ := runs_warnings hwarn
  obtain ⟨rfl, -⟩ := runs_warnings hwarn
  cases hindexed : Indexed.ofTransaction fetched.2 fetched.1 with
  | ok indexed =>
    rw [hindexed] at hrest
    obtain ⟨rfl, rfl⟩ := Attempt.runs_pure.mp hrest
    exact ⟨List.append_nil _, rfl⟩
  | error fault =>
    rw [hindexed] at hrest
    obtain ⟨rfl, rfl⟩ := Attempt.runs_throw.mp hrest
    exact ⟨List.append_nil _, rfl⟩

theorem runs_indexAll {fetched : List (String × Transaction)} {r : Except Fault (List Indexed)}
    (h : (fetched.mapM indexOne).run.Runs t r) :
    t.calls = [] ∧ t.pauses = [] ∧
      r = (fetched.mapM fun x => Indexed.ofTransaction x.2 x.1).mapError .arithmetic := by
  induction fetched generalizing t r with
  | nil =>
    obtain ⟨rfl, rfl⟩ := Attempt.runs_pure.mp h
    exact ⟨rfl, rfl, rfl⟩
  | cons x fetched ih =>
    rw [List.mapM_cons] at h ⊢
    rcases runs_bind.mp h with ⟨t₁, t₂, indexed, rfl, hone, hrest⟩ | ⟨fault, rfl, hone⟩
    · obtain ⟨rfl, hindexed⟩ := runs_indexOne hone
      have hx := Except.mapError_eq_ok hindexed.symm
      rcases runs_bind.mp hrest with ⟨t₃, t₄, rest, rfl, hall, hpure⟩ | ⟨fault, rfl, hall⟩
      · obtain ⟨hcalls', hpauses', hresult⟩ := ih hall
        obtain ⟨rfl, rfl⟩ := Attempt.runs_pure.mp hpure
        refine ⟨by simp [hcalls'], by simp [hpauses'], ?_⟩
        rw [hx, Except.mapError_eq_ok hresult.symm]
        rfl
      · obtain ⟨hcalls', hpauses', hresult⟩ := ih hall
        obtain ⟨fault', rfl, hall'⟩ := Except.mapError_eq_error hresult.symm
        refine ⟨by simp [hcalls'], by simp [hpauses'], ?_⟩
        rw [hx, hall']
        rfl
    · obtain ⟨rfl, hindexed⟩ := runs_indexOne hone
      obtain ⟨fault', rfl, hx⟩ := Except.mapError_eq_error hindexed.symm
      refine ⟨Trace.calls_logged _ _, Trace.pauses_logged _ _, ?_⟩
      rw [hx]
      rfl

/-- The end of a batch makes no calls and no pauses, and comes to what the outcomes say. -/
theorem runs_conclude {outcomes : List (String × Rpc.Outcome)} {r : Except Fault Result}
    (h : (conclude (.ofOutcomes outcomes)).run.Runs t r) :
    t.calls = [] ∧ t.pauses = [] ∧ r = (report outcomes).mapError .arithmetic := by
  rcases runs_bind.mp h with ⟨t₁, t₂, succeeded, rfl, hindex, hend⟩ | ⟨fault, rfl, hindex⟩
  · obtain ⟨hcalls, hpauses, hsucceeded⟩ := runs_indexAll hindex
    have hreport : report outcomes = .ok ⟨succeeded, _, _, _⟩ :=
      Except.bind_eq_ok.mpr ⟨succeeded, Except.mapError_eq_ok hsucceeded.symm, rfl⟩
    obtain ⟨t₃, rfl, hwarn⟩ := runs_log_bind.mp hend
    rw [hreport]
    dsimp only at hwarn
    split at hwarn
    · obtain ⟨t₄, rfl, hpure⟩ := runs_log_bind.mp hwarn
      obtain ⟨rfl, rfl⟩ := Attempt.runs_pure.mp hpure
      exact ⟨by simp [hcalls], by simp [hpauses], rfl⟩
    · obtain ⟨rfl, rfl⟩ := Attempt.runs_pure.mp hwarn
      exact ⟨by simp [hcalls], by simp [hpauses], rfl⟩
  · obtain ⟨hcalls, hpauses, hfailed⟩ := runs_indexAll hindex
    obtain ⟨fault', rfl, hindexed⟩ := Except.mapError_eq_error hfailed.symm
    have hreport : report outcomes = .error fault' := Except.bind_eq_error.mpr (.inl hindexed)
    exact ⟨hcalls, hpauses, by rw [hreport]; rfl⟩

theorem length_chunksOf (signatures : List String) : (chunksOf config signatures).length =
    (signatures.length + config.chunkSize - 1) / config.chunkSize := by
  rw [chunksOf, List.length_zipIdx, length_pieces]

/-- A batch makes one fetch for each signature, in turn, and a pause for each chunk of them. Unless
a pause fails, it comes to what the outcomes of its fetches say. -/
theorem runs_batch {signatures : List String} {r : Except Fault Result}
    (h : (fetchMany fetch config signatures).run.Runs t r) :
    (∃ fault, .error fault ∈ t.pauses ∧ r = .error (.arithmetic fault)) ∨
      ∃ fetches, Fetches fetch signatures fetches ∧ t.calls = Fetch.calls fetches ∧
        t.pauses.length = (Fetch.pauses fetches).length + (chunksOf config signatures).length ∧
        r = (report (Fetch.outcomes fetches)).mapError .arithmetic := by
  unfold fetchMany at h
  split at h
  next hempty =>
    obtain ⟨rfl, rfl⟩ := Attempt.runs_pure.mp h
    obtain rfl := List.isEmpty_iff.mp hempty
    have hnone : (chunksOf config []).length = 0 := by
      have := config.chunkSize_pos
      rw [length_chunksOf]
      exact Nat.div_eq_of_lt (by simp; omega)
    exact .inr ⟨[], ⟨rfl, by simp⟩, rfl, by rw [hnone]; rfl, rfl⟩
  next =>
    rcases runs_bind.mp h with ⟨t₁, t₂, fetched, rfl, hchunks, hrest⟩ | ⟨fault, rfl, hchunks⟩
    · rcases runs_fetchChunks hchunks with
        ⟨_, _, ⟨⟩⟩ | ⟨fetches, hfetches, hcalls, hpauses, hfetched⟩
      rw [flatten_chunksOf] at hfetches
      obtain rfl : fetched = .ofOutcomes (Fetch.outcomes fetches) := Except.ok.inj hfetched
      obtain ⟨hcalls', hpauses', hr⟩ := runs_conclude hrest
      exact .inr ⟨fetches, hfetches, by simp [hcalls, hcalls'], by simp [hpauses, hpauses'], hr⟩
    · rcases runs_fetchChunks hchunks with ⟨fault', hfault, hsame⟩ | ⟨_, _, _, _, ⟨⟩⟩
      exact .inl ⟨fault', hfault, by rw [Except.error.inj hsame]⟩

/-- A batch that returns made one fetch for each signature, in turn, and reports their outcomes. -/
theorem runs_fetchMany {signatures : List String} {result : Result}
    (h : (fetchMany fetch config signatures).run.Runs t (.ok result)) :
    ∃ fetches, Fetches fetch signatures fetches ∧ t.calls = Fetch.calls fetches ∧
      result.Reports (Fetch.outcomes fetches) := by
  rcases runs_batch h with ⟨_, _, ⟨⟩⟩ | ⟨fetches, hfetches, hcalls, -, hresult⟩
  cases hreport : report (Fetch.outcomes fetches) with
  | error _ =>
    rw [hreport] at hresult
    cases hresult
  | ok result' =>
    rw [hreport] at hresult
    cases hresult
    exact ⟨fetches, hfetches, hcalls, reports_of_report hreport⟩

/-- A batch of any signatures that returns made a pause that went well. -/
theorem pause_of_fetchMany {signatures : List String} {result : Result} (hne : signatures ≠ [])
    (h : (fetchMany fetch config signatures).run.Runs t (.ok result)) : .ok () ∈ t.pauses := by
  unfold fetchMany at h
  split at h
  next hempty => exact absurd (List.isEmpty_iff.mp hempty) hne
  obtain ⟨t₁, t₂, fetched, rfl, hchunks, -⟩ := Attempt.runs_bind_ok.mp h
  cases hlist : chunksOf config signatures with
  | nil =>
    have hflat := @flatten_chunksOf config signatures
    rw [hlist] at hflat
    exact absurd hflat.symm hne
  | cons chunk chunks =>
    rw [hlist, List.foldlM_cons] at hchunks
    obtain ⟨t₃, t₄, mid, rfl, hchunk, -⟩ := Attempt.runs_bind_ok.mp hchunks
    obtain ⟨_, pause, -, -, hpauses, hmid⟩ := runs_fetchChunk hchunk
    cases pause with
    | error _ => cases hmid
    | ok _ => simp [hpauses]

theorem fetchOne_eq (s : String) :
    fetchOne fetch s = (fetch s).run >>= fun r => pure (.settled s r) := by
  refine congrArg _ (funext fun r => ?_)
  rcases r with _ | _ | _
  · rfl
  · simp only [Rpc.Outcome.settled]
    split <;> rfl
  · rfl

/-- The calls of one fetch of a client, and its outcome. -/
theorem runs_fetchOne {client : Rpc.Client} {s : String} {outcome : Rpc.Outcome}
    (h : (fetchOne (Rpc.Outcome.fetch client) s).Runs t outcome) :
    (client.Asks ∧ ∃ answer, t.calls = [⟨.ask (.transaction s), answer⟩] ∧
      outcome = client.outcome s answer) ∨
      ¬ client.Asks ∧ t.calls = [] ∧ ∃ error, outcome = .failed error := by
  rw [fetchOne_eq] at h
  obtain ⟨t₁, t₂, r, rfl, hfetch, hpure⟩ := Program.runs_bind.mp h
  obtain ⟨rfl, rfl⟩ := Program.runs_pure.mp hpure
  rw [List.append_nil]
  obtain ⟨hasks, answer, hcalls, rfl⟩ | ⟨hasks, hcalls, fault, rfl, -⟩ :=
    Rpc.Outcome.runs_fetch hfetch
  · exact .inl ⟨hasks, answer, hcalls, rfl⟩
  · exact .inr ⟨hasks, hcalls, _, rfl⟩

/-- The requests of a batch: one for each signature, in turn, if requests go out at all. -/
theorem requests_fetchMany {client : Rpc.Client} {signatures : List String} {result : Result}
    (hasks : client.Asks)
    (h : (fetchMany (Rpc.Outcome.fetch client) config signatures).run.Runs t (.ok result)) :
    t.requests = signatures.map .transaction := by
  obtain ⟨fetches, ⟨rfl, hruns⟩, hcalls, -⟩ := runs_fetchMany h
  rw [← Trace.requests_calls, hcalls, Fetch.calls]
  clear h hcalls
  induction fetches with
  | nil => rfl
  | cons f fetches ih =>
    obtain ⟨hrun, hruns⟩ := List.forall_mem_cons.mp hruns
    rw [List.flatMap_cons, Trace.requests_append, ih hruns]
    rcases runs_fetchOne hrun with ⟨_, answer, hcalls, -⟩ | ⟨hnot, -⟩
    · rw [hcalls]
      rfl
    · exact absurd hasks hnot

end Batch

end AddressIndex
