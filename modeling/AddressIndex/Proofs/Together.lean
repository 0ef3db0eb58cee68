import AddressIndex.Proofs.Fetch

/-! Batches whose chunks are fetched at once. The fetches of a chunk begin in turn, as many at a
time as the batch allows, and their effects may come in any order. Each fetch still runs as it
would alone, so a batch does up to order what it does with one fetch after another, and comes to the
same. -/

namespace AddressIndex

namespace Program

variable {α : Type} {width : Nat} {ps : List (Program α)} {t : Trace} {values : List α}

def unfinished : Program α → Bool
  | .done _ => false
  | .act _ _ => true

/-- Programs at once, at most `width` at a time: a program has its effects while fewer than `width`
of those before it are unfinished. -/
inductive Together (width : Nat) : List (Program α) → Trace → List α → Prop
  | done (values : List α) : Together width (values.map .done) [] values
  | act {before after : List (Program α)} {effect : Effect} {next : effect.Reply → Program α}
      (reply : effect.Reply) {t : Trace} {values : List α}
      (turn : before.countP unfinished < width)
      (rest : Together width (before ++ next reply :: after) t values) :
      Together width (before ++ .act effect next :: after) (⟨effect, reply⟩ :: t) values

/-- A run of a program on its own. -/
structure Run (α : Type) where
  program : Program α
  trace : Trace
  value : α
  runs : program.Runs trace value

/-- Programs at once each run as they would alone, and share the trace. -/
theorem Together.each (h : Together width ps t values) :
    ∃ rs : List (Run α), rs.map (·.program) = ps ∧ rs.map (·.value) = values ∧
      t.Perm (rs.flatMap (·.trace)) := by
  induction h with
  | done values =>
    refine ⟨values.map fun value => ⟨.done value, [], value, .done value⟩, ?_, ?_, ?_⟩ <;>
      simp [Function.comp_def]
  | @act before after effect next reply t values turn rest ih =>
    -- the event is the first of the run of the program that has it
    obtain ⟨rs, hps, rfl, hperm⟩ := ih
    obtain ⟨rs₁, rs₂, rfl, rfl, htail⟩ := List.map_eq_append_iff.mp hps
    obtain ⟨r, rs₂, rfl, hr, rfl⟩ := List.map_eq_cons_iff.mp htail
    refine ⟨rs₁ ++ ⟨.act effect next, ⟨effect, reply⟩ :: r.trace, r.value, .act reply (hr ▸ r.runs)⟩
      :: rs₂, by simp, by simp, ?_⟩
    simp only [List.flatMap_append, List.flatMap_cons, List.cons_append] at hperm ⊢
    exact (hperm.cons _).trans List.perm_middle.symm

theorem Together.of_runs (hwidth : 0 < width) (finished : List α) (rs : List (Run α)) :
    Together width (finished.map .done ++ rs.map (·.program)) (rs.flatMap (·.trace))
      (finished ++ rs.map (·.value)) := by
  induction rs generalizing finished with
  | nil => simpa using Together.done finished
  | cons r rs ih =>
    obtain ⟨p, t, value, hruns⟩ := r
    simp only [List.map_cons, List.flatMap_cons]
    -- all before this one have finished, so it has every turn until it finishes too
    induction hruns with
    | done value => simpa using ih (finished ++ [value])
    | act reply _ ihrun =>
      refine .act reply ?_ ihrun
      have hnone : (finished.map .done).countP (unfinished (α := α)) = 0 :=
        List.countP_eq_zero.mpr (by simp [unfinished])
      rwa [hnone]

end Program

namespace Batch

open Attempt (runs_bind runs_bind_ok runs_lift)
open Program (Together Run)

variable {fetch : String → Attempt Rpc.Outcome} {config : Config} {before after : Fetched}
  {chunk : List String × Nat} {chunks : List (List String × Nat)} {signatures : List String}
  {t : Trace} {result : Result}

/-- Chunks one after another, the fetches of each at once. -/
inductive ChunksAtOnce (fetch : String → Attempt Rpc.Outcome) (config : Config) :
    Fetched → List (List String × Nat) → Trace → Fetched → Prop
  | none (before : Fetched) : ChunksAtOnce fetch config before [] [] before
  | chunk {before mid after : Fetched} {chunk : List String × Nat}
      {chunks : List (List String × Nat)} {outcomes : List Rpc.Outcome} {t₁ t₂ t₃ : Trace}
      (fetches : Together config.concurrency (chunk.1.map (fetchOne fetch)) t₁ outcomes)
      (closes : (closeChunk config before chunk outcomes).run.Runs t₂ (.ok mid))
      (rest : ChunksAtOnce fetch config mid chunks t₃ after) :
      ChunksAtOnce fetch config before (chunk :: chunks) (t₁ ++ (t₂ ++ t₃)) after

/-- A batch that returns, with the fetches of each chunk at once. -/
inductive AtOnce (fetch : String → Attempt Rpc.Outcome) (config : Config) :
    List String → Trace → Result → Prop
  | none : AtOnce fetch config [] [] ⟨[], [], [], []⟩
  | some {signatures : List String} {fetched : Fetched} {result : Result} {t₁ t₂ : Trace}
      (given : signatures ≠ [])
      (chunks : ChunksAtOnce fetch config ⟨[], []⟩ (chunksOf config signatures) t₁ fetched)
      (concludes : (conclude fetched).run.Runs t₂ (.ok result)) :
      AtOnce fetch config signatures (t₁ ++ t₂) result

/-- What runs of fetches give, one after another. -/
theorem runs_mapM_fetchOne (rs : List (Run Rpc.Outcome)) (signatures : List String)
    (h : rs.map (·.program) = signatures.map (fetchOne fetch)) :
    (signatures.mapM fun s =>
      (ExceptT.lift (fetchOne fetch s) : Attempt Rpc.Outcome)).run.Runs (rs.flatMap (·.trace))
        (.ok (rs.map (·.value))) := by
  induction signatures generalizing rs with
  | nil =>
    obtain rfl : rs = [] := by simpa using h
    exact Attempt.runs_pure.mpr ⟨rfl, rfl⟩
  | cons s signatures ih =>
    obtain ⟨r, rs, rfl, hr, hrs⟩ := List.map_eq_cons_iff.mp h
    rw [List.mapM_cons]
    refine runs_bind_ok.mpr ⟨r.trace, rs.flatMap (·.trace), r.value, rfl, ?_, ?_⟩
    · exact runs_lift.mpr ⟨_, rfl, hr ▸ r.runs⟩
    · exact runs_bind_ok.mpr ⟨_, [], _, by simp, ih rs hrs, Attempt.runs_pure.mpr ⟨rfl, rfl⟩⟩

/-- Chunks whose fetches are at once do up to order what they do in turn. -/
theorem ChunksAtOnce.in_turn (h : ChunksAtOnce fetch config before chunks t after) :
    ∃ t', t'.Perm t ∧ (chunks.foldlM (fetchChunk fetch config) before).run.Runs t' (.ok after) := by
  induction h with
  | none before => exact ⟨[], .nil, Attempt.runs_pure.mpr ⟨rfl, rfl⟩⟩
  | chunk fetches closes rest ih =>
    obtain ⟨rs, hprograms, rfl, hperm⟩ := fetches.each
    obtain ⟨t', hperm', hrest⟩ := ih
    refine ⟨_, hperm.symm.append (hperm'.append_left _), ?_⟩
    rw [List.foldlM_cons]
    have hfetches := runs_mapM_fetchOne rs _ hprograms
    have hchunk := runs_bind_ok.mpr ⟨_, _, _, rfl, hfetches, closes⟩
    rw [← List.append_assoc]
    exact runs_bind_ok.mpr ⟨_, _, _, rfl, hchunk, hrest⟩

theorem ChunksAtOnce.of_runs (hwidth : 0 < config.concurrency)
    (h : (chunks.foldlM (fetchChunk fetch config) before).run.Runs t (.ok after)) :
    ChunksAtOnce fetch config before chunks t after := by
  induction chunks generalizing before t with
  | nil =>
    obtain ⟨rfl, hafter⟩ := Attempt.runs_pure.mp h
    cases hafter
    exact .none _
  | cons chunk chunks ih =>
    rw [List.foldlM_cons] at h
    obtain ⟨t₁, t₂, mid, rfl, hchunk, hrest⟩ := runs_bind_ok.mp h
    obtain ⟨t₃, t₄, outcomes, rfl, hall, hclose⟩ := runs_bind_ok.mp hchunk
    obtain ⟨fetches, hfetches, rfl, hsame⟩ := runs_fetchAll hall
    cases hsame
    rw [List.append_assoc]
    refine .chunk ?_ hclose (ih hrest)
    let rs : List (Run Rpc.Outcome) :=
      fetches.pmap (fun f hf => ⟨fetchOne fetch f.signature, f.trace, f.outcome, hf⟩) hfetches.runs
    have hrs := Together.of_runs hwidth [] rs
    rw [← hfetches.signatures]
    simpa [rs, List.map_pmap, List.flatMap_def, Function.comp_def] using hrs

/-- A batch whose fetches are at once does up to order what it does with one after another. -/
theorem AtOnce.in_turn (h : AtOnce fetch config signatures t result) :
    ∃ t', t'.Perm t ∧ (fetchMany fetch config signatures).run.Runs t' (.ok result) := by
  cases h with
  | none => exact ⟨[], .nil, Attempt.runs_pure.mpr ⟨rfl, rfl⟩⟩
  | some given chunks concludes =>
    obtain ⟨t', hperm, hchunks⟩ := chunks.in_turn
    refine ⟨_, hperm.append_right _, ?_⟩
    unfold fetchMany
    rw [if_neg (by simpa using given)]
    exact runs_bind_ok.mpr ⟨_, _, _, rfl, hchunks, concludes⟩

/-- One fetch after another is at once too. -/
theorem AtOnce.of_runs (hwidth : 0 < config.concurrency)
    (h : (fetchMany fetch config signatures).run.Runs t (.ok result)) :
    AtOnce fetch config signatures t result := by
  unfold fetchMany at h
  split at h
  next hempty =>
    obtain ⟨rfl, hresult⟩ := Attempt.runs_pure.mp h
    obtain rfl := List.isEmpty_iff.mp hempty
    cases hresult
    exact .none
  next hgiven =>
    obtain ⟨t₁, t₂, fetched, rfl, hchunks, hconclude⟩ := runs_bind_ok.mp h
    exact .some (by simpa using hgiven) (.of_runs hwidth hchunks) hconclude

end Batch

end AddressIndex
