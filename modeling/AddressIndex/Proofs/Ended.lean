import AddressIndex.Proofs.Calls
import AddressIndex.Proofs.Ownership
import AddressIndex.Proofs.Persistence

/-! Jobs that have ended. A worker asks for a transaction only while it indexes the address whose
signature it is, and then it holds the job of the address, which is indexing. But a job that has
ended stays as it is: no claim takes it, and an address that is handed in again has its job already.
So a signature that is unprocessed when the job of its address ends is never asked for again. -/

namespace AddressIndex

open Store (Database Query Numbered)

/-! ### What a worker asks for -/

namespace Worker

variable {limits : Limits} {past : Trace} {job : Job} {leased failed : List String}
  {sync : TransactionSync}

/-- A worker asks for a transaction only in a pass for the address of the job that it holds, and
only if the signature was leased for the pass. -/
def Pursues (past : Trace) : Effect → Prop
  | .ask (.transaction s) => ∃ job leased pass, past.held = some job ∧
    past.InPass job.address leased pass ∧ s ∈ leased
  | _ => True

/-- Effects that ask for no transaction. -/
def Unasking : Effect → Prop
  | .ask (.transaction _) => False
  | _ => True

theorem pursues_of_unasking (past : Trace) (effect : Effect) (h : Unasking effect) :
    Pursues past effect := by
  cases effect with
  | ask request =>
    cases request with
    | transaction _ => exact h.elim
    | signatures _ _ _ => trivial
  | _ => trivial

theorem unasking_of_quiet {effect : Effect} (h : effect.isCall = false) : Unasking effect := by
  cases effect with
  | ask _ => simp at h
  | _ => trivial

theorem keeps_pursuing (held : Option Job) : Keeps Pursues fun past => past.held = held := by
  intro past effect quiet h
  refine ⟨pursues_of_unasking past effect (unasking_of_quiet quiet), fun reply => ?_⟩
  exact (Trace.held_snoc_of_not_writes (indexes_of_quiet "" quiet).not_writesJobs).trans h

/-- The pages of a history are stored while the job is held. -/
theorem pursues_syncSignatures (hheld : past.held = some job) :
    (syncSignatures limits job.address).run.Heeds Pursues past
      fun _ past => past.held = some job := by
  have honly : (syncSignatures limits job.address).run.Only
      fun effect => Unasking effect ∧ ¬ effect.WritesJobs :=
    only_syncPages (fun _ => ⟨trivial, id⟩) (fun _ _ => ⟨trivial, id⟩) (fun _ => ⟨trivial, id⟩)
      (fun _ => ⟨trivial, id⟩) _ _ _
  have hkeeps (past : Trace) (effect : Effect) (h : Unasking effect ∧ ¬ effect.WritesJobs)
      (hheld : past.held = some job) :
      Pursues past effect ∧ ∀ reply, Trace.held (past ++ [⟨effect, reply⟩]) = some job :=
    ⟨pursues_of_unasking past effect h.1,
      fun _ => (Trace.held_snoc_of_not_writes h.2).trans hheld⟩
  exact honly.heeds_of_known hkeeps hheld fun _ _ _ held => held

/-- A pass asks only for what was leased. -/
theorem pursues_runPass {pass : Trace} (hheld : past.held = some job)
    (hpass : past.InPass job.address leased pass) :
    (runPass limits job.address leased sync).run.Heeds Pursues past
      fun _ past => past.held = some job := by
  have honly : (runPass limits job.address leased sync).run.Only fun effect =>
      (∀ s, effect = .ask (.transaction s) → s ∈ leased) ∧ ¬ effect.Leases ∧
        ¬ effect.WritesJobs := by
    refine only_runPass (fun _ _ => ⟨nofun, id, id⟩) (fun _ => ⟨nofun, id, id⟩)
      (fun _ => ⟨nofun, id, id⟩) (fun _ => ⟨nofun, id, id⟩) fun s hs => ⟨?_, id, id⟩
    rintro _ ⟨⟩
    exact hs
  have hkeeps (past : Trace) (effect : Effect)
      (h : (∀ s, effect = .ask (.transaction s) → s ∈ leased) ∧ ¬ effect.Leases ∧
        ¬ effect.WritesJobs)
      (hknown : past.held = some job ∧ ∃ pass, past.InPass job.address leased pass) :
      Pursues past effect ∧ ∀ reply, Trace.held (past ++ [⟨effect, reply⟩]) = some job ∧
        ∃ pass, Trace.InPass (past ++ [⟨effect, reply⟩]) job.address leased pass := by
    obtain ⟨hleased, hlease, hwrites⟩ := h
    obtain ⟨hheld, pass, hpass⟩ := hknown
    constructor
    · cases effect with
      | ask request =>
        cases request with
        | transaction s => exact ⟨job, leased, pass, hheld, hpass, hleased s rfl⟩
        | signatures _ _ _ => trivial
      | _ => trivial
    · refine fun reply => ⟨(Trace.held_snoc_of_not_writes hwrites).trans hheld, _,
        hpass.append fun ev hev => ?_⟩
      obtain rfl := List.mem_singleton.mp hev
      exact hlease
  exact honly.heeds_of_known hkeeps ⟨hheld, pass, hpass⟩ fun _ _ _ known => known.1

theorem pursues_drain {left : Nat} {pass : Trace} (hheld : past.held = some job)
    (hpass : past.InPass job.address leased pass) :
    (drain limits job.address left leased failed sync).run.Heeds Pursues past
      fun _ past => past.held = some job := by
  induction left generalizing past leased failed sync pass with
  | zero => exact hheld
  | succ left ih =>
    rw [drain]
    split
    · exact hheld
    rw [Attempt.heeds_bind]
    apply (pursues_runPass hheld hpass).mono
    intro r past hheld
    cases r with
    | error _ => exact hheld
    | ok result =>
      have hstill (reply : Except Store.Fault Store.Lease) (exclude : List String) :
          Trace.held (past ++ [⟨.query (.lease job.address limits.leaseLimit exclude), reply⟩]) =
            some job := by
        rw [Trace.held_snoc_of_not_writes id, hheld]
      -- the next lease begins a new pass
      dsimp only
      rw [Attempt.heeds_bind]
      exact Attempt.heeds_query trivial (fun lease => ih (hstill _ _) .start) fun _ => hstill _ _

theorem pursues_syncTransactions (hheld : past.held = some job) :
    (syncTransactions limits job.address).run.Heeds Pursues past
      fun _ past => past.held = some job := by
  have hstill (reply : Except Store.Fault Store.Lease) :
      Trace.held (past ++ [⟨.query (.lease job.address limits.leaseLimit []), reply⟩]) =
        some job := by
    rw [Trace.held_snoc_of_not_writes id, hheld]
  unfold syncTransactions
  rw [Attempt.heeds_bind]
  exact Attempt.heeds_query trivial (fun lease => pursues_drain (hstill _) .start)
    fun _ => hstill _

theorem pursues_runStage {α : Type} {stage : String} {x : Attempt α}
    (h : x.run.Heeds Pursues past fun _ past => past.held = some job) :
    (runStage stage x).run.Heeds Pursues past fun _ past => past.held = some job :=
  Program.heeds_bind.mpr (h.mono fun r _ hheld => by cases r <;> exact hheld)

theorem pursues_index (hheld : past.held = some job) :
    (index limits job.address).run.Heeds Pursues past fun _ past => past.held = some job := by
  unfold index
  rw [Attempt.heeds_bind]
  apply (pursues_runStage (pursues_syncSignatures hheld)).mono
  intro r past hheld
  cases r with
  | error _ => exact hheld
  | ok signatures =>
    dsimp only
    rw [Attempt.heeds_bind]
    apply (pursues_runStage (pursues_syncTransactions hheld)).mono
    intro r past hheld
    cases r <;> exact hheld

/-- A worker asks for no transaction but while it indexes an address. -/
theorem pursuing_course {config : Config} :
    Course config Pursues (fun past => past.held = none) (fun job past => past.held = some job)
      fun job _ past => past.held = some job where
  keepsIdle := keeps_pursuing none
  keepsBusy job := keeps_pursuing (some job)
  keepsEnded job _ := keeps_pursuing (some job)
  claims past h :=
    (Store.only_claim trivial fun _ => trivial).heeds_as pursues_of_unasking
      (heedful_course.claims past h)
  indexes job past h := (pursues_index h).mono fun r _ hheld => by cases r <;> exact hheld
  updates job status past h :=
    Attempt.heeds_query trivial (fun _ => Trace.held_snoc _ _) fun _ => Trace.held_snoc _ _

end Worker

/-! ### After the end of a job -/

/-- Whether a job has come to its end. -/
def JobStatus.IsEnd (status : JobStatus) : Prop := status = .ready ∨ status = .error

section Pool

variable {ι : Type} [DecidableEq ι] {answers : Answers} {database : Database}
  {config : ι → Worker.Config} {limit : ι → Nat} {state : ι → Worker.State}
  {pool pool' : Pool ι (Except Fault Unit × Worker.State)} {history later : History ι}
  {who : Option ι} {ev : Event} {job : Job}

theorem Pool.Reaches.pursues {i : ι}
    (r : Pool.Reaches answers (Worker.pool database config limit state) history pool)
    (step : pool.Step answers (some i, ev) pool') :
    Worker.Pursues (history.own i) ev.effect :=
  r.heeds (Worker.pursuing_course.heeds_run (limit i) Trace.held_nil) step

/-- A job that a worker holds is indexing, and its row is as the worker was given it. -/
theorem Pool.Reaches.indexing_of_held {i : ι} (hnumbered : Numbered database.tables.jobs)
    (r : Pool.Reaches answers (Worker.pool database config limit state) history pool)
    (hheld : (history.own i).held = some job) :
    job ∈ pool.database.tables.jobs ∧ job.status = .indexing := by
  induction r with
  | refl => cases hheld
  | @step history pool pool' entry r step ih =>
    obtain ⟨who, ev⟩ := entry
    -- a job that was held before stays as it is unless its holder updates it
    have hstays (hbefore : (history.own i).held = some job)
        (hother : who = some i → ¬ ev.Updates job.id) : job ∈ pool'.database.tables.jobs := by
      obtain ⟨hjob, hindexing⟩ := ih hbefore
      rcases step.row (r.numbered hnumbered) r hjob with h | ⟨hpending, -⟩ | ⟨j, rfl, hupdates, -⟩
      · exact h
      · rw [hindexing] at hpending
        cases hpending
      · obtain ⟨word, worker, owner, heffect⟩ := id hupdates
        have hheedful := r.heedful step
        rw [heffect] at hheedful
        obtain ⟨-, -, job', -, hheld', hid, -⟩ := hheedful
        obtain rfl := r.held_once hnumbered hheld' hbefore hid
        exact absurd hupdates (hother rfl)
    by_cases hwho : who = some i
    · subst hwho
      rw [History.own_concat_self, Trace.held_snoc] at hheld
      rcases Event.of_holding hheld with hgrants | ⟨hbefore, hother⟩
      · obtain ⟨_, old, -, -, -, hjob, hmem⟩ := step.grants r hgrants
        exact ⟨hmem, by rw [hjob]⟩
      · exact ⟨hstays hbefore fun _ => hother _, (ih hbefore).2⟩
    · rw [History.own_concat_of_ne hwho] at hheld
      exact ⟨hstays hheld fun h => absurd h hwho, (ih hheld).2⟩

section Ended

variable {row : Store.SignatureRow} (hnumbered : Numbered database.tables.jobs)
  (haddresses : (database.tables.jobs.map (·.address)).Nodup)
  (r : Pool.Reaches answers (Worker.pool database config limit state) history pool)
  (hjob : job ∈ pool.database.tables.jobs)

include hnumbered r hjob

/-- A job that has ended stays as it is. -/
theorem Pool.Step.ended_stays (step : pool.Step answers (who, ev) pool')
    (hended : job.status.IsEnd) : job ∈ pool'.database.tables.jobs := by
  rcases step.row (r.numbered hnumbered) r hjob with h | ⟨hpending, -⟩ | ⟨_, _, _, hindexing, _⟩
  · exact h
  · rcases hended with h | h <;> cases hpending.symm.trans h
  · rcases hended with h | h <;> cases hindexing.symm.trans h

include haddresses

/-- An address that has a job is given no other one. -/
theorem Pool.Step.known_address {address : String} {reply : Job × Bool}
    (step : pool.Step answers (who, ⟨.query (.addJob address), .ok reply⟩) pool')
    (hsame : Text.trim address = job.address) : reply = (job, false) := by
  obtain ⟨_, hreply, -⟩ := Event.Happens.of_reply step.happens
  rw [hreply, Query.answer, hsame, Store.find_of_nodup (r.addresses hnumbered haddresses) hjob]

/-- Nobody holds a job for an address whose job has ended. -/
theorem Pool.Reaches.not_held {i : ι} {held : Job} (hended : job.status.IsEnd)
    (hheld : (history.own i).held = some held) : held.address ≠ job.address := by
  intro hsame
  obtain ⟨hmem, hindexing⟩ := r.indexing_of_held hnumbered hheld
  obtain rfl := List.inj_on_of_nodup_map (r.addresses hnumbered haddresses) hmem hjob hsame
  rcases hended with h | h <;> cases hindexing.symm.trans h

/-- The signatures of an address whose job has ended stay as they are. -/
theorem Pool.Step.signature_stays (step : pool.Step answers (who, ev) pool')
    (hended : job.status.IsEnd) (hrow : row ∈ pool.database.tables.signatures)
    (howner : row.owner = job.address) : row ∈ pool'.database.tables.signatures := by
  have hkept : Store.historyOf job.address pool'.database.tables.signatures =
      Store.historyOf job.address pool.database.tables.signatures := by
    refine step.happens.historyOf fun hwrites => ?_
    cases who with
    | none =>
      cases step
      exact hwrites
    | some i =>
      obtain ⟨held, hheld, hsame⟩ := (r.heedful step).writes hwrites
      exact r.not_held hnumbered haddresses hjob hended hheld hsame
  have hmem : row ∈ Store.historyOf job.address pool.database.tables.signatures :=
    List.mem_filter.mpr ⟨hrow, decide_eq_true howner⟩
  rw [← hkept] at hmem
  exact (List.mem_filter.mp hmem).1

/-- For an address whose job has ended no transaction is asked for. -/
theorem Pool.Step.not_asked (hkeyed : database.tables.Keyed)
    (step : pool.Step answers (who, ev) pool') (hended : job.status.IsEnd)
    (hrow : row ∈ pool.database.tables.signatures) (howner : row.owner = job.address) :
    ev.effect ≠ .ask (.transaction row.key) := by
  intro heffect
  cases who with
  | none =>
    cases step
    cases heffect
  | some i =>
    have hpursues := r.pursues step
    rw [heffect] at hpursues
    obtain ⟨held, leased, pass, hheld, hpass, hs⟩ := hpursues
    -- the row of the signature names the address that it was leased for
    obtain ⟨row', hrow', howner', hkey⟩ := (r.leased hkeyed hpass).2 _ hs
    obtain rfl := List.inj_on_of_nodup_map (r.keyed hkeyed).signatures hrow' hrow hkey
    exact r.not_held hnumbered haddresses hjob hended hheld (howner'.symm.trans howner)

end Ended

/-- Once the job of an address has ended, whatever comes next and whatever fails: the job stays as
it is, whoever hands in the address is told of it, and the signatures of the address stay as they
are and are not asked for. So those that are unprocessed stay unprocessed. -/
theorem Pool.Reaches.ended_is_final {row : Store.SignatureRow}
    (r : Pool.Reaches answers (Worker.pool (.ready .blank) config limit state) history pool)
    (hjob : job ∈ pool.database.tables.jobs) (hended : job.status.IsEnd)
    (hrow : row ∈ pool.database.tables.signatures) (howner : row.owner = job.address)
    (r' : Pool.Reaches answers pool later pool') :
    job ∈ pool'.database.tables.jobs ∧ row ∈ pool'.database.tables.signatures ∧
      ∀ entry ∈ later, entry.2.effect ≠ .ask (.transaction row.key) ∧
        ∀ address reply, entry.2 = ⟨.query (.addJob address), .ok reply⟩ →
          Text.trim address = job.address → reply = (job, false) := by
  induction r' with
  | refl => exact ⟨hjob, hrow, fun _ h => nomatch h⟩
  | @step later pool₁ pool₂ entry r₁ step ih =>
    obtain ⟨hjob₁, hrow₁, hlater⟩ := ih
    have r₂ := r.trans r₁
    refine ⟨step.ended_stays .blank r₂ hjob₁ hended,
      step.signature_stays .blank .nil r₂ hjob₁ hended hrow₁ howner, fun entry' hentry => ?_⟩
    rcases List.mem_append.mp hentry with hentry | hentry
    · exact hlater entry' hentry
    · obtain rfl := List.mem_singleton.mp hentry
      refine ⟨step.not_asked .blank .nil r₂ hjob₁ .blank hended hrow₁ howner, ?_⟩
      intro address reply hhanded hsame
      obtain ⟨who, ev⟩ := entry'
      obtain rfl := hhanded
      exact step.known_address .blank .nil r₂ hjob₁ hsame

end Pool

/-- A node that tells of a signature, but not of its transaction. -/
def Sample.silentNode : Rpc.Request → Rpc.Answer
  | .transaction _ => .reply 200 "\x7b\"result\":null\x7d"
  | request => node request

set_option maxRecDepth 20000 in
/-- The transaction of a signature cannot be fetched. The job ends as ready with the signature
unprocessed, and whatever comes next does not ask for it again. -/
theorem ended_is_final_of_one :
    ∃ history pool, Pool.Reaches (fun request answer => answer = Sample.silentNode request)
        (Worker.pool (.ready .blank) Sample.config (fun _ => 3) fun _ => Sample.state)
        history pool ∧
      ∃ job ∈ pool.database.tables.jobs, job.status = .ready ∧
        ∃ row ∈ pool.database.tables.signatures, row.owner = job.address ∧
          row.processed = false ∧ ∀ later pool',
            Pool.Reaches (fun request answer => answer = Sample.silentNode request)
              pool later pool' →
            row ∈ pool'.database.tables.signatures ∧
              ∀ entry ∈ later, entry.2.effect ≠ .ask (.transaction row.key) := by
  let w : World := { Sample.world (.ready .blank) with node := fun _ => Sample.silentNode }
  obtain ⟨history, r⟩ := reaches_turns
    (show w.Within fun request answer => answer = Sample.silentNode request from
      ⟨rfl, fun _ _ => rfl⟩) Sample.workers (.handIn "A" :: List.replicate 20 (.work 0))
  have hjobs : (turns (.handIn "A" :: List.replicate 20 (.work 0)) w
      Sample.workers).1.database.tables.jobs.map (fun job => (job.address, job.status)) =
        [("A", .ready)] := by
    decide +kernel
  have hrows : (turns (.handIn "A" :: List.replicate 20 (.work 0)) w
      Sample.workers).1.database.tables.signatures.map (fun row => (row.owner, row.processed)) =
        [("A", false)] := by
    decide +kernel
  generalize turns (.handIn "A" :: List.replicate 20 (.work 0)) w Sample.workers = last
    at r hjobs hrows
  obtain ⟨job, hone, hjob⟩ := List.map_eq_singleton_iff.mp hjobs
  obtain ⟨row, hsingle, hrow⟩ := List.map_eq_singleton_iff.mp hrows
  obtain ⟨haddress, hready⟩ := Prod.mk.inj hjob
  obtain ⟨howner, hwaits⟩ := Prod.mk.inj hrow
  have hjob := List.mem_singleton_self job
  have hrow := List.mem_singleton_self row
  rw [← hone] at hjob
  rw [← hsingle] at hrow
  refine ⟨history, _, r, job, hjob, hready, row, hrow, howner.trans haddress.symm, hwaits,
    fun later pool' r' => ?_⟩
  obtain ⟨-, hstays, hlater⟩ :=
    Pool.Reaches.ended_is_final r hjob (.inl hready) hrow (howner.trans haddress.symm) r'
  exact ⟨hstays, fun entry hentry => (hlater entry hentry).1⟩

end AddressIndex
