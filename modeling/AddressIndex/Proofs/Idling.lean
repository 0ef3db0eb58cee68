import AddressIndex.Proofs.Account
import AddressIndex.Proofs.Backoff
import AddressIndex.Proofs.Execution
import AddressIndex.Proofs.Numerals
import AddressIndex.Service

/-! Idling. Accepted settings set the service up, and a worker that finds no job waits with them.
Each such poll has one pause and leaves the worker idle, as long as its delay can grow. A delay that
cannot stays as it is, so from then on an empty queue is polled without a pause. -/

namespace AddressIndex

open Backoff (Reached Within IsWait)

/-! ### Accepted settings -/

/-- What is checked of settings. -/
structure Settings.Checked (s : Settings) : Prop where
  workers : 1 ≤ s.workerCount
  page : 1 ≤ s.pageSize ∧ s.pageSize ≤ Rpc.greatestPage
  pages : 1 ≤ s.maxPages
  batch : 1 ≤ s.chunkSize ∧ 1 ≤ s.concurrency
  lease : 1 ≤ s.leaseLimit
  bounds : 1 ≤ s.backoffLeast ∧ s.backoffLeast ≤ s.backoffGreatest
  multiplier : ¬ s.backoffMultiplier.lt .one

theorem Settings.checked_of_check {s s' : Settings} (h : s.check = .ok s') :
    s' = s ∧ s.Checked := by
  unfold check at h
  split_ifs at h with hworkers hpage hpages hbatch hlease hbounds hmultiplier
  all_goals cases h
  have hgreatest : Rpc.greatestPage = 1000 := rfl
  exact ⟨rfl, by omega, by omega, by omega, by omega, by omega, by omega, hmultiplier⟩

theorem Environment.value?_some {env : Environment} {name value : String}
    (h : env.value? name = some value) : Text.trim value ≠ "" := by
  unfold value? at h
  split at h
  next s _ =>
    dsimp only at h
    split at h
    next => cases h
    next hsome =>
      cases h
      rw [Text.trim_trim]
      simpa using hsome
  next => cases h

theorem Environment.trim_nodeUrl (env : Environment) : Text.trim env.nodeUrl ≠ "" := by
  have hblank : ¬ Text.isBlank 'h' := by decide
  unfold nodeUrl
  cases hurl : env.value? "SOLANA_RPC_URL" with
  | some url => exact value?_some hurl
  | none =>
    cases env.value? "HELIUS_API_KEY" with
    | some key =>
      have hfirst : 'h' ∈ "https://mainnet.helius-rpc.com/?api-key=".toList := by decide +kernel
      refine Text.trim_ne_empty ?_ hblank
      unfold providerNode
      rw [String.toList_append]
      exact List.mem_append.mpr (.inl hfirst)
    | none =>
      have hfirst : 'h' ∈ publicNode.toList := by decide +kernel
      exact Text.trim_ne_empty hfirst hblank

/-- Reading the settings sets the endpoints that are named, or else those of the environment. -/
theorem Settings.endpoints_of_environment {env : Environment} {settings : Settings}
    (h : ofEnvironment env = .ok settings) :
    settings.nodeUrl = (env.value? "RPC_URL").getD env.nodeUrl ∧
      settings.databaseUrl = (env.value? "DATABASE_URL").getD env.databaseUrl := by
  simp only [ofEnvironment, Except.bind_eq_ok] at h
  obtain ⟨workerCount, -, pageSize, -, maxPages, -, pageDelay, -, chunkSize, -, concurrency, -,
    chunkDelay, -, leaseLimit, -, backoffLeast, -, backoffGreatest, -, backoffMultiplier, -,
    requestTimeout, -, serverPort, -, hmade⟩ := h
  have hsame := (Except.ok.inj hmade).symm
  exact ⟨congrArg nodeUrl hsame, congrArg databaseUrl hsame⟩

/-- The settings that an environment makes are checked, and there is a node. -/
theorem Settings.checked_of_read {env : Environment} {settings : Settings}
    (h : Settings.read env = .ok settings) :
    settings.check = .ok settings ∧ Text.trim settings.nodeUrl ≠ "" := by
  unfold read at h
  obtain ⟨made, hmade, hcheck⟩ := Except.bind_eq_ok.mp h
  obtain ⟨rfl, -⟩ := checked_of_check hcheck
  refine ⟨hcheck, ?_⟩
  rw [(endpoints_of_environment hmade).1]
  cases hvalue : env.value? "RPC_URL" with
  | none => exact env.trim_nodeUrl
  | some url => exact Environment.value?_some hvalue

/-- Checked settings with a node set the service up. -/
theorem Service.Setup.of_checked {settings : Settings} (h : settings.Checked)
    (hnode : Text.trim settings.nodeUrl ≠ "") : ∃ setup, Setup.of settings = .ok setup ∧
      setup.settings = settings ∧ setup.backoff.least = settings.backoffLeast ∧
      setup.backoff.greatest = settings.backoffGreatest ∧
      setup.backoff.multiplier = settings.backoffMultiplier := by
  have hsome : (Text.trim settings.nodeUrl).isEmpty = false := by simpa using hnode
  have hclient : ∃ client, Rpc.Client.of settings.nodeUrl settings.pageSize = .ok client := by
    unfold Rpc.Client.of
    dsimp only
    rw [hsome, if_neg Bool.false_ne_true, dif_pos h.page]
    exact ⟨_, rfl⟩
  have hbatch : ∃ batch, Batch.Config.of settings.chunkSize settings.concurrency
      settings.chunkDelay = .ok batch := by
    unfold Batch.Config.of
    rw [dif_pos h.batch.1, if_neg (by have := h.batch.2; omega)]
    exact ⟨_, rfl⟩
  have hbackoff : Backoff.Config.of settings.backoffLeast settings.backoffGreatest
      settings.backoffMultiplier = .ok ⟨settings.backoffLeast, settings.backoffGreatest,
        settings.backoffMultiplier, h.bounds.1, h.bounds.2⟩ := by
    unfold Backoff.Config.of
    rw [dif_pos h.bounds, if_neg h.multiplier]
    rfl
  obtain ⟨client, hclient⟩ := hclient
  obtain ⟨batch, hbatch⟩ := hbatch
  unfold Setup.of
  rw [hclient, hbatch, hbackoff]
  exact ⟨_, rfl, rfl, rfl, rfl, rfl⟩

/-! ### Polls without a job -/

namespace Worker

variable {config : Config} {s : State} {t : Trace}

/-- The claim with which a trace begins gives no job. -/
def NoJob (config : Config) (t : Trace) : Prop :=
  ∃ (claim rest : Trace) (ended : Except Fault (Option Job)), t = claim ++ rest ∧
    (Store.claim (some config.id) (some config.owner)).run.Runs claim ended ∧
      ended.toOption.join = none

/-- How a poll without a job goes: it ends in one pause, which is timed or is too long, or the delay
cannot grow and nothing pauses. -/
inductive Idles (s : State) : Trace → Except Fault Bool × State → Prop
  | paused {before : Trace} {wait : Int} {after : State} (quiet : before.pauses = [])
      (waits : s.backoff.IsWait wait) (grows : s.backoff.grow = .ok after.backoff)
      (phase : after.phase = .idle) (counted : after.idlePolls = s.idlePolls + 1) :
      Idles s (before ++ [⟨.sleep ((Binary64.ofInt wait).div (.ofInt 1000)), .ok ()⟩])
        (.ok false, after)
  | tooLong {before : Trace} {wait : Int} {after : State} {fault : ArithmeticFault}
      (quiet : before.pauses = []) (waits : s.backoff.IsWait wait)
      (grows : s.backoff.grow = .ok after.backoff) (phase : after.phase = .backoffWait)
      (counted : after.idlePolls = s.idlePolls + 1) :
      Idles s (before ++ [⟨.sleep ((Binary64.ofInt wait).div (.ofInt 1000)), .error fault⟩])
        (.error (.arithmetic fault), after)
  | stuck {t : Trace} {after : State} {fault : ArithmeticFault} (quiet : t.pauses = [])
      (stays : s.backoff.grow = .error fault) (backoff : after.backoff = s.backoff)
      (phase : after.phase = .backoffWait) (counted : after.idlePolls = s.idlePolls + 1) :
      Idles s t (.error (.arithmetic fault), after)

/-- What comes before and does not pause. -/
theorem Idles.after {before t : Trace} {r : Except Fault Bool × State} (h : Idles s t r)
    (hbefore : before.pauses = []) : Idles s (before ++ t) r := by
  have hquiet {u : Trace} (hu : u.pauses = []) : (before ++ u).pauses = [] := by
    rw [Trace.pauses_append, hbefore, hu]
    rfl
  cases h with
  | paused quiet waits grows phase counted =>
    rw [← List.append_assoc]
    exact .paused (hquiet quiet) waits grows phase counted
  | tooLong quiet waits grows phase counted =>
    rw [← List.append_assoc]
    exact .tooLong (hquiet quiet) waits grows phase counted
  | stuck quiet stays backoff phase counted =>
    exact .stuck (hquiet quiet) stays backoff phase counted

theorem Idles.idlePolls {r : Except Fault Bool × State} (h : Idles s t r) :
    r.2.idlePolls = s.idlePolls + 1 := by
  cases h <;> assumption

theorem idles_of_rest {r : Except Fault Bool × State} (hcurrent : 1 ≤ s.backoff.current)
    (h : (restOfIdle.run.run s).Runs t r) : Idles s t r := by
  unfold restOfIdle at h
  rw [Actor.runs_modify_bind, Actor.runs_modify_bind] at h
  rcases Actor.runs_bind.mp h with ⟨t₁, t₂, _, mid, rfl, hpause, hend⟩ | ⟨e, mid, rfl, hpause⟩
  · obtain ⟨ended, backoff, hruns, hsame⟩ := runs_pause_waits hpause
    rw [Actor.runs_modify_bind] at hend
    obtain ⟨rfl, rfl⟩ := Actor.runs_pure.mp hend
    rw [List.append_nil]
    cases Backoff.runs_pause hcurrent hruns with
    | @paused _ _ _ reply quiet grows waits =>
      cases reply with
      | ok _ =>
        cases hsame
        exact .paused quiet waits grows rfl rfl
      | error _ => cases hsame
    | failed _ _ => cases hsame
  · obtain ⟨ended, backoff, hruns, hsame⟩ := runs_pause_waits hpause
    cases Backoff.runs_pause hcurrent hruns with
    | @paused _ _ _ reply quiet grows waits =>
      cases reply with
      | ok _ => cases hsame
      | error _ =>
        cases hsame
        exact .tooLong quiet waits grows rfl rfl
    | failed quiet stays =>
      cases hsame
      exact .stuck quiet stays rfl rfl rfl

theorem pauses_claim {claim : Trace} {ended : Except Fault (Option Job)}
    (h : (Store.claim (some config.id) (some config.owner)).run.Runs claim ended) :
    claim.pauses = [] := by
  have honly : (Store.claim (some config.id) (some config.owner)).run.Only
      fun effect => ∀ seconds, effect ≠ .sleep seconds :=
    Store.only_claim nofun fun _ => nofun
  exact Trace.pauses_eq_nil (honly.runs h)

theorem runs_runOnce_idles {r : Except Fault Bool × State} (hcurrent : 1 ≤ s.backoff.current)
    (h : ((runOnce config).run.run s).Runs t r) (hnone : NoJob config t) : Idles s t r := by
  rw [runOnce_eq] at h
  rcases Actor.runs_bind.mp h with ⟨t₁, t₂, found, mid, rfl, hclaim, hrest⟩ | ⟨e, mid, -, hclaim⟩
  · obtain ⟨claim, logged, ended, rfl, -, hlogged, hruns, hsame⟩ := runs_claimJob hclaim
    cases hsame
    -- the trace has one claim at its start, and it is the one that gives no job
    obtain ⟨claim', rest, ended', hsplit, hruns', hfound⟩ := hnone
    rw [List.append_assoc] at hsplit
    obtain ⟨-, rfl⟩ := hruns.eq_of_append hruns' hsplit
    rw [hfound] at hrest
    have hquiet : (claim ++ logged).pauses = [] := by
      rw [Trace.pauses_append, pauses_claim hruns, hlogged]
      rfl
    exact (idles_of_rest hcurrent hrest).after hquiet
  · obtain ⟨_, _, _, -, -, -, -, ⟨⟩⟩ := runs_claimJob hclaim

/-! ### Runs without a job -/

/-- What each poll without a job keeps of the delay, and how it pauses. -/
structure Pace (keeps : Backoff → Prop) (allowed : Event → Prop)
    (each : List (Except ArithmeticFault Unit)) : Prop where
  positive : ∀ b, keeps b → 1 ≤ b.current
  idles : ∀ s t r, keeps s.backoff → (∀ ev ∈ t, allowed ev) → Idles s t r →
    keeps r.2.backoff ∧ t.pauses = each

variable {keeps : Backoff → Prop} {allowed : Event → Prop}
  {each : List (Except ArithmeticFault Unit)} {limit : Nat} {r : Except Fault Unit × State}

theorem Pace.polls (pace : Pace keeps allowed each) (h : ((poll config limit).run.run s).Runs t r)
    (hallowed : ∀ ev ∈ t, allowed ev) (hkeeps : keeps s.backoff)
    (hnone : r.2.jobsReady + r.2.jobsFailed = s.jobsReady + s.jobsFailed) :
    keeps r.2.backoff ∧ ∃ n, r.2.idlePolls = s.idlePolls + n ∧
      t.pauses = (List.replicate n each).flatten := by
  induction limit generalizing s t with
  | zero =>
    obtain ⟨rfl, rfl⟩ := Actor.runs_pure.mp h
    exact ⟨hkeeps, 0, rfl, rfl⟩
  | succ limit ih =>
    rcases runs_poll_succ h with
      ⟨rfl, rfl⟩ | ⟨once, noted, rest, ended, after, lastError, rfl, honce, -, hquiet, hgoes⟩
    · exact ⟨hkeeps, 0, rfl, rfl⟩
    obtain ⟨polled, hpolls, hcounts⟩ := runs_runOnce honce
    obtain ⟨-, _, _, -, -, -, hcounts'⟩ := runs_poll hgoes
    -- a job is counted, and no later poll takes it back
    have hidle : (!polled.isIdle).toNat = 0 := by
      have hgave := hpolls.gave
      have hready := hcounts.ready
      have hfailed := hcounts.failed
      have hready' := hcounts'.ready
      have hfailed' := hcounts'.failed
      dsimp only at hready hfailed hready' hfailed'
      omega
    have hpart (ev : Event) (hev : ev ∈ once ++ noted ++ rest) : allowed ev :=
      hallowed ev (List.mem_cons_of_mem _ hev)
    cases hpolls with
    | idle claims none _ =>
      have hidles := runs_runOnce_idles (pace.positive _ hkeeps) honce ⟨_, _, _, rfl, claims, none⟩
      have hcounted := hidles.idlePolls
      obtain ⟨hkept, hpauses⟩ := pace.idles _ _ _ hkeeps
        (fun ev hev => hpart ev (List.mem_append_left _ (List.mem_append_left _ hev))) hidles
      have hnone' : r.2.jobsReady + r.2.jobsFailed = after.jobsReady + after.jobsFailed := by
        rw [hcounts.ready, hcounts.failed]
        exact hnone
      obtain ⟨hlast, n, hlater, hrest⟩ := ih hgoes
        (fun ev hev => hpart ev (List.mem_append_right _ hev)) hkept hnone'
      refine ⟨hlast, n + 1, by dsimp only at hlater hcounted; omega, ?_⟩
      have hlook (t : Trace) : Trace.pauses (⟨.stopping, false⟩ :: t) = t.pauses := rfl
      rw [hlook, Trace.pauses_append, Trace.pauses_append, hpauses, hquiet, hrest, List.append_nil,
        List.replicate_succ, List.flatten_cons]
    | worked _ _ _ _ _ => cases hidle

theorem Pace.run (pace : Pace keeps allowed each)
    (h : ((Worker.run config limit).run.run s).Runs t r) (hallowed : ∀ ev ∈ t, allowed ev)
    (hkeeps : keeps s.backoff)
    (hnone : r.2.jobsReady + r.2.jobsFailed = s.jobsReady + s.jobsFailed) :
    keeps r.2.backoff ∧ ∃ n, r.2.idlePolls = s.idlePolls + n ∧
      t.pauses = (List.replicate n each).flatten := by
  obtain ⟨-, polled, rfl, hpolled⟩ := runs_run h
  obtain ⟨hlast, n, hidle, hpauses⟩ := pace.polls hpolled
    (fun ev hev => hallowed ev (List.mem_append_left _ (List.mem_cons_of_mem _ hev))) hkeeps hnone
  refine ⟨hlast, n, hidle, ?_⟩
  rw [List.cons_append, Trace.pauses_log, Trace.pauses_append, Trace.pauses_log, Trace.pauses_nil,
    List.append_nil, hpauses]

/-- A delay that cannot grow stays as it is. -/
theorem Pace.of_not_fits {b : Backoff} (hpositive : 1 ≤ b.current) (hstuck : ¬ b.Fits) :
    Pace (· = b) (fun _ => True) [] where
  positive _ hsame := hsame ▸ hpositive
  idles s t r hsame _ hidles := by
    subst hsame
    cases hidles with
    | paused _ _ grows _ _ => exact absurd (Backoff.fits_of_grow grows) hstuck
    | tooLong _ _ grows _ _ => exact absurd (Backoff.fits_of_grow grows) hstuck
    | stuck quiet _ backoff _ _ => exact ⟨backoff, quiet⟩

end Worker

/-- A pause that a clock can time ends without a fault. -/
def Event.Timed (ev : Event) : Prop :=
  ∀ seconds (reply : Except ArithmeticFault Unit), ev = ⟨.sleep seconds, reply⟩ →
    Clock.longestPause.lt seconds = false → reply = .ok ()

def Trace.Timed (t : Trace) : Prop := ∀ ev ∈ t, ev.Timed

/-- Bounds and a multiplier with which every delay can grow and every wait can be timed. -/
structure Backoff.Config.Safe (bounds : Backoff.Config) : Prop where
  grows : ((Binary64.ofInt bounds.greatest).mul bounds.multiplier).isFinite
  timed : bounds.greatest ≤ Backoff.longestWait

namespace Worker

theorem Idles.of_safe {bounds : Backoff.Config} {s : State} {t : Trace}
    {r : Except Fault Bool × State} (h : Idles s t r) (hsafe : bounds.Safe)
    (hwithin : Within bounds s.backoff) (htimed : t.Timed) :
    r.1 = .ok false ∧ r.2.phase = .idle ∧ t.pauses = [.ok ()] ∧ Within bounds r.2.backoff := by
  cases h with
  | paused quiet _ grows phase _ =>
    refine ⟨rfl, phase, ?_, hwithin.grow grows⟩
    rw [Trace.pauses_append, quiet]
    rfl
  | tooLong _ waits _ _ _ =>
    have hwait := waits.below
    have hleast := waits.least
    have hgreatest := hwithin.greatest
    have hlongest := hsafe.timed
    have hpause := Backoff.longestPause_not_lt hleast (by unfold Backoff.longestWait at *; omega)
    cases htimed _ (List.mem_append_right _ List.mem_cons_self) _ _ rfl hpause
  | stuck _ stays _ _ _ =>
    exact absurd (hwithin.fits hsafe.grows) (Backoff.not_fits_of_grow stays)

theorem Pace.of_safe {bounds : Backoff.Config} (hsafe : bounds.Safe) :
    Pace (Within bounds) Event.Timed [.ok ()] where
  positive _ hwithin := hwithin.pos
  idles s t r hwithin htimed hidles := by
    obtain ⟨-, -, hpauses, hkept⟩ := hidles.of_safe hsafe hwithin htimed
    exact ⟨hkept, hpauses⟩

end Worker

/-! ### What settings come to -/

/-- How workers with these bounds idle. -/
structure Idling (bounds : Backoff.Config) : Prop where
  /-- Steps, waits and resets leave a delay within its bounds. -/
  within : ∀ b, Reached bounds b → Within bounds b
  /-- A step gives a wait just if the delay can grow. -/
  steps : ∀ b t r, Reached bounds b → (Backoff.step.run.run b).Runs t r →
    ((∃ wait, r.1 = .ok wait) ↔ b.Fits)
  waits : ∀ b t r, Reached bounds b → (Backoff.pause.run.run b).Runs t r → b.Waits t r
  polls : ∀ config s t r, Reached bounds s.backoff →
    ((Worker.runOnce config).run.run s).Runs t r → Worker.NoJob config t → Worker.Idles s t r
  /-- With safe bounds each poll without a job waits once and leaves the worker idle, -/
  safePolls : bounds.Safe → ∀ config s t r, Reached bounds s.backoff →
    ((Worker.runOnce config).run.run s).Runs t r → Worker.NoJob config t → t.Timed →
      r.1 = .ok false ∧ r.2.phase = .idle ∧ t.pauses = [.ok ()]
  /-- so that in a run without jobs there are as many pauses as polls. -/
  safeRuns : bounds.Safe → ∀ config limit s t r, Reached bounds s.backoff →
    ((Worker.run config limit).run.run s).Runs t r → t.Timed →
      r.2.jobsReady + r.2.jobsFailed = s.jobsReady + s.jobsFailed →
        ∃ n, r.2.idlePolls = s.idlePolls + n ∧ t.pauses = List.replicate n (.ok ())
  /-- Once a delay cannot grow, a run without jobs polls without a pause. -/
  stuckRuns : ∀ config limit s t r, Reached bounds s.backoff → ¬ s.backoff.Fits →
    ((Worker.run config limit).run.run s).Runs t r →
      r.2.jobsReady + r.2.jobsFailed = s.jobsReady + s.jobsFailed →
        t.pauses = [] ∧ r.2.backoff = s.backoff
  /-- With a multiplier that is not finite no delay can grow. -/
  stuck : ¬ bounds.multiplier.isFinite → ∀ b, Reached bounds b → ¬ b.Fits

theorem Idling.of (bounds : Backoff.Config) : Idling bounds where
  within b h := h.within
  steps b t r _ hruns := by
    obtain ⟨-, ⟨wait, grown, hgrow, -, rfl⟩ | ⟨fault, hgrow, rfl⟩⟩ := Backoff.runs_step hruns
    · exact iff_of_true ⟨wait, rfl⟩ (Backoff.fits_of_grow hgrow)
    · exact iff_of_false nofun (Backoff.not_fits_of_grow hgrow)
  waits b t r h hruns := Backoff.runs_pause h.within.pos hruns
  polls config s t r h hruns hnone := Worker.runs_runOnce_idles h.within.pos hruns hnone
  safePolls hsafe config s t r h hruns hnone htimed := by
    have hidles := Worker.runs_runOnce_idles h.within.pos hruns hnone
    obtain ⟨hended, hphase, hpauses, -⟩ := hidles.of_safe hsafe h.within htimed
    exact ⟨hended, hphase, hpauses⟩
  safeRuns hsafe config limit s t r h hruns htimed hnone := by
    obtain ⟨-, n, hidle, hpauses⟩ := (Worker.Pace.of_safe hsafe).run hruns htimed h.within hnone
    exact ⟨n, hidle, hpauses.trans List.flatten_replicate_singleton⟩
  stuckRuns config limit s t r h hstuck hruns hnone := by
    obtain ⟨hlast, n, -, hpauses⟩ := (Worker.Pace.of_not_fits h.within.pos hstuck).run hruns
      (fun _ _ => trivial) rfl hnone
    exact ⟨hpauses.trans List.flatten_replicate_nil, hlast⟩
  stuck hinfinite b h := Backoff.not_fits_of_multiplier (h.within.same ▸ hinfinite)

/-- Settings that are read from an environment, or that are checked and name a node, set the service
up, and say how its workers idle. -/
theorem Settings.idles_exactly {settings : Settings}
    (h : (∃ env, Settings.read env = .ok settings) ∨
      settings.check = .ok settings ∧ Text.trim settings.nodeUrl ≠ "") :
    ∃ setup, Service.Setup.of settings = .ok setup ∧ setup.settings = settings ∧
      setup.backoff.least = settings.backoffLeast ∧
      setup.backoff.greatest = settings.backoffGreatest ∧
      setup.backoff.multiplier = settings.backoffMultiplier ∧
      (∀ tag, (setup.workers tag).length = settings.workerCount) ∧ Idling setup.backoff := by
  have haccepted : settings.check = .ok settings ∧ Text.trim settings.nodeUrl ≠ "" :=
    h.elim (fun ⟨_, hread⟩ => checked_of_read hread) id
  have hchecked := (checked_of_check haccepted.1).2
  obtain ⟨setup, hsetup, rfl, hleast, hgreatest, hmultiplier⟩ :=
    Service.Setup.of_checked hchecked haccepted.2
  refine ⟨setup, hsetup, rfl, hleast, hgreatest, hmultiplier, fun tag => ?_, .of _⟩
  have hworkers := hchecked.workers
  simp only [Service.Setup.workers, List.length_map, List.length_range]
  omega

/-- A multiplier that is no number is read and accepted. The worker then polls an empty queue three
times without a pause. -/
theorem Settings.idles_exactly_of_nan : ∃ settings setup t after,
    Settings.read ⟨[("BACKOFF_MULTIPLIER", "nan")]⟩ = .ok settings ∧
      Service.Setup.of settings = .ok setup ∧
      ((Worker.run (setup.worker "w" 1) 3).run.run (.start setup.backoff)).Runs t (.ok (), after) ∧
      after.idlePolls = 3 ∧ t.pauses = [] := by
  let env : Environment := ⟨[("BACKOFF_MULTIPLIER", "nan")]⟩
  let w : World := Sample.world (.ready .blank)
  let run (setup : Service.Setup) :=
    (Worker.run (setup.worker "w" 1) 3).run.run (.start setup.backoff)
  have hmultiplier :
      (Settings.read env).toOption.map (·.backoffMultiplier.isFinite) = some false := by
    decide +kernel
  have hcounts : (((Settings.read env).toOption.bind fun settings =>
      (Service.Setup.of settings).toOption).map fun setup =>
        let after := ((run setup).run w).1.2
        (after.idlePolls, after.jobsReady, after.jobsFailed)) = some (3, 0, 0) := by
    decide +kernel
  obtain ⟨settings, hread⟩ : ∃ settings, Settings.read env = .ok settings := by
    cases hread : Settings.read env with
    | ok settings => exact ⟨settings, rfl⟩
    | error fault =>
      rw [hread] at hmultiplier
      cases hmultiplier
  obtain ⟨setup, hsetup, -, -, -, hsame, -, hidling⟩ := idles_exactly (.inl ⟨env, hread⟩)
  have hinfinite : setup.backoff.multiplier.isFinite = false := by
    rw [hread] at hmultiplier
    rw [hsame]
    exact Option.some.inj hmultiplier
  have hsome : (Settings.read env).toOption.bind (fun settings =>
      (Service.Setup.of settings).toOption) = some setup := by
    rw [hread]
    exact congrArg Except.toOption hsetup
  rw [hsome] at hcounts
  have hafter := Option.some.inj hcounts
  have hruns := (run setup).runs_trace w
  dsimp only at hafter
  generalize ((run setup).run w).1 = ended at hruns hafter
  generalize (run setup).trace w = t at hruns
  obtain ⟨ended, after⟩ := ended
  obtain ⟨rfl, -⟩ := Worker.runs_run hruns
  obtain ⟨hidle, hready, hfailed⟩ : after.idlePolls = 3 ∧ after.jobsReady = 0 ∧
      after.jobsFailed = 0 := by simpa using hafter
  have hstuck : ¬ (Worker.State.start setup.backoff).backoff.Fits :=
    hidling.stuck (by rw [hinfinite]; exact Bool.false_ne_true) _ .start
  have hnone : after.jobsReady + after.jobsFailed = 0 := by rw [hready, hfailed]
  have hpauses := (hidling.stuckRuns (setup.worker "w" 1) 3 (.start setup.backoff) t (.ok (), after)
    .start hstuck hruns hnone).1
  exact ⟨settings, setup, t, after, hread, hsetup, hruns, hidle, hpauses⟩

end AddressIndex
