import AddressIndex.Proofs.Drain

/-! Paging through the history of an address, and indexing an address as a whole. A node that keeps
to a history gives page after page of it, and unless the bound on the pages stops it, a run of pages
stores the whole history. -/

namespace AddressIndex

namespace Rpc

open Attempt (runs_bind)

theorem Page.only_fetch {P : Effect → Prop} {client : Client} {address : String}
    {before : Option String} (hask : P (.ask (.signatures address before client.pageSize)))
    (hlog : ∀ source line, P (.log source line)) :
    (Page.fetch client address before).run.Only P := by
  apply Attempt.only_bind (Client.only_ask hask)
  intro answer
  apply Attempt.only_bind (Attempt.only_ofExcept _)
  intro result
  exact Attempt.only_bind (Attempt.only_log (hlog _ _)) fun _ => Attempt.only_ofExcept _

/-- The call for a page and what the client made of the answer. -/
theorem Page.runs_fetch {client : Client} {address : String} {before : Option String} {t : Trace}
    {r : Except Fault Page} (h : (Page.fetch client address before).run.Runs t r) :
    (client.Asks ∧ ∃ answer,
      t.calls = [⟨.ask (.signatures address before client.pageSize), answer⟩] ∧
      r = (client.receive answer >>= recordsOf (.signatures address before client.pageSize)) >>=
        fun result => ofRecords before result.1 result.2) ∨
      ¬ client.Asks ∧ t.calls = [] ∧ ∃ fault, r = .error (.url fault) ∧
        ∀ answer, client.receive answer = .error (.url fault) := by
  rcases runs_bind.mp h with ⟨t₁, t₂, answer, rfl, hask, hrest⟩ | ⟨e, rfl, hask⟩
  · rcases Client.runs_ask hask with ⟨hasks, answer', rfl, hreceive⟩ | ⟨_, _, _, ⟨⟩, _⟩
    refine .inl ⟨hasks, answer', ?_⟩
    rw [← hreceive]
    rcases runs_bind.mp hrest with ⟨t₃, t₄, ⟨status, records⟩, rfl, hof, hlast⟩ | ⟨e, rfl, hof⟩
    · obtain ⟨rfl, hvalue⟩ := Attempt.runs_ofExcept.mp hof
      rcases runs_bind.mp hlast with ⟨t₅, t₆, _, rfl, hlog, hpage⟩ | ⟨_, _, hlog⟩
      · obtain ⟨_, rfl⟩ := Attempt.runs_log.mp hlog
        obtain ⟨rfl, rfl⟩ := Attempt.runs_ofExcept.mp hpage
        refine ⟨by simp, ?_⟩
        change _ = recordsOf _ answer >>= _
        rw [← hvalue]
        rfl
      · obtain ⟨⟨⟩, _⟩ := Attempt.runs_log.mp hlog
    · obtain ⟨rfl, hvalue⟩ := Attempt.runs_ofExcept.mp hof
      refine ⟨by simp, ?_⟩
      change _ = recordsOf _ answer >>= _
      rw [← hvalue]
      rfl
  · rcases Client.runs_ask hask with ⟨hasks, answer, rfl, hreceive⟩ | ⟨hasks, rfl, _, ⟨⟩, hnone⟩
    · refine .inl ⟨hasks, answer, by simp, ?_⟩
      rw [← hreceive]
      rfl
    · exact .inr ⟨hasks, rfl, _, rfl, hnone⟩

end Rpc

namespace Worker

variable {limits : Limits} {address : String} {t : Trace}

/-- An empty page under a bound is no page. -/
def pageOrEnd : Except Fault Rpc.Page → Except Fault (Option Rpc.Page)
  | .ok page => .ok (some page)
  | .error (.rpc (.emptyPage _)) => .ok none
  | .error fault => .error fault

theorem pageOrEnd_none {r : Except Fault Rpc.Page} (h : pageOrEnd r = .ok none) :
    ∃ status, r = .error (.rpc (.emptyPage status)) := by
  unfold pageOrEnd at h
  split at h
  · cases h
  next status => exact ⟨status, rfl⟩
  · cases h

theorem run_nextPage (limits : Limits) (address : String) (before : Option String) :
    (nextPage limits address before).run =
      (Rpc.Page.fetch limits.client address before).run >>= fun r => pure (pageOrEnd r) := by
  unfold nextPage
  rw [ExceptT.run_tryCatch, ExceptT.run_map, map_eq_pure_bind, bind_assoc]
  refine congrArg _ (funext fun r => ?_)
  rcases r with fault | page
  · cases fault with
    | rpc error => cases error <;> rfl
    | _ => rfl
  · rfl

/-- What an answer to the request for a page comes to. -/
def pageOf (limits : Limits) (address : String) (before : Option String) (answer : Rpc.Answer) :
    Except Fault (Option Rpc.Page) :=
  let request := Rpc.Request.signatures address before limits.client.pageSize
  pageOrEnd ((limits.client.receive answer >>= Rpc.Page.recordsOf request) >>=
    fun result => Rpc.Page.ofRecords before result.1 result.2)

/-- The next page is that of the one answer to the one request for it, unless there is no
request. -/
theorem runs_nextPage {before : Option String} {r : Except Fault (Option Rpc.Page)}
    (h : (nextPage limits address before).run.Runs t r) :
    (limits.client.Asks ∧ ∃ answer,
      t.calls = [⟨.ask (.signatures address before limits.client.pageSize), answer⟩] ∧
      r = pageOf limits address before answer) ∨
      ¬ limits.client.Asks ∧ t.calls = [] ∧ ∃ fault, r = .error (.url fault) ∧
        ∀ answer, limits.client.receive answer = .error (.url fault) := by
  rw [run_nextPage] at h
  obtain ⟨t₁, t₂, r, rfl, hfetch, hpure⟩ := Program.runs_bind.mp h
  obtain ⟨rfl, rfl⟩ := Program.runs_pure.mp hpure
  rcases Rpc.Page.runs_fetch hfetch with
    ⟨hasks, answer, hcalls, rfl⟩ | ⟨hasks, hcalls, fault, rfl, hnone⟩
  · exact .inl ⟨hasks, answer, by simpa using hcalls, rfl⟩
  · exact .inr ⟨hasks, by simpa using hcalls, fault, rfl, hnone⟩

theorem storePage_empty {records : List SignatureRecord} (h : records.isEmpty) :
    storePage address records = pure 0 :=
  if_pos h

theorem storePage_of_ne {records : List SignatureRecord} (h : ¬ records.isEmpty) :
    storePage address records = Attempt.query (.append address records) :=
  if_neg h

section Only

variable {P : Effect → Prop}

theorem only_runStage {α : Type} {stage : String} {x : Attempt α} (hx : x.run.Only P) :
    (runStage stage x).run.Only P := by
  apply Program.only_bind hx
  intro r
  cases r <;> trivial

variable (hask : ∀ before, P (.ask (.signatures address before limits.client.pageSize)))
  (hlog : ∀ source line, P (.log source line)) (hsleep : ∀ seconds, P (.sleep seconds))
  (happend : ∀ records, P (.query (.append address records)))

include hask hlog in
theorem only_nextPage {before : Option String} : (nextPage limits address before).run.Only P := by
  rw [run_nextPage]
  exact Program.only_bind (Rpc.Page.only_fetch (hask before) hlog) fun _ => Program.only_pure _

include happend in
theorem only_storePage {records : List SignatureRecord} :
    (storePage address records).run.Only P := by
  by_cases hempty : records.isEmpty
  · rw [storePage_empty hempty]
    exact Attempt.only_pure 0
  · rw [storePage_of_ne hempty]
    exact Attempt.only_query (happend records)

include hask hlog hsleep happend

theorem only_syncPages (left : Nat) (before : Option String) (sync : SignatureSync) :
    (syncPages limits address left before sync).run.Only P := by
  induction left generalizing before sync with
  | zero => exact Attempt.only_bind (Attempt.only_log (hlog _ _)) fun _ => Attempt.only_pure _
  | succ left ih =>
    rw [syncPages]
    apply Attempt.only_bind (only_nextPage hask hlog)
    intro page
    cases page with
    | none => exact Attempt.only_pure _
    | some page =>
      apply Attempt.only_bind (only_storePage happend)
      intro inserted
      apply Attempt.only_bind (Attempt.only_log (hlog _ _))
      intro _
      split
      · exact Attempt.only_pure _
      · exact Attempt.only_bind (Attempt.only_sleep (hsleep _)) fun _ => ih _ _

/-- The effects of indexing an address. -/
theorem only_index (hfetch : ∀ s, P (.ask (.transaction s)))
    (hsave : ∀ ts, P (.query (.save address ts)))
    (hmark : ∀ names, P (.query (.mark address names)))
    (hlease : ∀ exclude, P (.query (.lease address limits.leaseLimit exclude))) :
    (index limits address).run.Only P := by
  unfold index
  refine Attempt.only_bind (only_runStage ?_) fun signatures => ?_
  · unfold syncSignatures
    exact only_syncPages hask hlog hsleep happend _ _ _
  refine Attempt.only_bind (only_runStage ?_) fun transactions => Attempt.only_pure _
  exact only_syncTransactions hfetch hlog hsleep hsave hmark hlease

end Only

/-! ### Pages of a history -/

open Attempt (runs_bind_ok)

variable {before : Option String}

theorem runs_runStage {α : Type} {stage : String} {x : Attempt α} {r : Except Abort α} :
    (runStage stage x).run.Runs t r ↔
      ∃ ended, x.run.Runs t ended ∧ r = ended.mapError (Abort.mk stage) := by
  refine Program.runs_bind.trans ⟨?_, ?_⟩
  · rintro ⟨t₁, t₂, ended, rfl, hx, hend⟩
    refine ⟨ended, ?_⟩
    cases ended <;>
      obtain ⟨rfl, rfl⟩ := Program.runs_pure.mp hend <;>
      exact ⟨by rwa [List.append_nil], rfl⟩
  · rintro ⟨ended, hx, rfl⟩
    refine ⟨t, [], ended, (List.append_nil t).symm, hx, ?_⟩
    cases ended <;> exact .done _

theorem runs_runStage_ok {α : Type} {stage : String} {x : Attempt α} {value : α}
    (h : (runStage stage x).run.Runs t (.ok value)) : x.run.Runs t (.ok value) := by
  obtain ⟨ended, hx, hsame⟩ := runs_runStage.mp h
  cases ended with
  | error fault => cases hsame
  | ok value' =>
    cases hsame
    exact hx

/-- Indexing an address is paging and then draining it. -/
theorem runs_index {counts : SignatureSync × TransactionSync}
    (h : (index limits address).run.Runs t (.ok counts)) :
    ∃ t₁ t₂, t = t₁ ++ t₂ ∧ (syncSignatures limits address).run.Runs t₁ (.ok counts.1) ∧
      (syncTransactions limits address).run.Runs t₂ (.ok counts.2) := by
  unfold index at h
  obtain ⟨t₁, t₂, signatures, rfl, hpages, hrest⟩ := Attempt.runs_bind_ok.mp h
  obtain ⟨t₃, t₄, transactions, rfl, hdrain, hpure⟩ := Attempt.runs_bind_ok.mp hrest
  obtain ⟨rfl, hsame⟩ := Attempt.runs_pure.mp hpure
  cases hsame
  exact ⟨t₁, t₃, by rw [List.append_nil], runs_runStage_ok hpages, runs_runStage_ok hdrain⟩

/-- A page that was taken holds the records of the one answer to the one request for it. -/
theorem runs_nextPage_some {page : Rpc.Page}
    (h : (nextPage limits address before).run.Runs t (.ok (some page))) :
    ∃ answer status,
      t.calls = [⟨.ask (.signatures address before limits.client.pageSize), answer⟩] ∧
      limits.client.receive answer = .ok answer ∧
      Rpc.Page.recordsOf (.signatures address before limits.client.pageSize) answer =
        .ok (status, page.records) ∧
      page.cursor = page.records.getLast?.map (·.signature) := by
  rw [run_nextPage] at h
  obtain ⟨t₁, t₂, r, rfl, hfetch, hpure⟩ := Program.runs_bind.mp h
  obtain ⟨rfl, hr⟩ := Program.runs_pure.mp hpure
  obtain rfl : r = .ok page := by
    rcases r with fault | page'
    · cases fault with
      | rpc error => cases error <;> cases hr
      | _ => cases hr
    · cases hr
      rfl
  rcases Rpc.Page.runs_fetch hfetch with ⟨-, answer, hcalls, hpage⟩ | ⟨_, _, _, ⟨⟩, _⟩
  cases hreceive : limits.client.receive answer with
  | error fault =>
    rw [hreceive] at hpage
    cases hpage
  | ok answer' =>
    obtain rfl := Rpc.Client.receive_ok hreceive
    rw [hreceive] at hpage
    change _ = Rpc.Page.recordsOf _ answer' >>= _ at hpage
    cases hrecords :
        Rpc.Page.recordsOf (.signatures address before limits.client.pageSize) answer' with
    | error fault =>
      rw [hrecords] at hpage
      cases hpage
    | ok result =>
      rw [hrecords] at hpage
      obtain ⟨status, records⟩ := result
      change _ = Rpc.Page.ofRecords before status records at hpage
      unfold Rpc.Page.ofRecords at hpage
      split at hpage
      · cases hpage
      · cases hpage
        exact ⟨answer', status, by simpa using hcalls, hreceive, hrecords, rfl⟩

/-- There is no next page only if the answer to the request for it held no records. -/
theorem runs_nextPage_none (h : (nextPage limits address before).run.Runs t (.ok none)) :
    ∃ answer,
      t.calls = [⟨.ask (.signatures address before limits.client.pageSize), answer⟩] ∧
      ∀ status records,
        Rpc.Page.recordsOf (.signatures address before limits.client.pageSize) answer =
          .ok (status, records) → records = [] ∧ limits.client.receive answer = .ok answer := by
  rw [run_nextPage] at h
  obtain ⟨t₁, t₂, r, rfl, hfetch, hpure⟩ := Program.runs_bind.mp h
  obtain ⟨rfl, hr⟩ := Program.runs_pure.mp hpure
  rcases Rpc.Page.runs_fetch hfetch with ⟨-, answer, hcalls, rfl⟩ | ⟨-, -, _, rfl, -⟩
  · refine ⟨answer, by simpa using hcalls, fun status records hrecords => ?_⟩
    cases hreceive : limits.client.receive answer with
    | error fault =>
      rw [hreceive] at hr
      obtain ⟨status, hfault⟩ := pageOrEnd_none hr.symm
      cases hfault
      exact absurd hreceive Rpc.Client.receive_ne_rpc
    | ok answer' =>
      obtain rfl := Rpc.Client.receive_ok hreceive
      rw [hreceive] at hr
      change _ = pageOrEnd (Rpc.Page.recordsOf _ answer' >>= _) at hr
      rw [hrecords] at hr
      change _ = pageOrEnd (Rpc.Page.ofRecords before status records) at hr
      unfold Rpc.Page.ofRecords at hr
      split at hr
      next hempty =>
        rw [Bool.and_eq_true, List.isEmpty_iff] at hempty
        exact ⟨hempty.1, rfl⟩
      · cases hr
  · cases hr

theorem runs_storePage {records : List SignatureRecord} {count : Nat}
    (h : (storePage address records).run.Runs t (.ok count)) :
    (records = [] ∧ t = []) ∨ t = [⟨.query (.append address records), .ok count⟩] := by
  by_cases hempty : records.isEmpty
  · rw [storePage_empty hempty] at h
    exact .inl ⟨List.isEmpty_iff.mp hempty, (Attempt.runs_pure.mp h).1⟩
  · rw [storePage_of_ne hempty] at h
    exact .inr (Attempt.runs_query_ok.mp h)

/-- The part of a history behind a bound; all of it if there is no bound. -/
def older : Option String → List String → List String
  | none, history => history
  | some bound, history => (history.dropWhile (· ≠ bound)).tail

theorem older_append {front rest : List String} {bound : String}
    (h : (front ++ bound :: rest).Nodup) : older (some bound) (front ++ bound :: rest) = rest := by
  have hfront : ∀ s ∈ front, decide (s ≠ bound) = true := fun s hs => by
    rw [decide_eq_true_eq]
    rintro rfl
    exact List.disjoint_of_nodup_append h hs List.mem_cons_self
  rw [older, List.dropWhile_append_of_pos hfront, List.dropWhile_cons_of_neg (by simp),
    List.tail_cons]

/-- What is older than the last of the first `n` is what comes after them. -/
theorem older_last {history done rest : List String} {bound : String} {n : Nat}
    (hnodup : history.Nodup) (hsplit : history = done ++ rest)
    (hlast : (rest.take n).getLast? = some bound) : older (some bound) history = rest.drop n := by
  obtain ⟨front, hfront⟩ := List.getLast?_eq_some_iff.mp hlast
  have hrest : front ++ bound :: rest.drop n = rest := by
    rw [← List.singleton_append, ← List.append_assoc, ← hfront, List.take_append_drop]
  have hall : history = (done ++ front) ++ bound :: rest.drop n := by
    rw [List.append_assoc, hrest, hsplit]
  rw [hall] at hnodup ⊢
  exact older_append hnodup

theorem older_subset (bound : Option String) (history : List String) :
    older bound history ⊆ history := by
  cases bound with
  | none => exact List.Subset.refl _
  | some bound => exact fun s hs => (List.dropWhile_suffix _).subset (List.mem_of_mem_tail hs)

/-- The answer to a request for a page tells the first of what is left of the address's history. -/
def Tells (H : String → List String) (request : Rpc.Request) (answer : Rpc.Answer) : Prop :=
  match request with
  | .signatures address before limit =>
    1 ≤ limit → ∃ status records, Rpc.Page.recordsOf request answer = .ok (status, records) ∧
      records.map (·.signature) = (older before (H address)).take limit.toNat
  | .transaction _ => True

/-- A signature is among the records that were stored for the address. -/
def Appended (address : String) (t : Trace) (s : String) : Prop :=
  ∃ records count, (⟨.query (.append address records), .ok count⟩ : Event) ∈ t ∧
    s ∈ records.map (·.signature)

theorem Appended.append_left {address s : String} {t₁ t₂ : Trace} (h : Appended address t₁ s) :
    Appended address (t₁ ++ t₂) s := by
  obtain ⟨records, count, hmem, hs⟩ := h
  exact ⟨records, count, List.mem_append_left _ hmem, hs⟩

theorem Appended.append_right {address s : String} {t₁ t₂ : Trace} (h : Appended address t₂ s) :
    Appended address (t₁ ++ t₂) s := by
  obtain ⟨records, count, hmem, hs⟩ := h
  exact ⟨records, count, List.mem_append_right _ hmem, hs⟩

/-- Records come in replies only. -/
theorem reply_of_recordsOf {request : Rpc.Request} {answer : Rpc.Answer}
    {result : Int × List SignatureRecord} (h : Rpc.Page.recordsOf request answer = .ok result) :
    ∃ status body, answer = .reply status body := by
  cases answer with
  | reply status body => exact ⟨status, body, rfl⟩
  | unreachable detail | crash detail => cases h

section Stores

variable {H : String → List String} {left : Nat} {rest : List String} {sync sync' : SignatureSync}

/-- One page of what is left of a history that the node tells: the run stores it, and ends with it
if less than a page was left. -/
theorem runs_syncPages_succ (hrest : older before (H address) = rest)
    (htells : ∀ request answer, (⟨.ask request, answer⟩ : Event) ∈ t → Tells H request answer)
    (hruns : (syncPages limits address (left + 1) before sync).run.Runs t (.ok sync')) :
    (∀ answer, limits.client.receive answer = .ok answer) ∧
      ((rest.length < limits.client.pageSize.toNat ∧ sync'.capReached = sync.capReached ∧
          ∀ s ∈ rest, Appended address t s) ∨
        limits.client.pageSize.toNat ≤ rest.length ∧ ∃ bound sync₁ t₁ t₂, t = t₁ ++ t₂ ∧
          (rest.take limits.client.pageSize.toNat).getLast? = some bound ∧
          (∀ s ∈ rest.take limits.client.pageSize.toNat, Appended address t₁ s) ∧
          sync₁.capReached = sync.capReached ∧
          (syncPages limits address left (some bound) sync₁).run.Runs t₂ (.ok sync')) := by
  have hsize := limits.client.pageSize_range.1
  rw [syncPages] at hruns
  obtain ⟨t₁, t₂, found, rfl, hnext, hruns⟩ := runs_bind_ok.mp hruns
  have hasked {answer : Rpc.Answer} (hcalls : t₁.calls =
      [⟨.ask (.signatures address before limits.client.pageSize), answer⟩]) :
      ∃ status records, Rpc.Page.recordsOf
        (.signatures address before limits.client.pageSize) answer = .ok (status, records) ∧
        records.map (·.signature) = rest.take limits.client.pageSize.toNat := by
    rw [← hrest]
    exact htells _ _ (List.mem_append_left _ (Trace.mem_of_calls hcalls)) hsize
  cases found with
  | none =>
    obtain ⟨answer, hcalls, hnone⟩ := runs_nextPage_none hnext
    obtain ⟨status, records, hrecords, hnames⟩ := hasked hcalls
    obtain ⟨rfl, hreceive⟩ := hnone status records hrecords
    obtain ⟨_, _, rfl⟩ := reply_of_recordsOf hrecords
    have hempty : rest = [] := (List.take_eq_nil_iff.mp hnames.symm).resolve_left (by omega)
    obtain ⟨rfl, hsame⟩ := Attempt.runs_pure.mp hruns
    cases hsame
    refine ⟨Rpc.Client.receive_of_reply hreceive, .inl ⟨?_, rfl, ?_⟩⟩
    · rw [hempty, List.length_nil]
      omega
    · simp [hempty]
  | some page =>
    obtain ⟨answer, status, hcalls, hreceive, hrecords, hcursor⟩ := runs_nextPage_some hnext
    obtain ⟨_, _, hrecords', hnames⟩ := hasked hcalls
    cases hrecords.symm.trans hrecords'
    obtain ⟨_, _, rfl⟩ := reply_of_recordsOf hrecords
    refine ⟨Rpc.Client.receive_of_reply hreceive, ?_⟩
    rw [← List.getLast?_map, hnames] at hcursor
    obtain ⟨t₃, t₄, count, rfl, hstore, hruns⟩ := runs_bind_ok.mp hruns
    obtain ⟨t₅, t₆, _, rfl, -, hruns⟩ := runs_bind_ok.mp hruns
    have hpage : ∀ s ∈ rest.take limits.client.pageSize.toNat, Appended address t₃ s := by
      intro s hs
      rw [← hnames] at hs
      rcases runs_storePage hstore with ⟨hnil, -⟩ | rfl
      · rw [hnil] at hs
        cases hs
      · exact ⟨page.records, count, List.mem_cons_self, hs⟩
    have hlength : page.records.length = min limits.client.pageSize.toNat rest.length := by
      rw [← List.length_map (·.signature), hnames, List.length_take]
    split at hruns
    next hlast =>
      obtain ⟨rfl, hsame⟩ := Attempt.runs_pure.mp hruns
      cases hsame
      have hshort : rest.length < limits.client.pageSize.toNat := by
        rw [Bool.or_eq_true, decide_eq_true_eq] at hlast
        rcases hlast with hlast | hlast
        · omega
        · rw [hcursor, Option.isNone_iff_eq_none, List.getLast?_eq_none_iff] at hlast
          rw [(List.take_eq_nil_iff.mp hlast).resolve_left (by omega), List.length_nil]
          omega
      rw [List.take_of_length_le hshort.le] at hpage
      exact .inl ⟨hshort, rfl, fun s hs => ((hpage s hs).append_left).append_right⟩
    next hmore =>
      obtain ⟨t₇, t₈, _, rfl, -, hruns⟩ := runs_bind_ok.mp hruns
      rw [Bool.or_eq_true, decide_eq_true_eq, not_or, Option.isNone_iff_eq_none,
        ← Ne, Option.ne_none_iff_exists'] at hmore
      obtain ⟨hfull, bound, hbound⟩ := hmore
      rw [hbound] at hcursor hruns
      refine .inr ⟨by omega, bound, _, t₁ ++ (t₃ ++ (t₅ ++ t₇)), t₈, by simp, hcursor.symm,
        fun s hs => ((hpage s hs).append_left).append_right, ?_, hruns⟩
      rfl

/-- A run of pages from a bound on. If the pages suffice for what is left of the history, it is
stored, and else the run tells that it was stopped. -/
theorem syncPages_stores {done : List String} (hnodup : (H address).Nodup)
    (hsplit : H address = done ++ rest) (hrest : older before (H address) = rest)
    (htells : ∀ request answer, (⟨.ask request, answer⟩ : Event) ∈ t → Tells H request answer)
    (hruns : (syncPages limits address left before sync).run.Runs t (.ok sync'))
    (hcap : sync.capReached = false) :
    sync'.capReached = decide (left * limits.client.pageSize.toNat ≤ rest.length) ∧
      (rest.length < left * limits.client.pageSize.toNat →
        (∀ s ∈ rest, Appended address t s) ∧
          ∀ answer, limits.client.receive answer = .ok answer) := by
  induction left generalizing before done rest sync t with
  | zero =>
    obtain ⟨t₁, t₂, _, rfl, -, hpure⟩ := runs_bind_ok.mp hruns
    obtain ⟨rfl, hsame⟩ := Attempt.runs_pure.mp hpure
    cases hsame
    exact ⟨by simp, fun h => by omega⟩
  | succ left ih =>
    obtain ⟨htakes, ⟨hshort, hflag, hall⟩ |
      ⟨hfull, bound, sync₁, t₁, t₂, rfl, hlast, hpage, hflag, hlater⟩⟩ :=
        runs_syncPages_succ hrest htells hruns
    · refine ⟨?_, fun _ => ⟨hall, htakes⟩⟩
      have hgrow : limits.client.pageSize.toNat ≤ (left + 1) * limits.client.pageSize.toNat :=
        Nat.le_mul_of_pos_left _ (Nat.succ_pos left)
      rw [hflag, hcap, eq_comm, decide_eq_false_iff_not]
      omega
    · have hsplit' : H address = done ++ rest.take limits.client.pageSize.toNat ++
          rest.drop limits.client.pageSize.toNat := by
        rw [List.append_assoc, List.take_append_drop, ← hsplit]
      -- the cursor is the last name of the page, so what is older is behind the page
      obtain ⟨hstops, hstores⟩ := ih hsplit' (older_last hnodup hsplit hlast)
        (fun request answer hmem => htells request answer (List.mem_append_right _ hmem)) hlater
        (hflag.trans hcap)
      rw [List.length_drop] at hstops hstores
      have hgrow : (left + 1) * limits.client.pageSize.toNat =
          left * limits.client.pageSize.toNat + limits.client.pageSize.toNat :=
        Nat.succ_mul left _
      refine ⟨?_, fun h => ⟨fun s hs => ?_, htakes⟩⟩
      · rw [hstops]
        refine decide_eq_decide.mpr ?_
        omega
      · rw [← List.take_append_drop limits.client.pageSize.toNat rest] at hs
        rcases List.mem_append.mp hs with hs | hs
        · exact (hpage s hs).append_left
        · exact ((hstores (by omega)).1 s hs).append_right

end Stores

end Worker

end AddressIndex
