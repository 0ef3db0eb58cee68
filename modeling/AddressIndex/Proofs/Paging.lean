import AddressIndex.Proofs.Pages
import AddressIndex.Proofs.Replay

/-! Paging, page by page. Each page is asked for under the last signature of the page before it and
stored before the next one is asked for. A full page calls for another one as long as the bound on
the pages allows; any other page is the last. `Walks` tells such a run with the pages that it took,
and what is left of it once they are stored is at most one request more. -/

namespace AddressIndex

open Store (Database Tables Query SignatureRow)

/-! ### Calls among others -/

/-- The signature rows are left alone. -/
def Store.KeepsSignatures (before after : Tables) : Prop := after.signatures = before.signatures

namespace Served

variable {answers : Answers} {meddles : Tables → Tables → Prop} {db mid db' : Database} {t : Trace}

theorem after (trans : ∀ {a b c}, meddles a b → meddles b c → meddles a c)
    (hfirst : meddles db.tables mid.tables) (h : Served answers meddles mid t db') :
    Served answers meddles db t db' := by
  cases h with
  | done hlast => exact .done (trans hfirst hlast)
  | event hbefore happens hrest => exact .event (trans hfirst hbefore) happens hrest

/-- Only calls show in the database. -/
theorem calls (trans : ∀ {a b c}, meddles a b → meddles b c → meddles a c)
    (h : Served answers meddles db t db') : Served answers meddles db t.calls db' := by
  induction h with
  | done hfirst => exact .done hfirst
  | @event db before mid db' ev t hbefore happens _ ih =>
    rw [Trace.calls_cons]
    split
    · exact .event hbefore happens ih
    next hcall =>
      have hsame : mid = before := by
        obtain ⟨effect, reply⟩ := ev
        cases effect with
        | ask _ | query _ => exact absurd rfl hcall
        | _ => exact happens
      exact ih.after trans (hsame ▸ hbefore)

end Served

theorem Store.Tables.stored_congr {address : String} {records : List SignatureRecord}
    {tables tables' : Tables} (h : KeepsSignatures tables tables') :
    KeepsSignatures (tables.stored address records) (tables'.stored address records) := by
  change insertAll _ _ _ = insertAll _ _ _
  rw [h]

namespace Worker

variable {limits : Limits} {address : String} {before : Option String} {sync sync' : SignatureSync}
  {left : Nat} {t t₁ t₂ : Trace}

/-! ### Pages that were taken -/

/-- A page that was taken: the bound that it was asked for under, the answer, the records in it, and
how many of them were new. -/
structure Taken where
  before : Option String
  answer : Rpc.Answer
  records : List SignatureRecord
  inserted : Nat
  inserted_of_empty : records.isEmpty → inserted = 0

namespace Taken

/-- The last signature, if there is one. -/
def cursor (page : Taken) : Option String := page.records.getLast?.map (·.signature)

/-- Whether there are as many records as were asked for. -/
def isFull (limits : Limits) (page : Taken) : Bool :=
  limits.client.pageSize ≤ page.records.length

/-- The request for the page, and then its records as they are stored. -/
def calls (limits : Limits) (address : String) (page : Taken) : Trace :=
  ⟨.ask (.signatures address page.before limits.client.pageSize), page.answer⟩ ::
    if page.records.isEmpty then []
    else [⟨.query (.append address page.records), .ok page.inserted⟩]

/-- The answer holds the page, and its calls were made. -/
structure Takes (limits : Limits) (address : String) (page : Taken) (t : Trace) : Prop where
  calls : t.calls = page.calls limits address
  told : pageOf limits address page.before page.answer = .ok (some ⟨page.records, page.cursor⟩)

end Taken

def SignatureSync.add (sync : SignatureSync) (page : Taken) : SignatureSync :=
  { sync with
    pages := sync.pages + 1
    received := sync.received + page.records.length
    inserted := sync.inserted + page.inserted }

/-! ### Walks -/

/-- How paging ends before another page is taken. -/
inductive Halts (limits : Limits) (address : String) (before : Option String)
    (sync : SignatureSync) : Nat → Trace → Except Fault SignatureSync → Prop
  | capped {t : Trace} (quiet : t.calls = []) :
    Halts limits address before sync 0 t (.ok { sync with capReached := true })
  | unasked {left : Nat} {t : Trace} {fault : Fault} (quiet : t.calls = [])
      (not : ¬ limits.client.Asks) : Halts limits address before sync (left + 1) t (.error fault)
  | ended {left : Nat} {t : Trace} {answer : Rpc.Answer}
      (asks : t.calls = [⟨.ask (.signatures address before limits.client.pageSize), answer⟩])
      (told : pageOf limits address before answer = .ok none) :
      Halts limits address before sync (left + 1) t (.ok sync)
  | refused {left : Nat} {t : Trace} {answer : Rpc.Answer} {fault : Fault}
      (asks : t.calls = [⟨.ask (.signatures address before limits.client.pageSize), answer⟩])
      (told : pageOf limits address before answer = .error fault) :
      Halts limits address before sync (left + 1) t (.error fault)
  | unstored {left : Nat} {t : Trace} {answer : Rpc.Answer} {page : Rpc.Page} {fault : Store.Fault}
      (asks : t.calls = [⟨.ask (.signatures address before limits.client.pageSize), answer⟩,
        ⟨.query (.append address page.records), .error fault⟩])
      (told : pageOf limits address before answer = .ok (some page)) :
      Halts limits address before sync (left + 1) t (.error (.store fault))

/-- Paging takes these pages, from the bound `before` back and at most as many as are left, and
ends so. -/
inductive Walks (limits : Limits) (address : String) : Nat → Option String → SignatureSync →
    List Taken → Trace → Except Fault SignatureSync → Prop
  | halt {left : Nat} {before : Option String} {sync : SignatureSync} {t : Trace}
      {r : Except Fault SignatureSync} (halts : Halts limits address before sync left t r) :
      Walks limits address left before sync [] t r
  | last {left : Nat} {sync : SignatureSync} {page : Taken} {t : Trace}
      (takes : page.Takes limits address t) (short : page.isFull limits = false) :
      Walks limits address (left + 1) page.before sync [page] t (.ok (sync.add page))
  | unpaused {left : Nat} {sync : SignatureSync} {page : Taken} {t : Trace}
      {fault : ArithmeticFault} (takes : page.Takes limits address t)
      (full : page.isFull limits) (paused : .error fault ∈ t.pauses) :
      Walks limits address (left + 1) page.before sync [page] t (.error (.arithmetic fault))
  | more {left : Nat} {sync : SignatureSync} {page : Taken} {pages : List Taken} {t₁ t₂ : Trace}
      {r : Except Fault SignatureSync} (takes : page.Takes limits address t₁)
      (full : page.isFull limits)
      (walks : Walks limits address left page.cursor (sync.add page) pages t₂ r) :
      Walks limits address (left + 1) page.before sync (page :: pages) (t₁ ++ t₂) r

theorem cursor_of_pageOf {answer : Rpc.Answer} {page : Rpc.Page}
    (h : pageOf limits address before answer = .ok (some page)) :
    page.cursor = page.records.getLast?.map (·.signature) := by
  unfold pageOf pageOrEnd at h
  dsimp only at h
  split at h
  next page' hpage =>
    cases h
    obtain ⟨result, -, hrecords⟩ := Except.bind_eq_ok.mp hpage
    unfold Rpc.Page.ofRecords at hrecords
    split at hrecords
    · cases hrecords
    · cases hrecords
      rfl
  next => cases h
  next => cases h

/-- A page that is not full is the last one, and so is one without a last signature. -/
theorem Taken.not_isFull {page : Taken} :
    (page.records.length < limits.client.pageSize || page.cursor.isNone) = !page.isFull limits := by
  have hsize := limits.client.pageSize_range.1
  unfold Taken.isFull Taken.cursor
  cases hrecords : page.records.getLast? with
  | none =>
    rw [List.getLast?_eq_none_iff.mp hrecords]
    simp
    omega
  | some record => simp [← decide_not]

theorem runs_storePage_cases {records : List SignatureRecord} {r : Except Fault Nat}
    (h : (storePage address records).run.Runs t r) :
    (∃ count, r = .ok count ∧ (records.isEmpty → count = 0) ∧ t = if records.isEmpty then []
      else [⟨.query (.append address records), .ok count⟩]) ∨
      ∃ fault, r = .error (.store fault) ∧
        t = [⟨.query (.append address records), .error fault⟩] := by
  by_cases hempty : records.isEmpty
  · rw [storePage_empty hempty] at h
    obtain ⟨rfl, rfl⟩ := Attempt.runs_pure.mp h
    exact .inl ⟨0, rfl, fun _ => rfl, by rw [if_pos hempty]⟩
  · rw [storePage_of_ne hempty] at h
    rcases Attempt.runs_query.mp h with ⟨count, rfl, rfl⟩ | ⟨fault, rfl, rfl⟩
    · exact .inl ⟨count, rfl, fun h => absurd h hempty, by rw [if_neg hempty]⟩
    · exact .inr ⟨fault, rfl, rfl⟩

open Attempt (runs_bind)

/-- Behind a page that is not full paging ends, behind a full one there is a pause before it goes
on. -/
theorem runs_behind (sync : SignatureSync) (page : Taken) {r : Except Fault SignatureSync}
    (h : (if page.records.length < limits.client.pageSize || page.cursor.isNone then
        pure (sync.add page)
      else do
        Attempt.sleep limits.pageDelay
        syncPages limits address left page.cursor (sync.add page) :
          Attempt SignatureSync).run.Runs t r) :
    (page.isFull limits = false ∧ t = [] ∧ r = .ok (sync.add page)) ∨
      (page.isFull limits ∧ ∃ fault, t = [⟨.sleep limits.pageDelay, .error fault⟩] ∧
        r = .error (.arithmetic fault)) ∨
      page.isFull limits ∧ ∃ t', t = ⟨.sleep limits.pageDelay, .ok ()⟩ :: t' ∧
        (syncPages limits address left page.cursor (sync.add page)).run.Runs t' r := by
  rw [page.not_isFull] at h
  split at h
  next hshort =>
    obtain ⟨rfl, rfl⟩ := Attempt.runs_pure.mp h
    exact .inl ⟨(Bool.not_eq_true' _).mp hshort, rfl, rfl⟩
  next hfull =>
    rw [Bool.not_eq_true', Bool.not_eq_false] at hfull
    rcases runs_bind.mp h with ⟨t₁, t₂, _, rfl, hsleep, hrest⟩ | ⟨fault, rfl, hsleep⟩
    · obtain ⟨pause, rfl, hpause⟩ := Attempt.runs_sleep.mp hsleep
      cases pause with
      | ok _ => exact .inr (.inr ⟨hfull, t₂, rfl, hrest⟩)
      | error _ => cases hpause
    · obtain ⟨pause, rfl, hpause⟩ := Attempt.runs_sleep.mp hsleep
      cases pause with
      | ok _ => cases hpause
      | error fault =>
        cases hpause
        exact .inr (.inl ⟨hfull, fault, rfl, rfl⟩)

/-- A run of paging is a walk. -/
theorem runs_syncPages {r : Except Fault SignatureSync}
    (h : (syncPages limits address left before sync).run.Runs t r) :
    ∃ pages, Walks limits address left before sync pages t r := by
  -- by the pages that are left; each way out of the loop is one constructor
  induction left generalizing before sync t with
  | zero =>
    obtain ⟨t', rfl, hpure⟩ := Attempt.runs_log_bind.mp h
    obtain ⟨rfl, rfl⟩ := Attempt.runs_pure.mp hpure
    exact ⟨[], .halt (.capped rfl)⟩
  | succ left ih =>
    rw [syncPages] at h
    rcases runs_bind.mp h with ⟨t₁, t₂, found, rfl, hnext, hrest⟩ | ⟨fault, rfl, hnext⟩
    swap
    · rcases runs_nextPage hnext with ⟨-, answer, hasks, htold⟩ | ⟨hnot, hquiet, -⟩
      · exact ⟨[], .halt (.refused hasks htold.symm)⟩
      · exact ⟨[], .halt (.unasked hquiet hnot)⟩
    rcases runs_nextPage hnext with ⟨-, answer, hasks, htold⟩ | ⟨_, _, _, ⟨⟩, _⟩
    cases found with
    | none =>
      obtain ⟨rfl, rfl⟩ := Attempt.runs_pure.mp hrest
      exact ⟨[], .halt (.ended (by rw [List.append_nil, hasks]) htold.symm)⟩
    | some found =>
      rcases runs_bind.mp hrest with ⟨t₃, t₄, inserted, rfl, hstore, hlog⟩ | ⟨fault, rfl, hstore⟩
      swap
      · rcases runs_storePage_cases hstore with ⟨_, ⟨⟩, -⟩ | ⟨fault, ⟨⟩, rfl⟩
        refine ⟨[], .halt (.unstored ?_ htold.symm)⟩
        rw [Trace.calls_append, hasks]
        rfl
      rcases runs_storePage_cases hstore with ⟨_, ⟨⟩, hnew, rfl⟩ | ⟨_, ⟨⟩, _⟩
      obtain ⟨t₅, rfl, hend⟩ := Attempt.runs_log_bind.mp hlog
      clear hrest hlog
      obtain ⟨records, cursor⟩ := found
      obtain rfl : cursor = records.getLast?.map (·.signature) := cursor_of_pageOf htold.symm
      let page : Taken := ⟨before, answer, records, inserted, hnew⟩
      -- log lines and pauses are no calls, so the page is taken whatever of them comes behind it
      have htakes {t : Trace} (hquiet : t.calls = []) : page.Takes limits address
          (t₁ ++ ((if records.isEmpty then []
            else [⟨.query (.append address records), .ok inserted⟩]) ++
              ⟨.log .worker (pageStored (sync.add page) records.length), ()⟩ :: t)) := by
        refine ⟨?_, htold.symm⟩
        rw [Trace.calls_append, Trace.calls_append, Trace.calls_cons, hasks, hquiet]
        by_cases hempty : records.isEmpty <;> simp [Taken.calls, page, hempty]
      rcases runs_behind sync page hend with
        ⟨hshort, rfl, rfl⟩ | ⟨hfull, fault, rfl, rfl⟩ | ⟨hfull, t', rfl, hnext⟩
      · exact ⟨[page], .last (htakes rfl) hshort⟩
      · exact ⟨[page], .unpaused (htakes rfl) hfull (by simp)⟩
      · obtain ⟨pages, hwalks⟩ := ih hnext
        have hpaused := htakes (t := [⟨.sleep limits.pageDelay, .ok ()⟩]) rfl
        have hmore := Walks.more hpaused hfull hwalks
        rw [List.append_assoc, List.append_assoc] at hmore
        exact ⟨page :: pages, hmore⟩

/-! ### What is called behind the pages -/

section Rest

variable {pages : List Taken} {page : Taken} {rest : Trace} {r : Except Fault SignatureSync}

/-- The bound behind the pages. -/
def bound (before : Option String) (pages : List Taken) : Option String :=
  (pages.getLast?.map (·.cursor)).getD before

/-- The request that is due behind the pages: there is one if fewer were taken than are left, and
the last one is full. -/
def due (limits : Limits) (address : String) (left : Nat) (before : Option String)
    (pages : List Taken) : List Rpc.Request :=
  if pages.length < left && pages.getLast?.all (·.isFull limits) then
    [.signatures address (bound before pages) limits.client.pageSize]
  else []

theorem bound_cons : bound before (page :: pages) = bound page.cursor pages := by
  unfold bound
  rw [List.getLast?_cons]
  cases pages.getLast? <;> rfl

theorem due_cons (hfull : page.isFull limits) :
    due limits address (left + 1) before (page :: pages) =
      due limits address left page.cursor pages := by
  unfold due
  rw [bound_cons, List.getLast?_cons, List.length_cons]
  cases pages.getLast? <;> simp [hfull]

theorem due_of_short (hshort : page.isFull limits = false) :
    due limits address left before [page] = [] := by
  simp [due, hshort]

/-- What is called behind the pages: nothing is stored, and the one request is asked that is due,
unless the client does not ask or a pause fails. A run that succeeds has called for nothing more, or
has been told that there is no page. -/
structure Rest (limits : Limits) (address : String) (left : Nat) (before : Option String)
    (pages : List Taken) (rest t : Trace) (r : Except Fault SignatureSync) : Prop where
  quiet (q : Query) (reply : q.Reply) : (⟨.query q, .ok reply⟩ : Event) ∉ rest
  few : rest.requests <+: due limits address left before pages
  asks : limits.client.Asks → (∀ pause ∈ t.pauses, pause = .ok ()) →
    rest.requests = due limits address left before pages
  ended (sync : SignatureSync) : r = .ok sync → rest = [] ∨ ∃ answer,
    rest = [⟨.ask (.signatures address (bound before pages) limits.client.pageSize), answer⟩] ∧
      pageOf limits address (bound before pages) answer = .ok none

theorem Rest.of_halts (h : Halts limits address before sync left t r) :
    Rest limits address left before [] t.calls t r := by
  cases h with
  | capped quiet =>
    rw [quiet]
    exact ⟨fun _ _ => List.not_mem_nil, List.nil_prefix, fun _ _ => rfl, fun _ _ => .inl rfl⟩
  | unasked quiet not =>
    rw [quiet]
    exact ⟨fun _ _ => List.not_mem_nil, List.nil_prefix, fun hasks => absurd hasks not,
      fun _ _ => .inl rfl⟩
  | ended asks told =>
    rw [asks]
    exact ⟨fun _ _ hmem => (nomatch List.mem_singleton.mp hmem), List.prefix_rfl, fun _ _ => rfl,
      fun _ _ => .inr ⟨_, rfl, told⟩⟩
  | refused asks told =>
    rw [asks]
    exact ⟨fun _ _ hmem => (nomatch List.mem_singleton.mp hmem), List.prefix_rfl, fun _ _ => rfl,
      nofun⟩
  | unstored asks told =>
    rw [asks]
    refine ⟨fun q reply hmem => ?_, List.prefix_rfl, fun _ _ => rfl, nofun⟩
    rcases List.mem_cons.mp hmem with h | hmem
    · cases h
    · cases List.mem_singleton.mp hmem

theorem Rest.more (hfull : page.isFull limits)
    (h : Rest limits address left page.cursor pages rest t₂ r) :
    Rest limits address (left + 1) before (page :: pages) rest (t₁ ++ t₂) r where
  quiet := h.quiet
  few := by
    rw [due_cons hfull]
    exact h.few
  asks hasks hpauses := by
    rw [due_cons hfull]
    refine h.asks hasks fun pause hpause => hpauses pause ?_
    rw [Trace.pauses_append]
    exact List.mem_append_right _ hpause
  ended sync hr := by
    rw [bound_cons]
    exact h.ended sync hr

/-- A walk calls for its pages, and then for what is left. -/
theorem Walks.calls (h : Walks limits address left before sync pages t r) :
    ∃ rest, t.calls = pages.flatMap (·.calls limits address) ++ rest ∧
      Rest limits address left before pages rest t r := by
  induction h with
  | @halt _ _ _ t _ halts => exact ⟨t.calls, rfl, .of_halts halts⟩
  | last takes short =>
    refine ⟨[], by simp [takes.calls], fun _ _ => List.not_mem_nil, List.nil_prefix,
      fun _ _ => (due_of_short short).symm, fun _ _ => .inl rfl⟩
  | unpaused takes full paused =>
    refine ⟨[], by simp [takes.calls], fun _ _ => List.not_mem_nil, List.nil_prefix,
      fun _ hpauses => ?_, nofun⟩
    cases hpauses _ paused
  | more takes full _ ih =>
    obtain ⟨rest, hcalls, hrest⟩ := ih
    refine ⟨rest, ?_, hrest.more full⟩
    rw [Trace.calls_append, takes.calls, hcalls, List.flatMap_cons, List.append_assoc]

/-- The pages of a walk: each was told and asked for under the last signature of the one before,
and all but the last are full. -/
structure Chained (limits : Limits) (address : String) (before : Option String)
    (pages : List Taken) : Prop where
  told : ∀ page ∈ pages,
    pageOf limits address page.before page.answer = .ok (some ⟨page.records, page.cursor⟩)
  backwards : pages.map (·.before) = (before :: pages.map (·.cursor)).take pages.length
  full : ∀ page ∈ pages.dropLast, page.isFull limits

theorem Chained.single (htold : pageOf limits address page.before page.answer =
    .ok (some ⟨page.records, page.cursor⟩)) : Chained limits address page.before [page] :=
  ⟨fun _ hpage => List.mem_singleton.mp hpage ▸ htold, rfl, nofun⟩

theorem Walks.chained (h : Walks limits address left before sync pages t r) :
    Chained limits address before pages := by
  induction h with
  | halt _ => exact ⟨nofun, rfl, nofun⟩
  | last takes _ => exact .single takes.told
  | unpaused takes _ _ => exact .single takes.told
  | @more _ _ page pages _ _ _ takes full _ ih =>
    refine ⟨List.forall_mem_cons.mpr ⟨takes.told, ih.told⟩, ?_, ?_⟩
    · rw [List.map_cons, List.map_cons, List.length_cons, List.take_succ_cons, ih.backwards]
    · cases pages with
      | nil => exact nofun
      | cons next pages => exact List.forall_mem_cons.mpr ⟨full, ih.full⟩

theorem Walks.length_le (h : Walks limits address left before sync pages t r) :
    pages.length ≤ left := by
  induction h with
  | halt _ => exact Nat.zero_le _
  | last _ _ => exact Nat.succ_le_succ (Nat.zero_le _)
  | unpaused _ _ _ => exact Nat.succ_le_succ (Nat.zero_le _)
  | more _ _ _ ih => exact Nat.succ_le_succ ih

theorem requests_flatMap_calls :
    Trace.requests (pages.flatMap fun page => page.calls limits address) =
      pages.map fun page => Rpc.Request.signatures address page.before limits.client.pageSize := by
  induction pages with
  | nil => rfl
  | cons page pages ih =>
    rw [List.flatMap_cons, Trace.requests_append, ih, List.map_cons, Taken.calls,
      Trace.requests_ask]
    split <;> rfl

/-- There are no more requests than pages that are left. -/
theorem Walks.requests_le (h : Walks limits address left before sync pages t r) :
    t.requests.length ≤ left := by
  obtain ⟨rest, hcalls, hrest⟩ := h.calls
  have hfew := hrest.few.length_le
  have hpages := h.length_le
  -- one request for each page, and one more only where fewer pages were taken than are left
  rw [← Trace.requests_calls, hcalls, Trace.requests_append, requests_flatMap_calls,
    List.length_append, List.length_map]
  unfold due at hfew
  split at hfew
  next hdue =>
    have := of_decide_eq_true (Bool.and_eq_true_iff.mp hdue).1
    rw [List.length_singleton] at hfew
    omega
  next =>
    rw [List.length_nil] at hfew
    omega

/-- What a walk that succeeds has counted. -/
structure Counts (limits : Limits) (left : Nat) (sync : SignatureSync) (taken : List Taken)
    (sync' : SignatureSync) : Prop where
  pages : sync'.pages = sync.pages + taken.length
  received : sync'.received = sync.received + (taken.flatMap (·.records)).length
  inserted : sync'.inserted = sync.inserted + (taken.map (·.inserted)).sum
  capped : sync'.capReached ↔
    sync.capReached ∨ taken.length = left ∧ ∀ page ∈ taken, page.isFull limits

theorem Walks.counts (h : Walks limits address left before sync pages t r)
    (hr : r = .ok sync') : Counts limits left sync pages sync' := by
  induction h with
  | halt halts =>
    cases halts with
    | capped _ =>
      cases hr
      exact ⟨rfl, rfl, rfl, by simp⟩
    | ended _ _ =>
      cases hr
      exact ⟨rfl, rfl, rfl, by simp⟩
    | _ => cases hr
  | last _ short =>
    cases hr
    exact ⟨rfl, by simp [SignatureSync.add], by simp [SignatureSync.add],
      by simp [SignatureSync.add, short]⟩
  | unpaused _ _ _ => cases hr
  | @more left sync page pages _ _ _ _ full _ ih =>
    obtain ⟨hpages, hreceived, hinserted, hcapped⟩ := ih hr
    refine ⟨?_, ?_, ?_, ?_⟩
    · rw [hpages, List.length_cons]
      simp only [SignatureSync.add]
      omega
    · rw [hreceived, List.flatMap_cons, List.length_append]
      simp only [SignatureSync.add]
      omega
    · rw [hinserted, List.map_cons, List.sum_cons]
      simp only [SignatureSync.add]
      omega
    · rw [hcapped, List.length_cons, List.forall_mem_cons]
      simp [SignatureSync.add, full]

/-! ### What is stored -/

section Stored

variable {answers : Answers} {db db' : Database}

/-- Events that succeed in no query leave the rows alone, if nobody else writes to them. -/
theorem signatures_of_quiet
    (hquiet : ∀ (q : Query) (reply : q.Reply), (⟨.query q, .ok reply⟩ : Event) ∉ t)
    (h : Served answers Store.KeepsSignatures db t db') :
    db'.tables.signatures = db.tables.signatures := by
  induction h with
  | done hkeeps => exact hkeeps
  | @event _ _ _ _ ev t hbefore happens _ ih =>
    rw [ih fun q reply hmem => hquiet q reply (List.mem_cons_of_mem _ hmem)]
    rcases happens.cases with ⟨q, reply, _, rfl, -⟩ | ⟨-, rfl⟩
    · exact absurd List.mem_cons_self (hquiet q reply)
    · exact hbefore

/-- The calls for a page store its records. -/
theorem signatures_of_page
    (h : Served answers Store.KeepsSignatures db (page.calls limits address ++ t) db') :
    ∃ mid, Served answers Store.KeepsSignatures mid t db' ∧
      mid.tables.untimed.signatures = (db.tables.untimed.stored address page.records).signatures ∧
      page.inserted + db.tables.signatures.length = mid.tables.signatures.length := by
  -- the answer changes no row, and only a page with records has a second call
  cases h with
  | @event _ asked _ _ _ _ hkeeps happens hrest =>
  obtain rfl := happens.of_ask.2
  split at hrest
  next hempty =>
    have hnone := List.isEmpty_iff.mp hempty
    refine ⟨_, hrest, ?_, ?_⟩
    · rw [hnone]
      exact congrArg (List.map _) hkeeps
    · rw [hkeeps, page.inserted_of_empty hempty, Nat.zero_add]
  next =>
    cases hrest with
    | @event _ before after _ _ _ hkeeps' happens hrest =>
    obtain ⟨now, hinserted, hafter⟩ := happens.of_reply
    have hsame : Store.KeepsSignatures db.tables before.tables := hkeeps'.trans hkeeps
    refine ⟨after, hrest, ?_, ?_⟩
    · rw [hafter, Query.untimed_next (q := .append address page.records) trivial now]
      exact Store.Tables.stored_congr (congrArg (List.map _) hsame)
    · have hgrows : before.tables.signatures.length ≤ after.tables.signatures.length := by
        rw [hafter]
        exact Store.prefix_insertAll.length_le
      rw [hafter] at hgrows
      rw [hinserted, hafter, Query.answer, ← hsame]
      exact Nat.sub_add_cancel hgrows

/-- The rows with the records of the pages stored, and how many rows they add. -/
theorem signatures_of_pages
    (hquiet : ∀ (q : Query) (reply : q.Reply), (⟨.query q, .ok reply⟩ : Event) ∉ rest)
    (h : Served answers Store.KeepsSignatures db
      (pages.flatMap (·.calls limits address) ++ rest) db') :
    db'.tables.untimed.signatures =
        (db.tables.untimed.stored address (pages.flatMap (·.records))).signatures ∧
      (pages.map (·.inserted)).sum + db.tables.signatures.length =
        db'.tables.signatures.length := by
  induction pages generalizing db with
  | nil =>
    have hsame := signatures_of_quiet hquiet h
    refine ⟨congrArg (List.map _) hsame, ?_⟩
    rw [hsame, List.map_nil, List.sum_nil, Nat.zero_add]
  | cons page pages ih =>
    rw [List.flatMap_cons, List.append_assoc] at h
    obtain ⟨mid, hrest, hstored, hinserted⟩ := signatures_of_page h
    obtain ⟨hmore, hcount⟩ := ih hrest
    constructor
    · rw [hmore, List.flatMap_cons, Store.Tables.stored_append]
      exact Store.Tables.stored_congr hstored
    · rw [List.map_cons, List.sum_cons, ← hcount, ← hinserted]
      omega

end Stored

end Rest

/-- Paging goes strictly backwards and stops. -/
theorem syncSignatures_pages_back {answers : Answers} {db db' : Database}
    {r : Except Fault SignatureSync} (hruns : (syncSignatures limits address).run.Runs t r)
    (hserved : Served answers Store.KeepsSignatures db t db') :
    ∃ pages rest, t.calls = pages.flatMap (·.calls limits address) ++ rest ∧
      Chained limits address none pages ∧
      t.requests.length ≤ limits.maxPages.toNat ∧
      Rest limits address limits.maxPages.toNat none pages rest t r ∧
      db'.tables.untimed.signatures =
        (db.tables.untimed.stored address (pages.flatMap (·.records))).signatures ∧
      ∀ sync, r = .ok sync →
        sync.pages = pages.length ∧
        sync.received = (pages.flatMap (·.records)).length ∧
        sync.inserted + db.tables.signatures.length = db'.tables.signatures.length ∧
        (sync.capReached ↔
          pages.length = limits.maxPages.toNat ∧ ∀ page ∈ pages, page.isFull limits) := by
  obtain ⟨pages, hwalks⟩ := runs_syncPages hruns
  obtain ⟨rest, hcalls, hrest⟩ := hwalks.calls
  have hserved := hserved.calls fun h₁ h₂ => h₂.trans h₁
  rw [hcalls] at hserved
  obtain ⟨hstored, hinserted⟩ := signatures_of_pages hrest.quiet hserved
  refine ⟨pages, rest, hcalls, hwalks.chained, hwalks.requests_le, hrest, hstored, ?_⟩
  intro sync hsync
  have hcounts := hwalks.counts hsync
  refine ⟨?_, ?_, ?_, ?_⟩
  · rw [hcounts.pages, Nat.zero_add]
  · rw [hcounts.received, Nat.zero_add]
  · rw [hcounts.inserted, Nat.zero_add, hinserted]
  · rw [hcounts.capped]
    simp

/-- A node with three signatures, which it gives in two pages. -/
def threeInTwo : Rpc.Request → Rpc.Answer
  | .signatures _ none _ => .reply 200
    "\x7b\"result\":[\x7b\"signature\":\"c\"\x7d,\x7b\"signature\":\"b\"\x7d]\x7d"
  | .signatures _ (some _) _ => .reply 200 "\x7b\"result\":[\x7b\"signature\":\"a\"\x7d]\x7d"
  | .transaction _ => .unreachable ""

/-- Two pages are taken and three rows stored, and then nothing more is called for. -/
theorem syncSignatures_pages_back_of_three :
    let p := (syncSignatures Sample.limits "A").run
    let w := { Sample.world (.ready .blank) with node := fun _ => threeInTwo }
    (p.run w).1 = .ok ⟨2, 3, 3, false⟩ ∧
      (p.run w).2.database.tables.signatures.length = 3 ∧
      ∃ (pages : List Taken) (rest : Trace),
        (p.trace w).calls = pages.flatMap (·.calls Sample.limits "A") ++ rest ∧
        pages.length = 2 ∧ (pages.flatMap (·.records)).length = 3 ∧
        pages.map (·.before) = (none :: pages.map (·.cursor)).take 2 := by
  intro p w
  have hok : (p.run w).1 = .ok ⟨2, 3, 3, false⟩ := Except.toOption_eq_some.mp (by decide +kernel)
  have hwithin : w.Within fun request answer => answer = threeInTwo request :=
    ⟨rfl, fun _ _ => rfl⟩
  have hkept (tables : Tables) : Store.KeepsSignatures tables tables := rfl
  have hserved := Program.served_trace hkept hwithin p
  obtain ⟨pages, rest, hcalls, hchained, -, -, -, hcounts⟩ :=
    syncSignatures_pages_back (p.runs_trace w) hserved
  obtain ⟨hpages, hreceived, hinserted, -⟩ := hcounts _ hok
  refine ⟨hok, hinserted.symm, pages, rest, hcalls, hpages.symm, hreceived.symm, ?_⟩
  rw [hchained.backwards, ← hpages]

end Worker

end AddressIndex
