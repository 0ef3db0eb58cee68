import AddressIndex.Proofs.Stages

/-! Slicing. How a history is cut into pages, leases and chunks does not show in the tables. Pages
of a node that keeps to a history hold all its records, whatever their size, if the bound on the
pages does not end them; and what waits then is worked off as a whole, whatever the leases are. -/

namespace AddressIndex

open Store (Tables)

namespace Worker

/-- The records of a history behind a bound; all of them if there is no bound. -/
def behind : Option String → List SignatureRecord → List SignatureRecord
  | none, history => history
  | some bound, history => (history.dropWhile (·.signature ≠ bound)).tail

/-- The node serves the history of an address, from the newest record back. -/
structure Serves (answers : Answers) (address : String) (history : List SignatureRecord) :
    Prop where
  distinct : (history.map (·.signature)).Nodup
  tells {before : Option String} {limit : Int} {answer : Rpc.Answer} : 1 ≤ limit →
    answers (.signatures address before limit) answer →
    ∃ status, Rpc.Page.recordsOf (.signatures address before limit) answer =
      .ok (status, (behind before history).take limit.toNat)

section Behind

variable {before : Option String} {history : List SignatureRecord}

theorem behind_suffix : behind before history <:+ history := by
  cases before with
  | none => exact List.suffix_rfl
  | some bound => exact (List.tail_suffix _).trans (List.dropWhile_suffix _)

theorem map_behind :
    (behind before history).map (·.signature) = older before (history.map (·.signature)) := by
  cases before with
  | none => rfl
  | some bound =>
    rw [behind, older, List.dropWhile_map, List.map_tail]
    rfl

/-- What is behind the last of the first `n` is what comes after them. -/
theorem behind_last {done rest : List SignatureRecord} {bound : String} {n : Nat}
    (hnodup : (history.map (·.signature)).Nodup) (hsplit : history = done ++ rest)
    (hlast : (rest.take n).getLast?.map (·.signature) = some bound) :
    behind (some bound) history = rest.drop n := by
  have hnames : history.map (·.signature) = done.map (·.signature) ++ rest.map (·.signature) := by
    rw [hsplit, List.map_append]
  rw [← List.getLast?_map, List.map_take] at hlast
  have hsame := older_last hnodup hnames hlast
  rw [← map_behind, ← List.map_drop] at hsame
  have hlength := congrArg List.length hsame
  rw [List.length_map, List.length_map] at hlength
  have hsuffix : rest.drop n <:+ history :=
    (List.drop_suffix n rest).trans ⟨done, hsplit.symm⟩
  exact (List.suffix_of_suffix_length_le behind_suffix hsuffix hlength.le).eq_of_length hlength

end Behind

section Pages

variable {S : Surroundings} {limits : Limits} {address : String}
  {history : List SignatureRecord} {outcome : String → Except Fault Rpc.Outcome}

/-- A page of a served history, as far as the client takes replies. -/
def servedPage (limits : Limits) (history : List SignatureRecord) (before : Option String) :
    Except Fault (Option Rpc.Page) :=
  let records := (behind before history).take limits.client.pageSize.toNat
  (limits.client.receive (.reply 200 "")).map fun _ =>
    if records.isEmpty && before.isSome then none
    else some ⟨records, records.getLast?.map (·.signature)⟩

theorem pageOf_serves {before : Option String} {status code : Int} {body : String}
    (h : Rpc.Page.recordsOf (.signatures address before limits.client.pageSize) (.reply code body) =
      .ok (status, (behind before history).take limits.client.pageSize.toNat)) :
    pageOf limits address before (.reply code body) = servedPage limits history before := by
  rw [pageOf, servedPage, limits.client.receive_reply code 200 body ""]
  cases hreceive : limits.client.receive (.reply 200 "") with
  | error fault =>
    have hfault : ∀ error, fault ≠ .rpc error := by
      rintro error rfl
      exact Rpc.Client.receive_ne_rpc hreceive
    change pageOrEnd (.error fault) = .error fault
    unfold pageOrEnd
    split
    next hsame => cases hsame
    next hsame => exact absurd (Except.error.inj hsame) (hfault _)
    next hsame => rw [Except.error.inj hsame]
  | ok _ =>
    change pageOrEnd (Rpc.Page.recordsOf _ (.reply code body) >>= _) = _
    rw [h]
    change pageOrEnd (Rpc.Page.ofRecords before status _) = .ok _
    unfold Rpc.Page.ofRecords
    split <;> rfl

theorem told_of_serves (serves : Serves S.answers address history)
    (hsteady : limits.client.Steady S.answers outcome) :
    Told S.answers limits address (servedPage limits history) outcome where
  pages {before t r} hruns hanswered := by
    rcases runs_nextPage hruns with ⟨-, answer, hcalls, rfl⟩ | ⟨-, -, fault, rfl, hnone⟩
    · obtain ⟨status, hrecords⟩ := serves.tells limits.client.pageSize_range.1
        (hanswered _ _ (Trace.mem_of_calls hcalls))
      obtain ⟨code, body, rfl⟩ := reply_of_recordsOf hrecords
      exact pageOf_serves hrecords
    · rw [servedPage, hnone]
      rfl
  outcomes := hsteady

theorem servedPage_ok {before : Option String} {found : Option Rpc.Page}
    (h : servedPage limits history before = .ok found) :
    let records := (behind before history).take limits.client.pageSize.toNat
    found = if records.isEmpty && before.isSome then none
      else some ⟨records, records.getLast?.map (·.signature)⟩ := by
  unfold servedPage at h
  cases hreceive : limits.client.receive (.reply 200 "") with
  | error fault =>
    rw [hreceive] at h
    cases h
  | ok _ =>
    rw [hreceive] at h
    exact (Except.ok.inj h).symm

theorem servedPage_none {before : Option String} (h : servedPage limits history before = .ok none) :
    behind before history = [] := by
  have hfound := servedPage_ok h
  dsimp only at hfound
  split at hfound
  next hempty =>
    rw [Bool.and_eq_true, List.isEmpty_iff] at hempty
    have hsize := limits.client.pageSize_range.1
    exact (List.take_eq_nil_iff.mp hempty.1).resolve_left (by omega)
  next => cases hfound

theorem servedPage_some {before : Option String} {found : Rpc.Page}
    (h : servedPage limits history before = .ok (some found)) :
    found.records = (behind before history).take limits.client.pageSize.toNat ∧
      found.cursor = found.records.getLast?.map (·.signature) := by
  have hfound := servedPage_ok h
  dsimp only at hfound
  split at hfound
  next => cases hfound
  next =>
    cases hfound
    exact ⟨rfl, rfl⟩

/-- Pages of a served history that the bound on their number does not end hold all its records. -/
theorem Paged.records_eq {left : Nat} {before : Option String} {capped : Bool}
    {records done rest : List SignatureRecord} (hnodup : (history.map (·.signature)).Nodup)
    (h : Paged S limits address (servedPage limits history) left before records capped)
    (hcapped : capped = false) (hsplit : history = done ++ rest)
    (hbehind : behind before history = rest) : records = rest := by
  have hsize := limits.client.pageSize_range.1
  induction h generalizing done rest with
  | stopped _ => cases hcapped
  | complete hpage => rw [← hbehind, servedPage_none hpage]
  | @last left before found hpage _ hlast =>
    obtain ⟨hrecords, hcursor⟩ := servedPage_some hpage
    rw [hbehind] at hrecords
    have hlength : found.records.length = min limits.client.pageSize.toNat rest.length := by
      rw [hrecords, List.length_take]
    -- a page that is not full, or has no last record, took all there was
    have hshort : rest.length ≤ limits.client.pageSize.toNat := by
      rw [Bool.or_eq_true, decide_eq_true_eq, hcursor, Option.isNone_map,
        Option.isNone_iff_eq_none, List.getLast?_eq_none_iff] at hlast
      rcases hlast with hlast | hlast
      · omega
      · rw [hlast, List.length_nil] at hlength
        omega
    rw [hrecords, List.take_of_length_le hshort]
  | @more left before found records capped hpage _ hmore _ _ ih =>
    obtain ⟨hrecords, hcursor⟩ := servedPage_some hpage
    rw [hbehind] at hrecords
    rw [Bool.or_eq_true, not_or, Option.isNone_iff_eq_none] at hmore
    obtain ⟨bound, hbound⟩ := Option.ne_none_iff_exists'.mp hmore.2
    rw [hbound] at ih
    rw [hbound, hrecords, eq_comm] at hcursor
    have hlater : history = (done ++ found.records) ++ rest.drop limits.client.pageSize.toNat := by
      rw [hrecords, List.append_assoc, List.take_append_drop, hsplit]
    rw [ih hcapped hlater (behind_last hnodup hsplit hcursor), hrecords, List.take_append_drop]

end Pages

section Slices

variable {S : Surroundings} {address : String} {history : List SignatureRecord}
  {outcome : String → Except Fault Rpc.Outcome} {start : Tables}

/-- Indexing a served history, if the bound on the pages does not end it, leaves what its records
and the outcomes of its signatures make of the first tables. -/
theorem index_of_serves {limits : Limits} {after : Tables}
    {counts : SignatureSync × TransactionSync} (serves : Serves S.answers address history)
    (hsteady : limits.client.Steady S.answers outcome)
    (hkeys : (start.signatures.map Store.SignatureRow.key).Nodup)
    (hends : S.Ends (index limits address) start (.ok counts) after)
    (hcapped : counts.1.capReached = false) :
    after.untimed = indexed limits address outcome history start.untimed := by
  have told := told_of_serves serves hsteady
  obtain ⟨records, capped, hindexable⟩ := indexable_of_index told hkeys hends
  obtain ⟨_, ⟨⟩, hflag, hafter⟩ := (carries_index told hkeys hindexable).ends hends
  rw [hafter, hindexable.pages.records_eq serves.distinct (hflag.symm.trans hcapped)
    (List.nil_append history).symm rfl]

/-- Two configurations index the same served history to the same rows in the same order, but for
times, if both return and the bound on the pages ends neither. The check of the settings refuses a
limit on leases of zero, under which nothing would be leased. -/
theorem index_slices_alike {limits limits' : Limits} {after after' : Tables} {t t' : Trace}
    {counts counts' : SignatureSync × TransactionSync} (serves : Serves S.answers address history)
    (hsteady : limits.client.Steady S.answers outcome)
    (hsteady' : limits'.client.Steady S.answers outcome)
    (hlimit : limits.leaseLimit ≠ 0) (hlimit' : limits'.leaseLimit ≠ 0)
    (hkeys : (start.signatures.map Store.SignatureRow.key).Nodup)
    (hruns : (index limits address).run.Runs t (.ok counts)) (hleads : S.Leads start t after)
    (hruns' : (index limits' address).run.Runs t' (.ok counts')) (hleads' : S.Leads start t' after')
    (hcapped : counts.1.capReached = false) (hcapped' : counts'.1.capReached = false) :
    after.untimed = after'.untimed := by
  rw [index_of_serves serves hsteady hkeys ⟨t, hruns, hleads⟩ hcapped,
    index_of_serves serves hsteady' hkeys ⟨t', hruns', hleads'⟩ hcapped']
  simp only [indexed, toWork, if_neg hlimit, if_neg hlimit']

/-- A page with the given records of signatures. -/
def pageReply (items : String) : Rpc.Answer :=
  .reply 200 ("\x7b\"result\":[" ++ items ++ "]\x7d")

/-- A node that serves two signatures and knows the transaction of the first. -/
def pairNode : Rpc.Request → Rpc.Answer
  | .signatures _ none limit =>
    if limit = 1 then pageReply "\x7b\"signature\":\"s\"\x7d"
    else pageReply "\x7b\"signature\":\"s\"\x7d,\x7b\"signature\":\"t\"\x7d"
  | .signatures _ (some bound) _ =>
    if bound = "s" then pageReply "\x7b\"signature\":\"t\"\x7d" else pageReply ""
  | .transaction s => Sample.node (.transaction s)

/-- What it serves. -/
def pairHistory : List SignatureRecord := [⟨"s", none, none⟩, ⟨"t", none, none⟩]

theorem recordsOf_pageReply {items : String} {records : List SignatureRecord}
    (h : (Rpc.Page.recordsOf (.signatures "A" none 1) (pageReply items)).toOption =
      some (200, records)) (before : Option String) (limit : Int) :
    Rpc.Page.recordsOf (.signatures "A" before limit) (pageReply items) = .ok (200, records) := by
  change Rpc.Page.recordsOf (.signatures "A" none 1) (pageReply items) = _
  cases hr : Rpc.Page.recordsOf (.signatures "A" none 1) (pageReply items) with
  | error fault =>
    rw [hr] at h
    cases h
  | ok result =>
    rw [hr] at h
    rw [Option.some.inj h]

theorem behind_pair {bound : String} : behind (some bound) pairHistory =
    if bound = "s" then [⟨"t", none, none⟩] else [] := by
  by_cases hfirst : bound = "s"
  · subst hfirst
    decide
  · by_cases hsecond : bound = "t"
    · subst hsecond
      decide
    · simp [behind, pairHistory, hfirst, Ne.symm hfirst, Ne.symm hsecond]

set_option maxRecDepth 20000 in
theorem pairNode_serves :
    Serves (fun request answer => answer = pairNode request) "A" pairHistory where
  distinct := by decide
  tells {before limit answer} hlimit hanswer := by
    subst hanswer
    refine ⟨200, ?_⟩
    cases before with
    | none =>
      change Rpc.Page.recordsOf _ (if limit = 1 then _ else _) = _
      split
      next hone =>
        subst hone
        exact recordsOf_pageReply (by decide +kernel) none 1
      next hmore =>
        have hlong : pairHistory.length ≤ limit.toNat := by
          change 2 ≤ limit.toNat
          omega
        rw [behind, List.take_of_length_le hlong]
        exact recordsOf_pageReply (by decide +kernel) none limit
    | some bound =>
      change Rpc.Page.recordsOf _ (if bound = "s" then _ else _) = _
      rw [behind_pair]
      split
      next =>
        have hlong : [(⟨"t", none, none⟩ : SignatureRecord)].length ≤ limit.toNat := by
          change 1 ≤ limit.toNat
          omega
        rw [List.take_of_length_le hlong]
        exact recordsOf_pageReply (by decide +kernel) (some bound) limit
      next =>
        rw [List.take_nil]
        exact recordsOf_pageReply (by decide +kernel) (some bound) limit

set_option maxRecDepth 20000 in
/-- One page and leases of ten; two pages and leases of one. A signature is processed already. -/
theorem index_slices_alike_of_two :
    let S := Surroundings.ofNode pairNode fun _ => .ok ()
    let start := { Tables.blank with signatures := [⟨"A", ⟨"t", none, none⟩, true, 0⟩] }
    let sliced : Limits := ⟨⟨"http://h", 1, by decide⟩, 3, .zero, 1, ⟨2, 1, .zero, by decide⟩⟩
    ∃ t t' counts counts' after after', (index Sample.limits "A").run.Runs t (.ok counts) ∧
      (index sliced "A").run.Runs t' (.ok counts') ∧ S.Leads start t after ∧
      S.Leads start t' after' ∧ counts.1.pages = 1 ∧ counts'.1.pages = 2 ∧
      after.untimed = after'.untimed := by
  intro S start sliced
  let w := { Sample.world (.ready start) with node := fun _ => pairNode }
  have hcalm : w.Calm pairNode := ⟨rfl, rfl, rfl, ⟨0, rfl, by decide⟩, fun _ _ => rfl⟩
  have hpages : ((index Sample.limits "A").run.run w).1.toOption.map (fun counts =>
      (counts.1.pages, counts.1.capReached)) = some (1, false) := by decide +kernel
  have hpages' : ((index sliced "A").run.run w).1.toOption.map (fun counts =>
      (counts.1.pages, counts.1.capReached)) = some (2, false) := by decide +kernel
  have hruns := (index Sample.limits "A").run.runs_trace w
  have hruns' := (index sliced "A").run.runs_trace w
  obtain ⟨after, -, hleads⟩ := (index Sample.limits "A").run.leads_trace hcalm rfl
  obtain ⟨after', -, hleads'⟩ := (index sliced "A").run.leads_trace hcalm rfl
  have hkeys : (start.signatures.map Store.SignatureRow.key).Nodup := by decide
  cases hr : ((index Sample.limits "A").run.run w).1 with
  | error _ =>
    rw [hr] at hpages
    cases hpages
  | ok counts =>
    cases hr' : ((index sliced "A").run.run w).1 with
    | error _ =>
      rw [hr'] at hpages'
      cases hpages'
    | ok counts' =>
      rw [hr] at hpages hruns
      rw [hr'] at hpages' hruns'
      obtain ⟨hcount, hcapped⟩ := Prod.mk.inj (Option.some.inj hpages)
      obtain ⟨hcount', hcapped'⟩ := Prod.mk.inj (Option.some.inj hpages')
      have hsteady : Sample.limits.client.Steady S.answers _ := Rpc.Client.steady_of_node pairNode
      have hsteady' : sliced.client.Steady S.answers _ := hsteady.of_url rfl
      have hlimit : Sample.limits.leaseLimit ≠ 0 := by decide
      have hlimit' : sliced.leaseLimit ≠ 0 := by decide
      have hsame := index_slices_alike pairNode_serves hsteady hsteady' hlimit hlimit' hkeys hruns
        hleads hruns' hleads' hcapped hcapped'
      exact ⟨_, _, counts, counts', after, after', hruns, hruns', hleads, hleads', hcount, hcount',
        hsame⟩

end Slices

end Worker

end AddressIndex
