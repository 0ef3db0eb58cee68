import AddressIndex.Api.Route
import AddressIndex.Proofs.Calls
import AddressIndex.Proofs.Jobs
import AddressIndex.Proofs.Numerals

/-! Asking after a job. The path of a job names its number, which the store is asked for once; the
answer is the job, that there is none, or that the store is unavailable. A number of more than 64
bits is more than the store can be asked for, and one of too many digits is not read. -/

namespace AddressIndex

/-! ### Numbers in paths -/

namespace Text

theorem head?_toDigits {n : Nat} (h : 0 < n) : (Nat.toDigits 10 n).head? ≠ some '0' := by
  induction n using Nat.strongRecOn with
  | _ n ih =>
    rcases Nat.lt_or_ge n 10 with hsmall | hlarge
    · rw [Nat.toDigits_of_lt_base hsmall]
      have hdigits : ∀ d < 10, 0 < d → Nat.digitChar d ≠ '0' := by decide
      simpa using hdigits n hsmall h
    · rw [Nat.toDigits_of_base_le (by omega) hlarge,
        List.head?_append_of_ne_nil _ Nat.toDigits_ne_nil]
      exact ih (n / 10) (by omega) (by omega)

theorem split_of_not_mem {c : Char} {cs : List Char} (h : c ∉ cs) : split c cs = [cs] := by
  induction cs with
  | nil => rfl
  | cons x rest ih =>
    rw [List.mem_cons, not_or] at h
    rw [split, if_neg (Ne.symm h.1), ih h.2]

/-- The characters of an integer that is written out. -/
theorem mem_toString {n : Int} {c : Char} (h : c ∈ (toString n).toList) : c = '-' ∨ isDigit c := by
  rw [toList_toString] at h
  split at h
  · exact .inr (isDigit_of_mem_toDigits h)
  · exact (List.mem_cons.mp h).imp_right isDigit_of_mem_toDigits

theorem not_mem_toString {n : Int} {c : Char} (hsign : c ≠ '-') (hdigit : isDigit c = false) :
    c ∉ (toString n).toList := by
  intro h
  rcases mem_toString h with hc | hc
  · exact hsign hc
  · rw [hdigit] at hc
    cases hc

theorem toString_ne_nil (n : Int) : (toString n).toList ≠ [] := by
  rw [toList_toString]
  split
  · exact Nat.toDigits_ne_nil
  · exact List.cons_ne_nil _ _

end Text

namespace Api

open Store (Database Query Calls Numbered fits)

section Numbers

variable {cs : List Char}

theorem withoutZeros?_toDigits (n : Nat) :
    withoutZeros? (Nat.toDigits 10 n) = some (Nat.toDigits 10 n) := by
  rcases Nat.eq_zero_or_pos n with rfl | hpos
  · decide
  · have hhead := Text.head?_toDigits hpos
    cases hdigits : Nat.toDigits 10 n with
    | nil => exact absurd hdigits Nat.toDigits_ne_nil
    | cons c rest =>
      have hdigit : Text.isDigit c := Text.isDigit_of_mem_toDigits (hdigits ▸ List.mem_cons_self)
      rw [hdigits] at hhead
      have hzero : c ≠ '0' := by simpa using hhead
      rw [withoutZeros?, if_neg hzero, if_pos hdigit]

theorem plainNumeral?_toString (n : Int) :
    plainNumeral? (toString n).toList = some (toString n).toList := by
  have hplus : '+' ∉ (toString n).toList := Text.not_mem_toString (by decide) (by decide)
  have hzeros := withoutZeros?_toDigits n.natAbs
  rw [Text.toList_toString] at hplus ⊢
  by_cases hsign : 0 ≤ n
  · rw [if_pos hsign] at hplus ⊢
    unfold plainNumeral?
    split
    next h => exact absurd (h ▸ List.mem_cons_self) hplus
    next h => exact absurd (h ▸ List.mem_cons_self) hplus
    next rest h =>
      have hdigit : Text.isDigit '-' :=
        Text.isDigit_of_mem_toDigits (n := n.natAbs) (h ▸ List.mem_cons_self)
      cases hdigit
    next => exact hzeros
  · rw [if_neg hsign, plainNumeral?, hzeros]
    rfl

theorem withoutFraction_of_not_mem (h : '.' ∉ cs) : withoutFraction cs = cs := by
  have hall : ∀ c ∈ cs, decide (c ≠ '.') = true := fun c hc => by
    rw [decide_eq_true_eq]
    rintro rfl
    exact h hc
  have hspan : cs.span (· ≠ '.') = (cs, []) := by
    rw [List.span_eq_takeWhile_dropWhile, List.takeWhile_eq_self_iff.mpr hall,
      List.dropWhile_eq_nil_iff.mpr hall]
  rw [withoutFraction, hspan]

theorem withoutGaps?_of_not_mem (hne : cs ≠ []) (h : '_' ∉ cs) : withoutGaps? cs = some cs := by
  simp [withoutGaps?, Text.split_of_not_mem h, hne]

theorem canonicalInteger?_toString (n : Int) : canonicalInteger? (toString n).toList =
    if n.natAbs < 10 ^ numberLength then some n else none := by
  have hdigits : ∀ c ∈ Nat.toDigits 10 n.natAbs, Text.isDigit c :=
    fun c => Text.isDigit_of_mem_toDigits
  have hempty : (Nat.toDigits 10 n.natAbs).isEmpty = false := by simp
  have hall : (Nat.toDigits 10 n.natAbs).all Text.isDigit = true := List.all_eq_true.mpr hdigits
  have hlength : n.natAbs < 10 ^ numberLength ↔
      ¬ numberLength < (Nat.toDigits 10 n.natAbs).length := by
    rw [Nat.not_lt, Nat.length_toDigits_le_iff (by omega) (by decide)]
  have hzero : ¬ ((Nat.toDigits 10 n.natAbs).head? = some '0' ∧
      Nat.toDigits 10 n.natAbs ≠ ['0']) := by
    rintro ⟨hhead, hmore⟩
    rcases Nat.eq_zero_or_pos n.natAbs with hn | hpos
    · rw [hn] at hmore
      exact hmore (by decide)
    · exact Text.head?_toDigits hpos hhead
  have hvalue : Text.digitsValue (Nat.toDigits 10 n.natAbs) = n.natAbs := by
    rw [Text.digitsValue_eq hdigits, Nat.ofDigitChars_ten_toDigits]
  rw [Text.toList_toString]
  by_cases hsign : 0 ≤ n
  · have habs : (n.natAbs : Int) = n := by omega
    rw [if_pos hsign, canonicalInteger?]
    · simp only [hempty, hall, hvalue, habs, hlength, Bool.not_true, Bool.or_false, Bool.false_or,
        Bool.and_eq_true, decide_eq_true_eq, Bool.false_eq_true, if_false, if_neg hzero, ite_not]
    · -- digits do not begin with a sign, so the branch for one does not apply
      intro rest h
      have hdigit : Text.isDigit '-' := hdigits '-' (h ▸ List.mem_cons_self)
      cases hdigit
  · have habs : -(n.natAbs : Int) = n := by omega
    rw [if_neg hsign, canonicalInteger?]
    simp only [hempty, hall, hvalue, habs, hlength, Bool.not_true, Bool.or_false, Bool.false_or,
      Bool.and_eq_true, decide_eq_true_eq, if_true, if_neg hzero, ite_not]

/-- The number that is written in a path is read, unless it has too many digits. -/
theorem pathInteger?_toString (n : Int) : pathInteger? (toString n).toList =
    if n.natAbs < 10 ^ numberLength then some n else none := by
  have hblank : ∀ c ∈ (toString n).toList, isPathBlank c = false := by
    intro c hc
    rcases Text.mem_toString hc with rfl | hdigit
    · decide
    · rw [Text.isDigit_iff] at hdigit
      have hkind : Text.isBlank c = false := by
        simp only [Text.isBlank, Bool.or_eq_false_iff, Bool.and_eq_false_iff,
          decide_eq_false_iff_not, beq_eq_false_iff_ne]
        omega
      rw [isPathBlank, hkind, Bool.false_and]
  have hpoint : '.' ∉ (toString n).toList := Text.not_mem_toString (by decide) (by decide)
  have hgap : '_' ∉ (toString n).toList := Text.not_mem_toString (by decide) (by decide)
  simp only [pathInteger?, Text.strip_of_none hblank, plainNumeral?_toString, Option.bind_eq_bind,
    Option.bind_some, withoutFraction_of_not_mem hpoint,
    withoutGaps?_of_not_mem (Text.toString_ne_nil n) hgap, canonicalInteger?_toString]

end Numbers

/-! ### One request -/

variable {id : Int} {body : Option String} {clock : Instant} {db : Database} {t : Trace}
  {reply : Except Store.Fault (Option Job)} {response : Http.Response}

/-- The path at which a job is asked after. -/
def jobPath (id : Int) : List Char := "/jobs/".toList ++ (toString id).toList

theorem withoutBreak_jobPath (id : Int) : withoutBreak (jobPath id) = jobPath id := by
  refine if_neg fun hlast => ?_
  rcases List.mem_append.mp (List.mem_of_getLast? hlast) with h | h
  · exact absurd h (by decide)
  · exact Text.not_mem_toString (by decide) (by decide) h

/-- No path without a number in it begins as the path of a job does. -/
theorem lookup_jobPath (id : Int) : fixedRoutes.lookup (String.ofList (jobPath id)) = none := by
  have hfixed : ∀ route ∈ fixedRoutes, route.1.toList.take 2 ≠ "/j".toList := by decide
  rw [List.lookup_eq_none_iff]
  intro route hroute
  rw [bne_iff_ne]
  intro hpath
  apply hfixed route hroute
  rw [← hpath, String.toList_ofList]
  rfl

theorem ofPath?_jobPath (id : Int) :
    Route.ofPath? (jobPath id) = some (.job (toString id).toList) := by
  have hafter : Text.after? "/jobs/".toList (jobPath id) = some (toString id).toList :=
    Text.after?_eq_some.mpr rfl
  have hone : ¬ ((toString id).toList.isEmpty || (toString id).toList.contains '/') = true := by
    have hslash : '/' ∉ (toString id).toList := Text.not_mem_toString (by decide) (by decide)
    simp only [Bool.or_eq_true, List.isEmpty_iff, List.contains_iff_mem, not_or]
    exact ⟨Text.toString_ne_nil id, hslash⟩
  simp only [Route.ofPath?, withoutBreak_jobPath, lookup_jobPath, hafter, if_neg hone]

/-- A request for a job is one to show it, if its number is read. -/
theorem answer_jobPath (id : Int) (body : Option String) : answer "GET" (jobPath id) body =
    if id.natAbs < 10 ^ numberLength then showJob id else pure .malformed := by
  have hmethod (digits : List Char) : (Route.methods (.job digits)).contains "GET" = true := rfl
  have hsame (response : Http.Response) : response.forMethod "GET" = response := if_neg (by decide)
  simp only [answer, ofPath?_jobPath, hmethod, if_true, Route.serve, pathInteger?_toString, hsame]
  rw [bind_pure]
  by_cases hshort : id.natAbs < 10 ^ numberLength
  · simp only [if_pos hshort]
  · simp only [if_neg hshort]

/-- What is told of a job, by what the store replied. -/
def told (id : Int) : Except Store.Fault (Option Job) → Http.Response
  | .ok (some job) => jobFound job
  | .ok none => jobNotFound id
  | .error fault => faultResponse (.store fault)

/-- The store is asked once, and the job is told of as it replies. -/
theorem runs_showJob : (showJob id).Runs t response ↔
    ∃ reply, t = [⟨.query (.job id), reply⟩] ∧ response = told id reply := by
  constructor
  · intro h
    obtain ⟨t₁, t₂, r, rfl, hquery, hrest⟩ := Program.runs_bind.mp h
    rcases Attempt.runs_query.mp hquery with ⟨job?, rfl, rfl⟩ | ⟨fault, rfl, rfl⟩
    · cases job? <;>
      · obtain ⟨rfl, rfl⟩ := Program.runs_pure.mp hrest
        exact ⟨_, rfl, rfl⟩
    · obtain ⟨rfl, rfl⟩ := Program.runs_pure.mp hrest
      exact ⟨_, rfl, rfl⟩
  · rintro ⟨reply, rfl, rfl⟩
    rcases reply with fault | _ | job <;> exact .act _ (.done _)

/-! ### The store -/

/-- The database may reply so to a query: with what the query comes to, or that it failed. -/
inductive MayReply (clock : Instant) (q : Query) (db : Database) : Except Store.Fault q.Reply → Prop
  | performed {reply : Except Store.Fault q.Reply} {db' : Database}
      (h : (q.perform clock).run.run db = (reply, db')) : MayReply clock q db reply
  | failed {fault : Store.Fault} (h : fault.kind = .store) : MayReply clock q db (.error fault)

/-- What the store comes to when it is asked for a job. -/
def lookedUp (id : Int) : Database → Except Store.Fault (Option Job)
  | .ready tables =>
    if fits id then .ok (tables.jobs.find? (·.id = id)) else .error .integerTooLarge
  | _ => .error (.database .job)

theorem run_job (clock : Instant) (id : Int) (db : Database) :
    ((Query.job id).perform clock).run.run db = (lookedUp id db, db) := by
  cases db with
  | ready tables =>
    refine (Store.run_passing tables).trans ?_
    simp only [List.findSome?_cons, List.findSome?_nil, Store.Parameter.fault?, lookedUp]
    cases fits id <;> rfl
  | bare | unreachable => rfl

theorem mayReply_job : MayReply clock (.job id) db reply ↔
    reply = lookedUp id db ∨ ∃ fault, fault.kind = .store ∧ reply = .error fault := by
  constructor
  · rintro (⟨hrun⟩ | ⟨hkind⟩)
    · rw [run_job] at hrun
      exact .inl (congrArg Prod.fst hrun).symm
    · exact .inr ⟨_, hkind, rfl⟩
  · rintro (rfl | ⟨fault, hkind, rfl⟩)
    · exact .performed (run_job clock id db)
    · exact .failed hkind

/-- The response that the documentation gives to a request for a job, among these jobs and for such
a reply of the store. -/
inductive Documented (id : Int) (jobs : List Job) :
    Except Store.Fault (Option Job) → Http.Response → Prop
  | found {job : Job} (stored : job ∈ jobs) (named : job.id = id)
      (alone : ∀ other ∈ jobs, other.id = id → other = job) :
    Documented id jobs (.ok (some job)) (jobFound job)
  | missing (unknown : ∀ job ∈ jobs, job.id ≠ id) :
    Documented id jobs (.ok none) (jobNotFound id)
  | failed {fault : Store.Fault} : Documented id jobs (.error fault) storeUnavailable

theorem documented_find {jobs : List Job} (hnumbered : Numbered jobs) (id : Int) :
    Documented id jobs (.ok (jobs.find? (·.id = id))) (told id (.ok (jobs.find? (·.id = id)))) := by
  cases hfind : jobs.find? (·.id = id) with
  | some job =>
    have hjob : job ∈ jobs := List.mem_of_find?_eq_some hfind
    have hid : job.id = id := by simpa using List.find?_some hfind
    exact .found hjob hid fun other hother hsame =>
      hnumbered.eq_of_id hother hjob (hsame.trans hid.symm)
  | none =>
    refine .missing fun job hjob hid => ?_
    simpa [hid] using List.find?_eq_none.mp hfind job hjob

theorem documented_error {jobs : List Job} {fault : Store.Fault} :
    Documented id jobs (.error fault) (told id (.error fault)) ↔ fault.kind = .store := by
  have htold : told id (.error fault) =
      if fault.kind = .store then storeUnavailable else .unforeseen := rfl
  rw [htold]
  constructor
  · intro h
    by_contra hkind
    rw [if_neg hkind] at h
    generalize hresponse : Http.Response.unforeseen = response at h
    cases h
    exact absurd (congrArg Http.Response.status hresponse) (by decide)
  · intro hkind
    rw [if_pos hkind]
    exact .failed

/-- Requests for the job are answered as documented: the store is asked for it once, and whatever
the database may reply, the response is the documented one. -/
structure Answered (clock : Instant) (db : Database) (id : Int) (body : Option String) : Prop where
  asks : ∀ t response, (answer "GET" (jobPath id) body).Runs t response →
    ∃ reply, t = [⟨.query (.job id), reply⟩]
  answers : ∀ reply, ∃ response,
    (answer "GET" (jobPath id) body).Runs [⟨.query (.job id), reply⟩] response
  documented : ∀ reply response,
    (answer "GET" (jobPath id) body).Runs [⟨.query (.job id), reply⟩] response →
      MayReply clock (.job id) db reply → Documented id db.tables.jobs reply response

theorem answered_iff_of_short (h : id.natAbs < 10 ^ numberLength) : Answered clock db id body ↔
    ∀ reply, MayReply clock (.job id) db reply →
      Documented id db.tables.jobs reply (told id reply) := by
  have hanswer : answer "GET" (jobPath id) body = showJob id := by
    rw [answer_jobPath, if_pos h]
  constructor
  · intro hanswered reply
    refine hanswered.documented reply (told id reply) ?_
    rw [hanswer]
    exact runs_showJob.mpr ⟨reply, rfl, rfl⟩
  · intro hdocumented
    refine ⟨fun t response hruns => ?_, fun reply => ⟨told id reply, ?_⟩,
      fun reply response hruns hreply => ?_⟩
    · rw [hanswer] at hruns
      obtain ⟨reply, rfl, -⟩ := runs_showJob.mp hruns
      exact ⟨reply, rfl⟩
    · rw [hanswer]
      exact runs_showJob.mpr ⟨reply, rfl, rfl⟩
    · rw [hanswer] at hruns
      obtain ⟨asked, hasked, rfl⟩ := runs_showJob.mp hruns
      cases hasked
      exact hdocumented reply hreply

theorem short_of_fits (h : fits id) : id.natAbs < 10 ^ numberLength := by
  have hbounds : -9223372036854775808 ≤ id ∧ id ≤ 9223372036854775807 := of_decide_eq_true h
  have hlength : 10 ^ 19 ≤ 10 ^ numberLength := Nat.pow_le_pow_right (by decide) (by decide)
  have hten : 10 ^ 19 = 10000000000000000000 := by decide
  omega

theorem short_of_answered (h : Answered clock db id body) : id.natAbs < 10 ^ numberLength := by
  by_contra hlong
  obtain ⟨response, hruns⟩ := h.answers (.ok none)
  rw [answer_jobPath, if_neg hlong] at hruns
  cases (Program.runs_pure.mp hruns).1

theorem answered_iff (hnumbered : Numbered db.tables.jobs) : Answered clock db id body ↔
    fits id ∨ id.natAbs < 10 ^ numberLength ∧ ∀ tables, db ≠ .ready tables := by
  constructor
  · intro hanswered
    by_contra hnot
    rw [not_or] at hnot
    obtain ⟨hfits, hready⟩ := hnot
    have hshort := short_of_answered hanswered
    obtain ⟨tables, rfl⟩ : ∃ tables, db = .ready tables := by
      by_contra hclosed
      exact hready ⟨hshort, fun tables hdb => hclosed ⟨tables, hdb⟩⟩
    have hlooked : lookedUp id (.ready tables) = .error .integerTooLarge := if_neg hfits
    have hdocumented := (answered_iff_of_short hshort).mp hanswered _ (mayReply_job.mpr (.inl rfl))
    rw [hlooked, documented_error] at hdocumented
    cases hdocumented
  · intro hread
    have hshort : id.natAbs < 10 ^ numberLength := hread.elim short_of_fits And.left
    refine (answered_iff_of_short hshort).mpr fun reply hreply => ?_
    rcases mayReply_job.mp hreply with rfl | ⟨fault, hkind, rfl⟩
    · cases db with
      | ready tables =>
        have hfits : fits id := hread.resolve_right fun h => h.2 tables rfl
        simp only [lookedUp, if_pos hfits]
        exact documented_find hnumbered id
      | bare | unreachable => exact documented_error.mpr rfl
    · exact documented_error.mpr hkind

/-- After any calls on a store that held nothing, requests for a job are answered as documented just
for the numbers that the store can be asked for, and for all that are read while it has no tables.
The store refuses a larger number with a fault that is not one of the store, so the service fails.
A number of too many digits is not read, and the store is not asked. -/
theorem answered_as_documented {start : Database} {made : List Store.Made}
    (hcalls : Calls start made db) (hstart : start.tables = .blank) (clock : Instant) (id : Int)
    (body : Option String) :
    (Answered clock db id body ↔
      fits id ∨ id.natAbs < 10 ^ numberLength ∧ ∀ tables, db ≠ .ready tables) ∧
    (¬ fits id → id.natAbs < 10 ^ numberLength → ∀ tables, db = .ready tables →
      MayReply clock (.job id) db (.error .integerTooLarge) ∧
        ∀ response, (answer "GET" (jobPath id) body).Runs
          [⟨.query (.job id), .error .integerTooLarge⟩] response ↔ response = .unforeseen) ∧
    (10 ^ numberLength ≤ id.natAbs → ∀ t response,
      (answer "GET" (jobPath id) body).Runs t response ↔ t = [] ∧ response = .malformed) := by
  have hnumbered : Numbered db.tables.jobs := by
    apply hcalls.keeps (R := fun tables => Numbered tables.jobs)
    · intro now q tables h
      exact Query.next_numbered h
    · rw [hstart]
      exact Numbered.blank
  refine ⟨answered_iff hnumbered, fun hfits hshort tables hdb => ⟨?_, fun response => ?_⟩,
    fun hlong t response => ?_⟩
  · subst hdb
    exact mayReply_job.mpr (.inl (if_neg hfits).symm)
  · rw [answer_jobPath, if_pos hshort, runs_showJob]
    constructor
    · rintro ⟨reply, hreply, rfl⟩
      cases hreply
      rfl
    · rintro rfl
      exact ⟨_, rfl, rfl⟩
  · rw [answer_jobPath, if_neg (Nat.not_lt.mpr hlong)]
    exact Program.runs_pure

/-- A store with one job, after it was made: that job and a small unknown one are told of, and the
first number that the store cannot be asked for makes the service fail. -/
theorem answered_as_documented_of_one_job : ∃ made db, Calls .bare made db ∧
    db.tables.jobs.map (·.id) = [1] ∧ Answered (.whole 5) db 1 none ∧
    Answered (.whole 5) db (-7) none ∧ ¬ Answered (.whole 5) db (Store.greatestInteger + 1) none ∧
    ∃ t, (answer "GET" (jobPath (Store.greatestInteger + 1)) none).Runs t .unforeseen := by
  let job : Job := ⟨1, "A", .pending, none, none, 5, 5⟩
  let stored : Database := .ready { Store.Tables.blank with jobs := [job] }
  have hcreate : (Store.Call.query .create (by decide)).Goes (.whole 5) .bare (.ok ())
      (.ready .blank) := Store.Call.goes_query.mpr (.inl ⟨_, rfl, .performed rfl⟩)
  have hadd : (Store.Call.query (.addJob "A") (by decide)).Goes (.whole 5) (.ready .blank)
      (.ok (job, true)) stored := Store.Call.goes_query.mpr (.inl ⟨_, rfl, .performed rfl⟩)
  have hcalls : Calls .bare [⟨_, _, _⟩, ⟨_, _, _⟩] stored := .next (.next .start hcreate) hadd
  have h (id : Int) := answered_as_documented hcalls rfl (.whole 5) id none
  have hlarge : ¬ fits (Store.greatestInteger + 1) := by decide
  have hread : (Store.greatestInteger + 1).natAbs < 10 ^ numberLength := by
    have hlength : 10 ^ 19 ≤ 10 ^ numberLength := Nat.pow_le_pow_right (by decide) (by decide)
    exact Nat.lt_of_lt_of_le (by decide) hlength
  refine ⟨_, _, hcalls, rfl, (h 1).1.mpr (.inl (by decide)), (h (-7)).1.mpr (.inl (by decide)),
    fun hanswered => ?_, _, ((h _).2.1 hlarge hread _ rfl).2 .unforeseen |>.mpr rfl⟩
  rcases (h _).1.mp hanswered with hfits | ⟨-, hclosed⟩
  · exact hlarge hfits
  · exact hclosed _ rfl

end Api

end AddressIndex
