import AddressIndex.Api.Route
import AddressIndex.Proofs.Keys
import AddressIndex.Proofs.Lifecycle

/-! Addresses that are handed in. A job is added for a text, but an address means a key. Of one key
there is one text once the blanks are off, so requests for a key are given one job: the first that
is accepted makes it, and the later ones find it, whatever workers did with it in between. -/

namespace AddressIndex

open Store (Database Tables Query Numbered shown)

namespace Api

variable {body : Option String} {t : Trace} {response : Http.Response} {clock : Instant}
  {db db' : Database} {address : String} {key : List UInt8}

/-! ### One request -/

/-- The key that the address of a body denotes. -/
def keyOf? (body : Option String) : Option (List UInt8) :=
  match addressOf body with
  | .ok address => (Base58.decode? (Text.trim address)).filter (·.length = Base58.keySize)
  | .error _ => none

/-- Whether a response tells of a job. -/
def isAccepted (response : Http.Response) : Bool := response.status = 201 || response.status = 200

/-- A request for an address is one for its job. -/
theorem answer_analyze : answer "POST" "/analyze".toList body = analyze body := by
  have hroute : Route.ofPath? "/analyze".toList = some .analyze := by decide
  have hmethod : (Route.methods .analyze).contains "POST" = true := by decide
  have hsame (response : Http.Response) : response.forMethod "POST" = response := if_neg (by decide)
  simp only [answer, hroute, hmethod, if_true, Route.serve, hsame]
  exact bind_pure _

theorem isKey_iff : Base58.isKey address ↔
    ∃ key, Base58.decode? address = some key ∧ key.length = Base58.keySize := by
  simp [Base58.isKey, Option.any_eq_true]

theorem isAccepted_accepted (job : Job) (created : Bool) : isAccepted (accepted job created) := by
  cases created <;> rfl

theorem isAccepted_faultResponse (fault : Fault) : isAccepted (faultResponse fault) = false := by
  unfold faultResponse
  split <;> rfl

theorem isAccepted_bodyFault (fault : BodyFault) : isAccepted fault.response = false := by
  cases fault with
  | malformed shown =>
    change isAccepted (if hasUnwritable shown then .unforeseen else .malformed) = false
    split <;> rfl
  | _ => rfl

/-- A request either names no key and asks the store for nothing, or it asks for the job of the
address that denotes its key. -/
theorem runs_analyze_cases (h : (analyze body).Runs t response) :
    (keyOf? body = none ∧ t = [] ∧ isAccepted response = false ∧
      ∀ address, addressOf body = .ok address → response = invalidAddress) ∨
    ∃ address key, Text.trim address = address ∧ Base58.decode? address = some key ∧
      key.length = Base58.keySize ∧ keyOf? body = some key ∧
      ((∃ job created, t = [⟨.query (.addJob address), .ok (job, created)⟩] ∧
          response = accepted job created) ∨
        ∃ fault, t = [⟨.query (.addJob address), .error fault⟩] ∧ isAccepted response = false) := by
  unfold analyze at h
  unfold keyOf?
  cases haddress : addressOf body with
  | error fault =>
    rw [haddress] at h
    obtain ⟨rfl, rfl⟩ := Program.runs_pure.mp h
    exact .inl ⟨rfl, rfl, isAccepted_bodyFault fault, nofun⟩
  | ok address =>
    rw [haddress] at h
    dsimp only [validAddress?] at h ⊢
    by_cases hkey : Base58.isKey (Text.trim address)
    · rw [if_pos hkey] at h
      obtain ⟨key, hdecode, hlength⟩ := isKey_iff.mp hkey
      refine .inr ⟨Text.trim address, key, Text.trim_trim address, hdecode, hlength, ?_, ?_⟩
      · rw [hdecode]
        exact Option.filter_eq_some_iff.mpr ⟨rfl, decide_eq_true hlength⟩
      · obtain ⟨t₁, t₂, r, rfl, hquery, hrest⟩ := Program.runs_bind.mp h
        rcases Attempt.runs_query.mp hquery with ⟨⟨job, created⟩, rfl, rfl⟩ | ⟨fault, rfl, rfl⟩
        · obtain ⟨rfl, rfl⟩ := Program.runs_pure.mp hrest
          exact .inl ⟨job, created, rfl, rfl⟩
        · obtain ⟨rfl, rfl⟩ := Program.runs_pure.mp hrest
          exact .inr ⟨fault, rfl, isAccepted_faultResponse _⟩
    · rw [if_neg hkey] at h
      obtain ⟨rfl, rfl⟩ := Program.runs_pure.mp h
      refine .inl ⟨?_, rfl, rfl, fun _ _ => rfl⟩
      refine Option.filter_eq_none_iff.mpr fun key hdecode hlength => hkey ?_
      exact isKey_iff.mpr ⟨key, hdecode, of_decide_eq_true hlength⟩

/-- A request for a key that the store answers. -/
theorem runs_analyze_of_key (hkey : keyOf? body = some key) :
    ∃ address, Text.trim address = address ∧ Base58.decode? address = some key ∧
      key.length = Base58.keySize ∧ ∀ job created,
        (analyze body).Runs [⟨.query (.addJob address), .ok (job, created)⟩]
          (accepted job created) := by
  unfold keyOf? at hkey
  unfold analyze
  cases haddress : addressOf body with
  | error fault =>
    rw [haddress] at hkey
    cases hkey
  | ok address =>
    rw [haddress] at hkey
    obtain ⟨hdecode, hlength⟩ := Option.filter_eq_some_iff.mp hkey
    have hlength := of_decide_eq_true hlength
    refine ⟨Text.trim address, Text.trim_trim address, hdecode, hlength, fun job created => ?_⟩
    dsimp only [validAddress?]
    rw [if_pos (isKey_iff.mpr ⟨key, hdecode, hlength⟩)]
    exact .act _ (.done _)

/-! ### Requests among workers -/

/-- A request and the response to it. -/
structure Handled where
  body : Option String
  response : Http.Response

namespace Handled

def key? (one : Handled) : Option (List UInt8) := keyOf? one.body

def accepted (one : Handled) : Bool := isAccepted one.response

/-- The response is that the key has the job, which is new or not. -/
def Reports (one : Handled) (job : Job) (created : Bool) : Prop :=
  ∃ row : Job, row.id = job.id ∧ row.address = job.address ∧ one.response = Api.accepted row created

end Handled

/-- Requests that were handled, the latest last, on a store that was empty at first. Workers may
make any queries but those that add a job. -/
inductive Requests : List Handled → Database → Prop
  | start : Requests [] (.ready .blank)
  | request {done : List Handled} {db db' : Database} {clock : Instant} {body : Option String}
      {t : Trace} {response : Http.Response} (before : Requests done db)
      (runs : (answer "POST" "/analyze".toList body).Runs t response)
      (comes : t.ComesAbout clock db db') : Requests (done ++ [⟨body, response⟩]) db'
  | worker {done : List Handled} {db db' : Database} {clock : Instant} {q : Query}
      {reply : Except Store.Fault q.Reply} (before : Requests done db)
      (other : ∀ address, q ≠ .addJob address) (goes : q.Goes clock db reply db') :
      Requests done db'

/-- The jobs after requests. -/
structure OneJobPerKey (done : List Handled) (jobs : List Job) : Prop where
  numbered : Numbered jobs
  stored : ∀ job ∈ jobs, Text.trim job.address = job.address ∧
    ∃ key, Base58.decode? job.address = some key ∧ key.length = Base58.keySize
  /-- No two jobs are of one key. -/
  apart : (jobs.map fun job => Base58.decode? job.address).Nodup
  /-- A job is that of a key that some accepted request named. -/
  asked : ∀ job ∈ jobs, ∃ one ∈ done, one.accepted ∧ one.key? = Base58.decode? job.address
  /-- An accepted request is given the job of its key, as new if none before it was. -/
  reports : ∀ before one after, done = before ++ one :: after → one.accepted →
    ∃ job ∈ jobs, one.key? = Base58.decode? job.address ∧
      one.Reports job (before.all fun earlier => !(earlier.accepted && earlier.key? = one.key?))

/-! ### What steps keep -/

namespace OneJobPerKey

variable {done : List Handled} {jobs jobs' : List Job} {one : Handled}

theorem start : OneJobPerKey [] [] where
  numbered := .blank
  stored _ hjob := by cases hjob
  apart := .nil
  asked _ hjob := by cases hjob
  reports before one after hsplit := by simp at hsplit

theorem asked_before {job : Job} (h : OneJobPerKey done jobs) (hjob : job ∈ jobs) :
    ∃ earlier ∈ done ++ [one], earlier.accepted ∧ earlier.key? = Base58.decode? job.address := by
  obtain ⟨earlier, hearlier, hasked⟩ := h.asked job hjob
  exact ⟨earlier, List.mem_append_left _ hearlier, hasked⟩

theorem refused (h : OneJobPerKey done jobs) (hrefused : one.accepted = false) :
    OneJobPerKey (done ++ [one]) jobs where
  numbered := h.numbered
  stored := h.stored
  apart := h.apart
  asked _ hjob := h.asked_before hjob
  reports before last after hsplit haccepted := by
    rcases Store.concat_eq_split.mp hsplit with ⟨rfl, rfl, rfl⟩ | ⟨rest, rfl, rfl⟩
    · rw [hrefused] at haccepted
      cases haccepted
    · exact h.reports before last rest rfl haccepted

/-- A request that is given the job that its key has. -/
theorem found {job : Job} (h : OneJobPerKey done jobs) (hjob : job ∈ jobs)
    (hkey : one.key? = Base58.decode? job.address) (hreports : one.Reports job false) :
    OneJobPerKey (done ++ [one]) jobs where
  numbered := h.numbered
  stored := h.stored
  apart := h.apart
  asked _ hother := h.asked_before hother
  reports before last after hsplit haccepted := by
    rcases Store.concat_eq_split.mp hsplit with ⟨rfl, rfl, rfl⟩ | ⟨rest, rfl, rfl⟩
    · -- the job is there because an earlier request for the key was accepted
      obtain ⟨earlier, hearlier, hbefore, hsame⟩ := h.asked job hjob
      have hknown : (before.all fun earlier =>
          !(earlier.accepted && earlier.key? = last.key?)) = false := by
        refine List.all_eq_false.mpr ⟨earlier, hearlier, ?_⟩
        simp [hbefore, hsame, hkey]
      exact ⟨job, hjob, hkey, hknown ▸ hreports⟩
    · exact h.reports before last rest rfl haccepted

/-- A request whose key has no job yet, which gets one. -/
theorem added {job : Job} (h : OneJobPerKey done jobs) (hid : job.id = jobs.length + 1)
    (htrimmed : Text.trim job.address = job.address)
    (hdecode : Base58.decode? job.address = some key) (hlength : key.length = Base58.keySize)
    (hnew : ∀ other ∈ jobs, other.address ≠ job.address) (hkey : one.key? = some key)
    (haccepted : one.accepted) (hreports : one.Reports job true) :
    OneJobPerKey (done ++ [one]) (jobs ++ [job]) := by
  -- a job of the same key would have the same address
  have hapart : ∀ other ∈ jobs, Base58.decode? other.address ≠ some key := fun other hother hsame =>
    hnew other hother (Base58.decode?_injective hsame hdecode)
  refine ⟨h.numbered.add hid, ?_, ?_, ?_, ?_⟩
  · intro row hrow
    rcases List.mem_append.mp hrow with hrow | hrow
    · exact h.stored row hrow
    · obtain rfl := List.mem_singleton.mp hrow
      exact ⟨htrimmed, key, hdecode, hlength⟩
  · rw [List.map_append, List.map_singleton]
    refine List.nodup_append.mpr ⟨h.apart, List.nodup_singleton _, ?_⟩
    intro decoded hold decoded' hlast hsame
    obtain ⟨other, hother, rfl⟩ := List.mem_map.mp hold
    exact hapart other hother (hsame.trans ((List.mem_singleton.mp hlast).trans hdecode))
  · intro row hrow
    rcases List.mem_append.mp hrow with hrow | hrow
    · exact h.asked_before hrow
    · obtain rfl := List.mem_singleton.mp hrow
      exact ⟨one, List.mem_append_right _ List.mem_cons_self, haccepted, hkey.trans hdecode.symm⟩
  · intro before last after hsplit hlast
    rcases Store.concat_eq_split.mp hsplit with ⟨rfl, rfl, rfl⟩ | ⟨rest, rfl, rfl⟩
    · have hfirst : (before.all fun earlier =>
          !(earlier.accepted && earlier.key? = last.key?)) = true := by
        refine List.all_eq_true.mpr fun earlier hearlier => ?_
        by_contra hboth
        have hboth : earlier.accepted ∧ earlier.key? = last.key? := by simpa using hboth
        obtain ⟨start, rest, rfl⟩ := List.append_of_mem hearlier
        obtain ⟨other, hother, hsame, -⟩ := h.reports start earlier rest rfl hboth.1
        exact hapart other hother (hsame.symm.trans (hboth.2.trans hkey))
      exact ⟨job, List.mem_append_right _ List.mem_cons_self, hkey.trans hdecode.symm,
        hfirst ▸ hreports⟩
    · obtain ⟨row, hrow, hreported⟩ := h.reports before last rest rfl hlast
      exact ⟨row, List.mem_append_left _ hrow, hreported⟩

end OneJobPerKey

namespace Requests

variable {done : List Handled}

theorem ready (h : Requests done db) : ∃ tables, db = .ready tables := by
  induction h with
  | start => exact ⟨_, rfl⟩
  | request before runs comes ih =>
    obtain ⟨tables, rfl⟩ := ih
    rw [answer_analyze] at runs
    rcases runs_analyze_cases runs with ⟨-, rfl, -⟩ | ⟨_, _, -, -, -, -, hasked⟩
    · exact ⟨tables, comes.of_nil⟩
    · rcases hasked with ⟨_, _, rfl, -⟩ | ⟨_, rfl, -⟩ <;> exact comes.of_singleton.ready
  | worker before other goes ih =>
    obtain ⟨tables, rfl⟩ := ih
    exact goes.ready

end Requests

/-- What the next request meets. -/
structure NextRequest (db : Database) : Prop where
  /-- One that is not accepted, for whatever reason, leaves the database as it is. -/
  refused : ∀ clock body t response db', (answer "POST" "/analyze".toList body).Runs t response →
    t.ComesAbout clock db db' → isAccepted response = false → db' = db
  /-- An address that denotes no key is refused. -/
  invalid : ∀ body address t response, addressOf body = .ok address → keyOf? body = none →
    (answer "POST" "/analyze".toList body).Runs t response → response = invalidAddress
  /-- One for a key can be accepted, at a time that can be stored. -/
  admitted : ∀ clock now body key, clock.seconds = .ok now → Store.fits now →
    keyOf? body = some key → ∃ t job created db',
      (answer "POST" "/analyze".toList body).Runs t (accepted job created) ∧
        t.ComesAbout clock db db'

theorem decode?_empty (hdecode : Base58.decode? "" = some key) : key.length ≠ Base58.keySize := by
  obtain ⟨ds, hds, rfl⟩ := Base58.decode?_eq_some.mp hdecode
  obtain rfl : ds = [] := by simpa using hds.symm
  have hnone : Base58.bytesOf (Base58.ofDigits []) = [] := by
    rw [Base58.bytesOf]
    rfl
  rw [hnone]
  decide

theorem Requests.next {done : List Handled} (h : Requests done db) : NextRequest db where
  refused clock body t response db' hruns hcomes hrefused := by
    rw [answer_analyze] at hruns
    rcases runs_analyze_cases hruns with ⟨-, rfl, -⟩ | ⟨_, _, -, -, -, -, hasked⟩
    · exact hcomes.of_nil
    · rcases hasked with ⟨job, created, -, rfl⟩ | ⟨fault, rfl, -⟩
      · rw [isAccepted_accepted] at hrefused
        cases hrefused
      · exact hcomes.of_singleton.error
  invalid body address t response haddress hkey hruns := by
    rw [answer_analyze] at hruns
    rcases runs_analyze_cases hruns with ⟨-, -, -, hinvalid⟩ | ⟨_, _, -, -, -, hsome, -⟩
    · exact hinvalid address haddress
    · rw [hkey] at hsome
      cases hsome
  admitted clock now body key hclock hnow hkey := by
    obtain ⟨tables, rfl⟩ := h.ready
    obtain ⟨address, htrimmed, hdecode, hlength, hruns⟩ := runs_analyze_of_key hkey
    have hnonempty : Text.trim address ≠ "" := by
      rw [htrimmed]
      rintro rfl
      exact decode?_empty hdecode hlength
    have hwritable : Text.hasHalf (Text.trim address) = false := by
      rw [htrimmed]
      exact (Base58.decode?_isAscii hdecode).hasHalf
    have hdone := @Store.addJob_tells _ _ tables _ hnonempty hwritable hclock hnow
    rw [answer_analyze]
    exact ⟨_, _, _, _, hruns _ _, .query (.performed hdone) (.done _)⟩

end Api

end AddressIndex
