import AddressIndex.Proofs.Calls
import AddressIndex.Proofs.Jobs
import AddressIndex.Proofs.Numerals

/-! The life of a job. `Moves` says what one call does to the jobs of a store, by how the call ends;
what holds of the jobs after any number of calls follows from it. A job enters as pending, is taken
by a claim when it is the oldest one, and leaves the hands that hold it by an update that knows
them. -/

namespace AddressIndex

/-- The texts in the row of a job, but for its status. -/
def Job.texts (job : Job) : List String := job.address :: job.owner.toList

namespace Store

variable {clock : Instant} {db db' : Database} {jobs jobs' : List Job} {last : Made}

/-! ### One call -/

/-- What a call that ends so does to the jobs. -/
inductive Moves (jobs : List Job) : Made → List Job → Prop
  | failed {clock : Instant} {call : Call} {fault : AddressIndex.Fault} :
    Moves jobs ⟨clock, call, .error fault⟩ jobs
  | elsewhere {clock : Instant} {q : Query} {whole : q.operation ≠ .claim} {reply : q.Reply}
      (writes : ¬ q.WritesJobs) (reads : ∀ id, q ≠ .job id) :
    Moves jobs ⟨clock, .query q whole, .ok reply⟩ jobs
  | looked {clock : Instant} {id : Int} {whole : (Query.job id).operation ≠ .claim} :
    Moves jobs ⟨clock, .query (.job id) whole, .ok (jobs.find? (·.id = id))⟩ jobs
  | known {clock : Instant} {address : String} {whole : (Query.addJob address).operation ≠ .claim}
      {job : Job} (found : jobs.find? (·.address = Text.trim address) = some job) :
    Moves jobs ⟨clock, .query (.addJob address) whole, .ok (job, false)⟩ jobs
  | added {clock : Instant} {address : String} {whole : (Query.addJob address).operation ≠ .claim}
      {job : Job} (unknown : ∀ other ∈ jobs, other.address ≠ Text.trim address)
      (nonempty : Text.trim address ≠ "") (writable : Text.hasHalf (Text.trim address) = false)
      (fresh : job = ⟨jobs.length + 1, Text.trim address, .pending, none, none, shown clock,
        shown clock⟩) :
    Moves jobs ⟨clock, .query (.addJob address) whole, .ok (job, true)⟩ (jobs ++ [job])
  | idle {clock : Instant} {worker : Option Int} {owner : Option String}
      (nothing : oldestPending jobs = none) :
    Moves jobs ⟨clock, .claim worker owner, .ok none⟩ jobs
  | claimed {clock : Instant} {worker : Option Int} {owner : Option String} {job taken : Job}
      (first : oldestPending jobs = some job) (writable : ∀ s ∈ owner, Text.hasHalf s = false)
      (grant : taken = { job with status := .indexing, worker, owner, updated := shown clock }) :
    Moves jobs ⟨clock, .claim worker owner, .ok (some taken)⟩ (changeJob jobs job.id fun _ => taken)
  | unheld {clock : Instant} {id : Int} {word : String} {worker : Option Int}
      {owner : Option String} {whole : (Query.updateJob id word worker owner).operation ≠ .claim}
      (free : ∀ job ∈ jobs, job.id = id → ¬ job.heldBy worker owner) :
    Moves jobs ⟨clock, .query (.updateJob id word worker owner) whole, .ok false⟩ jobs
  | updated {clock : Instant} {word : String} {status : JobStatus} {worker : Option Int}
      {owner : Option String} {job : Job}
      {whole : (Query.updateJob job.id word worker owner).operation ≠ .claim} (stored : job ∈ jobs)
      (held : job.heldBy worker owner) (names : JobStatus.ofWord? word = some status) :
    Moves jobs ⟨clock, .query (.updateJob job.id word worker owner) whole, .ok true⟩
      (changeJob jobs job.id fun job => { job with status, updated := shown clock })

/-- An addition that succeeds is one of an address, and the address can be stored. -/
theorem Query.addJob_admits {address : String} {reply : Job × Bool}
    (h : ((Query.addJob address).perform clock).run.run db = (.ok reply, db')) :
    Text.trim address ≠ "" ∧ Text.hasHalf (Text.trim address) = false := by
  simp only [Query.perform, Action.addJob] at h
  split at h
  next => cases h
  next hsome =>
    obtain ⟨hstored, -⟩ := passing_ok (timed_ok h)
    exact ⟨by simpa using hsome, by simpa using hstored (.text _) List.mem_cons_self⟩

/-- Who is granted a job has a name that can be stored, if any. -/
theorem Query.take_admits {id : Int} {worker : Option Int} {owner : Option String}
    {reply : Option Job}
    (h : ((Query.take id worker owner).perform clock).run.run db = (.ok reply, db')) :
    ∀ s ∈ owner, Text.hasHalf s = false := by
  obtain ⟨hstored, -⟩ := passing_ok (timed_ok h)
  exact Parameter.stored_text?.mp
    (List.forall_mem_append.mp (List.forall_mem_append.mp hstored).1).2

/-- Who moves a job on has a name that can be stored, if any. -/
theorem Query.updateJob_admits {id : Int} {word : String} {worker : Option Int}
    {owner : Option String} {reply : Bool}
    (h : ((Query.updateJob id word worker owner).perform clock).run.run db = (.ok reply, db')) :
    ∀ s ∈ owner, Text.hasHalf s = false := by
  simp only [Query.perform, Action.updateJob] at h
  split at h
  next => cases h
  next =>
    obtain ⟨hstored, -⟩ := passing_ok (timed_ok h)
    exact Parameter.stored_text?.mp (List.forall_mem_append.mp hstored).2

/-- An update that succeeds is one to a status. -/
theorem Query.updateJob_names {id : Int} {word : String} {worker : Option Int}
    {owner : Option String} {reply : Bool}
    (h : ((Query.updateJob id word worker owner).perform clock).run.run db = (.ok reply, db')) :
    ∃ status, JobStatus.ofWord? word = some status := by
  cases hword : JobStatus.ofWord? word with
  | some status => exact ⟨status, rfl⟩
  | none =>
    simp only [Query.perform, Action.updateJob, hword] at h
    cases h

/-- A claim that is alone finds its candidate still pending: it takes the oldest job or there is
none. -/
theorem Call.goes_claim {worker : Option Int} {owner : Option String} {found : Option Job}
    (hnumbered : Numbered db.tables.jobs)
    (h : (Call.claim worker owner).Goes clock db (.ok found) db') :
    (oldestPending db.tables.jobs = none ∧ found = none ∧ db' = db) ∨
      ∃ job taken, oldestPending db.tables.jobs = some job ∧
        (∀ s ∈ owner, Text.hasHalf s = false) ∧
        taken = { job with status := .indexing, worker, owner, updated := shown clock } ∧
        found = some taken ∧
        db'.tables.jobs = changeJob db.tables.jobs job.id fun _ => taken := by
  obtain ⟨t, hruns, hcomes⟩ := h
  change (claimWithin worker owner (2 + 1)).run.Runs t (.ok found) at hruns
  rw [claimWithin] at hruns
  obtain ⟨t₁, t₂, candidate, rfl, hlook, hrest⟩ := Attempt.runs_bind_ok.mp hruns
  obtain rfl := Attempt.runs_query_ok.mp hlook
  obtain ⟨mid, hlooked, hafter⟩ := hcomes.of_append
  have hlooks := hlooked.of_singleton
  have hcandidate : candidate = (oldestPending db.tables.jobs).map (·.id) := hlooks.answers.1
  -- nothing comes between the look and the taking, so the candidate is still pending then
  obtain rfl := hlooks.unchanged (by simp) rfl
  cases hfirst : oldestPending mid.tables.jobs with
  | none =>
    rw [hfirst] at hcandidate
    subst hcandidate
    obtain ⟨rfl, hfound⟩ := Attempt.runs_pure.mp hrest
    exact .inl ⟨rfl, Except.ok.inj hfound, hafter.of_nil⟩
  | some job =>
    rw [hfirst] at hcandidate
    subst hcandidate
    obtain ⟨t₃, t₄, reply, rfl, htake, hlast⟩ := Attempt.runs_bind_ok.mp hrest
    obtain rfl := Attempt.runs_query_ok.mp htake
    obtain ⟨mid', htaken, hend⟩ := hafter.of_append
    obtain ⟨hreply, htables⟩ := htaken.of_singleton.answers
    obtain ⟨hjob, hpending⟩ := oldestPending_some hfirst
    have hgranted : Query.granted (shown clock) job.id worker owner mid.tables.jobs = some _ :=
      Query.granted_of_pending hnumbered hjob hpending
    have hreply : reply = _ := hreply.trans hgranted
    subst hreply
    obtain ⟨rfl, hfound⟩ := Attempt.runs_pure.mp hlast
    have hwritable := Query.take_admits htaken.of_singleton.ok
    refine .inr ⟨job, _, rfl, hwritable, rfl, Except.ok.inj hfound, ?_⟩
    rw [hend.of_nil, htables]
    simp only [Query.next, hgranted]

/-- A call on numbered jobs goes in one of these ways. -/
theorem Call.Goes.moves {call : Call} {result : Except AddressIndex.Fault call.Reply}
    (hnumbered : Numbered db.tables.jobs) (h : call.Goes clock db result db') :
    Moves db.tables.jobs ⟨clock, call, result⟩ db'.tables.jobs := by
  cases call with
  | claim worker owner =>
    cases result with
    | error fault =>
      rw [h.error]
      exact .failed
    | ok found =>
      rcases Call.goes_claim hnumbered h with
        ⟨hnone, rfl, rfl⟩ | ⟨job, taken, hfirst, hwritable, htaken, rfl, hjobs⟩
      · exact .idle hnone
      · rw [hjobs]
        exact .claimed hfirst hwritable htaken
  | query q whole =>
    rcases Call.goes_query.mp h with ⟨reply, rfl, hgoes⟩ | ⟨fault, rfl, hgoes⟩
    · obtain ⟨hreply, htables⟩ := hgoes.answers
      rw [htables]
      cases q with
      | addJob address =>
        obtain ⟨hnonempty, hwritable⟩ := Query.addJob_admits hgoes.ok
        simp only [Query.answer] at hreply
        simp only [Query.next]
        cases hfind : db.tables.jobs.find? (·.address = Text.trim address) with
        | some job =>
          rw [hfind] at hreply
          subst hreply
          exact .known hfind
        | none =>
          rw [hfind] at hreply
          subst hreply
          refine .added (fun other hother => ?_) hnonempty hwritable rfl
          simpa using List.find?_eq_none.mp hfind other hother
      | updateJob id word worker owner =>
        obtain ⟨status, hstatus⟩ := Query.updateJob_names hgoes.ok
        have hreply : reply = Query.held id worker owner db.tables.jobs := hreply
        simp only [Query.next, hstatus]
        by_cases hheld : Query.held id worker owner db.tables.jobs
        · obtain ⟨job, hjob, rfl, hheldBy⟩ := (Query.held_iff hnumbered).mp hheld
          rw [if_pos hheld, hreply, hheld]
          exact .updated hjob hheldBy hstatus
        · rw [if_neg hheld, hreply, Bool.eq_false_iff.mpr hheld]
          refine .unheld fun job hjob hid hheldBy => hheld ?_
          exact (Query.held_iff hnumbered).mpr ⟨job, hjob, hid, hheldBy⟩
      | take id worker owner => exact absurd rfl whole
      | job id =>
        subst hreply
        exact .looked
      | _ => exact .elsewhere id (by simp)
    · rw [hgoes.error]
      exact .failed

/-! ### Jobs after any calls -/

/-- What holds of the jobs of a store that was empty at first. -/
structure Proper (jobs : List Job) : Prop where
  numbered : Numbered jobs
  addresses : (jobs.map (·.address)).Nodup
  trimmed : ∀ job ∈ jobs, job.address ≠ "" ∧ Text.trim job.address = job.address
  writable : ∀ job ∈ jobs, ∀ s ∈ job.texts, Text.hasHalf s = false

namespace Proper

theorem blank : Proper (Database.ready .blank).tables.jobs :=
  ⟨.blank, .nil, nofun, nofun⟩

theorem change {id : Int} {f : Job → Job} (h : Proper jobs)
    (hid : ∀ job : Job, job.id = id → (f job).id = id)
    (haddress : ∀ job ∈ jobs, job.id = id → (f job).address = job.address)
    (hwritable : ∀ job ∈ jobs, job.id = id → ∀ s ∈ (f job).texts, Text.hasHalf s = false) :
    Proper (changeJob jobs id f) := by
  refine ⟨h.numbered.change hid, ?_, fun row hrow => ?_, fun row hrow => ?_⟩
  · rw [Query.map_changeJob haddress]
    exact h.addresses
  · obtain ⟨job, hjob, rfl⟩ := mem_changeJob.mp hrow
    split
    next hsame =>
      rw [haddress job hjob hsame]
      exact h.trimmed job hjob
    next => exact h.trimmed job hjob
  · obtain ⟨job, hjob, rfl⟩ := mem_changeJob.mp hrow
    split
    next hsame => exact hwritable job hjob hsame
    next => exact h.writable job hjob

theorem add {job : Job} (h : Proper jobs) (hid : job.id = jobs.length + 1)
    (hnew : ∀ other ∈ jobs, other.address ≠ job.address)
    (htrimmed : job.address ≠ "" ∧ Text.trim job.address = job.address)
    (hwritable : ∀ s ∈ job.texts, Text.hasHalf s = false) :
    Proper (jobs ++ [job]) := by
  refine ⟨h.numbered.add hid, ?_, fun row hrow => ?_, fun row hrow => ?_⟩
  · rw [List.map_append, List.map_singleton]
    refine List.nodup_append.mpr ⟨h.addresses, List.nodup_singleton _, ?_⟩
    intro address hold address' hlast
    obtain ⟨other, hother, rfl⟩ := List.mem_map.mp hold
    rw [List.mem_singleton.mp hlast]
    exact hnew other hother
  · rcases List.mem_append.mp hrow with hrow | hrow
    · exact h.trimmed row hrow
    · rwa [List.mem_singleton.mp hrow]
  · rcases List.mem_append.mp hrow with hrow | hrow
    · exact h.writable row hrow
    · rwa [List.mem_singleton.mp hrow]

end Proper

namespace Moves

theorem proper (h : Moves jobs last jobs') (hproper : Proper jobs) : Proper jobs' := by
  cases h with
  | failed | elsewhere | looked | known | idle | unheld => exact hproper
  | @added clock address whole job unknown nonempty writable fresh =>
    subst fresh
    refine hproper.add rfl unknown ⟨nonempty, Text.trim_trim address⟩ ?_
    simpa [Job.texts] using writable
  | @claimed clock worker owner job taken first writable grant =>
    subst grant
    obtain ⟨hjob, -⟩ := oldestPending_some first
    refine hproper.change (fun _ _ => rfl) (fun other hother hid => ?_) fun _ _ _ => ?_
    · rw [hproper.numbered.eq_of_id hother hjob hid]
    · have haddress := hproper.writable job hjob job.address List.mem_cons_self
      simpa [Job.texts] using ⟨haddress, writable⟩
  | updated stored held names =>
    exact hproper.change (fun _ hid => hid) (fun _ _ _ => rfl) fun job hjob _ =>
      hproper.writable job hjob

/-- What was changed is found under its number, changed or not. -/
theorem eq_of_change {id : Int} {f : Job → Job} {job job' : Job} (hproper : Proper jobs)
    (hjob : job ∈ jobs) (hjob' : job' ∈ changeJob jobs id f) (hid : job'.id = job.id)
    (hf : ∀ other : Job, other.id = id → (f other).id = id) :
    job' = if job.id = id then f job else job := by
  obtain ⟨other, hother, rfl⟩ := mem_changeJob.mp hjob'
  have hsame : other.id = job.id := by
    split at hid
    next hchanged => rw [hchanged, ← hid, hf other hchanged]
    next => exact hid
  rw [hproper.numbered.eq_of_id hother hjob hsame]

/-- What becomes of a job: it stays as it is, a claim takes it, or an update of those who hold it
moves it on. -/
theorem row {job job' : Job} (h : Moves jobs last jobs') (hproper : Proper jobs)
    (hjob : job ∈ jobs) (hjob' : job' ∈ jobs') (hid : job'.id = job.id) :
    job' = job ∨
      (∃ clock worker owner, last = ⟨clock, .claim worker owner, .ok (some job')⟩ ∧
        oldestPending jobs = some job ∧
        job' = { job with status := .indexing, worker, owner, updated := shown clock }) ∨
      ∃ clock word worker owner whole status,
        last = ⟨clock, .query (.updateJob job.id word worker owner) whole, .ok true⟩ ∧
        job.heldBy worker owner ∧ JobStatus.ofWord? word = some status ∧
        job' = { job with status, updated := shown clock } := by
  have hproper' := h.proper hproper
  cases h with
  | failed | elsewhere | looked | known | idle | unheld =>
    exact .inl (hproper.numbered.eq_of_id hjob' hjob hid)
  | added =>
    exact .inl (hproper'.numbered.eq_of_id hjob' (List.mem_append_left _ hjob) hid)
  | @claimed clock worker owner first taken hfirst writable grant =>
    subst grant
    obtain ⟨hmem, -⟩ := oldestPending_some hfirst
    have hchange := eq_of_change hproper hjob hjob' hid fun _ _ => rfl
    split at hchange
    next hsame =>
      obtain rfl := hproper.numbered.eq_of_id hjob hmem hsame
      subst hchange
      exact .inr (.inl ⟨clock, worker, owner, rfl, hfirst, rfl⟩)
    next => exact .inl hchange
  | @updated clock word status worker owner held whole hmem hheld names =>
    have hchange := eq_of_change hproper hjob hjob' hid fun _ hsame => hsame
    split at hchange
    next hsame =>
      obtain rfl := hproper.numbered.eq_of_id hjob hmem hsame
      exact .inr (.inr ⟨clock, word, worker, owner, whole, status, rfl, hheld, names, hchange⟩)
    next => exact .inl hchange

theorem number_stays {job : Job} (h : Moves jobs last jobs') (hjob : job ∈ jobs) :
    ∃ job' ∈ jobs', job'.id = job.id := by
  cases h with
  | failed | elsewhere | looked | known | idle | unheld => exact ⟨job, hjob, rfl⟩
  | added => exact ⟨job, List.mem_append_left _ hjob, rfl⟩
  | @claimed clock worker owner first taken hfirst writable grant =>
    subst grant
    refine ⟨_, mem_changeJob.mpr ⟨job, hjob, rfl⟩, ?_⟩
    split
    next hid => exact hid.symm
    next => rfl
  | updated =>
    refine ⟨_, mem_changeJob.mpr ⟨job, hjob, rfl⟩, ?_⟩
    split <;> rfl

/-- A job stays, with its number, its address and its age; and once it has ended, as it is. -/
theorem keeps {job : Job} (h : Moves jobs last jobs') (hproper : Proper jobs) (hjob : job ∈ jobs) :
    ∃ job' ∈ jobs', job'.id = job.id ∧ job'.address = job.address ∧ job'.created = job.created ∧
      (job.status = .ready ∨ job.status = .error → job' = job) := by
  obtain ⟨job', hjob', hid⟩ := h.number_stays hjob
  refine ⟨job', hjob', hid, ?_⟩
  rcases h.row hproper hjob hjob' hid with
    rfl | ⟨_, _, _, -, hfirst, rfl⟩ | ⟨_, _, _, _, _, _, -, hheld, -, rfl⟩
  · exact ⟨rfl, rfl, fun _ => rfl⟩
  · obtain ⟨-, hpending⟩ := oldestPending_some hfirst
    refine ⟨rfl, rfl, fun hended => ?_⟩
    rw [hpending] at hended
    rcases hended with h | h <;> cases h
  · obtain ⟨hindexing, -⟩ := Job.heldBy_iff.mp hheld
    refine ⟨rfl, rfl, fun hended => ?_⟩
    rw [hindexing] at hended
    rcases hended with h | h <;> cases h

end Moves

/-- The rules of a job's life, as one call keeps them. -/
structure Lawful (last : Made) (jobs jobs' : List Job) : Prop where
  fails : ∀ fault, last.result = .error fault → jobs' = jobs
  /-- New jobs are pending, and come of additions. -/
  enters : ∀ job' ∈ jobs', (∀ job ∈ jobs, job.id ≠ job'.id) → job'.status = .pending ∧
    ∃ clock address whole, last = ⟨clock, .query (.addJob address) whole, .ok (job', true)⟩
  /-- A pending job only changes by a claim. The claim returns it, and it was the oldest one. -/
  starts : ∀ job ∈ jobs, ∀ job' ∈ jobs', job'.id = job.id → job.status = .pending → job' ≠ job →
    ∃ clock worker owner, last = ⟨clock, .claim worker owner, .ok (some job')⟩ ∧
      job'.status = .indexing ∧ job'.worker = worker ∧ job'.owner = owner ∧
      ∀ other ∈ jobs, other.status = .pending → other ≠ job → job.before other
  /-- A job that is being indexed only changes by an update, by its worker and its owner if those
  are given. -/
  ends : ∀ job ∈ jobs, ∀ job' ∈ jobs', job'.id = job.id → job.status = .indexing → job' ≠ job →
    ∃ clock word worker owner whole,
      last = ⟨clock, .query (.updateJob job.id word worker owner) whole, .ok true⟩ ∧
      (worker = none ∨ worker = job.worker) ∧ (owner = none ∨ owner = job.owner) ∧
      JobStatus.ofWord? word = some job'.status
  /-- An address that is known has its job returned, and nothing changes. -/
  adds : ∀ clock address whole job created,
    last = ⟨clock, .query (.addJob address) whole, .ok (job, created)⟩ →
      job.address = Text.trim address ∧
      (created = false ↔ ∃ known ∈ jobs, known.address = Text.trim address) ∧
      (created = false → job ∈ jobs ∧ jobs' = jobs) ∧ (created = true → jobs' = jobs ++ [job])
  looks : ∀ clock id whole found, last = ⟨clock, .query (.job id) whole, .ok found⟩ →
    found = jobs.find? (·.id = id) ∧ jobs' = jobs
  claims : ∀ clock worker owner found, last = ⟨clock, .claim worker owner, .ok found⟩ →
    (found = none ↔ ∀ job ∈ jobs, job.status ≠ .pending) ∧ (found = none → jobs' = jobs) ∧
      ∀ taken, found = some taken → ∃ job ∈ jobs, job.status = .pending ∧
        taken = { job with status := .indexing, worker, owner, updated := shown clock } ∧
        jobs' = changeJob jobs job.id fun _ => taken
  updates : ∀ clock id word worker owner whole done,
    last = ⟨clock, .query (.updateJob id word worker owner) whole, .ok done⟩ →
      (done = true ↔ ∃ job ∈ jobs, job.id = id ∧ job.status = .indexing ∧
        (worker = none ∨ worker = job.worker) ∧ (owner = none ∨ owner = job.owner)) ∧
      (done = false → jobs' = jobs) ∧
      (done = true → ∃ status, JobStatus.ofWord? word = some status ∧
        jobs' = changeJob jobs id fun job => { job with status, updated := shown clock })

namespace Moves

theorem fails {fault : AddressIndex.Fault} (h : Moves jobs last jobs')
    (hfault : last.result = .error fault) : jobs' = jobs := by
  cases h with
  | failed => rfl
  | _ => cases hfault

/-- A number that is new comes of an addition. -/
theorem enters {job' : Job} (h : Moves jobs last jobs') (hjob' : job' ∈ jobs')
    (hnew : ∀ job ∈ jobs, job.id ≠ job'.id) : job'.status = .pending ∧
      ∃ clock address whole, last = ⟨clock, .query (.addJob address) whole, .ok (job', true)⟩ := by
  -- a change of rows brings no number that was not there
  have hchanged : ∀ (id : Int) (f : Job → Job), (∀ other : Job, other.id = id → (f other).id = id) →
      job' ∉ changeJob jobs id f := by
    intro id f hf hmem
    obtain ⟨other, hother, rfl⟩ := mem_changeJob.mp hmem
    split at hnew
    next hid => exact hnew other hother (hid.trans (hf other hid).symm)
    next => exact hnew other hother rfl
  cases h with
  | failed | elsewhere | looked | known | idle | unheld => exact absurd rfl (hnew job' hjob')
  | @added clock address whole job unknown nonempty writable fresh =>
    rcases List.mem_append.mp hjob' with hold | hlast
    · exact absurd rfl (hnew job' hold)
    · obtain rfl := List.mem_singleton.mp hlast
      subst fresh
      exact ⟨rfl, clock, address, whole, rfl⟩
  | claimed first writable grant =>
    subst grant
    exact absurd hjob' (hchanged _ _ fun _ _ => rfl)
  | updated => exact absurd hjob' (hchanged _ _ fun _ hid => hid)

theorem adds {clock : Instant} {address : String}
    {whole : (Query.addJob address).operation ≠ .claim} {job : Job} {created : Bool}
    (h : Moves jobs ⟨clock, .query (.addJob address) whole, .ok (job, created)⟩ jobs') :
    job.address = Text.trim address ∧
      (created = false ↔ ∃ known ∈ jobs, known.address = Text.trim address) ∧
      (created = false → job ∈ jobs ∧ jobs' = jobs) ∧ (created = true → jobs' = jobs ++ [job]) := by
  cases h with
  | elsewhere writes reads => exact absurd trivial writes
  | known found =>
    have hjob := List.mem_of_find?_eq_some found
    have haddress : job.address = Text.trim address := by simpa using List.find?_some found
    exact ⟨haddress, ⟨fun _ => ⟨job, hjob, haddress⟩, fun _ => rfl⟩, fun _ => ⟨hjob, rfl⟩, nofun⟩
  | added unknown nonempty writable fresh =>
    subst fresh
    refine ⟨rfl, ⟨nofun, ?_⟩, nofun, fun _ => rfl⟩
    rintro ⟨known, hknown, haddress⟩
    exact absurd haddress (unknown known hknown)

theorem lawful (h : Moves jobs last jobs') (hproper : Proper jobs) : Lawful last jobs jobs' where
  fails fault hfault := h.fails hfault
  enters job' hjob' hnew := h.enters hjob' hnew
  starts job hjob job' hjob' hid hpending hne := by
    rcases h.row hproper hjob hjob' hid with
      hsame | ⟨clock, worker, owner, hlast, hfirst, hgrant⟩ | ⟨_, _, _, _, _, _, -, hheld, -, -⟩
    · exact absurd hsame hne
    · refine ⟨clock, worker, owner, hlast, ?_⟩
      subst hgrant
      refine ⟨rfl, rfl, rfl, fun other hother hwaits hother_ne => ?_⟩
      exact oldestPending_before hproper.numbered.nodup hfirst hother hwaits hother_ne
    · rw [(Job.heldBy_iff.mp hheld).1] at hpending
      cases hpending
  ends job hjob job' hjob' hid hindexing hne := by
    rcases h.row hproper hjob hjob' hid with
      hsame | ⟨_, _, _, -, hfirst, -⟩ |
        ⟨clock, word, worker, owner, whole, status, hlast, hheld, hnames, hmoved⟩
    · exact absurd hsame hne
    · rw [(oldestPending_some hfirst).2] at hindexing
      cases hindexing
    · obtain ⟨-, hworker, howner⟩ := Job.heldBy_iff.mp hheld
      subst hmoved
      exact ⟨clock, word, worker, owner, whole, hlast, hworker, howner, hnames⟩
  adds clock address whole job created hlast := by
    subst hlast
    exact h.adds
  looks clock id whole found hlast := by
    subst hlast
    cases h with
    | elsewhere writes reads => exact absurd rfl (reads id)
    | looked => exact ⟨rfl, rfl⟩
  claims clock worker owner found hlast := by
    subst hlast
    cases h with
    | idle nothing =>
      exact ⟨⟨fun _ => oldestPending_none nothing, fun _ => rfl⟩, fun _ => rfl, nofun⟩
    | claimed first writable grant =>
      obtain ⟨hjob, hpending⟩ := oldestPending_some first
      refine ⟨⟨nofun, fun hnone => absurd hpending (hnone _ hjob)⟩, nofun, ?_⟩
      rintro _ ⟨⟩
      exact ⟨_, hjob, hpending, grant, rfl⟩
  updates clock id word worker owner whole done hlast := by
    subst hlast
    cases h with
    | elsewhere writes reads => exact absurd trivial writes
    | unheld free =>
      refine ⟨⟨nofun, ?_⟩, fun _ => rfl, nofun⟩
      rintro ⟨job, hjob, hid, hheld⟩
      exact absurd (Job.heldBy_iff.mpr hheld) (free job hjob hid)
    | updated stored held names =>
      exact ⟨⟨fun _ => ⟨_, stored, rfl, Job.heldBy_iff.mp held⟩, fun _ => rfl⟩, nofun,
        fun _ => ⟨_, names, rfl⟩⟩

end Moves

/-! ### Any calls -/

theorem Calls.proper {start : Database} {made : List Made} (h : Calls start made db)
    (hstart : Proper start.tables.jobs) : Proper db.tables.jobs := by
  induction h with
  | start => exact hstart
  | next before goes ih => exact (goes.moves ih.numbered).proper ih

theorem Calls.keeps_job {start : Database} {made : List Made} {job : Job}
    (h : Calls start made db) (hstart : Proper start.tables.jobs) (hjob : job ∈ start.tables.jobs) :
    ∃ job' ∈ db.tables.jobs, job'.id = job.id ∧ job'.address = job.address ∧
      job'.created = job.created ∧ (job.status = .ready ∨ job.status = .error → job' = job) := by
  induction h with
  | start => exact ⟨job, hjob, rfl, rfl, rfl, fun _ => rfl⟩
  | next before goes ih =>
    obtain ⟨mid, hmid, hid, haddress, hcreated, hended⟩ := ih
    have hproper := before.proper hstart
    obtain ⟨job', hjob', hid', haddress', hcreated', hended'⟩ :=
      (goes.moves hproper.numbered).keeps hproper hmid
    refine ⟨job', hjob', hid'.trans hid, haddress'.trans haddress, hcreated'.trans hcreated, ?_⟩
    intro hend
    -- once it has ended it is the same row in the middle, which has ended there
    have hsame := hended hend
    subst hsame
    exact hended' hend

section Total

variable {now : Int} {tables tables' : Tables} {fault : Fault}

/-- Values that can be stored do not fail where they are passed. -/
theorem Session.passing_error {α : Type} {parameters : List Parameter} {rest : Session α}
    (hstored : ∀ p ∈ parameters, p.fault? = none)
    (h : (do Session.passParameters parameters; rest : Session α).run.run tables =
      (.error fault, tables')) :
    rest.run.run tables = (.error fault, tables') := by
  have hpass : (Session.passParameters parameters).run.run tables = (.ok (), tables) := by
    rw [Session.passParameters, List.findSome?_eq_none_iff.mpr hstored]
    rfl
  rcases run_bind_error.mp h with hfails | ⟨_, mid, hpassed, hrest⟩
  · rw [hpass] at hfails
    cases hfails
  · rw [hpass] at hpassed
    cases hpassed
    exact hrest

/-- An address that is not blank and can be stored is added, or was there, at a time that can be
stored. -/
theorem addJob_tells {address : String} (hnonempty : Text.trim address ≠ "")
    (hwritable : Text.hasHalf (Text.trim address) = false)
    (hclock : clock.seconds = .ok now) (hnow : fits now) :
    ((Query.addJob address).perform clock).run.run (.ready tables) =
      (.ok ((Query.addJob address).answer now tables),
        .ready ((Query.addJob address).next now tables)) := by
  have hsome : (Text.trim address).isEmpty = false := by simpa using hnonempty
  obtain ⟨r, tables', hrun⟩ := (Query.addJob address).perform_ready clock tables
  cases r with
  | ok reply =>
    have hmeets := Query.perform_meets clock _ _ _ _ hrun
    rw [shown_of_seconds hclock] at hmeets
    obtain ⟨hreply, htables⟩ := hmeets
    rw [hrun, hreply]
    exact congrArg _ (congrArg Database.ready htables)
  | error fault =>
    simp only [Query.perform, Action.addJob, hsome] at hrun
    obtain ⟨mid, hsession⟩ := transact_ready_error (timed_at hclock hrun)
    have hrest := Session.passing_error (by simpa using ⟨hwritable, hnow⟩) hsession
    rcases run_bind_error.mp hrest with ⟨⟨⟩⟩ | ⟨_, _, ⟨⟩, hfails⟩
    split at hfails
    · cases hfails
    · rcases run_bind_error.mp hfails with ⟨⟨⟩⟩ | ⟨_, _, ⟨⟩, ⟨⟩⟩

/-- Whoever adds an address again, at a time that can be stored, gets its job. -/
theorem addJob_again {address : String} {job : Job} (hproper : Proper tables.jobs)
    (hclock : clock.seconds = .ok now) (hnow : fits now) (hjob : job ∈ tables.jobs)
    (haddress : Text.trim address = job.address) :
    ((Query.addJob address).perform clock).run.run (.ready tables) =
      (.ok (job, false), .ready tables) := by
  have hnonempty : Text.trim address ≠ "" := haddress ▸ (hproper.trimmed job hjob).1
  have hwritable : Text.hasHalf (Text.trim address) = false :=
    haddress ▸ hproper.writable job hjob job.address List.mem_cons_self
  have hfind : tables.jobs.find? (·.address = Text.trim address) = some job := by
    rw [haddress]
    exact find_of_nodup hproper.addresses hjob
  rw [addJob_tells hnonempty hwritable hclock hnow]
  simp only [Query.answer, Query.next, hfind]

/-- An update to a status tells whether it was done, at a time that can be stored, if what it is
passed can be stored too. -/
theorem updateJob_tells {id : Int} {word : String} {status : JobStatus} {worker : Option Int}
    {owner : Option String} (hclock : clock.seconds = .ok now) (hnow : fits now)
    (hstatus : JobStatus.ofWord? word = some status) (hid : fits id)
    (hworker : ∀ n ∈ worker, fits n) (howner : ∀ s ∈ owner, Text.hasHalf s = false) :
    ∃ done db', ((Query.updateJob id word worker owner).perform clock).run.run (.ready tables) =
      (.ok done, db') := by
  have hstored : ∀ p ∈ [Parameter.integer now, .integer id] ++ Parameter.integer? worker ++
      Parameter.text? owner, p.fault? = none := by
    have htimes : ∀ p ∈ [Parameter.integer now, .integer id], p.fault? = none := by
      simpa using ⟨hnow, hid⟩
    exact List.forall_mem_append.mpr ⟨List.forall_mem_append.mpr
      ⟨htimes, Parameter.stored_integer?.mpr hworker⟩, Parameter.stored_text?.mpr howner⟩
  obtain ⟨r, tables', hrun⟩ :=
    (Query.updateJob id word worker owner).perform_ready clock tables
  cases r with
  | ok done => exact ⟨done, _, hrun⟩
  | error fault =>
    simp only [Query.perform, Action.updateJob, hstatus] at hrun
    obtain ⟨mid, hsession⟩ := transact_ready_error (timed_at hclock hrun)
    have hrest := Session.passing_error hstored hsession
    rcases run_bind_error.mp hrest with ⟨⟨⟩⟩ | ⟨_, _, ⟨⟩, hfails⟩
    split at hfails
    · split at hfails <;> cases hfails
    · cases hfails

end Total

/-- The life of jobs, after any calls on a store that was empty at first. Numbers and addresses
differ, addresses are trimmed and not empty, and the texts of the rows can be written. Jobs stay
under later calls, and as they are once they have ended. The next call keeps the rules. An addition
of a known address does not fail of itself, and an update to a status only by an owner that cannot
be written. -/
theorem Calls.job_lifecycle {made : List Made} (h : Calls (.ready .blank) made db) :
    (db.tables.jobs.map (·.id)).Nodup ∧ (db.tables.jobs.map (·.address)).Nodup ∧
      (∀ job ∈ db.tables.jobs, job.address ≠ "" ∧ Text.trim job.address = job.address ∧
        ∀ s ∈ job.texts, Text.hasHalf s = false) ∧
      (∀ later db', Calls db later db' → ∀ job ∈ db.tables.jobs, ∃ job' ∈ db'.tables.jobs,
        job'.id = job.id ∧ job'.address = job.address ∧ job'.created = job.created ∧
          (job.status = .ready ∨ job.status = .error → job' = job)) ∧
      (∀ (last : Made) (db' : Database), last.call.Goes last.clock db last.result db' →
        Lawful last db.tables.jobs db'.tables.jobs) ∧
      ∀ (clock : Instant) (now : Int), clock.seconds = .ok now → fits now →
        (∀ address, ∀ job ∈ db.tables.jobs, Text.trim address = job.address →
          ((Query.addJob address).perform clock).run.run db = (.ok (job, false), db)) ∧
        ∀ id status worker owner, fits id → (∀ n ∈ worker, fits n) →
          ((∃ done db', ((Query.updateJob id (JobStatus.word status) worker owner).perform
            clock).run.run db = (.ok done, db')) ↔ ∀ s ∈ owner, Text.hasHalf s = false) := by
  have hproper := h.proper .blank
  obtain ⟨tables, rfl⟩ := h.ready
  refine ⟨hproper.numbered.nodup, hproper.addresses, fun job hjob => ?_, ?_, ?_, ?_⟩
  · obtain ⟨hnonempty, htrimmed⟩ := hproper.trimmed job hjob
    exact ⟨hnonempty, htrimmed, hproper.writable job hjob⟩
  · intro later db' hlater job hjob
    exact hlater.keeps_job hproper hjob
  · intro last db' hgoes
    exact (hgoes.moves hproper.numbered).lawful hproper
  · intro clock now hclock hnow
    constructor
    · intro address job hjob haddress
      exact addJob_again hproper hclock hnow hjob haddress
    · intro id status worker owner hid hworker
      constructor
      · rintro ⟨done, db', hrun⟩
        exact Query.updateJob_admits hrun
      · exact updateJob_tells hclock hnow status.ofWord?_word hid hworker

/-- A job is added, claimed and indexed. Whatever is called after that, it stays as it is. -/
theorem Calls.job_lifecycle_of_one :
    ∃ made db, Calls (.ready .blank) made db ∧ made.length = 3 ∧
      db.tables.jobs = [⟨1, "A", .ready, some 7, some "w", 5, 5⟩] ∧
      ∀ later db', Calls db later db' →
        ⟨1, "A", .ready, some 7, some "w", 5, 5⟩ ∈ db'.tables.jobs := by
  let waiting : Job := ⟨1, "A", .pending, none, none, 5, 5⟩
  let taken : Job := ⟨1, "A", .indexing, some 7, some "w", 5, 5⟩
  let done : Job := ⟨1, "A", .ready, some 7, some "w", 5, 5⟩
  let after (job : Job) : Database := .ready { Tables.blank with jobs := [job] }
  have hadd : (Call.query (.addJob " A") (by decide)).Goes (.whole 5) (.ready .blank)
      (.ok (waiting, true)) (after waiting) :=
    Call.goes_query.mpr (.inl ⟨_, rfl, .performed rfl⟩)
  have hclaim : (Call.claim (some 7) (some "w")).Goes (.whole 5) (after waiting)
      (.ok (some taken)) (after taken) := by
    refine ⟨[⟨.query .candidate, .ok (some 1)⟩,
      ⟨.query (.take 1 (some 7) (some "w")), .ok (some taken)⟩], ?_,
      .query (.performed rfl) (.query (.performed rfl) (.done _))⟩
    exact .act _ (.act _ (.done _))
  have hupdate : (Call.query (.updateJob 1 "ready" (some 7) (some "w")) (by decide)).Goes (.whole 5)
      (after taken) (.ok true) (after done) :=
    Call.goes_query.mpr (.inl ⟨_, rfl, .performed rfl⟩)
  have h : Calls (.ready .blank) [⟨_, _, _⟩, ⟨_, _, _⟩, ⟨_, _, _⟩] (after done) :=
    .next (.next (.next .start hadd) hclaim) hupdate
  obtain ⟨-, -, -, hkeeps, -⟩ := h.job_lifecycle
  refine ⟨_, _, h, rfl, rfl, fun later db' hlater => ?_⟩
  obtain ⟨job', hjob', -, -, -, hended⟩ := hkeeps later db' hlater done List.mem_cons_self
  rwa [hended (.inl rfl)] at hjob'

end Store

end AddressIndex
