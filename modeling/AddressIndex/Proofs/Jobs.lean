import AddressIndex.Proofs.Query

/-! Jobs under queries. Jobs are numbered one by one and keep their numbers, so a number names one
row. A row changes in two ways only: a take turns a pending job into one that is indexing, and an
update moves a job that is held as required. -/

namespace AddressIndex.Store

/-- Jobs are numbered from one on, in the order of their rows. -/
def Numbered (jobs : List Job) : Prop :=
  jobs.map (·.id) = (List.range jobs.length).map fun (k : Nat) => (k : Int) + 1

theorem Numbered.blank : Numbered (Database.ready .blank).tables.jobs := rfl

/-- What is looked for by a key that no two rows share is found. -/
theorem find_of_nodup {α κ : Type} [DecidableEq κ] {key : α → κ} {rows : List α} {row : α}
    (h : (rows.map key).Nodup) (hrow : row ∈ rows) :
    rows.find? (fun other => key other = key row) = some row := by
  cases hfind : rows.find? (fun other => key other = key row) with
  | none => simpa using List.find?_eq_none.mp hfind row hrow
  | some other =>
    have hkey : key other = key row := by simpa using List.find?_some hfind
    rw [List.inj_on_of_nodup_map h (List.mem_of_find?_eq_some hfind) hrow hkey]

namespace Numbered

variable {jobs : List Job}

theorem nodup (h : Numbered jobs) : (jobs.map (·.id)).Nodup := by
  rw [h]
  exact List.nodup_range.map fun a b hab => by omega

theorem eq_of_id (h : Numbered jobs) {job job' : Job} (hjob : job ∈ jobs) (hjob' : job' ∈ jobs)
    (hid : job.id = job'.id) : job = job' :=
  List.inj_on_of_nodup_map h.nodup hjob hjob' hid

theorem find (h : Numbered jobs) {job : Job} (hjob : job ∈ jobs) :
    jobs.find? (fun row => row.id = job.id) = some job :=
  find_of_nodup h.nodup hjob

theorem change (h : Numbered jobs) {id : Int} {f : Job → Job} (hf : ∀ job, job.id = id →
    (f job).id = id) : Numbered (changeJob jobs id f) := by
  have hids : (changeJob jobs id f).map (·.id) = jobs.map (·.id) := by
    rw [changeJob, List.map_map]
    apply List.map_congr_left
    intro job _
    simp only [Function.comp_apply]
    split
    next hid => rw [hf job hid, hid]
    next => rfl
  rw [Numbered, hids, h, changeJob, List.length_map]

theorem add (h : Numbered jobs) {job : Job} (hid : job.id = jobs.length + 1) :
    Numbered (jobs ++ [job]) := by
  rw [Numbered, List.map_append, h, List.length_append, List.length_singleton, List.range_succ,
    List.map_append, List.map_singleton, List.map_singleton, hid]

end Numbered

theorem Job.heldBy_iff {job : Job} {worker : Option Int} {owner : Option String} :
    job.heldBy worker owner ↔ job.status = .indexing ∧ (worker = none ∨ worker = job.worker) ∧
      (owner = none ∨ owner = job.owner) := by
  simp only [Job.heldBy, Bool.and_eq_true, Bool.or_eq_true, decide_eq_true_eq,
    Option.isNone_iff_eq_none, and_assoc, @eq_comm _ job.worker, @eq_comm _ job.owner]

theorem mem_changeJob {jobs : List Job} {id : Int} {f : Job → Job} {row : Job} :
    row ∈ changeJob jobs id f ↔ ∃ job ∈ jobs, row = if job.id = id then f job else job := by
  simp only [changeJob, List.mem_map, eq_comm]

/-! ### Candidates -/

theorem oldest_mem {jobs : List Job} {job : Job} (h : oldest jobs = some job) : job ∈ jobs := by
  induction jobs generalizing job with
  | nil => cases h
  | cons first rest ih =>
    rw [oldest] at h
    split at h
    next other hother =>
      split at h
      · cases h
        exact List.mem_cons_of_mem _ (ih hother)
      · cases h
        exact List.mem_cons_self
    next =>
      cases h
      exact List.mem_cons_self

theorem oldest_eq_none {jobs : List Job} (h : oldest jobs = none) : jobs = [] := by
  cases jobs with
  | nil => rfl
  | cons first rest =>
    rw [oldest] at h
    split at h
    · split at h <;> cases h
    · cases h

theorem Job.before_trans {a b c : Job} (hab : a.before b) (hbc : b.before c) : a.before c := by
  simp only [Job.before, decide_eq_true_eq] at *
  omega

/-- Of two jobs with different numbers one is before the other. -/
theorem Job.before_of_not {a b : Job} (hid : a.id ≠ b.id) (h : ¬ b.before a) : a.before b := by
  simp only [Job.before, decide_eq_true_eq] at *
  omega

/-- The job that is claimed next is before all others. -/
theorem oldest_before {jobs : List Job} {job other : Job} (hnodup : (jobs.map (·.id)).Nodup)
    (h : oldest jobs = some job) (hother : other ∈ jobs) (hne : other ≠ job) :
    job.before other := by
  induction jobs generalizing job other with
  | nil => cases hother
  | cons first rest ih =>
    rw [List.map_cons, List.nodup_cons] at hnodup
    obtain ⟨hfirst, hnodup⟩ := hnodup
    rw [oldest] at h
    cases hrest : oldest rest with
    | none =>
      rw [hrest] at h
      cases h
      rw [oldest_eq_none hrest, List.mem_singleton] at hother
      exact absurd hother hne
    | some head =>
      have hhead : head ∈ rest := oldest_mem hrest
      have hid : first.id ≠ head.id := fun hsame =>
        hfirst (List.mem_map.mpr ⟨head, hhead, hsame.symm⟩)
      simp only [hrest] at h
      by_cases hbefore : head.before first
      · rw [if_pos hbefore] at h
        cases h
        rcases List.mem_cons.mp hother with rfl | hother
        · exact hbefore
        · exact ih hnodup hrest hother hne
      · rw [if_neg hbefore] at h
        cases h
        have hyounger : first.before head := Job.before_of_not hid hbefore
        have hother : other ∈ rest := (List.mem_cons.mp hother).resolve_left hne
        by_cases hsame : other = head
        · rwa [hsame]
        · exact Job.before_trans hyounger (ih hnodup hrest hother hsame)

/-- A claimer that finds a candidate found a pending job. -/
theorem oldestPending_some {jobs : List Job} {job : Job} (h : oldestPending jobs = some job) :
    job ∈ jobs ∧ job.status = .pending := by
  simpa using oldest_mem h

theorem oldestPending_before {jobs : List Job} {job other : Job}
    (hnodup : (jobs.map (·.id)).Nodup) (h : oldestPending jobs = some job) (hother : other ∈ jobs)
    (hpending : other.status = .pending) (hne : other ≠ job) : job.before other := by
  have hids : ((jobs.filter (·.status = .pending)).map (·.id)).Nodup :=
    hnodup.sublist (List.filter_sublist.map _)
  exact oldest_before hids h (by simp [hother, hpending]) hne

theorem oldestPending_none {jobs : List Job} (h : oldestPending jobs = none) :
    ∀ job ∈ jobs, job.status ≠ .pending := by
  simpa using List.filter_eq_nil_iff.mp (oldest_eq_none h)

/-! ### What queries do to jobs -/

namespace Query

variable {now : Int} {q : Query} {tables : Tables}

theorem granted_some {id : Int} {worker : Option Int} {owner : Option String} {jobs : List Job}
    {job : Job} (h : granted now id worker owner jobs = some job) :
    ∃ found ∈ jobs, found.id = id ∧ found.status = .pending ∧
      job = { found with status := .indexing, worker, owner, updated := now } := by
  unfold granted at h
  split at h
  next found hfind =>
    split at h
    next hpending =>
      cases h
      exact ⟨found, List.mem_of_find?_eq_some hfind, by simpa using List.find?_some hfind,
        hpending, rfl⟩
    next => cases h
  next => cases h

theorem granted_of_pending {worker : Option Int} {owner : Option String} {jobs : List Job}
    {job : Job} (hnumbered : Numbered jobs) (hjob : job ∈ jobs) (hpending : job.status = .pending) :
    granted now job.id worker owner jobs =
      some { job with status := .indexing, worker, owner, updated := now } := by
  rw [granted, hnumbered.find hjob]
  exact if_pos hpending

theorem granted_none {id : Int} {worker : Option Int} {owner : Option String} {jobs : List Job}
    (hnumbered : Numbered jobs) (h : granted now id worker owner jobs = none) :
    ∀ job ∈ jobs, job.id = id → job.status ≠ .pending := by
  rintro job hjob rfl hpending
  rw [granted_of_pending hnumbered hjob hpending] at h
  cases h

theorem held_iff {id : Int} {worker : Option Int} {owner : Option String} {jobs : List Job}
    (hnumbered : Numbered jobs) :
    held id worker owner jobs ↔ ∃ job ∈ jobs, job.id = id ∧ job.heldBy worker owner := by
  unfold held
  constructor
  · intro h
    obtain ⟨job, hfind, hheld⟩ := (Option.any_eq_true _ _).mp h
    exact ⟨job, List.mem_of_find?_eq_some hfind, by simpa using List.find?_some hfind, hheld⟩
  · rintro ⟨job, hjob, rfl, hheld⟩
    rw [hnumbered.find hjob]
    exact hheld

/-- The three queries that write to the jobs. -/
def WritesJobs : Query → Prop
  | .addJob _ | .take _ _ _ | .updateJob _ _ _ _ => True
  | _ => False

theorem next_numbered (h : Numbered tables.jobs) : Numbered (q.next now tables).jobs := by
  cases q with
  | addJob address =>
    simp only [next]
    split
    · exact h
    · exact h.add rfl
  | take id worker owner =>
    simp only [next]
    split
    next taken htaken =>
      obtain ⟨found, -, hid, -, rfl⟩ := granted_some htaken
      exact h.change fun _ _ => hid
    next => exact h
  | updateJob id status worker owner =>
    simp only [next]
    split
    · split
      · exact h.change fun _ hid => hid
      · exact h
    · exact h
  | _ => exact h

theorem mem_next_take {id : Int} {worker : Option Int} {owner : Option String} {job : Job}
    (h : granted now id worker owner tables.jobs = some job) :
    job ∈ ((take id worker owner).next now tables).jobs := by
  obtain ⟨found, hfound, hid, -, -⟩ := granted_some h
  simp only [next, h]
  exact mem_changeJob.mpr ⟨found, hfound, (if_pos hid).symm⟩

/-- A change of one job shows in nothing that it keeps. -/
theorem map_changeJob {α : Type} {g : Job → α} {jobs : List Job} {id : Int} {f : Job → Job}
    (hf : ∀ job ∈ jobs, job.id = id → g (f job) = g job) :
    (changeJob jobs id f).map g = jobs.map g := by
  rw [changeJob, List.map_map]
  apply List.map_congr_left
  intro job hjob
  simp only [Function.comp_apply]
  split
  next hid => exact hf job hjob hid
  next => rfl

/-- There is one job at most for an address. -/
theorem next_addresses (hnumbered : Numbered tables.jobs)
    (h : (tables.jobs.map (·.address)).Nodup) :
    ((q.next now tables).jobs.map (·.address)).Nodup := by
  cases q with
  | addJob address =>
    simp only [next]
    split
    · exact h
    next hnone =>
      rw [List.map_append, List.map_singleton]
      refine List.nodup_append.mpr ⟨h, List.nodup_singleton _, ?_⟩
      rintro _ hold _ hnew rfl
      obtain ⟨job, hjob, haddress⟩ := List.mem_map.mp hold
      rw [List.mem_singleton.mp hnew] at haddress
      simpa [haddress] using List.find?_eq_none.mp hnone job hjob
  | take id worker owner =>
    simp only [next]
    split
    next taken htaken =>
      obtain ⟨found, hfound, hid, -, rfl⟩ := granted_some htaken
      rwa [map_changeJob fun job hjob hsame => ?_]
      rw [hnumbered.eq_of_id hjob hfound (hsame.trans hid.symm)]
    next => exact h
  | updateJob id status worker owner =>
    simp only [next]
    split
    · split
      · refine (map_changeJob fun _ _ _ => ?_).symm ▸ h
        rfl
      · exact h
    · exact h
  | _ => exact h

/-- Where a row comes from. -/
theorem job_of_next {row : Job} (hnumbered : Numbered tables.jobs)
    (h : row ∈ (q.next now tables).jobs) :
    row ∈ tables.jobs ∨
      (∃ address, q = .addJob address ∧ row.id = tables.jobs.length + 1 ∧
        row.address = Text.trim address ∧ row.status = .pending ∧ row.owner = none) ∨
      (∃ id worker owner, q = .take id worker owner ∧
        granted now id worker owner tables.jobs = some row) ∨
      ∃ word worker owner status, q = .updateJob row.id word worker owner ∧
        JobStatus.ofWord? word = some status ∧ ∃ old ∈ tables.jobs, old.heldBy worker owner ∧
          row = { old with status, updated := now } := by
  cases q with
  | addJob address =>
    simp only [next] at h
    split at h
    · exact .inl h
    · rcases List.mem_append.mp h with h | h
      · exact .inl h
      · obtain rfl := List.mem_singleton.mp h
        exact .inr (.inl ⟨address, rfl, rfl, rfl, rfl, rfl⟩)
  | take id worker owner =>
    simp only [next] at h
    split at h
    next taken htaken =>
      obtain ⟨job, hjob, rfl⟩ := mem_changeJob.mp h
      split
      · exact .inr (.inr (.inl ⟨id, worker, owner, rfl, htaken⟩))
      · exact .inl hjob
    next => exact .inl h
  | updateJob id word worker owner =>
    simp only [next] at h
    split at h
    next status hstatus =>
      split at h
      next hheld =>
        obtain ⟨job, hjob, rfl⟩ := mem_changeJob.mp h
        split
        next hid =>
          obtain ⟨found, hfound, hid', hheldBy⟩ := (held_iff hnumbered).mp hheld
          obtain rfl := hnumbered.eq_of_id hjob hfound (hid.trans hid'.symm)
          subst hid
          exact .inr (.inr (.inr ⟨word, worker, owner, status, rfl, hstatus, job, hjob, hheldBy,
            rfl⟩))
        next => exact .inl hjob
      next => exact .inl h
    next => exact .inl h
  | _ => exact .inl h

/-- A row stays as it is unless it is taken while pending or updated while held. -/
theorem job_stays {row : Job} (q : Query) (now : Int) (hnumbered : Numbered tables.jobs)
    (hrow : row ∈ tables.jobs) :
    row ∈ (q.next now tables).jobs ∨
      (∃ worker owner, q = .take row.id worker owner ∧ row.status = .pending ∧
        { row with status := .indexing, worker, owner, updated := now } ∈
          (q.next now tables).jobs) ∨
      ∃ word worker owner status, q = .updateJob row.id word worker owner ∧
        JobStatus.ofWord? word = some status ∧ row.heldBy worker owner ∧
        { row with status, updated := now } ∈ (q.next now tables).jobs := by
  cases q with
  | addJob address =>
    refine .inl ?_
    simp only [next]
    split
    · exact hrow
    · exact List.mem_append_left _ hrow
  | take id worker owner =>
    simp only [next]
    split
    next taken htaken =>
      by_cases hid : row.id = id
      · obtain ⟨found, hfound, hid', hpending, rfl⟩ := granted_some htaken
        obtain rfl := hnumbered.eq_of_id hrow hfound (hid.trans hid'.symm)
        subst hid
        exact .inr (.inl ⟨worker, owner, rfl, hpending, mem_changeJob.mpr ⟨row, hrow, by simp⟩⟩)
      · exact .inl (mem_changeJob.mpr ⟨row, hrow, by rw [if_neg hid]⟩)
    next => exact .inl hrow
  | updateJob id word worker owner =>
    simp only [next]
    split
    next status hstatus =>
      split
      next hheld =>
        by_cases hid : row.id = id
        · obtain ⟨found, hfound, hid', hjob⟩ := (held_iff hnumbered).mp hheld
          obtain rfl := hnumbered.eq_of_id hrow hfound (hid.trans hid'.symm)
          subst hid
          exact .inr (.inr ⟨word, worker, owner, status, rfl, hstatus, hjob,
            mem_changeJob.mpr ⟨row, hrow, by simp⟩⟩)
        · exact .inl (mem_changeJob.mpr ⟨row, hrow, by rw [if_neg hid]⟩)
      next => exact .inl hrow
    next => exact .inl hrow
  | _ => exact .inl hrow

/-- The addresses that have jobs keep them. -/
theorem address_stays {address : String} (hnumbered : Numbered tables.jobs)
    (h : ∃ job ∈ tables.jobs, job.address = address) :
    ∃ job ∈ (q.next now tables).jobs, job.address = address := by
  obtain ⟨job, hjob, rfl⟩ := h
  obtain h | ⟨_, _, -, -, h⟩ | ⟨_, _, _, _, -, -, -, h⟩ :=
    job_stays q now hnumbered hjob <;> exact ⟨_, h, rfl⟩

end Query

end AddressIndex.Store
