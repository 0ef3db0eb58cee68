import AddressIndex.Proofs.Idling

/-! Where the endpoints come from. A file adds variables to an environment, and adding it again
changes nothing; so all who ask the environment, each adding the file first, see the same. Settings
have the endpoints that are asked for one by one, but a variable of their own can name the node. -/

namespace AddressIndex

/-! ### Adding a file -/

namespace EnvFile

/-- A binding without its value: the name, and whether there is a value. -/
def Binding.shape (b : Binding) : String × Bool := (b.name, b.value.isSome)

theorem shapes_bindOne {known known' : List Binding} {b b' : Binding}
    (hknown : known.map Binding.shape = known'.map Binding.shape) (hb : b.shape = b'.shape) :
    (bindOne known b).map Binding.shape = (bindOne known' b').map Binding.shape := by
  induction known generalizing known' with
  | nil =>
    cases known' with
    | nil => simp [bindOne, hb]
    | cons c' rest' => cases hknown
  | cons c rest ih =>
    cases known' with
    | nil => cases hknown
    | cons c' rest' =>
      obtain ⟨hc, hrest⟩ := List.cons.inj hknown
      have hname : c.name = b.name ↔ c'.name = b'.name := by
        rw [show c.name = c'.name from congrArg Prod.fst hc,
          show b.name = b'.name from congrArg Prod.fst hb]
      rw [bindOne, bindOne]
      by_cases hsame : c.name = b.name
      · rw [if_pos hsame, if_pos (hname.mp hsame), List.map_cons, List.map_cons, hb, hrest]
      · rw [if_neg hsame, if_neg (fun h => hsame (hname.mpr h)), List.map_cons, List.map_cons, hc,
          ih hrest]

/-- What variables are set shows in the values of a file only. -/
theorem shapes_resolve (set? set?' : String → Option String) (bs : List Binding) :
    (resolve set? bs).map Binding.shape = (resolve set?' bs).map Binding.shape := by
  unfold resolve
  refine List.foldl_rel (r := fun known known' : List Binding =>
    known.map Binding.shape = known'.map Binding.shape) rfl fun b _ known known' hknown => ?_
  exact shapes_bindOne hknown (by simp [Binding.shape])

theorem exists_resolve_of_mem {set? : String → Option String} {bs : List Binding} {b : Binding}
    (set?' : String → Option String) (h : b ∈ resolve set? bs) :
    ∃ b' ∈ resolve set?' bs, b'.name = b.name ∧ b'.value.isSome = b.value.isSome := by
  have hshape : b.shape ∈ (resolve set?' bs).map Binding.shape :=
    shapes_resolve set? set?' bs ▸ List.mem_map_of_mem h
  obtain ⟨b', hb', hsame⟩ := List.mem_map.mp hshape
  exact ⟨b', hb', congrArg Prod.fst hsame, congrArg Prod.snd hsame⟩

end EnvFile

namespace Environment

open EnvFile (Binding)

variable {env after : Environment} {file : Option String} {b : Binding} {bs : List Binding}
  {name : String}

/-- The value that bindings have for a name. -/
def bound? (bs : List Binding) (name : String) : Option String :=
  bs.findSome? fun b => if b.name = name then b.value else none

theorem bound?_cons (b : Binding) (bs : List Binding) (name : String) :
    bound? (b :: bs) name = (if b.name = name then b.value else none).or (bound? bs name) := by
  unfold bound?
  rw [List.findSome?_cons]
  cases (if b.name = name then b.value else none) <;> rfl

theorem bound?_isSome (hb : b ∈ bs) (hvalue : b.value.isSome) : (bound? bs b.name).isSome := by
  unfold bound?
  rw [List.findSome?_isSome_iff]
  exact ⟨b, hb, by rwa [if_pos rfl]⟩

/-- What else there is for a variable that is set does not count. -/
theorem get?_of_set (h : (env.get? name).isSome) (value? : Option String) (other : String) :
    env.get? other = (env.get? other).or (if name = other then value? else none) := by
  by_cases hname : name = other
  · subst hname
    rw [Option.or_of_isSome h]
  · rw [if_neg hname, Option.or_none]

theorem get?_add (env : Environment) (name value other : String) : (env.add name value).get? other =
    (env.get? other).or (if name = other then some value else none) := by
  unfold add
  split
  next hset => exact get?_of_set hset _ _
  next =>
    have hone : [(name, value)].lookup other = if name = other then some value else none := by
      by_cases hname : name = other
      · subst hname
        rw [List.lookup_cons_self, if_pos rfl]
      · rw [List.lookup_cons, beq_false_of_ne (Ne.symm hname), if_neg hname]
        rfl
    rw [get?, get?, List.lookup_append, hone]

theorem addFromFile_eq : addFromFile = fun env b =>
    match b.value with
    | none => .ok env
    | some value =>
      if (env.get? b.name).isSome then .ok env
      else if '\x00' ∈ b.name.toList ∨ '\x00' ∈ value.toList then .error .zeroByte
      else if '=' ∈ b.name.toList then .error .badName
      else .ok (env.add b.name value) := by
  funext env b
  simp only [addFromFile, String.contains_char_eq, Bool.or_eq_true, decide_eq_true_eq]
  rfl

/-- A variable that is set goes before the file. -/
theorem get?_addFromFile (h : env.addFromFile b = .ok after) (name : String) :
    after.get? name = (env.get? name).or (if b.name = name then b.value else none) := by
  unfold addFromFile at h
  split at h
  next hvalue =>
    cases h
    rw [hvalue, ite_self, Option.or_none]
  next value hvalue =>
    split_ifs at h with hset
    · cases h
      exact get?_of_set hset _ _
    · cases h
      rw [get?_add, hvalue]

theorem get?_addAll (h : bs.foldlM addFromFile env = .ok after) (name : String) :
    after.get? name = (env.get? name).or (bound? bs name) := by
  induction bs generalizing env with
  | nil =>
    cases h
    exact Option.or_none.symm
  | cons b bs ih =>
    rw [List.foldlM_cons] at h
    obtain ⟨mid, hmid, hrest⟩ := Except.bind_eq_ok.mp h
    rw [ih hrest, get?_addFromFile hmid, bound?_cons, Option.or_assoc]

theorem addFromFile_of_set (h : b.value.isSome → (env.get? b.name).isSome) :
    env.addFromFile b = .ok env := by
  unfold addFromFile
  cases hvalue : b.value with
  | none => rfl
  | some value =>
    have hset := h (by rw [hvalue]; rfl)
    simp only [hset, if_true]
    rfl

theorem addAll_of_set (h : ∀ b ∈ bs, b.value.isSome → (env.get? b.name).isSome) :
    bs.foldlM addFromFile env = .ok env := by
  induction bs with
  | nil => rfl
  | cons b bs ih =>
    obtain ⟨hfirst, hrest⟩ := List.forall_mem_cons.mp h
    rw [List.foldlM_cons, addFromFile_of_set hfirst]
    exact ih hrest

/-- The value that a file has for a variable. -/
def added? (env : Environment) (file : Option String) (name : String) : Option String :=
  match file with
  | some file =>
    if env.readsFile then bound? (EnvFile.resolve env.get? (EnvFile.bindings file)) name else none
  | none => none

theorem get?_withFile (h : env.withFile file = .ok after) (name : String) :
    after.get? name = (env.get? name).or (env.added? file name) := by
  unfold withFile at h
  unfold added?
  cases file with
  | none =>
    cases h
    exact Option.or_none.symm
  | some text =>
    dsimp only at h ⊢
    split_ifs at h ⊢ with hreads
    · exact get?_addAll h name
    · cases h
      exact Option.or_none.symm

/-- To add a file twice is to add it once, though its values may refer to variables that it adds. -/
theorem withFile_again (h : env.withFile file = .ok after) : after.withFile file = .ok after := by
  cases file with
  | none => rfl
  | some text =>
    simp only [withFile] at h ⊢
    by_cases hreads : after.readsFile
    · rw [if_pos hreads]
      apply addAll_of_set
      intro b hb hvalue
      split_ifs at h with hread
      · -- the name was bound when the file was added first, so it is set since
        obtain ⟨b', hb', hname, hvalue'⟩ := EnvFile.exists_resolve_of_mem env.get? hb
        rw [get?_addAll h, ← hname, Option.isSome_or, bound?_isSome hb' (hvalue' ▸ hvalue),
          Bool.or_true]
      · cases h
        exact absurd hreads hread
    · rw [if_neg hreads]
      rfl

/-! ### Questions -/

/-- A question to an environment: the file is added first, and what it adds stays. -/
def asked {α : Type} (file : Option String) (look : Environment → α) (env : Environment) :
    Except FileFault (α × Environment) :=
  (env.withFile file).map fun after => (look after, after)

theorem asked_eq_ok {α : Type} {look : Environment → α} {value : α} :
    env.asked file look = .ok (value, after) ↔
      env.withFile file = .ok after ∧ value = look after := by
  unfold asked
  cases env.withFile file with
  | error fault => exact ⟨nofun, nofun⟩
  | ok found =>
    constructor
    · intro h
      cases h
      exact ⟨rfl, rfl⟩
    · rintro ⟨h, rfl⟩
      cases h
      rfl

/-- Whoever asks first, the next one asks the same environment. -/
theorem asked_again {α β : Type} {look : Environment → α} {value : α}
    (h : env.asked file look = .ok (value, after)) (look' : Environment → β) :
    env.asked file look' = .ok (look' after, after) ∧
      after.asked file look' = .ok (look' after, after) := by
  obtain ⟨hfile, -⟩ := asked_eq_ok.mp h
  exact ⟨asked_eq_ok.mpr ⟨hfile, rfl⟩, asked_eq_ok.mpr ⟨withFile_again hfile, rfl⟩⟩

/-! ### Endpoints by the order of variables -/

/-- A variable gives what it is set to, without blanks around it, if anything is left. -/
def Gives (env : Environment) (name value : String) : Prop :=
  ∃ set, env.get? name = some set ∧ Text.trim set = value ∧ value ≠ ""

/-- A variable is not set, or to blanks. -/
def IsBlank (env : Environment) (name : String) : Prop :=
  ∀ set, env.get? name = some set → Text.trim set = ""

theorem value?_eq_some {value : String} : env.value? name = some value ↔ env.Gives name value := by
  unfold value? Gives
  cases env.get? name with
  | none => simp
  | some set =>
    by_cases hempty : Text.trim set = ""
    · simp [hempty]
    · simp only [String.isEmpty_iff, hempty, if_false, Option.some.injEq, exists_eq_left']
      constructor
      · rintro rfl
        exact ⟨rfl, hempty⟩
      · exact And.left

theorem value?_eq_none : env.value? name = none ↔ env.IsBlank name := by
  unfold value? IsBlank
  cases env.get? name with
  | none => simp
  | some set =>
    by_cases hempty : Text.trim set = "" <;> simp [hempty]

theorem gives_or_blank (env : Environment) (name : String) :
    (∃ value, env.Gives name value ∧ env.value? name = some value) ∨
      env.IsBlank name ∧ env.value? name = none := by
  cases hvalue : env.value? name with
  | none => exact .inr ⟨value?_eq_none.mp hvalue, rfl⟩
  | some value => exact .inl ⟨value, value?_eq_some.mp hvalue, rfl⟩

/-- What a variable gives, or else what is made of what another gives, or else the standard. -/
inductive FirstGiven (env : Environment) (own other : String) (make : String → String)
    (standard : String) : String → Prop
  | own {value : String} (h : env.Gives own value) : FirstGiven env own other make standard value
  | other {value : String} (blank : env.IsBlank own) (h : env.Gives other value) :
    FirstGiven env own other make standard (make value)
  | standard (blank : env.IsBlank own) (blank' : env.IsBlank other) :
    FirstGiven env own other make standard standard

theorem firstGiven_iff {own other standard value : String} {make : String → String} :
    env.FirstGiven own other make standard value ↔
      value = (env.value? own).getD (((env.value? other).map make).getD standard) := by
  constructor
  · intro h
    cases h with
    | own h =>
      rw [value?_eq_some.mpr h]
      rfl
    | other blank h =>
      rw [value?_eq_none.mpr blank, value?_eq_some.mpr h]
      rfl
    | standard blank blank' =>
      rw [value?_eq_none.mpr blank, value?_eq_none.mpr blank']
      rfl
  · rintro rfl
    rcases env.gives_or_blank own with ⟨given, hgiven, hvalue⟩ | ⟨hblank, hvalue⟩
    · rw [hvalue]
      exact .own hgiven
    · rcases env.gives_or_blank other with ⟨given, hgiven, hvalue'⟩ | ⟨hblank', hvalue'⟩
      · rw [hvalue, hvalue']
        exact .other hblank hgiven
      · rw [hvalue, hvalue']
        exact .standard hblank hblank'

/-- The node that the variables name, in their order. -/
def NodeAt (env : Environment) : String → Prop :=
  env.FirstGiven "SOLANA_RPC_URL" "HELIUS_API_KEY"
    ("https://mainnet.helius-rpc.com/?api-key=" ++ ·) "https://api.mainnet-beta.solana.com"

/-- The database that the variables name, in their order. -/
def DatabaseAt (env : Environment) : String → Prop :=
  env.FirstGiven "DATABASE_URL" "INDEXER_DB_PATH" ("sqlite:///" ++ ·) "sqlite:///indexer.db"

theorem nodeAt_iff {url : String} : env.NodeAt url ↔ url = env.nodeUrl := by
  rw [NodeAt, firstGiven_iff, nodeUrl]
  cases env.value? "SOLANA_RPC_URL" <;> cases env.value? "HELIUS_API_KEY" <;> rfl

theorem databaseAt_iff {url : String} : env.DatabaseAt url ↔ url = env.databaseUrl := by
  rw [DatabaseAt, firstGiven_iff, databaseUrl]
  cases env.value? "DATABASE_URL" <;> cases env.value? "INDEXER_DB_PATH" <;> rfl

end Environment

/-! ### Settings -/

open Environment

variable {env after : Environment} {file : Option String} {settings : Settings}

theorem Settings.endpoints_of_read (h : Settings.read env = .ok settings) :
    settings.nodeUrl = (env.value? "RPC_URL").getD env.nodeUrl ∧
      settings.databaseUrl = env.databaseUrl := by
  unfold read at h
  obtain ⟨made, hmade, hcheck⟩ := Except.bind_eq_ok.mp h
  obtain ⟨rfl, -⟩ := checked_of_check hcheck
  obtain ⟨hnode, hdatabase⟩ := endpoints_of_environment hmade
  refine ⟨hnode, ?_⟩
  rw [hdatabase, Environment.databaseUrl]
  cases env.value? "DATABASE_URL" <;> rfl

/-- Nothing goes from a text that begins with no such character and ends in a text without any
around it. -/
theorem Text.strip_append {p : Char → Bool} {c : Char} {xs ys : List Char} (hc : p c = false)
    (hys : strip p ys = ys) (hne : ys ≠ []) : strip p (c :: xs ++ ys) = c :: xs ++ ys := by
  have hend : ys.rdropWhile p = ys := by
    rw [← hys, strip_eq, List.rdropWhile_idempotent]
  have hfront : (c :: xs ++ ys).dropWhile p = c :: xs ++ ys := by
    rw [List.cons_append, List.dropWhile_cons_of_neg (by simp [hc])]
  rw [strip_eq, hfront, List.rdropWhile_eq_self_iff]
  intro hall
  rw [List.getLast_append_of_ne_nil hall hne]
  exact List.rdropWhile_eq_self_iff.mp hend hne

theorem Environment.Gives.trim {name value : String} (h : env.Gives name value) :
    Text.trim value = value := by
  obtain ⟨set, -, rfl, -⟩ := h
  exact Text.trim_trim set

theorem Environment.NodeAt.trim {url : String} (h : env.NodeAt url) : Text.trim url = url := by
  cases h with
  | own h => exact h.trim
  | @other key _ h =>
    have hkey : Text.strip Text.isBlank key.toList = key.toList := by
      have hboth := congrArg String.toList h.trim
      rwa [Text.trim, String.toList_ofList] at hboth
    have hne : key.toList ≠ [] := by
      obtain ⟨_, -, -, hsome⟩ := h
      simpa using hsome
    have hfront : "https://mainnet.helius-rpc.com/?api-key=".toList =
        'h' :: "ttps://mainnet.helius-rpc.com/?api-key=".toList := by decide +kernel
    rw [Text.trim, String.toList_append, hfront, Text.strip_append (by decide) hkey hne, ← hfront,
      ← String.toList_append, String.ofList_toList]
  | standard => decide +kernel

namespace Service

variable {t : Trace} {setup : Setup}

theorem Setup.of_eq_ok (h : Setup.of settings = .ok setup) : setup.settings = settings ∧
    setup.client.url = Text.trim settings.nodeUrl := by
  unfold Setup.of at h
  obtain ⟨client, hclient, h⟩ := Except.bind_eq_ok.mp h
  obtain ⟨batch, -, h⟩ := Except.bind_eq_ok.mp h
  obtain ⟨backoff, -, h⟩ := Except.bind_eq_ok.mp h
  cases h
  refine ⟨rfl, ?_⟩
  have hclient := Except.mapError_eq_ok hclient
  unfold Rpc.Client.of at hclient
  dsimp only at hclient
  split_ifs at hclient
  cases hclient
  rfl

theorem runs_step {α : Type} {result : Except StartFault α} {r : Except StartFault α} :
    (step result).run.Runs t r ↔ t = [] ∧ r = result :=
  Program.runs_pure

theorem runs_createTables (h : createTables.run.Runs t (.ok ())) :
    t = [⟨.query .create, .ok ()⟩] := by
  obtain ⟨t₁, t₂, reply, rfl, hreply, hrest⟩ := Program.runs_bind.mp h
  obtain rfl := Program.runs_perform.mp hreply
  cases reply with
  | ok _ =>
    obtain ⟨rfl, -⟩ := Program.runs_pure.mp hrest
    rfl
  | error _ => cases (Program.runs_pure.mp hrest).2

theorem runs_setUp (h : (setUp env).run.Runs t (.ok setup)) :
    ∃ settings, Settings.read env = .ok settings ∧ Setup.of settings = .ok setup ∧
      t = [⟨.query .create, .ok ()⟩] := by
  unfold setUp at h
  obtain ⟨t₁, t₂, settings, rfl, hsettings, h⟩ := Attempt.runs_bind_ok.mp h
  obtain ⟨t₃, t₄, dialect, rfl, hdialect, h⟩ := Attempt.runs_bind_ok.mp h
  obtain ⟨t₅, t₆, _, rfl, hcreated, hmade⟩ := Attempt.runs_bind_ok.mp h
  obtain ⟨rfl, hread⟩ := runs_step.mp hsettings
  obtain ⟨rfl, -⟩ := runs_step.mp hdialect
  obtain ⟨rfl, hof⟩ := runs_step.mp hmade
  obtain rfl := runs_createTables hcreated
  exact ⟨settings, Except.mapError_eq_ok hread.symm, hof.symm, rfl⟩

/-- A pool that is set up creates the tables and writes one line. -/
theorem runs_setUpPool (h : (setUpPool env).run.Runs t (.ok setup)) :
    ∃ settings line, Settings.read env = .ok settings ∧ Setup.of settings = .ok setup ∧
      setup.starting = .ok line ∧ t = [⟨.query .create, .ok ()⟩, ⟨.log .worker line, ()⟩] := by
  unfold setUpPool at h
  obtain ⟨t₁, t₂, made, rfl, hmade, h⟩ := Attempt.runs_bind_ok.mp h
  obtain ⟨t₃, t₄, line, rfl, hline, h⟩ := Attempt.runs_bind_ok.mp h
  obtain ⟨t₅, t₆, _, rfl, hlog, hdone⟩ := Attempt.runs_bind_ok.mp h
  obtain ⟨rfl, hstarting⟩ := runs_step.mp hline
  obtain ⟨_, -, hlog⟩ := Attempt.runs_lift.mp hlog
  obtain rfl := Program.runs_perform.mp hlog
  obtain ⟨rfl, hsame⟩ := Attempt.runs_pure.mp hdone
  cases hsame
  obtain ⟨settings, hread, hof, rfl⟩ := runs_setUp hmade
  exact ⟨settings, line, hread, hof, hstarting.symm, rfl⟩

end Service

namespace Settings

/-- The node of settings has no blanks around it. -/
theorem trim_nodeUrl (h : Settings.read env = .ok settings) :
    Text.trim settings.nodeUrl = settings.nodeUrl := by
  rw [(endpoints_of_read h).1]
  rcases env.gives_or_blank "RPC_URL" with ⟨url, hurl, hvalue⟩ | ⟨-, hvalue⟩
  · rw [hvalue]
    exact hurl.trim
  · rw [hvalue]
    exact (nodeAt_iff.mpr rfl).trim

theorem of_setUpPool {t : Trace} {setup : Service.Setup} (h : Settings.read env = .ok settings)
    (hruns : (Service.setUpPool env).run.Runs t (.ok setup)) :
    setup.settings = settings ∧ setup.client.url = settings.nodeUrl := by
  obtain ⟨read, line, hread, hsetup, -, -⟩ := Service.runs_setUpPool hruns
  obtain rfl := Except.ok.inj (h.symm.trans hread)
  obtain ⟨hsettings, hurl⟩ := Service.Setup.of_eq_ok hsetup
  exact ⟨hsettings, hurl.trans (trim_nodeUrl h)⟩

/-- If an environment makes settings, all who ask for the endpoints or for settings, before or after
that, are told the same. The settings have the database that is asked for, and the node that is
asked for unless a variable of their own names another. The variables go in their order, those that
are set before those of the file, and a pool uses these settings and this node. -/
theorem endpoints_as_asked (h : env.asked file Settings.read = .ok (.ok settings, after)) :
    (∀ start, start = env ∨ start = after →
      start.asked file Environment.nodeUrl = .ok (after.nodeUrl, after) ∧
      start.asked file Environment.databaseUrl = .ok (settings.databaseUrl, after) ∧
      start.asked file Settings.read = .ok (.ok settings, after)) ∧
    (after.IsBlank "RPC_URL" → settings.nodeUrl = after.nodeUrl) ∧
    (∀ url, after.Gives "RPC_URL" url → settings.nodeUrl = url) ∧
    (∀ url, after.NodeAt url ↔ url = after.nodeUrl) ∧
    (∀ url, after.DatabaseAt url ↔ url = settings.databaseUrl) ∧
    (∀ name, after.get? name = (env.get? name).or (env.added? file name)) ∧
    ∀ t setup, (Service.setUpPool after).run.Runs t (.ok setup) →
      setup.settings = settings ∧ setup.client.url = settings.nodeUrl := by
  obtain ⟨hfile, hread⟩ := asked_eq_ok.mp h
  obtain ⟨hnode, hdatabase⟩ := endpoints_of_read hread.symm
  have hasked (α : Type) (look : Environment → α) := asked_again h look
  refine ⟨?_, fun hblank => ?_, fun url hgives => ?_,
    fun url => nodeAt_iff, fun url => ?_, get?_withFile hfile,
    fun t setup hruns => of_setUpPool hread.symm hruns⟩
  · rw [hdatabase, hread]
    rintro start (rfl | rfl)
    · exact ⟨(hasked _ _).1, (hasked _ _).1, (hasked _ _).1⟩
    · exact ⟨(hasked _ _).2, (hasked _ _).2, (hasked _ _).2⟩
  · rw [hnode, value?_eq_none.mpr hblank]
    rfl
  · rw [hnode, value?_eq_some.mpr hgives]
    rfl
  · rw [hdatabase]
    exact databaseAt_iff

/-- A variable of the settings' own names a node that no one else is told of. -/
theorem node_of_own_variable :
    ¬ ∀ (env after : Environment) (file : Option String) (settings : Settings),
      env.asked file Settings.read = .ok (.ok settings, after) →
        after.asked file Environment.nodeUrl = .ok (settings.nodeUrl, after) := by
  intro hsame
  let env : Environment := ⟨[("RPC_URL", "http://x")]⟩
  have hnode : (Settings.read env).toOption.map (·.nodeUrl) = some "http://x" := by decide +kernel
  obtain ⟨settings, hread, hurl⟩ := Option.map_eq_some_iff.mp hnode
  have hread := Except.toOption_eq_some.mp hread
  have hasked : env.asked none Settings.read = .ok (.ok settings, env) :=
    asked_eq_ok.mpr ⟨rfl, hread.symm⟩
  obtain ⟨-, htold⟩ := asked_eq_ok.mp (hsame env env none settings hasked)
  rw [hurl] at htold
  exact absurd htold (by decide)

/-- A file with a key, a path and a blank name for a node. -/
def endpointsFile : String := "HELIUS_API_KEY=k\nINDEXER_DB_PATH=x.db\nRPC_URL=\n"

/-- The node is set with blanks around it, so the key of the file is of no use; the database is set
to blanks, so the path of the file is. -/
theorem endpoints_as_asked_of_file :
    ∃ (env after : Environment) (settings : Settings),
      env.entries = [("SOLANA_RPC_URL", " http://n "), ("DATABASE_URL", " ")] ∧
      env.asked (some endpointsFile) Settings.read = .ok (.ok settings, after) ∧
      after.asked (some endpointsFile) Environment.nodeUrl = .ok ("http://n", after) ∧
      env.asked (some endpointsFile) Environment.databaseUrl = .ok ("sqlite:///x.db", after) ∧
      after.asked (some endpointsFile) Settings.read = .ok (.ok settings, after) ∧
      settings.nodeUrl = "http://n" := by
  let env : Environment := ⟨[("SOLANA_RPC_URL", " http://n "), ("DATABASE_URL", " ")]⟩
  have htold : ((env.asked (some endpointsFile) Settings.read).toOption.bind fun told =>
      told.1.toOption.map fun settings => (settings.nodeUrl, settings.databaseUrl,
        told.2.nodeUrl)) = some ("http://n", "sqlite:///x.db", "http://n") := by
    simp only [asked, withFile, addFromFile_eq]
    decide +kernel
  obtain ⟨⟨made, after⟩, hasked, hmade⟩ := Option.bind_eq_some_iff.mp htold
  obtain ⟨settings, hsettings, hvalues⟩ := Option.map_eq_some_iff.mp hmade
  have hasked := Except.toOption_eq_some.mp hasked
  obtain rfl := Except.toOption_eq_some.mp hsettings
  simp only [Prod.mk.injEq] at hvalues
  obtain ⟨hnode, hdatabase, hafter⟩ := hvalues
  obtain ⟨hagain, -⟩ := endpoints_as_asked hasked
  obtain ⟨-, hbefore, -⟩ := hagain env (.inl rfl)
  obtain ⟨hlater, -, hread⟩ := hagain after (.inr rfl)
  rw [hafter] at hlater
  rw [hdatabase] at hbefore
  exact ⟨env, after, settings, rfl, hasked, hlater, hbefore, hread, hnode⟩

end Settings

end AddressIndex
