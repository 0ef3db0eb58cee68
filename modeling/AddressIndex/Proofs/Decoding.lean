import AddressIndex.Proofs.Execution
import AddressIndex.Proofs.Fetch
import AddressIndex.Proofs.Range

/-! Decoding of transactions. Whatever a reply holds, a fetch comes to an outcome for its signature,
but for two replies that it does not survive: a body nested too deep to be read, and a result with a
reading of an amount that is an integer beyond the floating numbers. -/

namespace AddressIndex

open Binary64 (bound)

/-! ### Values inside a value -/

namespace Json

/-- `v` is the field `name` of an object somewhere in a value. -/
inductive Under (name : String) (v : Json) : Json → Prop
  | here {fields : Fields} (h : fields.get? name = some v) : Under name v (.obj fields)
  | field {fields : Fields} {other : String} {w : Json} (h : fields.get? other = some w)
      (inner : Under name v w) : Under name v (.obj fields)
  | item {items : List Json} {w : Json} (h : w ∈ items) (inner : Under name v w) :
      Under name v (.arr items)

/-- What is in `w` is in `v`. -/
def Inside (w v : Json) : Prop := ∀ name x, Under name x w → Under name x v

theorem Inside.refl (v : Json) : Inside v v := fun _ _ h => h

theorem Inside.trans {u v w : Json} (h : Inside u v) (h' : Inside v w) : Inside u w :=
  fun name x hx => h' name x (h name x hx)

theorem inside_get (fields : Fields) (name : String) : Inside (fields.get name) (.obj fields) := by
  intro other x h
  unfold Fields.get at h
  cases hget : fields.get? name with
  | none =>
    rw [hget] at h
    cases h
  | some w =>
    rw [hget] at h
    exact .field hget h

theorem inside_fields (v : Json) : Inside (.obj (v.fields?.getD [])) v := by
  cases v with
  | obj fields => exact .refl _
  | _ =>
    intro name x h
    cases h with
    | here h => cases h
    | field h _ => cases h

theorem inside_require {fields : Fields} {name : String} {v : Json}
    (h : fields.require name = .ok v) : Inside v (.obj fields) := by
  unfold Fields.require at h
  split at h
  next hget =>
    cases h
    exact fun _ _ h => .field hget h
  next => cases h

theorem inside_item {v w : Json} {items : List Json} (hitems : v.items? = .ok items)
    (hw : w ∈ items) : Inside w v := by
  intro name x h
  unfold items? at hitems
  split at hitems
  · cases hitems
    cases hw
  · cases v with
    | arr _ =>
      cases hitems
      exact .item hw h
    | str s =>
      cases hitems
      obtain ⟨c, -, rfl⟩ := List.mem_map.mp hw
      cases h
    | obj fields =>
      cases hitems
      obtain ⟨p, -, rfl⟩ := List.mem_map.mp hw
      cases h
    | _ => cases hitems

end Json

/-! ### Faults of arithmetic -/

/-- The only arithmetic that fails is the reading of an amount, by an integer in `v` that is beyond
the floating numbers. -/
def OnlyTooLarge {α : Type} (v : Json) (x : Except DecodeError α) : Prop :=
  ∀ fault, x = .error (.arithmetic fault) →
    fault = .integerTooLarge ∧ ∃ n : Int, Json.Under "uiAmount" (.int n) v ∧ bound ≤ n.natAbs

namespace OnlyTooLarge

variable {α β : Type} {v w : Json} {x : Except DecodeError α}

theorem of_ne (h : ∀ fault, x ≠ .error (.arithmetic fault)) : OnlyTooLarge v x :=
  fun fault hx => absurd hx (h fault)

theorem pure (a : α) : OnlyTooLarge v (.ok a) := of_ne nofun

theorem inside (h : OnlyTooLarge w x) (hw : w.Inside v) : OnlyTooLarge v x := by
  intro fault hx
  obtain ⟨hfault, n, hn, hlarge⟩ := h fault hx
  exact ⟨hfault, n, hw _ _ hn, hlarge⟩

theorem bind {f : α → Except DecodeError β} (hx : OnlyTooLarge v x)
    (hf : ∀ a, x = .ok a → OnlyTooLarge v (f a)) : OnlyTooLarge v (x >>= f) := by
  intro fault h
  rcases Except.bind_eq_error.mp h with h | ⟨a, ha, h⟩
  · exact hx fault h
  · exact hf a ha fault h

theorem mapM {f : α → Except DecodeError β} {xs : List α} (h : ∀ a ∈ xs, OnlyTooLarge v (f a)) :
    OnlyTooLarge v (xs.mapM f) := by
  intro fault hfails
  obtain ⟨a, ha, hfail⟩ := Except.mem_of_mapM_eq_error hfails
  exact h a ha fault hfail

end OnlyTooLarge

section Decoders

open OnlyTooLarge (of_ne)

theorem onlyTooLarge_items (v w : Json) : OnlyTooLarge w v.items? := by
  refine of_ne fun fault h => ?_
  unfold Json.items? at h
  split at h
  · cases h
  · cases v <;> cases h

theorem onlyTooLarge_amount (fields : Fields) :
    OnlyTooLarge (.obj fields) (fields.get "uiAmount").float? := by
  intro fault h
  unfold Fields.get at h
  cases hget : fields.get? "uiAmount" with
  | none =>
    rw [hget] at h
    cases h
  | some v =>
    rw [hget] at h
    cases v with
    | int n =>
      cases hn : Binary64.ofInteger n with
      | ok x =>
        simp only [Option.getD_some, Json.float?, hn] at h
        cases h
      | error fault' =>
        simp only [Option.getD_some, Json.float?, hn] at h
        cases h
        obtain ⟨hfault, hlarge⟩ := Binary64.ofInteger_eq_error.mp hn
        exact ⟨hfault, n, .here hget, hlarge⟩
    | _ => cases h

theorem onlyTooLarge_tokenAmount (v : Json) : OnlyTooLarge v (TokenAmount.ofJson v) := by
  unfold TokenAmount.ofJson
  cases v with
  | obj fields =>
    dsimp only [Json.fields?]
    split
    · exact (onlyTooLarge_amount fields).bind fun display _ => .pure _
    · exact .pure _
  | _ => exact .pure _

theorem onlyTooLarge_info (fields : Fields) :
    OnlyTooLarge (.obj fields) (InstructionInfo.ofFields fields) :=
  ((onlyTooLarge_tokenAmount _).inside (Json.inside_get fields "tokenAmount")).bind fun _ _ =>
    (onlyTooLarge_amount fields).bind fun _ _ => .pure _

theorem onlyTooLarge_parsed (v : Json) : OnlyTooLarge v (ParsedInstruction.ofJson v) := by
  unfold ParsedInstruction.ofJson
  cases v with
  | obj fields =>
    dsimp only [Json.fields?]
    split
    · refine OnlyTooLarge.bind ?_ fun info _ => .pure _
      have hinside := (Json.inside_fields _).trans (Json.inside_get fields "info")
      exact (onlyTooLarge_info _).inside hinside
    · exact .pure _
  | _ => exact .pure _

theorem onlyTooLarge_instruction (v : Json) (table : AccountTable) :
    OnlyTooLarge v (Instruction.ofJson v table) := by
  unfold Instruction.ofJson
  cases v with
  | obj fields =>
    refine ((onlyTooLarge_parsed _).inside (Json.inside_get fields "parsed")).bind fun _ _ => ?_
    exact (onlyTooLarge_items _ _).bind fun _ _ => .pure _
  | _ => exact of_ne nofun

theorem onlyTooLarge_inner (v : Json) (table : AccountTable) :
    OnlyTooLarge v (InnerInstructions.ofJson v table) := by
  unfold InnerInstructions.ofJson
  cases v with
  | obj fields =>
    dsimp only [Json.fields?]
    split
    · refine (onlyTooLarge_items _ _).bind fun items hitems => ?_
      refine OnlyTooLarge.bind (.mapM fun item hitem => ?_) fun _ _ => .pure _
      have hinside := (Json.inside_item hitems hitem).trans (Json.inside_get fields "instructions")
      exact (onlyTooLarge_instruction item table).inside hinside
    · exact .pure _
  | _ => exact .pure _

theorem onlyTooLarge_tokenBalance (v : Json) (table : AccountTable) :
    OnlyTooLarge v (TokenBalance.ofJson v table) := by
  unfold TokenBalance.ofJson
  cases v with
  | obj fields =>
    refine ((onlyTooLarge_tokenAmount _).inside (Json.inside_get fields "uiTokenAmount")).bind
      fun amount _ => ?_
    split <;> exact .pure _
  | _ => exact .pure _

theorem onlyTooLarge_tokenBalances (v : Json) (table : AccountTable) :
    OnlyTooLarge v (Transaction.tokenBalances v table) := by
  refine (onlyTooLarge_items v v).bind fun items hitems => ?_
  refine OnlyTooLarge.bind (.mapM fun item hitem => ?_) fun _ _ => .pure _
  exact (onlyTooLarge_tokenBalance item table).inside (Json.inside_item hitems hitem)

theorem onlyTooLarge_require (v : Json) (fields : Fields) (name : String) :
    OnlyTooLarge v (fields.require name) := by
  unfold Fields.require
  split
  · exact .pure _
  · exact of_ne nofun

theorem onlyTooLarge_parts (v : Json) (fields : Fields) :
    OnlyTooLarge v (Transaction.parts fields) := by
  unfold Transaction.parts
  refine (onlyTooLarge_require v _ _).bind fun tx _ => ?_
  refine (onlyTooLarge_require v _ _).bind fun info _ => ?_
  split
  · refine (onlyTooLarge_require v _ _).bind fun message _ => ?_
    split
    · exact .pure _
    · exact of_ne nofun
  · exact of_ne nofun

theorem onlyTooLarge_loaded (v w : Json) : OnlyTooLarge w (LoadedAddresses.ofJson v) := by
  unfold LoadedAddresses.ofJson LoadedAddresses.texts
  split
  · refine ((onlyTooLarge_items _ w).bind fun _ _ => .pure _).bind fun _ _ => ?_
    exact ((onlyTooLarge_items _ w).bind fun _ _ => .pure _).bind fun _ _ => .pure _
  · exact .pure _

theorem onlyTooLarge_accounts (v : Json) (keys : List Json) (loaded : Option LoadedAddresses) :
    OnlyTooLarge v (AccountTable.build keys loaded) := by
  refine OnlyTooLarge.bind (.mapM fun entry _ => of_ne fun fault h => ?_) fun _ _ => .pure _
  unfold AccountKey.ofJson at h
  split at h
  · cases h
  · dsimp only at h
    split at h <;> cases h

theorem onlyTooLarge_integers (v w : Json) (name : String) :
    OnlyTooLarge w (v.integers name) := by
  unfold Json.integers
  split
  · exact .pure _
  · refine .mapM fun item _ => ?_
    split
    · exact .pure _
    · exact of_ne nofun
  · exact of_ne nofun

theorem Json.eq_obj_of_fields? {v : Json} {fields : Fields} (h : v.fields? = some fields) :
    v = .obj fields := by
  cases v with
  | obj _ => exact congrArg _ (Option.some.inj h)
  | _ => cases h

theorem Transaction.parts_eq_ok {fields tx info message : Fields}
    (h : Transaction.parts fields = .ok (tx, info, message)) :
    fields.require "transaction" = .ok (.obj tx) ∧ fields.require "meta" = .ok (.obj info) ∧
      tx.require "message" = .ok (.obj message) := by
  obtain ⟨txJson, htx, h⟩ := Except.bind_eq_ok.mp h
  obtain ⟨infoJson, hinfo, h⟩ := Except.bind_eq_ok.mp h
  split at h
  next tx' info' htx' hinfo' =>
    obtain ⟨messageJson, hmessage, h⟩ := Except.bind_eq_ok.mp h
    split at h
    next message' hmessage' =>
      cases h
      rw [Json.eq_obj_of_fields? htx'] at htx
      rw [Json.eq_obj_of_fields? hinfo'] at hinfo
      rw [Json.eq_obj_of_fields? hmessage'] at hmessage
      exact ⟨htx, hinfo, hmessage⟩
    next => cases h
  next => cases h

theorem inside_parts {fields tx info message : Fields}
    (h : Transaction.parts fields = .ok (tx, info, message)) :
    Json.Inside (.obj tx) (.obj fields) ∧ Json.Inside (.obj info) (.obj fields) ∧
      Json.Inside (.obj message) (.obj fields) := by
  obtain ⟨htx, hinfo, hmessage⟩ := Transaction.parts_eq_ok h
  have htx := Json.inside_require htx
  exact ⟨htx, Json.inside_require hinfo, (Json.inside_require hmessage).trans htx⟩

theorem onlyTooLarge_transaction (fields : Fields) :
    OnlyTooLarge (.obj fields) (Transaction.ofFields fields) := by
  -- step by step; of all steps only those that read amounts do arithmetic
  unfold Transaction.ofFields
  refine (onlyTooLarge_parts _ fields).bind fun (tx, info, message) hparts => ?_
  obtain ⟨htx, hinfo, hmessage⟩ := inside_parts hparts
  dsimp only
  split
  swap
  · exact of_ne nofun
  split
  swap
  · exact of_ne nofun
  refine (onlyTooLarge_loaded _ _).bind fun loaded _ => ?_
  split
  swap
  · exact of_ne nofun
  refine (onlyTooLarge_accounts _ _ loaded).bind fun accounts _ => ?_
  refine (onlyTooLarge_items _ _).bind fun items hitems => ?_
  refine OnlyTooLarge.bind (.mapM fun item hitem => ?_) fun instructions _ => ?_
  · have hinside := (Json.inside_item hitems hitem).trans (Json.inside_get message "instructions")
    exact (onlyTooLarge_instruction item accounts).inside (hinside.trans hmessage)
  refine (onlyTooLarge_items _ _).bind fun blocks hblocks => ?_
  refine OnlyTooLarge.bind (.mapM fun block hblock => ?_) fun inner _ => ?_
  · have hinside :=
      (Json.inside_item hblocks hblock).trans (Json.inside_get info "innerInstructions")
    exact (onlyTooLarge_inner block accounts).inside (hinside.trans hinfo)
  refine (onlyTooLarge_items _ _).bind fun signatures _ => ?_
  split
  · exact of_ne nofun
  refine (onlyTooLarge_integers _ _ _).bind fun pre _ => ?_
  refine (onlyTooLarge_integers _ _ _).bind fun post _ => ?_
  have hinside (name : String) := (Json.inside_get info name).trans hinfo
  refine ((onlyTooLarge_tokenBalances _ _).inside (hinside "preTokenBalances")).bind fun _ _ => ?_
  exact ((onlyTooLarge_tokenBalances _ _).inside (hinside "postTokenBalances")).bind fun _ _ =>
    .pure _

/-- Decoding a transaction fails in its arithmetic only for an amount in it. -/
theorem onlyTooLarge_ofJson (v : Json) : OnlyTooLarge v (Transaction.ofJson v) := by
  unfold Transaction.ofJson
  cases v with
  | obj fields => exact onlyTooLarge_transaction fields
  | _ => exact of_ne nofun

/-- What is wrong with a transaction, if not its shape, is an amount that is too large. -/
theorem eq_tooLarge_of_not_structural {v : Json} {error : DecodeError}
    (h : Transaction.ofJson v = .error error) (hshape : error.isStructural = false) :
    error = .arithmetic .integerTooLarge := by
  cases error with
  | arithmetic fault => rw [(onlyTooLarge_ofJson v fault h).1]
  | _ => cases hshape

end Decoders

/-! ### Fetches -/

namespace Rpc

theorem readResult_of_deep {method : String} {status : Int} {body : String}
    {container : Json.Container} {place : Json.Place}
    (h : Json.read body = .error ⟨.tooDeep container, place⟩) :
    readResult method status body = .error (.nesting container) := by
  unfold readResult
  rw [h]
  rfl

/-- The reading of a body fails for its depth, or as an error of the reply. -/
theorem readResult_cases (method : String) (status : Int) (body : String) :
    (∃ result, readResult method status body = .ok result) ∨
      (∃ container place, Json.read body = .error ⟨.tooDeep container, place⟩) ∨
      ∃ fault, readResult method status body = .error (.rpc (.badReply status fault)) := by
  unfold readResult
  cases Json.read body with
  | error error =>
    obtain ⟨fault, place⟩ := error
    cases fault with
    | tooDeep container => exact .inr (.inl ⟨container, place, rfl⟩)
    | _ => exact .inr (.inr ⟨_, rfl⟩)
  | ok value =>
    dsimp only
    split
    · exact .inr (.inr ⟨_, rfl⟩)
    · split
      · exact .inl ⟨_, rfl⟩
      · exact .inr (.inr ⟨_, rfl⟩)

namespace Outcome

/-- An outcome is classified by the answer that it comes of: a transaction of a reply, a failure of
the network, or a failure of the reply with its status. All are for the signature asked for. -/
def Classifies (s : String) (answer : Answer) : Outcome → Prop
  | .fetched tx => tx.signature = s ∧ ∃ status body, answer = .reply status body
  | .failed error => error.signature = s ∧
      match answer with
      | .reply status _ => error.kind = .protocol ∧ error.status? = some status
      | .unreachable _ => error.kind = .transport ∧ error.status? = none ∧ error.code? = none
      | .crash _ => False

/-- The replies that a fetch does not survive. -/
inductive Escapes : Answer → Fault → Prop
  | deep {status : Int} {body : String} {container : Json.Container} {place : Json.Place}
      (h : Json.read body = .error ⟨.tooDeep container, place⟩) :
      Escapes (.reply status body) (.nesting container)
  | large {status : Int} {body : String} {result : Json} {n : Int}
      (reads : readResult "getTransaction" status body = .ok result)
      (amount : Json.Under "uiAmount" (.int n) result) (beyond : bound ≤ n.natAbs)
      (decodes : Transaction.ofJson result = .error (.arithmetic .integerTooLarge)) :
      Escapes (.reply status body) (.arithmetic .integerTooLarge)

/-- A reply whose result is read escapes only for an amount that is too large. -/
theorem escapes_of_reads {status : Int} {body : String} {result : Json} {fault : Fault}
    (h : readResult "getTransaction" status body = .ok result) :
    Escapes (.reply status body) fault ↔ fault = .arithmetic .integerTooLarge ∧
      Transaction.ofJson result = .error (.arithmetic .integerTooLarge) := by
  constructor
  · intro hescapes
    cases hescapes with
    | deep hdeep =>
      rw [readResult_of_deep hdeep] at h
      cases h
    | large reads _ _ decodes =>
      rw [h] at reads
      cases reads
      exact ⟨rfl, decodes⟩
  · rintro ⟨rfl, hdecodes⟩
    obtain ⟨-, n, hn, hlarge⟩ := onlyTooLarge_ofJson result _ hdecodes
    exact .large h hn hlarge hdecodes

/-- The outcome of an answer that the network delivered is classified by it. -/
theorem ofAnswer_classifies {s : String} {answer : Answer} {outcome : Outcome}
    {status? : Option Int} (h : ofAnswer s answer = .ok (outcome, status?)) :
    Classifies s answer outcome := by
  cases answer with
  | crash detail => cases h
  | unreachable detail =>
    cases h
    exact ⟨rfl, rfl, rfl, rfl⟩
  | reply status body =>
    unfold ofAnswer at h
    dsimp only [Answer.result] at h
    rcases readResult_cases (Request.transaction s).method status body with
      ⟨result, hresult⟩ | ⟨container, place, hdeep⟩ | ⟨fault, hresult⟩
    · rw [hresult] at h
      dsimp only [bind, Except.bind, pure, Except.pure] at h
      split at h
      · split at h
        · cases h
          exact ⟨rfl, rfl, rfl⟩
        · cases h
      · cases h
        exact ⟨rfl, rfl, rfl⟩
      · split at h
        next hsame =>
          cases h
          exact ⟨hsame, status, body, rfl⟩
        next =>
          cases h
          exact ⟨rfl, rfl, rfl⟩
    · rw [readResult_of_deep hdeep] at h
      cases h
    · rw [hresult] at h
      cases h
      exact ⟨rfl, rfl, rfl⟩

/-- A reply has no outcome if the fetch does not survive it, and only then. -/
theorem ofAnswer_reply_eq_error {s : String} {status : Int} {body : String} {fault : Fault} :
    ofAnswer s (.reply status body) = .error fault ↔ Escapes (.reply status body) fault := by
  unfold ofAnswer
  dsimp only [Answer.result, Request.method]
  rcases readResult_cases "getTransaction" status body with
    ⟨result, hresult⟩ | ⟨container, place, hdeep⟩ | ⟨fault', hresult⟩
  · rw [hresult, escapes_of_reads hresult]
    dsimp only [bind, Except.bind, pure, Except.pure]
    cases hdecode : Transaction.ofJson result with
    | ok tx =>
      dsimp only
      split <;> exact ⟨nofun, fun h => nomatch h.2⟩
    | error error =>
      cases error with
      | arithmetic fault' =>
        obtain ⟨rfl, -⟩ := onlyTooLarge_ofJson result fault' hdecode
        exact ⟨fun h => ⟨(Except.error.inj h).symm, rfl⟩, fun h => h.1 ▸ rfl⟩
      | _ => exact ⟨nofun, fun h => nomatch h.2⟩
  · rw [readResult_of_deep hdeep]
    constructor
    · rintro ⟨⟩
      exact .deep hdeep
    · intro h
      cases h with
      | deep hdeep' =>
        rw [hdeep] at hdeep'
        cases hdeep'
        rfl
      | large reads _ _ _ =>
        rw [readResult_of_deep hdeep] at reads
        cases reads
  · rw [hresult]
    refine ⟨nofun, fun h => ?_⟩
    cases h with
    | deep hdeep =>
      rw [readResult_of_deep hdeep] at hresult
      cases hresult
    | large reads _ _ _ =>
      rw [hresult] at reads
      cases reads

/-- A fetch whose answer the network delivers comes to a classified outcome for its signature,
unless the answer is a reply that it does not survive: one nested too deep, or one with an amount
that is an integer beyond the floating numbers. -/
theorem fetch_classifies {client : Client} {s : String} {t : Trace} {r : Except Fault Outcome}
    (hasks : client.Asks) (hruns : (fetch client s).run.Runs t r)
    (hdelivers : ∀ request answer, ⟨.ask request, answer⟩ ∈ t →
      client.receive answer = .ok answer ∧ ∀ detail, answer ≠ .crash detail) :
    ∃ answer, t.calls = [⟨.ask (.transaction s), answer⟩] ∧
      (∀ outcome, r = .ok outcome → Classifies s answer outcome) ∧
      ∀ fault, r = .error fault ↔ Escapes answer fault := by
  rcases runs_fetch hruns with ⟨-, answer, hcalls, rfl⟩ | ⟨hnot, -⟩
  swap
  · exact absurd hasks hnot
  have hasked : (⟨.ask (.transaction s), answer⟩ : Event) ∈ t.calls := by
    rw [hcalls]
    exact List.mem_cons_self
  obtain ⟨hreceive, hcrash⟩ := hdelivers _ _ (Trace.mem_calls.mp hasked).1
  refine ⟨answer, hcalls, ?_⟩
  rw [hreceive]
  change (∀ outcome, (ofAnswer s answer).map (·.1) = .ok outcome → _) ∧
    ∀ fault, (ofAnswer s answer).map (·.1) = .error fault ↔ _
  -- without a reply there is an outcome, and nothing escapes
  have herror : ∀ fault, ofAnswer s answer = .error fault ↔ Escapes answer fault := by
    cases answer with
    | reply status body => exact fun fault => ofAnswer_reply_eq_error
    | unreachable detail => exact fun fault => ⟨nofun, nofun⟩
    | crash detail => exact absurd rfl (hcrash detail)
  refine ⟨fun outcome h => ?_, fun fault => Except.map_eq_error.trans (herror fault)⟩
  cases hof : ofAnswer s answer with
  | ok result =>
    rw [hof] at h
    cases h
    exact ofAnswer_classifies hof
  | error fault =>
    rw [hof] at h
    cases h

/-- A reply with a reading of an amount that has 310 digits. -/
def largeText : List Char :=
  "\x7b\"result\":\x7b\"slot\":0,\"meta\":\x7b\"fee\":0\x7d,".toList ++
    "\"transaction\":\x7b\"message\":\x7b\"accountKeys\":[],\"instructions\":[".toList ++
    "\x7b\"parsed\":\x7b\"type\":\"\",\"info\":\x7b\"uiAmount\":1".toList ++
    List.replicate 309 '0' ++ "\x7d\x7d\x7d]\x7d\x7d\x7d\x7d".toList

set_option maxRecDepth 20000 in
/-- A reply with an amount that is too large ends a fetch. -/
theorem fetch_classifies_of_large :
    let p := (fetch Sample.limits.client "s").run
    let w := { Sample.world .unreachable with node := fun _ _ => .reply 200 (.ofList largeText) }
    (p.run w).1 = .error (.arithmetic .integerTooLarge) := by
  intro p w
  have hlarge : (readResult "getTransaction" 200 (.ofList largeText)).toOption.map (fun result =>
      ((fun _ => ()) <$> Transaction.ofJson result).mapError DecodeError.isStructural) =
        some (.error false) := by
    rw [readResult, Json.read, Json.readWithin, String.toList_ofList]
    decide +kernel
  have hwithin : w.Within fun _ answer => answer = .reply 200 (.ofList largeText) :=
    ⟨rfl, fun _ _ => rfl⟩
  have hanswered := p.answered_trace hwithin
  obtain ⟨answer, hcalls, -, hescapes⟩ := fetch_classifies
    (show Sample.limits.client.Asks by rfl) (p.runs_trace w) fun request answer hasked => by
      rw [hanswered request answer hasked]
      exact ⟨rfl, nofun⟩
  have hasked : (⟨.ask (.transaction "s"), answer⟩ : Event) ∈ (p.trace w).calls := by
    rw [hcalls]
    exact List.mem_cons_self
  obtain rfl := hanswered _ _ (Trace.mem_calls.mp hasked).1
  refine (hescapes _).mpr ?_
  cases hreads : readResult "getTransaction" 200 (.ofList largeText) with
  | error fault =>
    rw [hreads] at hlarge
    cases hlarge
  | ok result =>
    rw [hreads] at hlarge
    have hkind : ((fun _ => ()) <$> Transaction.ofJson result).mapError DecodeError.isStructural =
        .error false := Option.some.inj hlarge
    cases hof : Transaction.ofJson result with
    | ok tx =>
      rw [hof] at hkind
      cases hkind
    | error error =>
      rw [hof] at hkind
      obtain rfl := eq_tooLarge_of_not_structural hof (Except.error.inj hkind)
      exact (escapes_of_reads hreads).mpr ⟨rfl, hof⟩

end Outcome

end Rpc

end AddressIndex
