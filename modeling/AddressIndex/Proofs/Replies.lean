import AddressIndex.Proofs.Decoding
import AddressIndex.Proofs.Pages

/-! Replies to a request for a page. A page is taken whole or not at all: there is one exactly when
the body is an object that reports no error and lists items that all have a signature, under a bound
at least one item. It then has one record for each item. Otherwise the network failed, the history
has ended, or the reply is at fault. -/

namespace AddressIndex

/-! ### Items -/

theorem Json.text?_eq_some {v : Json} {s : String} : v.text? = some s ↔ v = .str s ∧ s ≠ "" := by
  cases v with
  | str text =>
    rw [Json.text?, Option.ite_none_left_eq_some, String.isEmpty_iff, Option.some.injEq,
      Json.str.injEq]
    exact ⟨fun ⟨hne, hsame⟩ => ⟨hsame, hsame ▸ hne⟩, fun ⟨hsame, hne⟩ => ⟨hsame ▸ hne, hsame⟩⟩
  | _ => simp [Json.text?]

/-- An object with a signature that is a text and not empty. -/
def Json.HasSignature (item : Json) : Prop :=
  ∃ (fields : Fields) (name : String),
    item = .obj fields ∧ fields.get? "signature" = some (.str name) ∧ name ≠ ""

/-- The record holds what the item tells. -/
def SignatureRecord.ToldBy (record : SignatureRecord) (item : Json) : Prop :=
  ∃ fields : Fields, item = .obj fields ∧
    fields.get? "signature" = some (.str record.signature) ∧ record.signature ≠ "" ∧
    record.blockTime = (fields.get "blockTime").int? ∧
    record.slot = (fields.get "slot").int?

theorem Fields.require_eq_ok {fields : Fields} {name : String} {v : Json} :
    fields.require name = .ok v ↔ fields.get? name = some v := by
  unfold require
  cases fields.get? name with
  | none => exact ⟨nofun, nofun⟩
  | some w => exact ⟨fun h => congrArg _ (Except.ok.inj h), fun h => congrArg _ (Option.some.inj h)⟩

theorem Fields.get_eq_null {fields : Fields} {name : String} :
    fields.get name = .null ↔ ∀ v, fields.get? name = some v → v = .null := by
  unfold get
  cases fields.get? name with
  | none => exact ⟨fun _ => nofun, fun _ => rfl⟩
  | some v => exact ⟨fun h w hw => Option.some.inj hw ▸ h, fun h => h v rfl⟩

theorem SignatureRecord.ofJson_eq_ok {item : Json} {record : SignatureRecord} :
    ofJson item = .ok record ↔ record.ToldBy item := by
  cases item with
  | obj fields =>
    change (Fields.require fields "signature" >>= _) = .ok record ↔ _
    rw [Except.bind_eq_ok]
    constructor
    · rintro ⟨signature, hsignature, h⟩
      split at h
      next name hname =>
        cases h
        obtain ⟨rfl, hne⟩ := Json.text?_eq_some.mp hname
        exact ⟨fields, rfl, Fields.require_eq_ok.mp hsignature, hne, rfl, rfl⟩
      next => cases h
    · rintro ⟨_, ⟨⟩, hsignature, hne, htime, hslot⟩
      refine ⟨_, Fields.require_eq_ok.mpr hsignature, ?_⟩
      rw [Json.text?_eq_some.mpr ⟨rfl, hne⟩, ← htime, ← hslot]
      rfl
  | _ => exact ⟨nofun, fun ⟨_, h, _⟩ => nomatch h⟩

theorem SignatureRecord.ToldBy.hasSignature {item : Json} {record : SignatureRecord}
    (h : record.ToldBy item) : item.HasSignature := by
  obtain ⟨fields, hitem, hsignature, hne, -⟩ := h
  exact ⟨fields, record.signature, hitem, hsignature, hne⟩

theorem Json.HasSignature.told {item : Json} (h : item.HasSignature) :
    ∃ record : SignatureRecord, record.ToldBy item := by
  obtain ⟨fields, name, hitem, hsignature, hne⟩ := h
  exact ⟨⟨name, (fields.get "blockTime").int?, (fields.get "slot").int?⟩,
    fields, hitem, hsignature, hne, rfl, rfl⟩

/-- Records that items tell are those that the items decode to. -/
theorem SignatureRecord.mapM_ofJson_eq_ok {items : List Json} {records : List SignatureRecord} :
    items.mapM ofJson = .ok records ↔
      List.Forall₂ (fun item record => record.ToldBy item) items records := by
  rw [Except.mapM_eq_ok]
  exact ⟨fun h => h.imp fun _ _ => ofJson_eq_ok.mp, fun h => h.imp fun _ _ => ofJson_eq_ok.mpr⟩

/-- There are records for all items if all have a signature, and only then. -/
theorem SignatureRecord.exists_toldBy {items : List Json} :
    (∃ records : List SignatureRecord, List.Forall₂ (fun item record => record.ToldBy item)
      items records) ↔ ∀ item ∈ items, item.HasSignature := by
  constructor
  · rintro ⟨records, h⟩ item hitem
    obtain ⟨record, -, htold⟩ := Except.partner_of_mem h hitem
    exact htold.hasSignature
  · intro h
    induction items with
    | nil => exact ⟨[], .nil⟩
    | cons item items ih =>
      obtain ⟨hitem, hitems⟩ := List.forall_mem_cons.mp h
      obtain ⟨record, htold⟩ := hitem.told
      obtain ⟨records, hrest⟩ := ih hitems
      exact ⟨record :: records, .cons htold hrest⟩

namespace Rpc

/-! ### Envelopes -/

/-- The body is an object that reports no error and has the result. -/
def Holds (body : String) (result : Json) : Prop :=
  ∃ envelope : Fields, Json.read body = .ok (.obj envelope) ∧
    (∀ error, envelope.get? "error" = some error → error = .null) ∧
    envelope.get? "result" = some result

theorem Holds.unique {body : String} {result result' : Json} (h : Holds body result)
    (h' : Holds body result') : result' = result := by
  obtain ⟨envelope, hread, -, hresult⟩ := h
  obtain ⟨envelope', hread', -, hresult'⟩ := h'
  cases hread.symm.trans hread'
  exact Option.some.inj (hresult'.symm.trans hresult)

theorem resultOf_eq_ok {method : String} {envelope : Fields} {result : Json} :
    resultOf method envelope = .ok result ↔
      envelope.get "error" = .null ∧ envelope.get? "result" = some result ∧ result ≠ .null := by
  unfold resultOf
  cases envelope.get "error" with
  | null =>
    cases envelope.get? "result" with
    | none => exact ⟨nofun, nofun⟩
    | some found =>
      cases found with
      | null => exact ⟨nofun, fun ⟨_, hsame, hne⟩ => absurd (Option.some.inj hsame).symm hne⟩
      | _ =>
        refine ⟨?_, fun ⟨_, hsame, _⟩ => congrArg _ (Option.some.inj hsame)⟩
        rintro ⟨⟩
        exact ⟨rfl, rfl, nofun⟩
  | _ => exact ⟨nofun, nofun⟩

theorem readResult_eq_ok {method : String} {status : Int} {body : String} {result : Json} :
    readResult method status body = .ok result ↔ Holds body result ∧ result ≠ .null := by
  unfold readResult
  constructor
  · intro h
    split at h
    · cases h
    · cases h
    next value hread =>
      split at h
      · cases h
      next envelope henvelope =>
        cases value with
        | obj fields =>
          cases henvelope
          cases hresult : resultOf method envelope with
          | error fault =>
            rw [hresult] at h
            cases h
          | ok found =>
            rw [hresult] at h
            cases h
            obtain ⟨herror, hfound, hne⟩ := resultOf_eq_ok.mp hresult
            exact ⟨⟨envelope, hread, Fields.get_eq_null.mp herror, hfound⟩, hne⟩
        | _ => cases henvelope
  · rintro ⟨⟨envelope, hread, herror, hresult⟩, hne⟩
    rw [hread]
    dsimp only [Json.fields?]
    rw [resultOf_eq_ok.mpr ⟨Fields.get_eq_null.mpr herror, hresult, hne⟩]
    rfl

namespace Page

/-! ### Pages -/

variable {before : Option String} {status : Int} {body : String} {answer : Answer}

/-- The body lists the items of a page that was asked for under the bound; under a bound there is
at least one. -/
def Lists (before : Option String) (body : String) (items : List Json) : Prop :=
  Holds body (.arr items) ∧ (before.isSome → items ≠ [])

/-- What a request for a page comes to, by the answer to it. -/
structure Settles (before : Option String) (answer : Answer) (r : Except Fault Page) : Prop where
  /-- The page has one record for each item, in order, and the bound of the last one. -/
  page (page : Page) : r = .ok page ↔ ∃ status body items,
    answer = .reply status body ∧ Lists before body items ∧
      List.Forall₂ (fun item record => record.ToldBy item) items page.records ∧
      page.cursor = page.records.getLast?.map (·.signature)
  ended (status : Int) : r = .error (.rpc (.emptyPage status)) ↔
    before.isSome ∧ ∃ body, answer = .reply status body ∧ Holds body (.arr [])
  unreachable (detail : String) : r = .error (.rpc (.unreachable detail)) ↔
    answer = .unreachable detail
  /-- All other faults are faults of the reply, and have its status. -/
  fault (fault : Fault) : r = .error fault → (∃ detail, fault = .rpc (.unreachable detail)) ∨
    ∃ status body, answer = .reply status body ∧
      (fault = .rpc (.emptyPage status) ∨ ∃ what, fault = .rpc (.badReply status what))

/-- The page in an answer. -/
def ofAnswer (request : Request) (before : Option String) (answer : Answer) : Except Fault Page :=
  recordsOf request answer >>= fun result => ofRecords before result.1 result.2

/-- What a reply comes to: a page, the end of the history, or a fault of the reply. -/
theorem ofAnswer_reply {request : Request}
    (hshallow : ∀ container place, Json.read body ≠ .error ⟨.tooDeep container, place⟩) :
    (∃ items records, Lists before body items ∧
        List.Forall₂ (fun item record => record.ToldBy item) items records ∧
        ofAnswer request before (.reply status body) =
          .ok ⟨records, records.getLast?.map (·.signature)⟩) ∨
      (before.isSome ∧ Holds body (.arr []) ∧
        ofAnswer request before (.reply status body) = .error (.rpc (.emptyPage status))) ∨
      (∀ items, Holds body (.arr items) → ¬ ∀ item ∈ items, item.HasSignature) ∧
        ∃ what, ofAnswer request before (.reply status body) =
          .error (.rpc (.badReply status what)) := by
  unfold ofAnswer recordsOf
  dsimp only [Answer.result]
  -- the reply has a result, is nested too deep, or is at fault
  rcases readResult_cases request.method status body with
    ⟨result, hresult⟩ | ⟨container, place, hdeep⟩ | ⟨what, hwhat⟩
  · have hholds := (readResult_eq_ok.mp hresult).1
    rw [hresult]
    dsimp only [bind, Except.bind, pure, Except.pure]
    cases result with
    | arr items =>
      dsimp only
      cases hrecords : items.mapM SignatureRecord.ofJson with
      | ok records =>
        have htold := SignatureRecord.mapM_ofJson_eq_ok.mp hrecords
        dsimp only
        unfold ofRecords
        split
        next hempty =>
          obtain ⟨hnone, hbound⟩ := Bool.and_eq_true_iff.mp hempty
          obtain rfl := List.isEmpty_iff.mp hnone
          cases htold
          exact .inr (.inl ⟨hbound, hholds, rfl⟩)
        next hnot =>
          refine .inl ⟨items, records, ⟨hholds, ?_⟩, htold, rfl⟩
          rintro hbound rfl
          cases htold
          exact hnot (Bool.and_eq_true_iff.mpr ⟨rfl, hbound⟩)
      | error error =>
        refine .inr (.inr ⟨fun items' hitems hall => ?_, _, rfl⟩)
        cases hholds.unique hitems
        obtain ⟨records, htold⟩ := SignatureRecord.exists_toldBy.mpr hall
        rw [SignatureRecord.mapM_ofJson_eq_ok.mpr htold] at hrecords
        cases hrecords
    | _ => exact .inr (.inr ⟨fun items hitems => (nomatch hholds.unique hitems), _, rfl⟩)
  · exact absurd hdeep (hshallow container place)
  · refine .inr (.inr ⟨fun items hitems => ?_, what, by rw [hwhat]; rfl⟩)
    rw [readResult_eq_ok.mpr ⟨hitems, nofun⟩] at hwhat
    cases hwhat

theorem Lists.unique {items items' : List Json} (h : Lists before body items)
    (h' : Lists before body items') : items' = items :=
  Json.arr.inj (h.1.unique h'.1)

section Settles

variable {r : Except Fault Page}

/-- There is a page if the reply lists items that all have a signature, and only then. -/
theorem Settles.exists_page (h : Settles before answer r) :
    (∃ page, r = .ok page) ↔ ∃ status body items, answer = .reply status body ∧
      Lists before body items ∧ ∀ item ∈ items, item.HasSignature := by
  constructor
  · rintro ⟨page, hpage⟩
    obtain ⟨status, body, items, hanswer, hlists, htold, -⟩ := (h.page page).mp hpage
    exact ⟨status, body, items, hanswer, hlists, SignatureRecord.exists_toldBy.mp ⟨_, htold⟩⟩
  · rintro ⟨status, body, items, hanswer, hlists, hall⟩
    obtain ⟨records, htold⟩ := SignatureRecord.exists_toldBy.mpr hall
    exact ⟨⟨records, records.getLast?.map (·.signature)⟩,
      (h.page _).mpr ⟨status, body, items, hanswer, hlists, htold, rfl⟩⟩

theorem Settles.of_unreachable (detail : String) :
    Settles before (.unreachable detail) (.error (.rpc (.unreachable detail))) where
  page _ := ⟨nofun, nofun⟩
  ended _ := ⟨nofun, nofun⟩
  unreachable _ := ⟨fun h => by cases h; rfl, fun h => by cases h; rfl⟩
  fault _ h := .inl ⟨detail, (Except.error.inj h).symm⟩

theorem Settles.of_lists {items : List Json} {records : List SignatureRecord}
    (hlists : Lists before body items)
    (htold : List.Forall₂ (fun item record => record.ToldBy item) items records) :
    Settles before (.reply status body) (.ok ⟨records, records.getLast?.map (·.signature)⟩) where
  page page := by
    constructor
    · rintro ⟨⟩
      exact ⟨status, body, items, rfl, hlists, htold, rfl⟩
    · rintro ⟨_, _, items', ⟨⟩, hlists', htold', hcursor⟩
      obtain rfl := hlists.unique hlists'
      -- the items are the same, and they decode to one list of records only
      have hsame := (SignatureRecord.mapM_ofJson_eq_ok.mpr htold).symm.trans
        (SignatureRecord.mapM_ofJson_eq_ok.mpr htold')
      obtain ⟨records', cursor⟩ := page
      obtain rfl : records = records' := Except.ok.inj hsame
      exact congrArg _ (congrArg _ hcursor.symm)
  ended status' := by
    refine ⟨nofun, ?_⟩
    rintro ⟨hbound, _, ⟨⟩, hempty⟩
    exact absurd (Json.arr.inj (hempty.unique hlists.1)) (hlists.2 hbound)
  unreachable _ := ⟨nofun, nofun⟩
  fault _ := nofun

theorem Settles.of_ended (hbound : before.isSome) (hempty : Holds body (.arr [])) :
    Settles before (.reply status body) (.error (.rpc (.emptyPage status))) where
  page page := by
    refine ⟨nofun, ?_⟩
    rintro ⟨_, _, items, ⟨⟩, hlists, -⟩
    exact absurd (Json.arr.inj (hempty.unique hlists.1)) (hlists.2 hbound)
  ended status' := by
    constructor
    · rintro ⟨⟩
      exact ⟨hbound, body, rfl, hempty⟩
    · rintro ⟨-, _, ⟨⟩, -⟩
      rfl
  unreachable _ := ⟨nofun, nofun⟩
  fault _ h := .inr ⟨status, body, rfl, .inl (Except.error.inj h).symm⟩

theorem Settles.of_bad {what : ReplyFault}
    (hnot : ∀ items, Holds body (.arr items) → ¬ ∀ item ∈ items, item.HasSignature) :
    Settles before (.reply status body) (.error (.rpc (.badReply status what))) where
  page page := by
    refine ⟨nofun, ?_⟩
    rintro ⟨_, _, items, ⟨⟩, hlists, htold, -⟩
    exact absurd (SignatureRecord.exists_toldBy.mp ⟨_, htold⟩) (hnot items hlists.1)
  ended status' := by
    refine ⟨nofun, ?_⟩
    rintro ⟨-, _, ⟨⟩, hempty⟩
    exact absurd (List.forall_mem_nil _) (hnot [] hempty)
  unreachable _ := ⟨nofun, nofun⟩
  fault _ h := .inr ⟨status, body, rfl, .inr ⟨what, (Except.error.inj h).symm⟩⟩

end Settles

/-- A page is taken whole or not at all. The one answer to the one request for it settles which:
there is a page exactly if the reply lists items that all have a signature. -/
theorem fetch_takes_whole {client : Client} {address : String} {t : Trace} {r : Except Fault Page}
    (hasks : client.Asks) (hruns : (fetch client address before).run.Runs t r)
    (hdelivers : ∀ request answer, ⟨.ask request, answer⟩ ∈ t →
      client.receive answer = .ok answer ∧ ∀ detail, answer ≠ .crash detail)
    (hshallow : ∀ request status body, ⟨.ask request, .reply status body⟩ ∈ t →
      ∀ container place, Json.read body ≠ .error ⟨.tooDeep container, place⟩) :
    ∃ answer, t.calls = [⟨.ask (.signatures address before client.pageSize), answer⟩] ∧
      ((∃ page, r = .ok page) ↔ ∃ status body items, answer = .reply status body ∧
        Lists before body items ∧ ∀ item ∈ items, item.HasSignature) ∧
      Settles before answer r := by
  rcases runs_fetch hruns with ⟨-, answer, hcalls, hr⟩ | ⟨hnot, -⟩
  swap
  · exact absurd hasks hnot
  have hasked := Trace.mem_of_calls hcalls
  obtain ⟨hreceive, hcrash⟩ := hdelivers _ _ hasked
  rw [hreceive] at hr
  have hsettles : Settles before answer r := by
    cases answer with
    | crash detail => exact absurd rfl (hcrash detail)
    | unreachable detail =>
      obtain rfl : r = .error (.rpc (.unreachable detail)) := hr
      exact .of_unreachable detail
    | reply status body =>
      change r = ofAnswer (.signatures address before client.pageSize) before _ at hr
      rcases ofAnswer_reply (hshallow _ status body hasked) with
        ⟨items, records, hlists, htold, hpage⟩ | ⟨hbound, hempty, hended⟩ | ⟨hnot, what, hwhat⟩
      · rw [hr, hpage]
        exact .of_lists hlists htold
      · rw [hr, hended]
        exact .of_ended hbound hempty
      · rw [hr, hwhat]
        exact .of_bad hnot
  exact ⟨answer, hcalls, hsettles.exists_page, hsettles⟩

/-- A reply that lists two items. -/
def twoItems : String :=
  "\x7b\"result\":[\x7b\"signature\":\"b\",\"slot\":7\x7d,\x7b\"signature\":\"a\"\x7d]\x7d"

/-- A page of two items has their records, and the bound of the second. -/
theorem fetch_takes_whole_of_twoItems :
    let p := (fetch Sample.limits.client "A" none).run
    let w := { Sample.world .unreachable with node := fun _ _ => .reply 200 twoItems }
    let page : Page := ⟨[⟨"b", none, some 7⟩, ⟨"a", none, none⟩], some "a"⟩
    (p.run w).1 = .ok page ∧ ∃ items, Lists none twoItems items ∧
      List.Forall₂ (fun item record => record.ToldBy item) items page.records := by
  intro p w page
  have hok : (p.run w).1 = .ok page := Except.toOption_eq_some.mp (by decide +kernel)
  have hread : (Json.read twoItems).isOk := by decide +kernel
  have hwithin : w.Within fun _ answer => answer = .reply 200 twoItems := ⟨rfl, fun _ _ => rfl⟩
  have hanswered := p.answered_trace hwithin
  obtain ⟨answer, hcalls, -, hsettles⟩ := fetch_takes_whole
    (show Sample.limits.client.Asks by rfl) (p.runs_trace w)
    (fun request answer hasked => by
      rw [hanswered request answer hasked]
      exact ⟨rfl, nofun⟩)
    (fun request status body hasked container place hdeep => by
      obtain ⟨rfl, rfl⟩ := Answer.reply.inj (hanswered request _ hasked)
      rw [hdeep] at hread
      cases hread)
  obtain ⟨status, body, items, hanswer, hlists, htold, -⟩ := (hsettles.page page).mp hok
  rw [hanswered _ _ (Trace.mem_of_calls hcalls)] at hanswer
  cases hanswer
  exact ⟨hok, items, hlists, htold⟩

end Page

end Rpc

end AddressIndex
