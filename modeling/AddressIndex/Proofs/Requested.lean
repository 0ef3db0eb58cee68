import AddressIndex.Proofs.Accounts
import AddressIndex.Proofs.Batches
import AddressIndex.Proofs.Replies

/-! Only the transaction that was asked for is taken. The result is known by the first text in its
list of signatures that is not empty; entries before it are passed over. A result that is known by
another signature, or by none, is a failure for the signature that was asked for. -/

namespace AddressIndex

/-- A list in which the text comes before all other texts that are not empty. -/
def Json.LeadsWith (s : String) (v : Json) : Prop :=
  ∃ skipped rest, v = .arr (skipped ++ .str s :: rest) ∧ s ≠ "" ∧
    ∀ item ∈ skipped, item.text? = none

/-- Neither a text nor an object, unless there is nothing in it. -/
def Json.IsPlain : Json → Prop
  | .str s => s = ""
  | .obj fields => fields = []
  | _ => True

/-- What a result gives as its signatures. -/
def Json.signatures (result : Json) : Json := (result.member "transaction").member "signatures"

/-- The text that a list leads with is the first that its items hold. -/
theorem Json.leadsWith_arr {items : List Json} {s : String} :
    (Json.arr items).LeadsWith s ↔ (items.filterMap Json.text?).head? = some s := by
  constructor
  · rintro ⟨skipped, rest, hitems, hs, hskipped⟩
    obtain rfl := Json.arr.inj hitems
    have hfirst : (Json.str s).text? = some s := Json.text?_eq_some.mpr ⟨rfl, hs⟩
    rw [List.filterMap_append, List.filterMap_eq_nil_iff.mpr hskipped, List.nil_append,
      List.filterMap_cons_some hfirst, List.head?_cons]
  · intro hhead
    obtain ⟨more, htexts⟩ := List.head?_eq_some_iff.mp hhead
    obtain ⟨skipped, item, rest, rfl, hskipped, hitem, -⟩ := List.filterMap_eq_cons_iff.mp htexts
    obtain ⟨rfl, hs⟩ := Json.text?_eq_some.mp hitem
    exact ⟨skipped, rest, rfl, hs, hskipped⟩

/-- Where there are items that hold texts, there is a list. -/
theorem Json.leadsWith_of_items {v : Json} {items : List Json} {s : String} {more : List String}
    (hplain : v.IsPlain) (hitems : v.items? = .ok items)
    (htexts : items.filterMap Json.text? = s :: more) : v.LeadsWith s := by
  have hne : items ≠ [] := by
    rintro rfl
    cases htexts
  obtain rfl : v = .arr items := by
    cases v with
    | arr items' =>
      unfold items? at hitems
      split at hitems
      · exact absurd (Except.ok.inj hitems).symm hne
      · exact congrArg _ (Except.ok.inj hitems)
    | str name =>
      obtain rfl : name = "" := hplain
      exact absurd (Except.ok.inj hitems).symm hne
    | obj fields =>
      obtain rfl : fields = [] := hplain
      exact absurd (Except.ok.inj hitems).symm hne
    | _ =>
      unfold items? at hitems
      split at hitems
      · exact absurd (Except.ok.inj hitems).symm hne
      · cases hitems
  rw [Json.leadsWith_arr, htexts, List.head?_cons]

namespace Rpc.Outcome

variable {client : Client} {s : String} {t : Trace} {outcome : Outcome}

/-- A transaction that was taken was decoded from the result of the reply. -/
theorem ofAnswer_fetched {answer : Answer} {tx : Transaction} {status? : Option Int}
    (h : ofAnswer s answer = .ok (.fetched tx, status?)) :
    ∃ status body result, answer = .reply status body ∧ Holds body result ∧
      Transaction.ofJson result = .ok tx := by
  unfold ofAnswer at h
  dsimp only at h
  split at h
  · cases h
  · cases h
  · cases h
  next status result hresult =>
    split at h
    · split at h <;> cases h
    · cases h
    next tx' htx =>
      split at h
      · cases h
        cases answer with
        | unreachable _ | crash _ => cases hresult
        | reply status body =>
          obtain ⟨result', hread, hsame⟩ := Except.bind_eq_ok.mp hresult
          cases hsame
          exact ⟨status, body, result, rfl, (readResult_eq_ok.mp hread).1, htx⟩
      · cases h

/-- A transaction that was taken is led by its signature in the result's list, if there is one. -/
theorem leadsWith_of_ofJson {result : Json} {tx : Transaction}
    (h : Transaction.ofJson result = .ok tx) (hplain : result.signatures.IsPlain) :
    result.signatures.LeadsWith tx.signature := by
  obtain ⟨items, hitems, hnames, hne⟩ := (Transaction.decodedFrom_of_ok h).signatures
  cases hsome : tx.signatures with
  | nil => exact absurd hsome hne
  | cons first more =>
    rw [Transaction.signature, hsome]
    exact Json.leadsWith_of_items hplain hitems (hnames.symm.trans hsome)

/-- A transaction is taken only if the list of signatures in the result is led by the one that was
asked for. A reply in which it is not comes to a failure for that one, unless the fetch does not
survive it. -/
theorem fetch_takes_requested {r : Except Fault Outcome}
    (hruns : (fetch client s).run.Runs t r) :
    (∀ tx, r = .ok (.fetched tx) → tx.signature = s ∧ ∃ status body result,
        t.calls = [⟨.ask (.transaction s), .reply status body⟩] ∧ Holds body result ∧
          (result.signatures.IsPlain → result.signatures.LeadsWith s)) ∧
      ∀ status body, t.calls = [⟨.ask (.transaction s), .reply status body⟩] →
        client.receive (.reply status body) = .ok (.reply status body) →
        (∀ result, Holds body result →
          result.signatures.IsPlain ∧ ¬ result.signatures.LeadsWith s) →
        (∃ error, r = .ok (.failed error) ∧ error.signature = s) ∨
          ∃ fault, r = .error fault ∧ Escapes (.reply status body) fault := by
  constructor
  · rintro tx rfl
    obtain ⟨answer, status?, hcalls, hof⟩ := runs_fetch_ok hruns
    obtain ⟨status, body, result, rfl, hholds, htx⟩ := ofAnswer_fetched hof
    obtain rfl : tx.signature = s := ofAnswer_signature hof
    exact ⟨rfl, status, body, result, hcalls, hholds, leadsWith_of_ofJson htx⟩
  · intro status body hcalls hreceive hnot
    rcases runs_fetch hruns with ⟨-, answer, hcalls', hr⟩ | ⟨-, hquiet, -⟩
    swap
    · rw [hcalls] at hquiet
      cases hquiet
    rw [hcalls] at hcalls'
    cases hcalls'
    rw [hreceive] at hr
    change r = (ofAnswer s (.reply status body)).map (·.1) at hr
    cases hof : ofAnswer s (.reply status body) with
    | error fault =>
      rw [hof] at hr
      exact .inr ⟨fault, hr, ofAnswer_reply_eq_error.mp hof⟩
    | ok ended =>
      obtain ⟨outcome, status?⟩ := ended
      rw [hof] at hr
      have hsame : outcome.signature = s := ofAnswer_signature hof
      cases outcome with
      | failed error => exact .inl ⟨error, hr, hsame⟩
      | fetched tx =>
        -- such a result would be led by the signature of the transaction, which is `s`
        obtain ⟨_, _, result, ⟨⟩, hholds, htx⟩ := ofAnswer_fetched hof
        obtain rfl : tx.signature = s := hsame
        obtain ⟨hplain, hother⟩ := hnot result hholds
        exact absurd (leadsWith_of_ofJson htx hplain) hother

/-- A reply whose list of signatures begins with null. -/
def nullFirst : String :=
  "\x7b\"result\":\x7b\"slot\":0,\"meta\":\x7b\"fee\":0\x7d,\"transaction\":" ++
    "\x7b\"message\":\x7b\"accountKeys\":[]\x7d,\"signatures\":[null,\"s\"]\x7d\x7d\x7d"

/-- The signatures of a result are null and then `s`. -/
def isNullFirst (result : Json) : Bool :=
  match result.signatures with
  | .arr [.null, .str name] => name == "s"
  | _ => false

theorem nullFirst_holds :
    ∃ result, Holds nullFirst result ∧ result.signatures = .arr [.null, .str "s"] := by
  have hread : (readResult "getTransaction" 200 nullFirst).toOption.any isNullFirst := by
    decide +kernel
  cases hresult : readResult "getTransaction" 200 nullFirst with
  | error fault =>
    rw [hresult] at hread
    cases hread
  | ok result =>
    rw [hresult] at hread
    refine ⟨result, (readResult_eq_ok.mp hresult).1, ?_⟩
    change isNullFirst result = true at hread
    unfold isNullFirst at hread
    split at hread
    next name hsignatures => rw [hsignatures, eq_of_beq hread]
    next => cases hread

/-- Where the node gives that reply, the transaction is taken. -/
theorem nullFirst_fetched :
    let p := (fetch Sample.limits.client "s").run
    let w := { Sample.world .unreachable with node := fun _ _ => .reply 200 nullFirst }
    ∃ tx, (p.run w).1 = .ok (.fetched tx) := by
  intro p w
  have hgives : gives (p.run w).1 := by decide +kernel
  unfold gives at hgives
  split at hgives
  next tx hrun => exact ⟨tx, hrun⟩
  next => cases hgives

/-- A transaction is taken whose list of signatures begins with null. -/
theorem fetch_takes_second :
    let p := (fetch Sample.limits.client "s").run
    let w := { Sample.world .unreachable with node := fun _ _ => .reply 200 nullFirst }
    (∃ tx, (p.run w).1 = .ok (.fetched tx)) ∧ ∃ result, Holds nullFirst result ∧
      ¬ ∃ rest, result.signatures = .arr (.str "s" :: rest) := by
  obtain ⟨result, hholds, hsignatures⟩ := nullFirst_holds
  refine ⟨nullFirst_fetched, result, hholds, ?_⟩
  rintro ⟨rest, hrest⟩
  rw [hsignatures] at hrest
  cases hrest

/-- What is passed over is the null before the signature that was asked for; where another one was
asked for, the reply comes to a failure. -/
theorem fetch_takes_requested_of_nullFirst :
    let w := { Sample.world .unreachable with node := fun _ _ => .reply 200 nullFirst }
    (∃ tx result, ((fetch Sample.limits.client "s").run.run w).1 = .ok (.fetched tx) ∧
      tx.signature = "s" ∧ Holds nullFirst result ∧ result.signatures.LeadsWith "s") ∧
    ∃ error, ((fetch Sample.limits.client "other").run.run w).1 = .ok (.failed error) ∧
      error.signature = "other" := by
  intro w
  have hwithin : w.Within fun _ answer => answer = .reply 200 nullFirst := ⟨rfl, fun _ _ => rfl⟩
  obtain ⟨result, hholds, hsignatures⟩ := nullFirst_holds
  constructor
  · let p := (fetch Sample.limits.client "s").run
    obtain ⟨tx, hrun⟩ := nullFirst_fetched
    obtain ⟨hsame, status, body, result', hcalls, hholds', hleads⟩ :=
      (fetch_takes_requested (p.runs_trace w)).1 tx hrun
    cases p.answered_trace hwithin _ _ (Trace.mem_of_calls hcalls)
    cases hholds.unique hholds'
    refine ⟨tx, _, hrun, hsame, hholds, hleads ?_⟩
    rw [hsignatures]
    trivial
  · let p := (fetch Sample.limits.client "other").run
    have hok : (p.run w).1.isOk := by decide +kernel
    have hcalls : (p.trace w).calls = [⟨.ask (.transaction "other"), .reply 200 nullFirst⟩] := by
      rcases runs_fetch (p.runs_trace w) with ⟨-, answer, hcalls, -⟩ | ⟨hnot, -⟩
      · cases p.answered_trace hwithin _ _ (Trace.mem_of_calls hcalls)
        exact hcalls
      · exact absurd rfl hnot
    have hother : ∀ result', Holds nullFirst result' →
        result'.signatures.IsPlain ∧ ¬ result'.signatures.LeadsWith "other" := by
      intro result' hholds'
      cases hholds.unique hholds'
      rw [hsignatures, Json.leadsWith_arr]
      exact ⟨trivial, by decide⟩
    rcases (fetch_takes_requested (p.runs_trace w)).2 200 nullFirst hcalls rfl hother with
      hfailed | ⟨fault, hfault, -⟩
    · exact hfailed
    · rw [hfault] at hok
      cases hok

end Rpc.Outcome

end AddressIndex
