import AddressIndex.Proofs.Recognition

/-! Amounts of transfers. A transfer of tokens tells the integer that its instruction states, of the
token amount if there is one, and this integer is in the range of amounts. Lamports are told as they
are stated, whether they are in range or not. -/

namespace AddressIndex

/-! ### Amounts as the node gives them -/

/-- The fields are those of a token amount: an integer or a text, with decimals. -/
def Fields.OfTokenAmount (fields : Fields) : Prop :=
  (∃ text, TokenAmount.amountText? (fields.get "amount") = some text) ∧
    ∃ decimals, (fields.get "decimals").int? = some decimals

/-- The fields state the amount: by their token amount if there is one, or else by themselves. -/
inductive Fields.StateAmount (fields : Fields) (n : Int) : Prop
  | embedded {inner : Fields} (embeds : fields.get "tokenAmount" = .obj inner)
      (complete : inner.OfTokenAmount) (denotes : (inner.get "amount").Denotes n)
  | bare (without : ∀ inner : Fields, fields.get "tokenAmount" = .obj inner → ¬ inner.OfTokenAmount)
      (denotes : (fields.get "amount").Denotes n)

namespace TokenAmount

variable {v : Json}

theorem amountText?_of_denotes {n : Int} (h : v.Denotes n) : ∃ text, amountText? v = some text := by
  cases h with
  | integer => exact ⟨_, rfl⟩
  | text => exact ⟨_, rfl⟩

/-- What a value is as a token amount. -/
inductive OfJson (v : Json) : Option TokenAmount → Prop
  | complete {fields : Fields} {amount : TokenAmount} (object : v = .obj fields)
      (complete : fields.OfTokenAmount)
      (states : amountText? (fields.get "amount") = some amount.amount) : OfJson v (some amount)
  | other (without : ∀ fields : Fields, v = .obj fields → ¬ fields.OfTokenAmount) : OfJson v none

theorem ofJson_eq_ok {amount? : Option TokenAmount} (h : ofJson v = .ok amount?) :
    OfJson v amount? := by
  unfold ofJson at h
  cases v with
  | obj fields =>
    dsimp only [Json.fields?] at h
    split at h
    next text decimals htext hdecimals =>
      obtain ⟨display, -, hpure⟩ := Except.bind_eq_ok.mp h
      cases hpure
      exact .complete rfl ⟨⟨text, htext⟩, decimals, hdecimals⟩ htext
    next hother =>
      cases h
      refine .other ?_
      rintro _ ⟨⟩ ⟨⟨text, htext⟩, decimals, hdecimals⟩
      exact hother text decimals htext hdecimals
  | _ =>
    cases h
    exact .other nofun

end TokenAmount

/-- The facts of an instruction state the amount that their fields do. -/
theorem InstructionInfo.states_ofFields {fields : Fields} {info : InstructionInfo} {n : Int}
    (h : ofFields fields = .ok info) :
    (∃ text, info.States text ∧ Amount.Denotes text.toList n) ↔ fields.StateAmount n := by
  obtain ⟨tokenAmount?, htoken, hrest⟩ := Except.bind_eq_ok.mp h
  obtain ⟨display, -, hpure⟩ := Except.bind_eq_ok.mp hrest
  cases hpure
  cases TokenAmount.ofJson_eq_ok htoken with
  | @complete inner amount hobject hcomplete hamount =>
    constructor
    · rintro ⟨_, ⟨⟨⟩⟩ | ⟨⟨⟩⟩, hdenotes⟩
      exact .embedded hobject hcomplete ((TokenAmount.denotes_amountText? hamount).mp hdenotes)
    -- a token amount that is complete hides the bare one
    · rintro (⟨hobject', -, hdenotes⟩ | ⟨hwithout⟩)
      · cases hobject.symm.trans hobject'
        exact ⟨_, .embedded rfl, (TokenAmount.denotes_amountText? hamount).mpr hdenotes⟩
      · exact absurd hcomplete (hwithout inner hobject)
  | other hwithout =>
    constructor
    · rintro ⟨text, ⟨⟨⟩⟩ | ⟨-, htext⟩, hdenotes⟩
      exact .bare hwithout ((TokenAmount.denotes_amountText? htext).mp hdenotes)
    · rintro (⟨hobject, hcomplete, -⟩ | ⟨-, hdenotes⟩)
      · exact absurd hcomplete (hwithout _ hobject)
      · obtain ⟨text, htext⟩ := TokenAmount.amountText?_of_denotes hdenotes
        exact ⟨text, .bare rfl htext, (TokenAmount.denotes_amountText? htext).mpr hdenotes⟩

/-! ### Amounts of transfers -/

namespace Transfer

/-- The amount of a record is what its instruction moves, in range if it is of tokens; there is no
record without lamports or an amount of tokens in range. -/
structure Exact (ix : Instruction) (record? : Option Transfer) : Prop where
  moved : ∀ t ∈ record?, ∃ type, ix.Moves type t.asset t.amount
  inRange : ∀ t ∈ record?, t.asset = .token → Amount.InRange t.amount
  nothing : (∀ type n, ¬ ix.Moves type .native n) →
    (∀ type n, ix.Moves type .token n → ¬ Amount.InRange n) → record? = none

/-- A record that tells what its instruction is recognized as is exact. -/
theorem Tells.exact {ix : Instruction} {types : List String} {position : Position}
    {record? : Option Transfer} (h : Tells (ix.RecognizedBy types) position record?) :
    Exact ix record? := by
  cases h with
  | nothing => exact ⟨fun _ ht => (nomatch ht), fun _ ht => (nomatch ht), fun _ _ => rfl⟩
  | @told t hrecognized =>
    obtain ⟨⟨type, hmoves, -⟩, hrange⟩ := hrecognized
    refine ⟨fun t' ht => ?_, fun t' ht => ?_, fun hlamports htokens => ?_⟩
    · obtain rfl := Option.some.inj ht
      exact ⟨type, hmoves⟩
    · obtain rfl := Option.some.inj ht
      exact hrange
    · cases hasset : t.asset with
      | native => exact absurd (hasset ▸ hmoves) (hlamports type t.amount)
      | token => exact absurd (hrange hasset) (htokens type t.amount (hasset ▸ hmoves))

end Transfer

namespace Indexed

variable {tx : Transaction} {transfers : List Transfer}

/-- All lamports that an instruction moves under a type that names a transfer are in range. -/
def LamportsInRange (tx : Transaction) : Prop :=
  ∀ p ∈ walk tx, ∀ type kind n, p.1.Moves type .native n → TransferKind.Named kind type →
    Amount.InRange n

/-- What is recognized is in range if all lamports are. -/
theorem inRange_of_recognizedBy {p : Instruction × Position} {types : List String}
    {kind : TransferKind} {asset : Asset} {n : Int} (hlamports : LamportsInRange tx)
    (hp : p ∈ walk tx) (h : p.1.RecognizedBy types kind asset n) : Amount.InRange n := by
  obtain ⟨⟨type, hmoves, hnamed, -⟩, hrange⟩ := h
  cases asset with
  | native => exact hlamports p hp type kind n hmoves hnamed
  | token => exact hrange rfl

/-- The amounts of all transfers are in range exactly if those of lamports are. -/
theorem inRange_iff (h : transfersOf tx = .ok transfers) :
    (∀ t ∈ transfers, Amount.InRange t.amount) ↔ LamportsInRange tx := by
  constructor
  · intro hrange p hp type kind n hmoves hnamed
    obtain ⟨record?, htells, hmem⟩ := (yields_tells h).exists_of_mem hp
    cases htells with
    | nothing hnothing =>
      have htypes := Transfer.mem_transferTypes (TransferKind.ofType?_eq_some.mpr hnamed)
      exact absurd ⟨⟨type, hmoves, hnamed, fun _ => htypes⟩, nofun⟩ (hnothing kind .native n)
    | told hrecognized =>
      obtain ⟨⟨type', hmoves', -⟩, -⟩ := hrecognized
      rw [(hmoves.unique hmoves').2]
      exact hrange _ (hmem _ rfl)
  · intro hlamports t ht
    obtain ⟨p, hp, htells⟩ := (yields_tells h).of_mem ht
    cases htells with
    | told hrecognized => exact inRange_of_recognizedBy hlamports hp hrecognized

/-- A transfer of a transaction has the amount that its instruction moves. Tokens are in range, and
are the integer that the fields of the instruction state. Lamports need not be: all amounts are in
range exactly if those that lamports are moved by are, and then what denotes no integer in range
comes to nothing. -/
theorem transfersOf_tells_amounts (h : transfersOf tx = .ok transfers) :
    Yields tx (fun ix _ => Transfer.Exact ix) transfers ∧
    ((∀ t ∈ transfers, Amount.InRange t.amount) ↔ LamportsInRange tx) ∧
    (LamportsInRange tx → Yields tx (fun ix _ record? =>
      (∀ type asset n, ix.Moves type asset n → ¬ Amount.InRange n) → record? = none) transfers) ∧
    ∀ fields info, InstructionInfo.ofFields fields = .ok info → ∀ n,
      (∃ text, info.States text ∧ Amount.Denotes text.toList n) ↔ fields.StateAmount n := by
  refine ⟨(yields_tells h).imp fun _ _ _ => Transfer.Tells.exact, inRange_iff h,
    fun hlamports => (yields_tells h).imp fun p hp record? htold hnone => ?_,
    fun _ _ hfields _ => InstructionInfo.states_ofFields hfields⟩
  cases htold with
  | nothing => rfl
  | @told t hrecognized =>
    obtain ⟨type, hmoves, -⟩ := hrecognized.moves
    exact absurd (inRange_of_recognizedBy hlamports hp hrecognized) (hnone type _ _ hmoves)

end Indexed

/-- Lamports just out of range, less than no tokens, and tokens just out of range. -/
def Sample.extreme : Transaction :=
  { Sample.payment 1 "A" "s" with
    instructions := [
      instruction "system" "transfer" { info with lamports := some (Amount.greatest + 1) },
      instruction "spl-token" "burn" { info with amount := some "-0012" },
      instruction "spl-token" "burn"
        { info with amount := some "170141183460469231731687303715884105728" }]
    inner := [] }

/-- Only the tokens that are out of range are left out. -/
theorem Indexed.transfersOf_tells_amounts_of_extreme :
    ∃ transfers, transfersOf Sample.extreme = .ok transfers ∧
      transfers.map (·.amount) = [Amount.greatest + 1, -12] ∧
      Yields Sample.extreme (fun ix _ => Transfer.Exact ix) transfers ∧
      ¬ LamportsInRange Sample.extreme := by
  have htold : (·.map (·.amount)) <$> transfersOf Sample.extreme =
      .ok [Amount.greatest + 1, -12] := by decide +kernel
  obtain ⟨transfers, h, hmap⟩ := Except.map_eq_ok.mp htold
  obtain ⟨hexact, hrange, -⟩ := transfersOf_tells_amounts h
  refine ⟨transfers, h, hmap, hexact, fun hlamports => ?_⟩
  obtain ⟨t, ht, hamount⟩ := List.mem_map.mp (hmap ▸ List.mem_cons_self)
  have hgreatest := (hrange.mpr hlamports t ht).2
  rw [hamount] at hgreatest
  omega

end AddressIndex
