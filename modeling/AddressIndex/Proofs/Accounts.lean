import AddressIndex.Proofs.Records
import AddressIndex.Proofs.Replies
import Mathlib.Data.List.ReduceOption

/-! The effective account table of a decoded transaction. A result lists account keys, then writable
and then read-only loaded addresses. A key that is no address is refused, but a loaded entry that is
none is passed over, and each address behind it moves up by one place. Programs, the accounts of
instructions, token balances and lamport balances are all looked up in the table so built. -/

namespace AddressIndex

/-! ### Entries that are passed over -/

section Entries

variable {α : Type} {entries : List (Option α)} {i : Nat} {a : α}

/-- What an entry holds stands behind what the entries before it hold. -/
theorem getElem?_reduceOption (h : entries[i]? = some (some a)) :
    entries.reduceOption[(entries.take i).countP Option.isSome]? = some a := by
  induction entries generalizing i with
  | nil => cases h
  | cons entry entries ih =>
    cases i with
    | zero =>
      obtain rfl : entry = some a := Option.some.inj h
      rfl
    | succ i =>
      have hrest := ih (i := i) h
      cases entry with
      | none => simpa using hrest
      | some b => simpa using hrest

/-- Only entries that hold nothing are reduced to nothing. -/
theorem reduceOption_eq_nil :
    entries.reduceOption = [] ↔ ∀ later ∈ entries, later.isSome → (none : Option α).isSome := by
  rw [List.eq_nil_iff_forall_not_mem]
  simp only [List.reduceOption_mem_iff]
  constructor
  · rintro h (_ | a) hmem hsome
    · exact hsome
    · exact absurd hmem (h a)
  · exact fun h a hmem => nomatch h (some a) hmem rfl

/-- The place of every entry is kept exactly if those that hold nothing come last. -/
theorem reduceOption_keeps_places :
    (∀ i : Nat, entries.reduceOption[i]? = entries[i]?.join) ↔
      entries.Pairwise fun entry later => later.isSome → entry.isSome := by
  induction entries with
  | nil => simp
  | cons entry entries ih =>
    rw [List.pairwise_cons, ← ih]
    cases entry with
    | none =>
      -- the next address would move up to this place, so there must be none
      rw [List.reduceOption_cons_of_none, ← reduceOption_eq_nil]
      constructor
      · intro h
        have hnil : entries.reduceOption = [] := by
          have hfirst := h 0
          rwa [← List.head?_eq_getElem?, List.getElem?_cons_zero, Option.join_some,
            List.head?_eq_none_iff] at hfirst
        refine ⟨hnil, fun i => ?_⟩
        have hnext := h (i + 1)
        rw [hnil] at hnext ⊢
        exact hnext
      · rintro ⟨hnil, h⟩ (_ | i)
        · rw [hnil]
          rfl
        · have hhere := h i
          rw [hnil] at hhere ⊢
          exact hhere
    | some a =>
      rw [List.reduceOption_cons_of_some]
      constructor
      · exact fun h => ⟨fun _ _ _ => rfl, fun i => h (i + 1)⟩
      · rintro ⟨-, h⟩ (_ | i)
        · rfl
        · exact h i

end Entries

/-! ### What a result lists -/

/-- The field `name` of an object; null if there is none. -/
def Json.member (v : Json) (name : String) : Json := (v.fields?.getD []).get name

theorem Json.member_of_require {fields : Fields} {name : String} {v : Json}
    (h : fields.require name = .ok v) : (Json.obj fields).member name = v := by
  change fields.get name = v
  rw [Fields.get, Fields.require_eq_ok.mp h]
  rfl

/-- Of the items of the value one is so. -/
def Json.HasItem (P : Json → Prop) (v : Json) : Prop :=
  ∃ items, v.items? = .ok items ∧ ∃ item ∈ items, P item

/-- The address that a loaded entry is. -/
def Json.address? : Json → Option String
  | .str s => some s
  | _ => none

/-- The address that an account key is, or that it has under `pubkey`. -/
def Json.keyAddress? : Json → Option String
  | .str s => some s
  | key => (key.member "pubkey").address?

namespace Transaction

/-- The entries of the three lists of accounts. -/
structure Listing where
  keys : List Json
  writable : List Json
  readonly : List Json

/-- What the entries hold, in the order of the lists. -/
def Listing.entries (listing : Listing) : List (Option String) :=
  listing.keys.map Json.keyAddress? ++ (listing.writable ++ listing.readonly).map Json.address?

/-- The result lists these accounts. -/
structure Listing.Of (result : Json) (listing : Listing) : Prop where
  keys : ((result.member "transaction").member "message").member "accountKeys" = .arr listing.keys
  writable : (((result.member "meta").member "loadedAddresses").member "writable").items? =
    .ok listing.writable
  readonly : (((result.member "meta").member "loadedAddresses").member "readonly").items? =
    .ok listing.readonly

end Transaction

theorem AccountKey.keyAddress?_of_ok {entry : Json} {key : AccountKey}
    (h : ofJson entry = .ok key) : entry.keyAddress? = some key.address := by
  unfold ofJson at h
  split at h
  · cases h
    rfl
  next hentry =>
    have hkey : entry.keyAddress? = (entry.member "pubkey").address? := by
      cases entry with
      | str s => exact (hentry s rfl).elim
      | _ => rfl
    rw [hkey, Json.member]
    dsimp only at h
    split at h
    next hpubkey _ =>
      cases h
      rw [hpubkey]
      rfl
    next hpubkey _ =>
      cases h
      rw [hpubkey]
      rfl
    next => cases h

theorem LoadedAddresses.texts_eq_ok {v : Json} {texts : List String}
    (h : LoadedAddresses.texts v = .ok texts) :
    ∃ items, v.items? = .ok items ∧ texts = (items.map Json.address?).reduceOption := by
  obtain ⟨items, hitems, h⟩ := Except.bind_eq_ok.mp h
  refine ⟨items, hitems, ?_⟩
  cases h
  rw [List.reduceOption, List.filterMap_map]
  rfl

/-- The loaded addresses are the entries that are addresses; without an object there are none. -/
theorem LoadedAddresses.ofJson_eq_ok {v : Json} {loaded : Option LoadedAddresses}
    (h : ofJson v = .ok loaded) :
    ∃ writable readonly, (v.member "writable").items? = .ok writable ∧
      (v.member "readonly").items? = .ok readonly ∧
      (loaded.map (·.all)).getD [] = ((writable ++ readonly).map Json.address?).reduceOption := by
  unfold ofJson at h
  unfold Json.member
  split at h
  next fields hfields =>
    obtain ⟨ws, hws, h⟩ := Except.bind_eq_ok.mp h
    obtain ⟨rs, hrs, h⟩ := Except.bind_eq_ok.mp h
    cases h
    obtain ⟨writable, hwritable, rfl⟩ := texts_eq_ok hws
    obtain ⟨readonly, hreadonly, rfl⟩ := texts_eq_ok hrs
    rw [hfields]
    refine ⟨writable, readonly, hwritable, hreadonly, ?_⟩
    rw [List.map_append, List.reduceOption_append]
    rfl
  next hnone =>
    cases h
    cases hfields : v.fields? with
    | some fields => exact absurd hfields (hnone fields)
    | none => exact ⟨[], [], rfl, rfl, rfl⟩

/-- A table is built of keys that are all addresses, and of the loaded addresses. -/
theorem AccountTable.build_eq_ok {keys : List Json} {loaded : Option LoadedAddresses}
    {table : AccountTable} (h : build keys loaded = .ok table) :
    (∀ key ∈ keys, key.keyAddress?.isSome) ∧
      table.addresses =
        (keys.map Json.keyAddress?).reduceOption ++ (loaded.map (·.all)).getD [] := by
  obtain ⟨found, hfound, h⟩ := Except.bind_eq_ok.mp h
  cases h
  have hall := Except.mapM_eq_ok.mp hfound
  constructor
  · intro key hkey
    obtain ⟨_, -, hone⟩ := Except.partner_of_mem hall hkey
    rw [AccountKey.keyAddress?_of_ok hone]
    rfl
  · have hsame : keys.map Json.keyAddress? = found.map (some ·.address) := by
      clear hfound h
      induction hall with
      | nil => rfl
      | cons hone _ ih => rw [List.map_cons, List.map_cons, ih, AccountKey.keyAddress?_of_ok hone]
    rw [hsame]
    simp [List.reduceOption, List.filterMap_map]

namespace Transaction

variable {result : Json} {tx : Transaction}

/-! ### What is decoded -/

/-- What a transaction holds, by the members of the result that it was decoded from. -/
structure DecodedFrom (result : Json) (tx : Transaction) : Prop where
  accounts : ∃ keys,
    ((result.member "transaction").member "message").member "accountKeys" = .arr keys ∧
      LoadedAddresses.ofJson ((result.member "meta").member "loadedAddresses") = .ok tx.loaded ∧
      AccountTable.build keys tx.loaded = .ok tx.accounts
  instructions : ∃ items,
    (((result.member "transaction").member "message").member "instructions").items? = .ok items ∧
      List.Forall₂ (fun item instruction => Instruction.ofJson item tx.accounts = .ok instruction)
        items tx.instructions
  inner : ∃ items blocks, ((result.member "meta").member "innerInstructions").items? = .ok items ∧
    List.Forall₂ (fun item block => InnerInstructions.ofJson item tx.accounts = .ok block)
      items blocks ∧ tx.inner = blocks.filterMap id
  signatures : ∃ items, ((result.member "transaction").member "signatures").items? = .ok items ∧
    tx.signatures = items.filterMap Json.text? ∧ tx.signatures ≠ []
  preTokenBalances : tokenBalances ((result.member "meta").member "preTokenBalances") tx.accounts =
    .ok tx.preTokenBalances
  postTokenBalances :
    tokenBalances ((result.member "meta").member "postTokenBalances") tx.accounts =
      .ok tx.postTokenBalances

theorem decodedFrom_of_ok (h : ofJson result = .ok tx) : DecodedFrom result tx := by
  unfold ofJson at h
  split at h
  swap
  · cases h
  next fields hfields =>
    obtain rfl := Json.eq_obj_of_fields? hfields
    unfold ofFields at h
    obtain ⟨⟨body, info, message⟩, hparts, h⟩ := Except.bind_eq_ok.mp h
    obtain ⟨hbody, hinfo, hmessage⟩ := parts_eq_ok hparts
    dsimp only at h
    split at h
    swap
    · cases h
    split at h
    swap
    · cases h
    obtain ⟨loaded, hloaded, h⟩ := Except.bind_eq_ok.mp h
    split at h
    swap
    · cases h
    next keys hkeys =>
    obtain ⟨accounts, haccounts, h⟩ := Except.bind_eq_ok.mp h
    obtain ⟨items, hitems, h⟩ := Except.bind_eq_ok.mp h
    obtain ⟨instructions, hinstructions, h⟩ := Except.bind_eq_ok.mp h
    obtain ⟨blockItems, hblockItems, h⟩ := Except.bind_eq_ok.mp h
    obtain ⟨blocks, hblocks, h⟩ := Except.bind_eq_ok.mp h
    obtain ⟨names, hnames, h⟩ := Except.bind_eq_ok.mp h
    split at h
    · cases h
    next hsome =>
    obtain ⟨pre, -, h⟩ := Except.bind_eq_ok.mp h
    obtain ⟨post, -, h⟩ := Except.bind_eq_ok.mp h
    obtain ⟨preTokens, hpreTokens, h⟩ := Except.bind_eq_ok.mp h
    obtain ⟨postTokens, hpostTokens, h⟩ := Except.bind_eq_ok.mp h
    cases h
    have hbody : (Json.obj fields).member "transaction" = .obj body := Json.member_of_require hbody
    have hinfo : (Json.obj fields).member "meta" = .obj info := Json.member_of_require hinfo
    have hmessage : (Json.obj body).member "message" = .obj message :=
      Json.member_of_require hmessage
    constructor
    · rw [hbody, hmessage, hinfo]
      exact ⟨keys, hkeys, hloaded, haccounts⟩
    · rw [hbody, hmessage]
      exact ⟨items, hitems, Except.mapM_eq_ok.mp hinstructions⟩
    · rw [hinfo]
      exact ⟨blockItems, blocks, hblockItems, Except.mapM_eq_ok.mp hblocks, rfl⟩
    · rw [hbody]
      exact ⟨names, hnames, rfl, fun hnone => hsome (List.isEmpty_iff.mpr hnone)⟩
    · rw [hinfo]
      exact hpreTokens
    · rw [hinfo]
      exact hpostTokens

/-- The table holds the addresses among the entries that the result lists; all keys are some. -/
theorem DecodedFrom.listed (h : DecodedFrom result tx) :
    ∃ listing : Listing, listing.Of result ∧ (∀ key ∈ listing.keys, key.keyAddress?.isSome) ∧
      tx.accounts.addresses = listing.entries.reduceOption := by
  obtain ⟨keys, hkeys, hloaded, hbuild⟩ := h.accounts
  obtain ⟨writable, readonly, hwritable, hreadonly, hall⟩ := LoadedAddresses.ofJson_eq_ok hloaded
  obtain ⟨hsome, haddresses⟩ := AccountTable.build_eq_ok hbuild
  refine ⟨⟨keys, writable, readonly⟩, ⟨hkeys, hwritable, hreadonly⟩, hsome, ?_⟩
  rw [haddresses, hall, Listing.entries, List.reduceOption_append]

/-! ### What is looked up -/

end Transaction

theorem AccountTable.resolve_natCast (table : AccountTable) (i : Nat) :
    table.resolve i = table.addresses[i]? :=
  if_pos (Int.natCast_nonneg i)

/-- The instruction's program and accounts are those that the item names or refers to in the
table. -/
structure Instruction.RefersBy (table : AccountTable) (item : Json) (instruction : Instruction) :
    Prop where
  program : instruction.programId = (item.member "programId").text?.or
    ((item.member "programIdIndex").int?.bind table.resolve)
  accounts : ∃ refs, (item.member "accounts").items? = .ok refs ∧
    instruction.accounts = refs.filterMap table.resolveRef

theorem Instruction.refersBy_of_ok {item : Json} {table : AccountTable} {instruction : Instruction}
    (h : ofJson item table = .ok instruction) : instruction.RefersBy table item := by
  unfold ofJson at h
  split at h
  next fields hfields =>
    obtain ⟨_, -, h⟩ := Except.bind_eq_ok.mp h
    obtain ⟨refs, hrefs, h⟩ := Except.bind_eq_ok.mp h
    cases h
    obtain rfl := Json.eq_obj_of_fields? hfields
    exact ⟨rfl, refs, hrefs, rfl⟩
  next => cases h

/-- The item calls the instructions of the block, which refer to the table. -/
structure InnerInstructions.RefersBy (table : AccountTable) (block : InnerInstructions)
    (item : Json) : Prop where
  index : (item.member "index").int? = some block.index
  instructions : ∃ items, (item.member "instructions").items? = .ok items ∧
    List.Forall₂ (fun item instruction => Instruction.RefersBy table item instruction)
      items block.instructions

theorem InnerInstructions.refersBy_of_ok {item : Json} {table : AccountTable}
    {block : InnerInstructions} (h : ofJson item table = .ok (some block)) :
    block.RefersBy table item := by
  unfold ofJson at h
  split at h
  next fields hfields =>
    obtain rfl := Json.eq_obj_of_fields? hfields
    split at h
    next index hindex =>
      obtain ⟨items, hitems, h⟩ := Except.bind_eq_ok.mp h
      obtain ⟨instructions, hinstructions, h⟩ := Except.bind_eq_ok.mp h
      cases h
      exact ⟨hindex, items, hitems,
        (Except.mapM_eq_ok.mp hinstructions).imp fun _ _ => Instruction.refersBy_of_ok⟩
    next => cases h
  next => cases h

/-- The balance is that of the account at the item's index in the table. -/
structure TokenBalance.RefersBy (table : AccountTable) (balance : TokenBalance) (item : Json) :
    Prop where
  index : (item.member "accountIndex").int? = some balance.accountIndex
  account : balance.account = table.resolve balance.accountIndex

theorem TokenBalance.refersBy_of_ok {item : Json} {table : AccountTable} {balance : TokenBalance}
    (h : ofJson item table = .ok (some balance)) : balance.RefersBy table item := by
  unfold ofJson at h
  split at h
  next fields hfields =>
    obtain rfl := Json.eq_obj_of_fields? hfields
    obtain ⟨amount, -, h⟩ := Except.bind_eq_ok.mp h
    split at h
    next hindex _ =>
      cases h
      exact ⟨hindex, rfl⟩
    next => cases h
  next => cases h

theorem Transaction.refersBy_of_tokenBalances {v : Json} {table : AccountTable}
    {balances : List TokenBalance} (h : tokenBalances v table = .ok balances) :
    ∀ balance ∈ balances, v.HasItem (balance.RefersBy table) := by
  obtain ⟨items, hitems, h⟩ := Except.bind_eq_ok.mp h
  obtain ⟨found, hfound, h⟩ := Except.bind_eq_ok.mp h
  cases h
  intro balance hbalance
  obtain ⟨entry, hentry, hsame⟩ := List.mem_filterMap.mp hbalance
  obtain rfl : entry = some balance := hsame
  obtain ⟨item, hmem, hitem⟩ := Except.partner_of_mem (Except.mapM_eq_ok.mp hfound).flip hentry
  exact ⟨items, hitems, item, hmem, TokenBalance.refersBy_of_ok hitem⟩

/-- The deltas by position: of each place where the two balances differ, if an account is there. -/
theorem BalanceDelta.compute_eq {accounts : List String} {pre post : List Int}
    {account : Nat → Option String} {start : Nat}
    (h : ∀ i : Nat, account (start + i) = accounts[i]?) :
    compute accounts pre post = ((pre.zip post).zipIdx start).filterMap fun entry =>
      if entry.1.1 = entry.1.2 then none
      else (account entry.2).map (⟨·, entry.1.1 - entry.1.2⟩) := by
  -- `hrest` is the hypothesis on the accounts for those after the first
  have hrest {a : String} {accounts : List String} {start : Nat}
      (h : ∀ i : Nat, account (start + i) = (a :: accounts)[i]?) (i : Nat) :
      account (start + 1 + i) = accounts[i]? := by
    rw [Nat.add_assoc, Nat.add_comm 1]
    exact h (i + 1)
  fun_induction compute accounts pre post generalizing start with
  | case1 a accounts x pre post ih =>
    rw [List.zip_cons_cons, List.zipIdx_cons, List.filterMap_cons, ih (hrest h)]
    simp
  | case2 a accounts x pre y post hne ih =>
    have hfirst : account start = some a := h 0
    rw [List.zip_cons_cons, List.zipIdx_cons, List.filterMap_cons, ih (hrest h)]
    simp [hne, hfirst]
  | case3 accounts pre post hnone =>
    cases accounts with
    | nil =>
      refine (List.filterMap_eq_nil_iff.mpr ?_).symm
      rintro ⟨⟨x, y⟩, i⟩ hentry
      have hlate := h (i - start)
      rw [Nat.add_sub_cancel' (List.mem_zipIdx hentry).1] at hlate
      simp [hlate]
    | cons a accounts =>
      cases pre with
      | nil => rfl
      | cons x pre =>
        cases post with
        | nil => rfl
        | cons y post => exact (hnone a accounts x pre y post rfl rfl rfl).elim

namespace Transaction

variable {result : Json} {tx : Transaction}

/-- What a result gives by an index is attributed to the account that the table has there. -/
structure Attributes (result : Json) (tx : Transaction) : Prop where
  instructions : ∃ items,
    (((result.member "transaction").member "message").member "instructions").items? = .ok items ∧
      List.Forall₂ (fun item instruction => Instruction.RefersBy tx.accounts item instruction)
        items tx.instructions
  inner : ∀ block ∈ tx.inner,
    ((result.member "meta").member "innerInstructions").HasItem (block.RefersBy tx.accounts)
  preTokenBalances : ∀ balance ∈ tx.preTokenBalances,
    ((result.member "meta").member "preTokenBalances").HasItem (balance.RefersBy tx.accounts)
  postTokenBalances : ∀ balance ∈ tx.postTokenBalances,
    ((result.member "meta").member "postTokenBalances").HasItem (balance.RefersBy tx.accounts)
  deltas : BalanceDelta.ofTransaction tx =
    (tx.preBalances.zip tx.postBalances).zipIdx.filterMap fun entry =>
      if entry.1.1 = entry.1.2 then none
      else (tx.accounts.resolve entry.2).map (⟨·, entry.1.1 - entry.1.2⟩)

theorem DecodedFrom.attributes (h : DecodedFrom result tx) : Attributes result tx where
  instructions := by
    obtain ⟨items, hitems, hall⟩ := h.instructions
    exact ⟨items, hitems, hall.imp fun _ _ => Instruction.refersBy_of_ok⟩
  inner block hblock := by
    obtain ⟨items, blocks, hitems, hall, hinner⟩ := h.inner
    rw [hinner] at hblock
    obtain ⟨entry, hentry, hsame⟩ := List.mem_filterMap.mp hblock
    obtain rfl : entry = some block := hsame
    obtain ⟨item, hmem, hitem⟩ := Except.partner_of_mem hall.flip hentry
    exact ⟨items, hitems, item, hmem, InnerInstructions.refersBy_of_ok hitem⟩
  preTokenBalances := refersBy_of_tokenBalances h.preTokenBalances
  postTokenBalances := refersBy_of_tokenBalances h.postTokenBalances
  deltas := BalanceDelta.compute_eq fun i => by
    rw [Nat.zero_add]
    exact tx.accounts.resolve_natCast i

/-- What the entries hold at an index, if they reach that far. -/
def entryAt (entries : List (Option String)) (index : Int) : Option String :=
  if 0 ≤ index then entries[index.toNat]?.join else none

theorem resolve_eq_entryAt {table : AccountTable} {entries : List (Option String)} :
    (∀ index, table.resolve index = entryAt entries index) ↔
      ∀ i : Nat, table.addresses[i]? = entries[i]?.join := by
  constructor
  · intro h i
    rw [← table.resolve_natCast, h]
    exact if_pos (Int.natCast_nonneg i)
  · intro h index
    unfold AccountTable.resolve entryAt
    rw [h]

/-- The table has the addresses that a result lists, and all that is given by an index is looked up
in it. Keys are all addresses. An address behind entries that are none stands at the number of
addresses before it, so indices mean what the result lists exactly if no address comes behind an
entry that is none. -/
theorem resolves_as_listed (h : ofJson result = .ok tx) :
    ∃ listing : Listing, listing.Of result ∧ (∀ key ∈ listing.keys, key.keyAddress?.isSome) ∧
      tx.accounts.addresses = listing.entries.reduceOption ∧
      (∀ (i : Nat) address, listing.entries[i]? = some (some address) →
        tx.accounts.resolve ((listing.entries.take i).countP Option.isSome) = some address) ∧
      ((∀ index, tx.accounts.resolve index = entryAt listing.entries index) ↔
        listing.entries.Pairwise fun entry later => later.isSome → entry.isSome) ∧
      Attributes result tx := by
  have hdecoded := decodedFrom_of_ok h
  obtain ⟨listing, hof, hkeys, haddresses⟩ := hdecoded.listed
  refine ⟨listing, hof, hkeys, haddresses, fun i address hentry => ?_, ?_, hdecoded.attributes⟩
  · rw [AccountTable.resolve_natCast, haddresses]
    exact getElem?_reduceOption hentry
  · rw [resolve_eq_entryAt, haddresses]
    exact reduceOption_keeps_places

/-- A result with a loaded address behind an entry that is none. -/
def withNullLoaded : Json := .obj [
  ("slot", .int 1),
  ("meta", .obj [("fee", .int 1),
    ("loadedAddresses", .obj [("writable", .arr [.null, .str "B"]), ("readonly", .arr [])])]),
  ("transaction", .obj [("message", .obj [("accountKeys", .arr [.str "A"])]),
    ("signatures", .arr [.str "s"])])]

/-- The address that is listed third has the second place in the table. -/
theorem resolves_as_listed_of_null :
    ∃ tx listing, ofJson withNullLoaded = .ok tx ∧ Listing.Of withNullLoaded listing ∧
      listing.entries = [some "A", none, some "B"] ∧
      tx.accounts.resolve 1 = some "B" ∧ tx.accounts.resolve 2 = none := by
  obtain ⟨tx, htx⟩ : ∃ tx, ofJson withNullLoaded = .ok tx := ⟨_, rfl⟩
  obtain ⟨listing, hof, -, haddresses, hplaces, -⟩ := resolves_as_listed htx
  have hentries : listing.entries = [some "A", none, some "B"] := by
    have hkeys : Json.arr [.str "A"] = .arr listing.keys := hof.keys
    have hwritable : Except.ok [Json.null, .str "B"] = .ok listing.writable := hof.writable
    have hreadonly : Except.ok ([] : List Json) = .ok listing.readonly := hof.readonly
    rw [Listing.entries, ← Json.arr.inj hkeys, ← Except.ok.inj hwritable,
      ← Except.ok.inj hreadonly]
    rfl
  rw [hentries] at haddresses hplaces
  refine ⟨tx, listing, htx, hof, hentries, hplaces 2 "B" rfl, ?_⟩
  rw [AccountTable.resolve, haddresses]
  rfl

end Transaction

end AddressIndex
