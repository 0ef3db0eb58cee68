import AddressIndex.Proofs.Endpoints
import Mathlib.Data.List.Infix

/-! What log lines show of URLs. The text behind the first mark of a key shows nowhere. Credentials
do not show either, unless the mark of a host or of a key is within them: what stands behind the
first such mark of a host, or in front of the mark of a key, is taken for something else. -/

namespace AddressIndex

/-! ### Cutting -/

namespace Text

section Cut

variable {mark before rest more xs ys cs : List Char} {m s : Char} {ms : List Char}

theorem after?_isSome : (after? mark cs).isSome ↔ mark <+: cs := by
  simp only [Option.isSome_iff_exists, after?_eq_some, List.IsPrefix, @eq_comm _ cs]

theorem after?_eq_none : after? mark cs = none ↔ ¬ mark <+: cs := by
  rw [← after?_isSome, Option.not_isSome_iff_eq_none]

theorem cut?_eq_none : cut? mark cs = none ↔ ¬ mark <:+: cs := by
  induction cs with
  | nil => rw [cut?, Option.map_eq_none_iff, after?_eq_none, List.prefix_nil, List.infix_nil]
  | cons c cs ih =>
    rw [List.infix_cons_iff, not_or, ← ih, ← after?_eq_none, cut?]
    cases after? mark (c :: cs) <;> simp

theorem exists_cut? (h : mark <:+: cs) : ∃ before rest, cut? mark cs = some (before, rest) := by
  cases hcut : cut? mark cs with
  | none => exact absurd h (cut?_eq_none.mp hcut)
  | some parts => exact ⟨parts.1, parts.2, rfl⟩

/-- More text behind does not move the first mark. -/
theorem cut?_append (h : cut? mark cs = some (before, rest)) :
    cut? mark (cs ++ more) = some (before, rest ++ more) := by
  induction cs generalizing before with
  | nil =>
    simp only [cut?, Option.map_eq_some_iff, Prod.mk.injEq, after?_eq_some] at h
    obtain ⟨_, hempty, rfl, rfl⟩ := h
    obtain ⟨rfl, rfl⟩ := List.append_eq_nil_iff.mp hempty.symm
    cases more <;> rfl
  | cons c cs ih =>
    rw [List.cons_append, cut?]
    rw [cut?] at h
    cases hafter : after? mark (c :: cs) with
    | some behind =>
      simp only [hafter, Option.some.injEq, Prod.mk.injEq] at h
      obtain ⟨rfl, rfl⟩ := h
      have hmore : after? mark (c :: (cs ++ more)) = some (behind ++ more) := by
        rw [after?_eq_some, ← List.cons_append, after?_eq_some.mp hafter, List.append_assoc]
      simp only [hmore]
    | none =>
      simp only [hafter, Option.map_eq_some_iff, Prod.mk.injEq] at h
      obtain ⟨⟨first, behind⟩, hcut, rfl, rfl⟩ := h
      -- the mark ends within `cs`, so it is no longer than that
      have hlength : mark.length ≤ (c :: cs).length := by
        rw [eq_of_cut? hcut]
        simp only [List.length_cons, List.length_append]
        omega
      have hmore : after? mark (c :: (cs ++ more)) = none := by
        rw [after?_eq_none] at hafter ⊢
        intro hprefix
        exact hafter (List.prefix_of_prefix_length_le hprefix (List.prefix_append (c :: cs) more)
          hlength)
      simp only [hmore, ih hcut, Option.map_some]

theorem not_prefix_over {x : Char} (hs : s ∉ mark.tail) (h : ¬ mark <+: x :: xs) :
    ¬ mark <+: x :: (xs ++ s :: ys) := by
  rintro ⟨behind, hbehind⟩
  rw [← List.cons_append, List.append_eq_append_iff] at hbehind
  rcases hbehind with ⟨more, hfront, -⟩ | ⟨more, hmark, hrest⟩
  · exact h ⟨more, hfront.symm⟩
  · cases more with
    | nil =>
      rw [List.append_nil] at hmark
      exact h (hmark ▸ List.prefix_refl _)
    | cons y more =>
      obtain ⟨rfl, -⟩ := List.cons.inj hrest
      rw [hmark] at hs
      exact hs (List.mem_append_right _ List.mem_cons_self)

/-- A mark that is not in the first text does not reach over a character that it can only begin
with. -/
theorem cut?_over (hs : s ∉ mark.tail) (h : ¬ mark <:+: xs) :
    cut? mark (xs ++ s :: ys) = (cut? mark (s :: ys)).map fun p => (xs ++ p.1, p.2) := by
  induction xs with
  | nil => exact Option.map_id'.symm
  | cons x xs ih =>
    rw [List.infix_cons_iff, not_or] at h
    have hnone : after? mark (x :: (xs ++ s :: ys)) = none :=
      after?_eq_none.mpr (not_prefix_over hs h.1)
    rw [List.cons_append, cut?, hnone, ih h.2, Option.map_map]
    rfl

/-- A mark that begins only once is found where it stands, behind a text without it. -/
theorem cut?_of_apart (hm : m ∉ ms) (h : ¬ m :: ms <:+: before) :
    cut? (m :: ms) (before ++ m :: (ms ++ rest)) = some (before, rest) := by
  have hafter : after? (m :: ms) (m :: (ms ++ rest)) = some rest := after?_eq_some.mpr rfl
  rw [cut?_over hm h, cut?, hafter]
  simp

/-- A character that is not in the mark separates the texts in which it can be. -/
theorem cut?_separated (hs : s ∉ mark) (h : ¬ mark <:+: xs) :
    cut? mark (xs ++ s :: ys) = (cut? mark ys).map fun p => (xs ++ s :: p.1, p.2) := by
  have hnone : after? mark (s :: ys) = none := by
    rw [after?_eq_none]
    rintro ⟨behind, hbehind⟩
    cases mark with
    | nil => exact h List.nil_infix
    | cons m ms => exact hs ((List.cons.inj hbehind).1 ▸ List.mem_cons_self)
  rw [cut?_over (fun htail => hs (List.mem_of_mem_tail htail)) h, cut?, hnone, Option.map_map]
  rfl

theorem not_infix_separated (hs : s ∉ mark) (hxs : ¬ mark <:+: xs) (hys : ¬ mark <:+: ys) :
    ¬ mark <:+: xs ++ s :: ys := by
  rw [← cut?_eq_none, cut?_separated hs hxs, cut?_eq_none.mpr hys]
  rfl

/-- There is no mark in front of the first one. -/
theorem not_infix_of_cut? (hmark : mark ≠ []) (h : cut? mark cs = some (before, rest)) :
    ¬ mark <:+: before := by
  intro hwithin
  obtain ⟨first, behind, hcut⟩ := exists_cut? hwithin
  have hsame : cut? mark cs = some (first, behind ++ (mark ++ rest)) := by
    rw [eq_of_cut? h, List.append_assoc]
    exact cut?_append hcut
  obtain ⟨rfl, -⟩ := Prod.mk.inj (Option.some.inj (h.symm.trans hsame))
  have hlength := congrArg List.length (eq_of_cut? hcut)
  have hpos : 0 < mark.length := List.length_pos_iff.mpr hmark
  rw [List.length_append, List.length_append] at hlength
  omega

end Cut

end Text

/-! ### Keys and credentials -/

namespace Url

/-- The mark of a key. -/
def keyMark : List Char := "api-key=".toList

/-- The mark of a scheme, behind it. -/
def schemeMark : List Char := "://".toList

/-- A URL with a key. -/
def withKey (front key : List Char) : List Char := front ++ keyMark ++ key

/-- A URL with credentials. -/
def withUser (scheme user rest : List Char) : List Char :=
  scheme ++ schemeMark ++ user ++ '@' :: rest

/-- The characters that end the part of a URL with the host. -/
def endsHost (c : Char) : Bool := c = '/' || c = '?' || c = '#'

/-- A text that ends the scheme where the mark behind it stands. -/
def IsScheme (scheme : List Char) : Prop := ¬ schemeMark <:+: scheme

/-- Credentials without the mark of a host or of a key in them. -/
def IsPlain (user : List Char) : Prop := '@' ∉ user ∧ ¬ keyMark <:+: user

/-- A text behind the last mark of a host. -/
def IsRest (rest : List Char) : Prop := '@' ∉ rest.takeWhile (!endsHost ·)

instance (scheme : List Char) : Decidable (IsScheme scheme) :=
  inferInstanceAs (Decidable (¬ schemeMark <:+: scheme))

instance (user : List Char) : Decidable (IsPlain user) :=
  inferInstanceAs (Decidable ('@' ∉ user ∧ ¬ keyMark <:+: user))

instance (rest : List Char) : Decidable (IsRest rest) :=
  inferInstanceAs (Decidable ('@' ∉ rest.takeWhile (!endsHost ·)))

section Redact

variable {url shown front scheme user rest : List Char}

/-- What stands for a key. -/
def hiddenKey : List Char := "api-key=***".toList

theorem not_infix_hiddenKey (h : ¬ schemeMark <:+: front) :
    ¬ schemeMark <:+: front ++ hiddenKey :=
  Text.not_infix_separated (s := 'a') (by decide) h (by decide)

theorem withoutKey_eq (url : List Char) :
    withoutKey url = ((Text.cut? keyMark url).map fun p => p.1 ++ hiddenKey).getD url := by
  unfold withoutKey keyMark hiddenKey
  cases Text.cut? "api-key=".toList url <;> rfl

theorem withoutKey_nil : withoutKey [] = [] := rfl

theorem withoutKey_append (h : keyMark <:+: front) (more : List Char) :
    withoutKey (front ++ more) = withoutKey front := by
  obtain ⟨before, behind, hcut⟩ := Text.exists_cut? h
  rw [withoutKey_eq, withoutKey_eq, hcut, Text.cut?_append hcut]
  rfl

theorem withoutKey_separated {c : Char} (hc : c ∉ keyMark) (h : ¬ keyMark <:+: front) :
    withoutKey (front ++ c :: rest) = front ++ c :: withoutKey rest := by
  rw [withoutKey_eq, withoutKey_eq, Text.cut?_separated hc h]
  cases Text.cut? keyMark rest <;> simp

/-- The key does not show in what is left of a URL. -/
theorem withoutKey_withKey (h : ¬ keyMark <:+: front) (key : List Char) :
    withoutKey (withKey front key) = front ++ hiddenKey := by
  have hcut : Text.cut? keyMark (withKey front key) = some (front, key) := by
    rw [withKey, List.append_assoc]
    exact Text.cut?_of_apart (by decide) h
  rw [withoutKey_eq, hcut]
  rfl

/-- No credentials show without a mark of the scheme. -/
theorem withoutCredentials_of_no_scheme (h : ¬ schemeMark <:+: url) :
    withoutCredentials url = .ok url := by
  have hcut : Text.cut? "://".toList url = none := Text.cut?_eq_none.mpr h
  unfold withoutCredentials
  rw [hcut]
  split <;> rfl

theorem withoutCredentials_scheme (h : IsScheme scheme) (rest : List Char) :
    withoutCredentials (scheme ++ schemeMark ++ rest) =
      if '@' ∈ scheme ∨ '@' ∈ rest then
        match Text.cut? ['@'] rest with
        | some (_, host) => .ok (scheme ++ "://***@".toList ++ host)
        | none => .error .noHost
      else .ok (scheme ++ schemeMark ++ rest) := by
  have hcut : Text.cut? "://".toList (scheme ++ schemeMark ++ rest) = some (scheme, rest) := by
    rw [List.append_assoc]
    exact Text.cut?_of_apart (by decide) h
  have hmark : '@' ∉ schemeMark := by decide
  unfold withoutCredentials
  rw [hcut]
  by_cases hat : '@' ∈ scheme ∨ '@' ∈ rest
  · have hany : (scheme ++ schemeMark ++ rest).contains '@' = true := by
      simpa [hmark] using hat
    rw [if_pos hat, hany]
    rfl
  · have hany : (scheme ++ schemeMark ++ rest).contains '@' = false := by
      simpa [hmark] using hat
    rw [if_neg hat, hany]
    rfl

theorem cut?_at (h : '@' ∉ user) (rest : List Char) :
    Text.cut? ['@'] (user ++ '@' :: rest) = some (user, rest) := by
  have hnot : ¬ ['@'] <:+: user := by rwa [List.singleton_infix_iff]
  exact Text.cut?_of_apart List.not_mem_nil hnot

theorem redact_ofList (url : List Char) : redact (String.ofList url) =
    (withoutCredentials (withoutKey url)).map String.ofList := by
  rw [redact, String.toList_ofList]
  cases withoutCredentials (withoutKey url) <;> rfl

theorem redact_eq_ok : redact (String.ofList url) = .ok (String.ofList shown) ↔
    withoutCredentials (withoutKey url) = .ok shown := by
  rw [redact_ofList]
  cases withoutCredentials (withoutKey url) with
  | error fault => exact ⟨nofun, nofun⟩
  | ok text =>
    change Except.ok (String.ofList text) = .ok (String.ofList shown) ↔ _
    rw [Except.ok.injEq, Except.ok.injEq, String.ofList_inj]

theorem redact_withKey (front key key' : List Char) :
    redact (String.ofList (withKey front key)) = redact (String.ofList (withKey front key')) := by
  have hmark : keyMark <:+: front ++ keyMark := (List.suffix_append _ _).isInfix
  rw [redact_ofList, redact_ofList, withKey, withKey, withoutKey_append hmark,
    withoutKey_append hmark]

theorem withoutCredentials_withUser (hscheme : IsScheme scheme) (huser : '@' ∉ user) :
    withoutCredentials (withUser scheme user rest) = .ok (scheme ++ "://***@".toList ++ rest) := by
  have hat : '@' ∈ scheme ∨ '@' ∈ user ++ '@' :: rest :=
    .inr (List.mem_append_right _ List.mem_cons_self)
  rw [withUser, List.append_assoc, withoutCredentials_scheme hscheme, if_pos hat, cut?_at huser]

theorem withoutKey_withUser (h : ¬ keyMark <:+: scheme) : withoutKey (withUser scheme user rest) =
    scheme ++ schemeMark ++ withoutKey (user ++ '@' :: rest) := by
  have hnone : ¬ keyMark <:+: [] := by decide
  have hslash (cs : List Char) : withoutKey ('/' :: cs) = '/' :: withoutKey cs :=
    withoutKey_separated (by decide) hnone
  have hmark : withUser scheme user rest =
      scheme ++ ':' :: '/' :: '/' :: (user ++ '@' :: rest) := by
    simp [withUser, schemeMark]
  rw [hmark, withoutKey_separated (by decide) h, hslash, hslash]
  simp [schemeMark]

/-- Behind the first mark of a host, all shows but the key. -/
theorem redact_withUser (hscheme : IsScheme scheme) (hkey : ¬ keyMark <:+: scheme)
    (huser : IsPlain user) (rest : List Char) :
    redact (String.ofList (withUser scheme user rest)) =
      .ok (String.ofList (scheme ++ "://***@".toList ++ withoutKey rest)) := by
  have hleft : withoutKey (withUser scheme user rest) = withUser scheme user (withoutKey rest) := by
    rw [withoutKey_withUser hkey, withoutKey_separated (by decide) huser.2, withUser]
    simp
  rw [redact_ofList, hleft, withoutCredentials_withUser hscheme huser.1]
  rfl

theorem redact_withUser_at (hscheme : IsScheme scheme) (hkey : ¬ keyMark <:+: scheme)
    (huser : IsPlain user) (behind rest : List Char) :
    redact (String.ofList (withUser scheme (user ++ '@' :: behind) rest)) =
      .ok (String.ofList (scheme ++ "://***@".toList ++ withoutKey (behind ++ '@' :: rest))) := by
  have hmoved : withUser scheme (user ++ '@' :: behind) rest =
      withUser scheme user (behind ++ '@' :: rest) := by simp [withUser]
  rw [hmoved]
  exact redact_withUser hscheme hkey huser _

/-- A key in front of the mark of the scheme hides all behind it. -/
theorem redact_withUser_of_key (hscheme : IsScheme scheme) (hkey : keyMark <:+: scheme)
    (user rest : List Char) : redact (String.ofList (withUser scheme user rest)) =
      .ok (String.ofList (withoutKey scheme)) := by
  have hleft : withoutKey (withUser scheme user rest) = withoutKey scheme := by
    rw [withUser, List.append_assoc, List.append_assoc, withoutKey_append hkey]
  have hnone : ¬ schemeMark <:+: withoutKey scheme := by
    obtain ⟨before, behind, hcut⟩ := Text.exists_cut? hkey
    have hbefore : ¬ schemeMark <:+: before := by
      intro hwithin
      apply hscheme
      rw [Text.eq_of_cut? hcut, List.append_assoc]
      exact hwithin.trans (List.prefix_append _ _).isInfix
    rw [withoutKey_eq, hcut]
    exact not_infix_hiddenKey hbefore
  rw [redact_ofList, hleft, withoutCredentials_of_no_scheme hnone]
  rfl

/-- The last character of a URL shows. -/
theorem getLast?_of_withoutCredentials (h : withoutCredentials url = .ok shown) :
    shown.getLast? = url.getLast? := by
  unfold withoutCredentials at h
  split at h
  · cases h
    rfl
  · split at h
    · cases h
      rfl
    next scheme behind hscheme =>
      split at h
      next before host hhost =>
        cases h
        rw [Text.eq_of_cut? hscheme, Text.eq_of_cut? hhost]
        have hshown : scheme ++ "://***@".toList ++ host =
            scheme ++ "://***".toList ++ '@' :: host := by simp
        have hurl : scheme ++ "://".toList ++ (before ++ ['@'] ++ host) =
            scheme ++ "://".toList ++ before ++ '@' :: host := by simp
        rw [hshown, hurl, List.getLast?_append_cons, List.getLast?_append_cons]
      next => cases h

/-- With a key hidden, a URL is not shown at all if the mark of a host is in front of the scheme's
only. -/
theorem redact_withKey_fails_iff (hfront : ¬ keyMark <:+: front) (key : List Char) :
    redact (String.ofList (withKey front key)) = .error .noHost ↔
      ∃ scheme rest, front = scheme ++ schemeMark ++ rest ∧ IsScheme scheme ∧ '@' ∈ scheme ∧
        '@' ∉ rest := by
  have hhidden : '@' ∉ hiddenKey := by decide
  rw [redact_ofList, withoutKey_withKey hfront]
  constructor
  · intro hfails
    by_cases hscheme : schemeMark <:+: front
    · -- the mark of the scheme stands where `front` has it first, whatever is behind it
      obtain ⟨scheme, rest, hcut⟩ := Text.exists_cut? hscheme
      have hfirst : IsScheme scheme := Text.not_infix_of_cut? (by decide) hcut
      have hsplit := Text.eq_of_cut? hcut
      rw [hsplit, List.append_assoc _ _ hiddenKey, withoutCredentials_scheme hfirst] at hfails
      refine ⟨scheme, rest, hsplit, hfirst, ?_⟩
      split_ifs at hfails with hat
      · split at hfails
        next => cases hfails
        next hnone =>
          rw [Text.cut?_eq_none, List.singleton_infix_iff] at hnone
          exact ⟨hat.resolve_right hnone, fun hrest => hnone (List.mem_append_left _ hrest)⟩
      · cases hfails
    · rw [withoutCredentials_of_no_scheme (not_infix_hiddenKey hscheme)] at hfails
      cases hfails
  · rintro ⟨scheme, rest, rfl, hscheme, hat, hrest⟩
    have hnone : Text.cut? ['@'] (rest ++ hiddenKey) = none := by
      rw [Text.cut?_eq_none, List.singleton_infix_iff, List.mem_append]
      exact not_or.mpr ⟨hrest, hhidden⟩
    rw [List.append_assoc _ _ hiddenKey, withoutCredentials_scheme hscheme, if_pos (.inl hat),
      hnone]
    rfl

/-! ### Who shows -/

/-- Whatever is behind the credentials, they are shown as if they were empty. -/
def Hidden (scheme user : List Char) : Prop :=
  ∀ rest, IsRest rest → ∃ shown, redact (String.ofList (withUser scheme user rest)) = .ok shown ∧
    redact (String.ofList (withUser scheme [] rest)) = .ok shown

theorem isPlain_nil : IsPlain [] := ⟨List.not_mem_nil, by decide⟩

theorem not_hidden_of_key (hscheme : IsScheme scheme) (hplain : ¬ keyMark <:+: scheme)
    (h : keyMark <:+: user) : ¬ Hidden scheme user := by
  intro hhidden
  obtain ⟨shown, huser, hempty⟩ := hhidden [] List.not_mem_nil
  rw [redact_withUser hscheme hplain isPlain_nil] at hempty
  obtain rfl := Except.ok.inj hempty
  rw [redact_eq_ok, withoutKey_withUser hplain, withoutKey_append h] at huser
  -- what stands for the key ends one text, and the mark of the host the other
  have hlast := getLast?_of_withoutCredentials huser
  obtain ⟨before, behind, hcut⟩ := Text.exists_cut? h
  have hkey : withoutKey user = before ++ hiddenKey := by
    rw [withoutKey_eq, hcut]
    rfl
  have hends : hiddenKey.getLast? = some '*' := rfl
  have hhost : "://***@".toList.getLast? = some '@' := by decide
  rw [hkey, withoutKey_nil, List.append_nil, List.getLast?_append, List.getLast?_append,
    List.getLast?_append, hends, hhost] at hlast
  cases hlast

theorem not_hidden_of_at (hscheme : IsScheme scheme) (hkey : ¬ keyMark <:+: scheme)
    (hplain : ¬ keyMark <:+: user) (h : '@' ∈ user) : ¬ Hidden scheme user := by
  intro hhidden
  obtain ⟨shown, huser, hempty⟩ := hhidden [] List.not_mem_nil
  rw [redact_withUser hscheme hkey isPlain_nil] at hempty
  obtain rfl := Except.ok.inj hempty
  obtain ⟨before, behind, rfl, hbefore⟩ := List.eq_append_cons_of_mem h
  have hfront : ¬ keyMark <:+: before := fun hwithin =>
    hplain (hwithin.trans (List.prefix_append _ _).isInfix)
  have hbehind : ¬ keyMark <:+: behind := fun hwithin =>
    hplain (hwithin.trans ((List.suffix_cons _ _).trans (List.suffix_append _ _)).isInfix)
  rw [redact_withUser_at hscheme hkey ⟨hbefore, hfront⟩] at huser
  have hsame := List.append_cancel_left (String.ofList_injective (Except.ok.inj huser))
  rw [withoutKey_separated (by decide) hbehind, withoutKey_nil] at hsame
  exact absurd hsame (List.append_ne_nil_of_right_ne_nil _ (List.cons_ne_nil _ _))

/-- Credentials are hidden just if neither mark is in them, unless a key hides them all. -/
theorem hidden_iff (hscheme : IsScheme scheme) : Hidden scheme user ↔
    keyMark <:+: scheme ∨ IsPlain user := by
  constructor
  · intro hhidden
    by_cases hkey : keyMark <:+: scheme
    · exact .inl hkey
    · have hplain : ¬ keyMark <:+: user := fun h => not_hidden_of_key hscheme hkey h hhidden
      exact .inr ⟨fun h => not_hidden_of_at hscheme hkey hplain h hhidden, hplain⟩
  · intro h rest hrest
    by_cases hkey : keyMark <:+: scheme
    · exact ⟨_, redact_withUser_of_key hscheme hkey user rest,
        redact_withUser_of_key hscheme hkey [] rest⟩
    · exact ⟨_, redact_withUser hscheme hkey (h.resolve_left hkey) rest,
        redact_withUser hscheme hkey isPlain_nil rest⟩

/-- URLs that differ in keys and in hidden credentials only. -/
inductive SameButSecrets : String → String → Prop
  | refl (url : String) : SameButSecrets url url
  | key (front key key' : List Char) :
    SameButSecrets (String.ofList (withKey front key)) (String.ofList (withKey front key'))
  | user {scheme user user' : List Char} (hidden : Hidden scheme user)
      (hidden' : Hidden scheme user') {rest : List Char} (hrest : IsRest rest) :
    SameButSecrets (String.ofList (withUser scheme user rest))
      (String.ofList (withUser scheme user' rest))
  | trans {url url' url'' : String} (first : SameButSecrets url url')
      (second : SameButSecrets url' url'') : SameButSecrets url url''

theorem SameButSecrets.redact_eq {url url' : String} (h : SameButSecrets url url') :
    redact url = redact url' := by
  induction h with
  | refl url => rfl
  | key front key key' => exact redact_withKey front key key'
  | user hidden hidden' hrest =>
    obtain ⟨shown, hshown, hempty⟩ := hidden _ hrest
    obtain ⟨shown', hshown', hempty'⟩ := hidden' _ hrest
    rw [hshown, hshown', ← hempty, hempty']
  | trans first second ih ih' => exact ih.trans ih'

end Redact

end Url

/-! ### The lines of a start -/

/-- The lines that are written in a trace. -/
def Trace.lines (t : Trace) : List Log.Line :=
  t.filterMap fun ev =>
    match ev.effect with
    | .log _ line => some line
    | _ => none

namespace Service

variable {env : Environment} {t : Trace} {setup setup' : Setup}

/-- A pool that is set up writes one line. -/
theorem lines_of_setUpPool (h : (setUpPool env).run.Runs t (.ok setup)) :
    ∃ line, setup.starting = .ok line ∧ t.lines = [line] := by
  obtain ⟨_, line, -, -, hline, rfl⟩ := runs_setUpPool h
  exact ⟨line, hline, rfl⟩

theorem starting_congr (hnode : Url.SameButSecrets setup.settings.nodeUrl setup'.settings.nodeUrl)
    (hdatabase : Url.SameButSecrets setup.settings.databaseUrl setup'.settings.databaseUrl)
    (hworkers : setup.settings.workerCount = setup'.settings.workerCount) :
    setup.starting = setup'.starting := by
  unfold Setup.starting
  rw [hnode.redact_eq, hdatabase.redact_eq, hworkers]

end Service

namespace Url

open Service (Setup setUpPool)

/-- No key shows, though a URL with one may not be shown at all. Credentials are hidden just if
neither mark is in them, unless a key in front hides them; else the text behind their first mark of
a host shows. So the lines that a pool writes when it is set up are the same for settings that
differ in keys and in hidden credentials only. -/
theorem redact_hides_exactly (front scheme user : List Char) :
    (∀ key key', redact (String.ofList (withKey front key)) =
      redact (String.ofList (withKey front key'))) ∧
    (¬ keyMark <:+: front → ∀ key,
      (redact (String.ofList (withKey front key)) = .error .noHost ↔
        ∃ before rest, front = before ++ schemeMark ++ rest ∧ IsScheme before ∧ '@' ∈ before ∧
          '@' ∉ rest)) ∧
    (IsScheme scheme → (Hidden scheme user ↔ keyMark <:+: scheme ∨ IsPlain user)) ∧
    (IsScheme scheme → ¬ keyMark <:+: scheme → IsPlain user → ∀ behind rest,
      redact (String.ofList (withUser scheme (user ++ '@' :: behind) rest)) =
        .ok (String.ofList (scheme ++ "://***@".toList ++ withoutKey (behind ++ '@' :: rest)))) ∧
    ∀ env env' t t' (setup setup' : Setup), (setUpPool env).run.Runs t (.ok setup) →
      (setUpPool env').run.Runs t' (.ok setup') →
      SameButSecrets setup.settings.nodeUrl setup'.settings.nodeUrl →
      SameButSecrets setup.settings.databaseUrl setup'.settings.databaseUrl →
      setup.settings.workerCount = setup'.settings.workerCount → t.lines = t'.lines := by
  refine ⟨redact_withKey front, redact_withKey_fails_iff, hidden_iff, redact_withUser_at,
    fun env env' t t' setup setup' hruns hruns' hnode hdatabase hworkers => ?_⟩
  obtain ⟨line, hline, hlines⟩ := Service.lines_of_setUpPool hruns
  obtain ⟨line', hline', hlines'⟩ := Service.lines_of_setUpPool hruns'
  rw [Service.starting_congr hnode hdatabase hworkers, hline'] at hline
  rw [hlines, hlines', Except.ok.inj hline]

/-- An environment with a node behind credentials. -/
def withNodeUser (user : String) : Environment :=
  ⟨[("RPC_URL", "http://" ++ user ++ "@h/"), ("DATABASE_URL", "sqlite:///indexer.db")]⟩

theorem runs_withNodeUser (user : String)
    (h : (((setUpPool (withNodeUser user)).run.run (Sample.world (.ready .blank))).1.toOption.map
      fun setup => (setup.settings.nodeUrl, setup.settings.databaseUrl,
        setup.settings.workerCount)) =
      some ("http://" ++ user ++ "@h/", "sqlite:///indexer.db", 4)) :
    ∃ t setup, (setUpPool (withNodeUser user)).run.Runs t (.ok setup) ∧
      setup.settings.nodeUrl = "http://" ++ user ++ "@h/" ∧
      setup.settings.databaseUrl = "sqlite:///indexer.db" ∧ setup.settings.workerCount = 4 := by
  have hruns := (setUpPool (withNodeUser user)).run.runs_trace (Sample.world (.ready .blank))
  generalize ((setUpPool (withNodeUser user)).run.run (Sample.world (.ready .blank))).1 = ended
    at h hruns
  cases ended with
  | error fault => cases h
  | ok setup =>
    have hsame := Option.some.inj h
    simp only [Prod.mk.injEq] at hsame
    exact ⟨_, setup, hruns, hsame⟩

/-- A password is hidden, but not behind a user name with the mark of a host in it; and two pools
whose nodes differ in hidden credentials write the same line. -/
theorem redact_hides_exactly_of_password :
    Hidden "postgresql".toList "server:secret".toList ∧
    ¬ Hidden "postgresql".toList "admin@server:secret".toList ∧
    redact (String.ofList (withKey "a@b://".toList "k".toList)) = .error .noHost ∧
    ∃ t t' setup setup', (setUpPool (withNodeUser "u:p")).run.Runs t (.ok setup) ∧
      (setUpPool (withNodeUser "v:q")).run.Runs t' (.ok setup') ∧ t.lines = t'.lines := by
  have hfails := (redact_hides_exactly "a@b://".toList [] []).2.1
  have hhidden (scheme user : List Char) := (redact_hides_exactly [] scheme user).2.2.1
  have hlines := (redact_hides_exactly [] [] []).2.2.2.2
  have hscheme : IsScheme "postgresql".toList := by decide
  have hnode : SameButSecrets "http://u:p@h/" "http://v:q@h/" := by
    have hfirst : IsScheme "http".toList := by decide
    have hu : Hidden "http".toList "u:p".toList := (hhidden _ _ hfirst).mpr (.inr (by decide))
    have hv : Hidden "http".toList "v:q".toList := (hhidden _ _ hfirst).mpr (.inr (by decide))
    have hrest : IsRest "h/".toList := by decide
    exact .user hu hv hrest
  obtain ⟨t, setup, hruns, hurl, hdatabase, hworkers⟩ := runs_withNodeUser "u:p" (by decide +kernel)
  obtain ⟨t', setup', hruns', hurl', hdatabase', hworkers'⟩ :=
    runs_withNodeUser "v:q" (by decide +kernel)
  refine ⟨(hhidden _ _ hscheme).mpr (.inr (by decide)), fun h => ?_,
    (hfails (by decide) _).mpr ⟨['a', '@', 'b'], [], by decide⟩,
    t, t', setup, setup', hruns, hruns', hlines _ _ _ _ _ _ hruns hruns' ?_ ?_ ?_⟩
  · exact absurd ((hhidden _ _ hscheme).mp h) (by decide)
  · rw [hurl, hurl']
    exact hnode
  · rw [hdatabase, hdatabase']
    exact .refl _
  · rw [hworkers, hworkers']

end Url

end AddressIndex
