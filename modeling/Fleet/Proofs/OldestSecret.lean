import Fleet.Proofs.Handshake
import Fleet.Proofs.Text.Strict
import Mathlib.Data.Prod.Lex
import Mathlib.Order.WithBot

/-! # The secret whose token is given out

Of the secrets that carry a token of an account the oldest is chosen, and of equally old ones the
first.

Main statement: `accountToken?_first_oldest`. -/

namespace Fleet

open Resource

-- the order of the integers that is meant, whichever other ways to it are imported
local instance preorderInt : Preorder ℤ := Int.instLinearOrder.toPreorder

namespace Handshake

/-! ### Eligible secrets -/

/-- The secret holds this token, which is one of the account. -/
structure Carries (s : Secret) (account token : String) : Prop where
  type : s.type = some tokenSecretType
  owner : ∃ annotations, s.metadata.annotations = some annotations ∧
    annotations.get? accountAnnotation = some account
  /-- The bytes that are stored are those of a text. -/
  bytes : ∃ data, s.data = some data ∧ data.get? "token" = some (Text.encode token)
  nonempty : token ≠ ""

/-- The secret holds a token of the account. -/
def IsEligible (account : String) (s : Secret) : Prop := ∃ token, Carries s account token

/-- The time of creation, of which none at all is the earliest. -/
def creation (d : Metadata) : WithBot (ℤ ×ₗ ℕ) :=
  match d.created with
  | none => ⊥
  | some t => (toLex (t.seconds, t.nanos) : ℤ ×ₗ ℕ)

theorem tokenIn?_eq_some_iff {s : Secret} {account token : String} :
    tokenIn? s account = some token ↔ Carries s account token := by
  unfold tokenIn?
  constructor
  · intro h
    obtain ⟨htype, h⟩ := Option.ite_none_left_eq_some.1 h
    obtain ⟨howner, h⟩ := Option.ite_none_left_eq_some.1 h
    obtain ⟨data, hdata, h⟩ := Option.bind_eq_some_iff.1 h
    obtain ⟨bytes, hbytes, h⟩ := Option.bind_eq_some_iff.1 h
    obtain ⟨t, ht, h⟩ := Option.bind_eq_some_iff.1 h
    obtain ⟨hnonempty, h⟩ := Option.ite_none_left_eq_some.1 h
    cases h
    rw [Text.decode?_eq_some_iff] at ht
    subst ht
    exact ⟨not_not.1 htype, Option.bind_eq_some_iff.1 (not_not.1 howner), ⟨data, hdata, hbytes⟩,
      fun hempty => hnonempty (String.isEmpty_iff.2 hempty)⟩
  · rintro ⟨htype, howner, ⟨data, hdata, hbytes⟩, hnonempty⟩
    rw [if_neg (not_not.2 htype), if_neg (not_not.2 (Option.bind_eq_some_iff.2 howner)), hdata]
    simp [hbytes, Text.decode?_eq_some_iff.2 rfl, hnonempty]

theorem isSome_tokenIn?_iff {s : Secret} {account : String} :
    (tokenIn? s account).isSome ↔ IsEligible account s := by
  rw [Option.isSome_iff_exists]
  exact exists_congr (fun _ => tokenIn?_eq_some_iff)

instance (account : String) : DecidablePred (IsEligible account) := fun _ =>
  decidable_of_iff _ isSome_tokenIn?_iff

/-! ### The oldest -/

theorem isOlder_iff {a b : Metadata} : isOlder a b = true ↔ creation a < creation b := by
  unfold isOlder creation
  cases a.created with
  | none => cases b.created <;> simp
  | some s =>
      cases b.created with
      | none => simp
      | some t => simp [Instant.before, Prod.Lex.toLex_lt_toLex, WithBot.coe_lt_coe]

/-- The first of the oldest: those before it are younger, and none after it is older. -/
def IsFirstOldest (l : List (Metadata × String)) (x : Metadata × String) : Prop :=
  ∃ before after, l = before ++ x :: after ∧ (∀ y ∈ before, creation x.1 < creation y.1) ∧
    ∀ y ∈ after, creation x.1 ≤ creation y.1

section Oldest

variable {a x y : Metadata × String} {l : List (Metadata × String)}

theorem IsFirstOldest.le (h : IsFirstOldest l x) (hy : y ∈ l) : creation x.1 ≤ creation y.1 := by
  obtain ⟨before, after, rfl, hbefore, hafter⟩ := h
  rcases List.mem_append.1 hy with hy | hy
  · exact (hbefore y hy).le
  · rcases List.mem_cons.1 hy with rfl | hy
    · exact le_rfl
    · exact hafter y hy

/-- One in front that is younger changes nothing. -/
theorem IsFirstOldest.cons (h : IsFirstOldest l x) (ha : creation x.1 < creation a.1) :
    IsFirstOldest (a :: l) x := by
  obtain ⟨before, after, rfl, hbefore, hafter⟩ := h
  exact ⟨a :: before, after, rfl, List.forall_mem_cons.2 ⟨ha, hbefore⟩, hafter⟩

theorem isFirstOldest_oldest (h : oldest l = some x) : IsFirstOldest l x := by
  induction l generalizing x with
  | nil => cases h
  | cons a rest ih =>
      rw [oldest] at h
      cases hrest : oldest rest with
      | none =>
          rw [hrest] at h
          cases h
          cases oldest_eq_none_iff.1 hrest
          exact ⟨[], [], rfl, by simp, by simp⟩
      | some b =>
          simp only [hrest] at h
          by_cases hb : isOlder b.1 a.1 = true
          · rw [if_pos hb] at h
            cases h
            exact (ih hrest).cons (isOlder_iff.1 hb)
          · rw [if_neg hb] at h
            cases h
            have hle : creation a.1 ≤ creation b.1 := not_lt.1 (fun hlt => hb (isOlder_iff.2 hlt))
            exact ⟨[], rest, rfl, by simp, fun y hy => hle.trans ((ih hrest).le hy)⟩

/-- There is only one that is the first. -/
theorem IsFirstOldest.unique (hx : IsFirstOldest l x) (hy : IsFirstOldest l y) : x = y := by
  obtain ⟨before, after, hl, hbefore, -⟩ := id hx
  obtain ⟨before', after', hl', hbefore', -⟩ := id hy
  -- if one of the two came before the other it would be younger, and it is not
  rcases List.append_eq_append_iff.1 (hl.symm.trans hl') with ⟨m, rfl, hm⟩ | ⟨m, rfl, hm⟩
  · cases m with
    | nil => exact (List.cons.inj hm).1
    | cons z m =>
        cases (List.cons.inj hm).1
        exact absurd (hx.le (hl' ▸ by simp)) (not_le.2 (hbefore' x (by simp)))
  · cases m with
    | nil => exact (List.cons.inj hm).1.symm
    | cons z m =>
        cases (List.cons.inj hm).1
        exact absurd (hy.le (hl ▸ by simp)) (not_le.2 (hbefore y (by simp)))

theorem oldest_eq_some_iff : oldest l = some x ↔ IsFirstOldest l x := by
  refine ⟨isFirstOldest_oldest, fun h => ?_⟩
  cases hl : oldest l with
  | none =>
      obtain ⟨before, after, rfl, -⟩ := h
      simp [oldest_eq_none_iff] at hl
  | some y => rw [(isFirstOldest_oldest hl).unique h]

end Oldest

/-! ### The chosen secret -/

/-- The tokens of the account, with the metadata of the secrets that hold them. -/
def tokens (secrets : List Secret) (account : String) : List (Metadata × String) :=
  secrets.filterMap (fun s => (tokenIn? s account).map (s.metadata, ·))

/-- The secret between these two parts of a list is chosen for its token: no eligible one was
created earlier, and no eligible one before it at the same time. -/
structure IsChosen (account token : String) (before : List Secret) (s : Secret)
    (after : List Secret) : Prop where
  carries : Carries s account token
  oldest : ∀ s' ∈ before ++ after, IsEligible account s' →
    ¬ creation s'.metadata < creation s.metadata
  first : ∀ s' ∈ before, IsEligible account s' → creation s'.metadata ≠ creation s.metadata

section Chosen

variable {secrets before after : List Secret} {s : Secret} {account token : String}

theorem mem_tokens_iff {d : Metadata} :
    (d, token) ∈ tokens secrets account ↔ ∃ s ∈ secrets, Carries s account token ∧ s.metadata = d := by
  unfold tokens
  rw [List.mem_filterMap]
  refine exists_congr (fun s => and_congr_right (fun _ => ?_))
  rw [Option.map_eq_some_iff]
  constructor
  · rintro ⟨t, ht, heq⟩
    cases heq
    exact ⟨tokenIn?_eq_some_iff.1 ht, rfl⟩
  · rintro ⟨hcarries, rfl⟩
    exact ⟨token, tokenIn?_eq_some_iff.2 hcarries, rfl⟩

theorem forall_tokens_iff (p : Metadata → Prop) :
    (∀ y ∈ tokens secrets account, p y.1) ↔ ∀ s ∈ secrets, IsEligible account s → p s.metadata := by
  constructor
  · rintro h s hs ⟨t, ht⟩
    exact h (s.metadata, t) (mem_tokens_iff.2 ⟨s, hs, ht, rfl⟩)
  · rintro h ⟨d, t⟩ hy
    obtain ⟨s, hs, ht, rfl⟩ := mem_tokens_iff.1 hy
    exact h s hs ⟨t, ht⟩

/-- Only the secrets that are eligible are looked at. -/
theorem tokens_filter :
    tokens (secrets.filter (fun s => decide (IsEligible account s))) account =
      tokens secrets account := by
  unfold tokens
  rw [List.filterMap_filter]
  congr 1
  funext s
  split
  · rfl
  · next h =>
      have hnone : tokenIn? s account = none := by
        rw [← Option.not_isSome_iff_eq_none, isSome_tokenIn?_iff]
        simpa using h
      rw [hnone, Option.map_none]

/-- The first of the oldest tokens are those of the chosen secrets. -/
theorem isFirstOldest_tokens_iff :
    (∃ d, IsFirstOldest (tokens secrets account) (d, token)) ↔
      ∃ before s after, secrets = before ++ s :: after ∧ IsChosen account token before s after := by
  constructor
  · rintro ⟨d, earlier, later, htokens, hearlier, hlater⟩
    obtain ⟨before, rest, rfl, rfl, hrest⟩ := List.filterMap_eq_append_iff.1 htokens
    obtain ⟨passed, s, after, rfl, hpassed, hs, rfl⟩ := List.filterMap_eq_cons_iff.1 hrest
    obtain ⟨t, ht, heq⟩ := Option.map_eq_some_iff.1 hs
    cases heq
    change ∀ y ∈ tokens before account, creation s.metadata < creation y.1 at hearlier
    -- what stands between the eligible ones before the secret and the secret itself is not eligible
    have hbefore : tokens (before ++ passed) account = tokens before account := by
      unfold tokens
      rw [List.filterMap_append, List.filterMap_eq_nil_iff.2 hpassed, List.append_nil]
    have hyounger : ∀ s' ∈ before ++ passed, IsEligible account s' →
        creation s.metadata < creation s'.metadata :=
      (forall_tokens_iff (creation s.metadata < creation ·)).1 (hbefore ▸ hearlier)
    have hnotOlder : ∀ s' ∈ after, IsEligible account s' →
        creation s.metadata ≤ creation s'.metadata :=
      (forall_tokens_iff (creation s.metadata ≤ creation ·)).1 hlater
    refine ⟨before ++ passed, s, after, by simp, tokenIn?_eq_some_iff.1 ht, fun s' hs' he => ?_,
      fun s' hs' he => (hyounger s' hs' he).ne'⟩
    rcases List.mem_append.1 hs' with hs' | hs'
    · exact (hyounger s' hs' he).asymm
    · exact (hnotOlder s' hs' he).not_gt
  · rintro ⟨before, s, after, rfl, hcarries, holdest, hfirst⟩
    have hyounger : ∀ s' ∈ before, IsEligible account s' →
        creation s.metadata < creation s'.metadata := fun s' hs' he =>
      lt_of_le_of_ne (not_lt.1 (holdest s' (List.mem_append_left _ hs') he)) (hfirst s' hs' he).symm
    have hnotOlder : ∀ s' ∈ after, IsEligible account s' →
        creation s.metadata ≤ creation s'.metadata := fun s' hs' he =>
      not_lt.1 (holdest s' (List.mem_append_right _ hs') he)
    refine ⟨s.metadata, tokens before account, tokens after account, ?_,
      (forall_tokens_iff (creation s.metadata < creation ·)).2 hyounger,
      (forall_tokens_iff (creation s.metadata ≤ creation ·)).2 hnotOlder⟩
    simp [tokens, tokenIn?_eq_some_iff.2 hcarries]

theorem accountToken?_eq_some_iff :
    accountToken? secrets account = some token ↔
      ∃ d, IsFirstOldest (tokens secrets account) (d, token) := by
  unfold accountToken?
  rw [Option.map_eq_some_iff]
  constructor
  · rintro ⟨⟨d, t⟩, h, rfl⟩
    exact ⟨d, oldest_eq_some_iff.1 h⟩
  · rintro ⟨d, h⟩
    exact ⟨(d, token), oldest_eq_some_iff.2 h, rfl⟩

theorem accountToken?_eq_none_iff :
    accountToken? secrets account = none ↔ ∀ s ∈ secrets, ¬ IsEligible account s := by
  unfold accountToken?
  rw [Option.map_eq_none_iff, oldest_eq_none_iff, List.filterMap_eq_nil_iff]
  refine forall₂_congr (fun s _ => ?_)
  rw [Option.map_eq_none_iff, ← isSome_tokenIn?_iff, Option.not_isSome_iff_eq_none]

end Chosen
end Handshake

/-- The token that is given out is that of an eligible secret which was not created later than any
other one, and of those created at the same time it is the first; there is none if and only if no
secret is eligible.  The secrets that are not eligible make no difference, wherever they stand. -/
theorem accountToken?_first_oldest (secrets : List Secret) (account : String) :
    (∀ token, Handshake.accountToken? secrets account = some token ↔
      ∃ before s after, secrets = before ++ s :: after ∧
        Handshake.IsChosen account token before s after) ∧
    (Handshake.accountToken? secrets account = none ↔
      ∀ s ∈ secrets, ¬ Handshake.IsEligible account s) ∧
    ∀ secrets' : List Secret,
      secrets'.filter (fun s => decide (Handshake.IsEligible account s)) =
        secrets.filter (fun s => decide (Handshake.IsEligible account s)) →
      Handshake.accountToken? secrets' account = Handshake.accountToken? secrets account := by
  refine ⟨fun token => Handshake.accountToken?_eq_some_iff.trans Handshake.isFirstOldest_tokens_iff,
    Handshake.accountToken?_eq_none_iff, fun secrets' hsame => ?_⟩
  have htokens : Handshake.tokens secrets' account = Handshake.tokens secrets account := by
    rw [← Handshake.tokens_filter, hsame, Handshake.tokens_filter]
  unfold Handshake.accountToken?
  exact congrArg (fun l => (Handshake.oldest l).map Prod.snd) htokens

/-! #### An account with two secrets of the same time -/

namespace Handshake.Accounts

/-- A secret of an account, created at a time, with the bytes that are stored for its token. -/
def secret (account : String) (seconds : Int) (bytes : List UInt8) : Secret where
  data := some (Dict.empty.insert "token" bytes)
  metadata := {
    annotations := some (Dict.empty.insert accountAnnotation account)
    created := some ⟨seconds, 0⟩ }
  type := some tokenSecretType

/-- An older one without a token, and an older one of another account, stand among them. -/
def secrets : List Secret :=
  [secret "c-1" 3 [122], secret "c-2" 0 [121], secret "c-1" 2 [97], secret "c-1" 1 [],
    secret "c-1" 2 [98]]

/-- Without the ones that do not count. -/
def eligible : List Secret := [secret "c-1" 3 [122], secret "c-1" 2 [97], secret "c-1" 2 [98]]

theorem accountToken?_first_oldest_accounts :
    (∃ before s after, secrets = before ++ s :: after ∧ IsChosen "c-1" "a" before s after) ∧
      ∃ before s after, eligible = before ++ s :: after ∧ IsChosen "c-1" "a" before s after := by
  have hchosen : accountToken? secrets "c-1" = some "a" := by decide +kernel
  have hsame : eligible.filter (fun s => decide (IsEligible "c-1" s)) =
      secrets.filter (fun s => decide (IsEligible "c-1" s)) := by decide +kernel
  obtain ⟨hiff, -, heligible⟩ := accountToken?_first_oldest secrets "c-1"
  exact ⟨(hiff "a").1 hchosen, ((accountToken?_first_oldest eligible "c-1").1 "a").1
    ((heligible eligible hsame).trans hchosen)⟩

end Handshake.Accounts
end Fleet
