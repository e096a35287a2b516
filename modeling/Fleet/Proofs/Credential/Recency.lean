import Fleet.Proofs.Credential.Cache
import Mathlib.Data.List.Nodup

/-! # The entries by their last use

An entry is used when it is found and when its client is set.  A cache that holds the tokens of the
last uses, each with the client that was set last (`Cache.Mirrors`), goes on to do so: an entry that
is found or set comes first, and the one that a new entry pushes out was used longest ago.

Main statements: `Cache.Mirrors.found`, `Cache.Mirrors.insert`, and `Use.mem_recent_iff`, which
counts the other tokens that were used since. -/

namespace Fleet.Credential

/-- What makes the entry of a token the one used last. -/
inductive Use (α : Type) where
  /-- It is found. -/
  | hit (token : String)
  /-- Its client is set. -/
  | insert (token : String) (client : α)
  deriving DecidableEq

namespace Use

variable {α : Type} {u : Use α} {uses : List (Use α)} {size : Nat} {t : String}

/-- The token of the entry. -/
def token : Use α → String
  | hit token => token
  | insert token _ => token

/-- The client that is set. -/
def client? : Use α → Option α
  | hit _ => none
  | insert _ client => some client

/-- The tokens of some uses, each once.  The last use comes first, here as in the following. -/
def tokens (uses : List (Use α)) : List String := (uses.map token).eraseDups

/-- The client that was set last for a token. -/
def latest? (uses : List (Use α)) (t : String) : Option α :=
  uses.findSome? (fun u => if u.token = t then u.client? else none)

/-- The tokens used last, no more than `size` of them. -/
def recent (size : Nat) (uses : List (Use α)) : List String := (tokens uses).take size

/-! ### The client set last -/

theorem latest?_cons :
    latest? (u :: uses) t = (if u.token = t then u.client? else none).or (latest? uses t) := by
  unfold latest?
  rw [List.findSome?_cons]
  cases (if u.token = t then u.client? else none) <;> rfl

theorem latest?_hit (t' : String) : latest? (hit t' :: uses) t = latest? uses t := by
  rw [latest?_cons]
  split <;> rfl

theorem latest?_insert (a : α) : latest? (insert t a :: uses) t = some a := by
  rw [latest?_cons]
  exact congrArg (Option.or · _) (if_pos rfl)

theorem latest?_insert_of_ne {t' : String} (h : t' ≠ t) (a : α) :
    latest? (insert t' a :: uses) t = latest? uses t := by
  rw [latest?_cons]
  exact congrArg (Option.or · _) (if_neg h)

/-! ### The tokens used -/

theorem filter_eraseDups (p : String → Bool) (l : List String) :
    (l.filter p).eraseDups = l.eraseDups.filter p := by
  cases l with
  | nil => rfl
  | cons a l =>
      have ih := filter_eraseDups p (l.filter (fun b => !b == a))
      rw [List.eraseDups_cons, List.filter_cons, List.filter_cons]
      by_cases ha : p a = true
      · rw [if_pos ha, if_pos ha, List.eraseDups_cons, ← ih, List.filter_filter,
          List.filter_filter]
        simp only [Bool.and_comm]
      · rw [if_neg ha, if_neg ha, ← ih, List.filter_filter]
        congr 1
        refine List.filter_congr (fun b _ => ?_)
        by_cases hb : b = a <;> simp [hb, ha]
termination_by l.length
decreasing_by
  rw [List.length_cons]
  exact Nat.lt_succ_of_le (List.length_filter_le _ l)

theorem tokens_cons : tokens (u :: uses) = u.token :: (tokens uses).filter (· != u.token) := by
  unfold tokens
  rw [List.map_cons, List.eraseDups_cons, filter_eraseDups]
  rfl

theorem nodup_tokens : (tokens uses).Nodup := by
  induction uses with
  | nil => exact List.nodup_nil
  | cons u uses ih =>
      rw [tokens_cons, List.nodup_cons]
      exact ⟨fun h => by simpa using (List.mem_filter.1 h).2, ih.filter _⟩

theorem mem_tokens_iff : t ∈ tokens uses ↔ ∃ u ∈ uses, u.token = t := by
  unfold tokens
  rw [List.mem_eraseDups, List.mem_map]

/-! ### The tokens used last -/

theorem length_recent_le : (recent size uses).length ≤ size := List.length_take_le _ _

theorem recent_cons : recent (size + 1) (u :: uses) =
    u.token :: ((tokens uses).filter (· != u.token)).take size := by
  unfold recent
  rw [tokens_cons, List.take_succ_cons]

theorem filter_of_not_mem {l : List String} (h : t ∉ l) : l.filter (· != t) = l := by
  rw [List.filter_eq_self]
  intro x hx
  have hne : x ≠ t := fun heq => h (heq ▸ hx)
  simpa using hne

theorem take_append_of_le_or {l rest : List String} {n : Nat} (h : n ≤ l.length ∨ rest = []) :
    (l ++ rest).take n = l.take n := by
  rcases h with hle | rfl
  · exact List.take_append_of_le_length hle
  · rw [List.append_nil]

/-- Other tokens are left only if there is no room for them. -/
theorem length_recent_eq_or (size : Nat) (uses : List (Use α)) :
    (recent size uses).length = size ∨ (tokens uses).drop size = [] := by
  unfold recent
  rw [List.length_take, List.drop_eq_nil_iff]
  omega

theorem nodup_recent : (recent size uses).Nodup := (List.take_sublist _ _).nodup nodup_tokens

/-- The other tokens, of those used last and of those used before. -/
theorem filter_tokens (size : Nat) (t : String) : (tokens uses).filter (· != t) =
    (recent size uses).filter (· != t) ++ ((tokens uses).drop size).filter (· != t) := by
  rw [← List.filter_append]
  exact congrArg (List.filter _) (List.take_append_drop size (tokens uses)).symm

theorem length_filter_recent (h : t ∈ recent size uses) :
    ((recent size uses).filter (· != t)).length + 1 = (recent size uses).length := by
  rw [← nodup_recent.erase_eq_filter, List.length_erase_of_mem h]
  have := List.length_pos_of_mem h
  omega

/-- Another use of a token that is among the last ones. -/
theorem recent_cons_of_mem (h : u.token ∈ recent size uses) :
    recent size (u :: uses) = u.token :: (recent size uses).filter (· != u.token) := by
  have hlength := length_filter_recent h
  have hle : (recent size uses).length ≤ size := length_recent_le
  have hor := length_recent_eq_or size uses
  obtain ⟨n, rfl⟩ : ∃ n, size = n + 1 := ⟨size - 1, by omega⟩
  rw [recent_cons, filter_tokens (n + 1), take_append_of_le_or, List.take_of_length_le]
  · omega
  · refine hor.imp (fun hfull => by omega) (fun hnil => ?_)
    rw [hnil]
    rfl

/-- Another token takes a place among the last ones. -/
theorem recent_cons_of_not_mem (h : u.token ∉ recent (size + 1) uses) :
    recent (size + 1) (u :: uses) = u.token :: (recent (size + 1) uses).take size := by
  rw [recent_cons, filter_tokens (size + 1), filter_of_not_mem h, take_append_of_le_or]
  refine (length_recent_eq_or (size + 1) uses).imp (fun hfull => by omega) (fun hnil => ?_)
  rw [hnil]
  rfl

/-- While there is room it joins the others. -/
theorem recent_cons_of_room (h : u.token ∉ recent size uses)
    (hroom : (recent size uses).length < size) :
    recent size (u :: uses) = u.token :: recent size uses := by
  obtain ⟨n, rfl⟩ : ∃ n, size = n + 1 := ⟨size - 1, by omega⟩
  rw [recent_cons_of_not_mem h, List.take_of_length_le (by omega)]

/-- Then it takes the place of the one that was used longest ago. -/
theorem recent_cons_of_full (h : u.token ∉ recent size uses) (hsize : 0 < size)
    (hfull : (recent size uses).length = size) :
    recent size (u :: uses) = u.token :: (recent size uses).dropLast := by
  obtain ⟨n, rfl⟩ : ∃ n, size = n + 1 := ⟨size - 1, by omega⟩
  rw [recent_cons_of_not_mem h, List.dropLast_eq_take, hfull]
  rfl

theorem tokens_append {later : List (Use α)} (earlier : List (Use α))
    (h : ∀ x ∈ later, x.token ≠ u.token) :
    ∃ rest, tokens (later ++ u :: earlier) = tokens later ++ u.token :: rest := by
  unfold tokens
  have hmem : ((later.map token).elem u.token) = false := by
    rw [Bool.eq_false_iff]
    intro helem
    obtain ⟨x, hx, htoken⟩ := List.mem_map.1 (List.elem_iff.1 helem)
    exact h x hx htoken
  rw [List.map_append, List.eraseDups_append, List.map_cons, List.removeAll, List.filter_cons,
    hmem, if_pos (by decide), List.eraseDups_cons]
  exact ⟨_, rfl⟩

/-- A token is among the last ones if and only if it was used, and since its last use fewer than
`size` others were. -/
theorem mem_recent_iff : t ∈ recent size uses ↔ ∃ later u earlier, uses = later ++ u :: earlier ∧
    u.token = t ∧ (∀ x ∈ later, x.token ≠ t) ∧ (tokens later).length < size := by
  have hiff : ∀ {later : List (Use α)} {u : Use α} {earlier : List (Use α)},
      (∀ x ∈ later, x.token ≠ u.token) →
      (u.token ∈ recent size (later ++ u :: earlier) ↔ (tokens later).length < size) := by
    intro later u earlier h
    obtain ⟨rest, hrest⟩ := tokens_append earlier h
    have hnot : u.token ∉ (tokens later).take size := fun hmem => by
      obtain ⟨x, hx, htoken⟩ := mem_tokens_iff.1 (List.mem_of_mem_take hmem)
      exact h x hx htoken
    unfold recent
    rw [hrest, List.take_append, List.mem_append, or_iff_right hnot]
    rcases Nat.lt_or_ge (tokens later).length size with hlt | hge
    · obtain ⟨n, hn⟩ : ∃ n, size - (tokens later).length = n + 1 :=
        ⟨size - (tokens later).length - 1, by omega⟩
      rw [hn, List.take_succ_cons]
      simp [hlt]
    · rw [Nat.sub_eq_zero_of_le hge]
      simp [hge]
  constructor
  · intro hmem
    obtain ⟨u, hu, rfl⟩ := mem_tokens_iff.1 (List.mem_of_mem_take hmem)
    obtain ⟨later', earlier', huses, hlater⟩ :=
      List.eq_append_cons_of_mem (List.mem_map_of_mem (f := token) hu)
    obtain ⟨later, rest, rfl, rfl, hrest⟩ := List.map_eq_append_iff.1 huses
    obtain ⟨u', earlier, rfl, htoken, rfl⟩ := List.map_eq_cons_iff.1 hrest
    have hother : ∀ x ∈ later, x.token ≠ u'.token := fun x hx heq =>
      hlater (List.mem_map.2 ⟨x, hx, heq.trans htoken⟩)
    exact ⟨later, u', earlier, rfl, htoken, htoken ▸ hother, (hiff hother).1 (htoken ▸ hmem)⟩
  · rintro ⟨later, u, earlier, rfl, rfl, hother, hlt⟩
    exact (hiff hother).2 hlt

end Use

namespace Cache

variable {α : Type} {c : Cache α} {uses : List (Use α)} {token : String} {a : α}

/-- The cache holds the tokens used last, as many as it may hold, each with the client that was set
last for it. -/
structure Mirrors (c : Cache α) (uses : List (Use α)) : Prop where
  tokens : c.entries.map Prod.fst = Use.recent c.capacity uses
  clients : ∀ e ∈ c.entries, Use.latest? uses e.1 = some e.2

/-- The tokens that a cache no longer holds once it is another one. -/
def lost (c c' : Cache α) : List String :=
  (c.entries.map Prod.fst).filter (fun token => !c'.contains token)

theorem mirrors_ofCapacity (capacity : Nat) : (ofCapacity capacity : Cache α).Mirrors [] where
  tokens := by simp [ofCapacity, Use.recent, Use.tokens]
  clients := fun e he => by cases he

theorem Mirrors.isSound (h : c.Mirrors uses) (hroom : 0 < c.capacity) : c.IsSound where
  room := hroom
  bounded := by
    unfold size
    rw [← List.length_map Prod.fst, h.tokens]
    exact Use.length_recent_le
  tokens := h.tokens ▸ Use.nodup_recent

theorem Mirrors.contains_iff (h : c.Mirrors uses) :
    c.contains token = true ↔ token ∈ Use.recent c.capacity uses := by
  rw [Cache.contains_iff, h.tokens]

/-- What is found is the client set last. -/
theorem Mirrors.peek? (h : c.Mirrors uses) (ha : c.peek? token = some a) :
    Use.latest? uses token = some a :=
  h.clients _ (mem_of_peek? ha)

theorem map_fst_without (c : Cache α) (token : String) :
    (c.without token).map Prod.fst = (c.entries.map Prod.fst).filter (· != token) := by
  unfold without
  rw [List.filter_map]
  rfl

theorem insert_of_contains (h : c.contains token = true) (a : α) :
    c.insert token a = (false, { c with entries := (token, a) :: c.without token }) :=
  if_pos h

theorem insert_of_room (h : ¬ c.contains token = true) (hroom : c.size < c.capacity) (a : α) :
    c.insert token a = (false, { c with entries := (token, a) :: c.entries }) := by
  unfold Cache.insert
  rw [if_neg h, if_pos hroom]

theorem insert_of_full (h : ¬ c.contains token = true) (hfull : ¬ c.size < c.capacity) (a : α) :
    c.insert token a = (true, { c with entries := (token, a) :: c.entries.dropLast }) := by
  unfold Cache.insert
  rw [if_neg h, if_neg hfull]

/-! ### Steps -/

/-- What is found comes first. -/
theorem Mirrors.found (h : c.Mirrors uses) (ha : c.peek? token = some a) :
    ({ c with entries := (token, a) :: c.without token } : Cache α).Mirrors (.hit token :: uses) where
  tokens := by
    have hmem : token ∈ Use.recent c.capacity uses :=
      h.contains_iff.1 (Option.isSome_of_eq_some ha)
    rw [Use.recent_cons_of_mem (u := .hit token) hmem, List.map_cons, map_fst_without, h.tokens]
    rfl
  clients := fun e he => by
    rw [Use.latest?_hit]
    rcases mem_front he with rfl | he
    · exact h.peek? ha
    · exact h.clients e he

theorem Mirrors.insert (h : c.Mirrors uses) (hs : c.IsSound) (token : String) (a : α) :
    (c.insert token a).2.Mirrors (.insert token a :: uses) := by
  have hclients : ∀ e ∈ c.entries, e.1 ≠ token →
      Use.latest? (.insert token a :: uses) e.1 = some e.2 := fun e he hne =>
    (Use.latest?_insert_of_ne hne.symm a).trans (h.clients e he)
  have hfirst : Use.latest? (.insert token a :: uses) token = some a := Use.latest?_insert a
  by_cases htoken : c.contains token = true
  · have hmem := h.contains_iff.1 htoken
    rw [insert_of_contains htoken]
    refine ⟨?_, List.forall_mem_cons.2 ⟨hfirst, fun e he => ?_⟩⟩
    · rw [Use.recent_cons_of_mem (u := .insert token a) hmem, List.map_cons, map_fst_without,
        h.tokens]
      rfl
    · obtain ⟨he, hne⟩ := List.mem_filter.1 he
      exact hclients e he (by simpa using hne)
  have hnew : token ∉ Use.recent c.capacity uses := fun hmem => htoken (h.contains_iff.2 hmem)
  have hother : ∀ e ∈ c.entries, e.1 ≠ token := fun e he heq =>
    htoken (Cache.contains_iff.2 (List.mem_map.2 ⟨e, he, heq⟩))
  have hlength : (Use.recent c.capacity uses).length = c.size := by
    rw [← h.tokens, List.length_map]
    rfl
  by_cases hroom : c.size < c.capacity
  · rw [insert_of_room htoken hroom]
    refine ⟨?_, List.forall_mem_cons.2 ⟨hfirst, fun e he => hclients e he (hother e he)⟩⟩
    rw [Use.recent_cons_of_room (u := .insert token a) hnew (hlength ▸ hroom), List.map_cons,
      h.tokens]
    rfl
  · have hfull : (Use.recent c.capacity uses).length = c.capacity := by
      have := hs.bounded
      omega
    rw [insert_of_full htoken hroom]
    refine ⟨?_, List.forall_mem_cons.2 ⟨hfirst, fun e he => ?_⟩⟩
    · rw [Use.recent_cons_of_full (u := .insert token a) hnew hs.room hfull, List.map_cons,
        List.map_dropLast, h.tokens]
      rfl
    · have he := (List.dropLast_sublist _).subset he
      exact hclients e he (hother e he)

/-! ### What is lost -/

theorem lost_eq_nil {c' : Cache α}
    (h : ∀ token ∈ c.entries.map Prod.fst, token ∈ c'.entries.map Prod.fst) : c.lost c' = [] := by
  unfold lost
  rw [List.filter_eq_nil_iff]
  intro token htoken
  rw [Cache.contains_iff.2 (h token htoken)]
  decide

theorem mem_map_front {t : String} (h : t ∈ c.entries.map Prod.fst) :
    t ∈ ((token, a) :: c.without token).map Prod.fst := by
  rw [List.map_cons, map_fst_without, List.mem_cons, List.mem_filter]
  by_cases heq : t = token
  · exact Or.inl heq
  · exact Or.inr ⟨h, by simpa using heq⟩

theorem lost_lookup (c : Cache α) (token : String) : c.lost (c.lookup token).2 = [] := by
  refine lost_eq_nil (fun t ht => ?_)
  unfold lookup
  cases c.peek? token with
  | none => exact ht
  | some a => exact mem_map_front ht

/-- A full cache has a last entry. -/
theorem IsSound.exists_last (hs : c.IsSound) (hfull : ¬ c.size < c.capacity) :
    ∃ kept last, c.entries = kept ++ [last] := by
  rcases List.eq_nil_or_concat c.entries with hnil | ⟨kept, last, hentries⟩
  · have hsize : c.size = 0 := by
      unfold size
      rw [hnil]
      rfl
    have := hs.room
    omega
  · exact ⟨kept, last, hentries.trans (List.concat_eq_append)⟩

/-- A new entry pushes out the last one, if there is no room for it; nothing else is lost. -/
theorem length_lost_insert (hs : c.IsSound) (token : String) (a : α) :
    (c.lost (c.insert token a).2).length = (c.insert token a).1.toNat := by
  by_cases htoken : c.contains token = true
  · rw [insert_of_contains htoken, lost_eq_nil (fun t ht => mem_map_front ht)]
    rfl
  by_cases hroom : c.size < c.capacity
  · rw [insert_of_room htoken hroom,
      lost_eq_nil (fun t ht => by rw [List.map_cons]; exact List.mem_cons_of_mem _ ht)]
    rfl
  obtain ⟨kept, last, hentries⟩ := hs.exists_last hroom
  rw [insert_of_full htoken hroom]
  unfold lost
  have hnodup := hs.tokens
  rw [Cache.contains_iff] at htoken
  rw [hentries, List.map_append, List.map_cons, List.map_nil] at htoken hnodup ⊢
  rw [List.dropLast_concat, List.filter_append]
  have hkept : (kept.map Prod.fst).filter (fun t =>
      !({ c with entries := (token, a) :: kept } : Cache α).contains t) = [] := by
    rw [List.filter_eq_nil_iff]
    intro t ht
    rw [Cache.contains_iff.2 (List.mem_cons_of_mem _ ht)]
    decide
  have hlast : ¬ ({ c with entries := (token, a) :: kept } : Cache α).contains last.1 = true := by
    rw [Cache.contains_iff, List.map_cons, List.mem_cons]
    rintro (heq | hmem)
    · exact htoken (heq ▸ List.mem_append_right _ List.mem_cons_self)
    · exact (List.nodup_append.1 hnodup).2.2 _ hmem _ List.mem_cons_self rfl
  rw [hkept, List.nil_append, List.filter_cons_of_pos (by simpa using hlast)]
  rfl

end Cache
end Fleet.Credential
