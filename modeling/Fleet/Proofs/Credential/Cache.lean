import Fleet.Credential.Cache

/-! # What a cache holds

A cache never holds more than it may, nor two entries for one token (`Cache.IsSound`), and what it
holds for a token was put into it for that token (`Cache.mem_lookup`, `Cache.mem_insert`). -/

namespace Fleet.Credential.Cache

variable {α : Type} {c : Cache α} {token : String} {a : α} {e : String × α}

/-- A cache holds no more than it may, and one entry for a token at most. -/
structure IsSound (c : Cache α) : Prop where
  room : 0 < c.capacity
  bounded : c.size ≤ c.capacity
  tokens : (c.entries.map Prod.fst).Nodup

/-! ### Entries -/

theorem contains_iff : c.contains token = true ↔ token ∈ c.entries.map Prod.fst := by
  unfold contains peek?
  rw [Option.isSome_map, List.find?_isSome]
  simp

theorem mem_of_peek? (h : c.peek? token = some a) : (token, a) ∈ c.entries := by
  obtain ⟨⟨name, a'⟩, hfind, rfl⟩ := Option.map_eq_some_iff.1 h
  have hname : name = token := by simpa using List.find?_some hfind
  exact hname ▸ List.mem_of_find?_eq_some hfind

/-- Moving the entry of a token to the front gains nothing. -/
theorem mem_front (h : e ∈ (token, a) :: c.without token) : e = (token, a) ∨ e ∈ c.entries :=
  (List.mem_cons.1 h).imp_right (fun h => (List.mem_filter.1 h).1)

theorem token_not_mem_without : token ∉ (c.without token).map Prod.fst := by
  intro h
  obtain ⟨e, he, htoken⟩ := List.mem_map.1 h
  simpa [htoken] using (List.mem_filter.1 he).2

theorem length_without (h : c.contains token = true) : (c.without token).length < c.size := by
  obtain ⟨e, he, htoken⟩ := List.mem_map.1 (contains_iff.1 h)
  exact List.length_filter_lt_length_iff_exists.2 ⟨e, he, by simp [htoken]⟩

/-! ### Operations -/

theorem isSound_ofCapacity (capacity : Nat) : (ofCapacity capacity : Cache α).IsSound where
  room := by
    unfold ofCapacity
    dsimp only
    split
    · decide
    · omega
  bounded := Nat.zero_le _
  tokens := List.nodup_nil

/-- The entry of a token that has one moves to the front. -/
theorem IsSound.front (h : c.IsSound) (htoken : c.contains token = true) :
    ({ c with entries := (token, a) :: c.without token } : Cache α).IsSound where
  room := h.room
  bounded := Nat.le_trans (length_without htoken) h.bounded
  tokens := List.nodup_cons.2
    ⟨token_not_mem_without, (List.filter_sublist.map Prod.fst).nodup h.tokens⟩

theorem lookup_of_contains (h : c.contains token = true) : ∃ a, c.peek? token = some a ∧
    c.lookup token = (some a, { c with entries := (token, a) :: c.without token }) := by
  obtain ⟨a, ha⟩ := Option.isSome_iff_exists.1 h
  refine ⟨a, ha, ?_⟩
  unfold lookup
  rw [ha]

theorem lookup_of_not_contains (h : ¬ c.contains token = true) : c.lookup token = (none, c) := by
  have hnone : c.peek? token = none := by simpa [contains] using h
  unfold lookup
  rw [hnone]

theorem IsSound.lookup (h : c.IsSound) (token : String) : (c.lookup token).2.IsSound := by
  by_cases htoken : c.contains token = true
  · obtain ⟨a, -, hlookup⟩ := lookup_of_contains htoken
    rw [hlookup]
    exact h.front htoken
  · rw [lookup_of_not_contains htoken]
    exact h

theorem IsSound.insert (h : c.IsSound) (token : String) (a : α) : (c.insert token a).2.IsSound := by
  unfold Cache.insert
  by_cases htoken : c.contains token = true
  · rw [if_pos htoken]
    exact h.front htoken
  rw [if_neg htoken]
  rw [contains_iff] at htoken
  by_cases hroom : c.size < c.capacity
  · rw [if_pos hroom]
    exact ⟨h.room, hroom, List.nodup_cons.2 ⟨htoken, h.tokens⟩⟩
  · rw [if_neg hroom]
    have hsublist : c.entries.dropLast.Sublist c.entries := List.dropLast_sublist _
    refine ⟨h.room, ?_, List.nodup_cons.2 ⟨?_, (hsublist.map Prod.fst).nodup h.tokens⟩⟩
    · have hbounded := h.bounded
      have hpositive := h.room
      unfold size at hroom hbounded ⊢
      dsimp only
      rw [List.length_cons, List.length_dropLast]
      omega
    · exact fun hmem => htoken ((hsublist.map Prod.fst).subset hmem)

@[simp] theorem capacity_lookup (c : Cache α) (token : String) :
    (c.lookup token).2.capacity = c.capacity := by
  unfold lookup
  cases c.peek? token <;> rfl

@[simp] theorem capacity_insert (c : Cache α) (token : String) (a : α) :
    (c.insert token a).2.capacity = c.capacity := by
  unfold Cache.insert
  split
  · rfl
  · split <;> rfl

/-- A look-up gains no entry. -/
theorem mem_lookup (h : e ∈ (c.lookup token).2.entries) : e ∈ c.entries := by
  by_cases htoken : c.contains token = true
  · obtain ⟨a, ha, hlookup⟩ := lookup_of_contains htoken
    rw [hlookup] at h
    rcases mem_front h with rfl | h
    · exact mem_of_peek? ha
    · exact h
  · rw [lookup_of_not_contains htoken] at h
    exact h

/-- What a look-up finds is an entry of that token. -/
theorem mem_of_lookup (h : (c.lookup token).1 = some a) : (token, a) ∈ c.entries := by
  by_cases htoken : c.contains token = true
  · obtain ⟨a', ha, hlookup⟩ := lookup_of_contains htoken
    rw [hlookup] at h
    cases h
    exact mem_of_peek? ha
  · rw [lookup_of_not_contains htoken] at h
    cases h

/-- An insertion gains its own entry only. -/
theorem mem_insert (h : e ∈ (c.insert token a).2.entries) : e = (token, a) ∨ e ∈ c.entries := by
  unfold Cache.insert at h
  split at h
  · exact mem_front h
  · split at h
    · exact List.mem_cons.1 h
    · exact (List.mem_cons.1 h).imp_right (fun h => (List.dropLast_sublist _).subset h)

end Fleet.Credential.Cache
