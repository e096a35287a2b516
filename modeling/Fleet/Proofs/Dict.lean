import Fleet.Dict

/-! # What dictionaries find

One lemma for each operation on dictionaries that says what `Dict.get?` finds afterwards. -/

namespace Fleet.Dict

variable {α β : Type}

/-! ### Entries -/

theorem lookupIn_eq_some_iff {key : String} {a : α} {l : List (String × α)}
    (h : l.Pairwise (fun x y => x.1 < y.1)) : lookupIn key l = some a ↔ (key, a) ∈ l := by
  induction l with
  | nil => simp [lookupIn]
  | cons hd tl ih =>
      obtain ⟨k, v⟩ := hd
      have hk : ∀ e ∈ tl, k < e.1 := fun _ he => List.rel_of_pairwise_cons h he
      rw [lookupIn]
      by_cases hkey : k = key
      · subst hkey
        have hnot : (k, a) ∉ tl := fun he => String.lt_irrefl _ (hk _ he)
        simp [hnot, eq_comm]
      · rw [if_neg hkey, ih h.of_cons]
        simp [Ne.symm hkey]

theorem get?_eq_some_iff {d : Dict α} {key : String} {a : α} :
    d.get? key = some a ↔ (key, a) ∈ d.entries := lookupIn_eq_some_iff d.sorted

theorem exists_get?_of_mem_values {d : Dict α} {a : α} (h : a ∈ d.values) :
    ∃ key, d.get? key = some a := by
  obtain ⟨e, he, rfl⟩ := List.mem_map.1 h
  exact ⟨e.1, get?_eq_some_iff.2 he⟩

/-- A value that is found by a property comes before all others that have it. -/
theorem first_of_find?_values {d : Dict α} {p : α → Bool} {a : α}
    (h : d.values.find? p = some a) :
    ∃ key, d.get? key = some a ∧ ∀ key' b, d.get? key' = some b → p b = true → key ≤ key' := by
  unfold values at h
  rw [List.find?_map] at h
  obtain ⟨e, he, rfl⟩ := Option.map_eq_some_iff.1 h
  obtain ⟨-, before, after, hentries, hbefore⟩ := List.find?_eq_some_iff_append.1 he
  have hsorted := d.sorted
  rw [hentries] at hsorted
  refine ⟨e.1, get?_eq_some_iff.2 (List.mem_of_find?_eq_some he), ?_⟩
  intro key b hget hp
  have hmem := get?_eq_some_iff.1 hget
  rw [hentries, List.mem_append, List.mem_cons] at hmem
  rcases hmem with hmem | rfl | hmem
  · have hnot := hbefore _ hmem
    simp [hp] at hnot
  · exact String.le_refl _
  · have hlater := (List.pairwise_append.1 hsorted).2.1
    exact Std.le_of_lt (List.rel_of_pairwise_cons hlater hmem)

/-- The first key is the least one. -/
theorem lt_of_keys_eq_cons {d : Dict α} {key : String} {rest : List String}
    (h : d.keys = key :: rest) {other : String} (hother : other ∈ d.keys) (hne : other ≠ key) :
    key < other := by
  have hsorted : d.keys.Pairwise (· < ·) := List.pairwise_map.2 d.sorted
  rw [h] at hsorted hother
  exact List.rel_of_pairwise_cons hsorted ((List.mem_cons.1 hother).resolve_left hne)

theorem nodup_keys (d : Dict α) : d.keys.Nodup := by
  refine List.pairwise_map.2 (d.sorted.imp ?_)
  intro a b h hab
  exact String.lt_irrefl _ (hab ▸ h)

/-- If every value knows its key, the values are as distinct as the keys. -/
theorem nodup_map_values {d : Dict α} {name : α → String}
    (h : ∀ key a, d.get? key = some a → name a = key) : (d.values.map name).Nodup := by
  have hkeys : d.values.map name = d.keys := by
    unfold values keys
    rw [List.map_map]
    apply List.map_congr_left
    intro e he
    exact h e.1 e.2 (get?_eq_some_iff.2 he)
  rw [hkeys]
  exact d.nodup_keys

theorem countP_key_le_one (d : Dict α) (key : String) :
    d.entries.countP (fun e => e.1 == key) ≤ 1 := by
  have hcount := List.nodup_iff_count.1 d.nodup_keys key
  rw [keys, List.count, List.countP_map] at hcount
  exact hcount

theorem contains_eq_false_iff {d : Dict α} {key : String} :
    d.contains key = false ↔ d.get? key = none := by
  unfold contains
  cases d.get? key <;> simp

theorem isEmpty_iff {d : Dict α} : d.isEmpty = true ↔ ∀ key, d.get? key = none := by
  obtain ⟨l, hl⟩ := d
  cases l with
  | nil => simp [isEmpty, get?, lookupIn]
  | cons hd tl =>
      have : ¬ ∀ key, lookupIn key (hd :: tl) = none := by
        intro hall
        have := hall hd.1
        simp [lookupIn] at this
      simpa [isEmpty, get?] using this

theorem isEmpty_iff_eq_empty {d : Dict α} : d.isEmpty = true ↔ d = .empty := by
  constructor
  · intro h
    exact ext_get? (fun key => (isEmpty_iff.1 h key).trans (get?_empty key).symm)
  · rintro rfl
    rfl

/-! ### Operations -/

/-- What is stored already may be stored again. -/
theorem insert_of_get? {d : Dict α} {key : String} {a : α} (h : d.get? key = some a) :
    d.insert key a = d := by
  apply ext_get?
  intro k
  rw [get?_insert]
  split
  · next heq => rw [← heq, h]
  · rfl

/-- There is nothing to remove. -/
theorem erase_of_get?_none {d : Dict α} {key : String} (h : d.get? key = none) :
    d.erase key = d := by
  apply ext_get?
  intro k
  rw [get?_erase]
  split
  · next heq => rw [← heq, h]
  · rfl

theorem lookupIn_map (f : α → β) (l : List (String × α)) (key : String) :
    lookupIn key (l.map (fun e => (e.1, f e.2))) = (lookupIn key l).map f := by
  induction l with
  | nil => rfl
  | cons hd tl ih =>
      rw [List.map_cons, lookupIn, lookupIn, ih]
      split <;> rfl

theorem get?_map (f : α → β) (d : Dict α) (key : String) :
    (d.map f).get? key = (d.get? key).map f := lookupIn_map f d.entries key

theorem map_insert (f : α → β) (d : Dict α) (key : String) (a : α) :
    (d.insert key a).map f = (d.map f).insert key (f a) := by
  apply ext_get?
  intro k
  rw [get?_map, get?_insert, get?_insert, get?_map]
  split <;> rfl

theorem map_erase (f : α → β) (d : Dict α) (key : String) :
    (d.erase key).map f = (d.map f).erase key := by
  apply ext_get?
  intro k
  rw [get?_map, get?_erase, get?_erase, get?_map]
  split <;> rfl

theorem values_map (f : α → β) (d : Dict α) : (d.map f).values = d.values.map f := by
  unfold values map
  rw [List.map_map, List.map_map]
  rfl

theorem get?_filterMap (f : α → Option β) (d : Dict α) (key : String) :
    (d.filterMap f).get? key = (d.get? key).bind f := by
  apply Option.ext
  intro b
  rw [get?_eq_some_iff, Option.bind_eq_some_iff]
  simp only [filterMap, List.mem_filterMap, Option.map_eq_some_iff, get?_eq_some_iff]
  constructor
  · rintro ⟨⟨k, a⟩, he, b', hb, heq⟩
    obtain ⟨rfl, rfl⟩ := Prod.mk.inj heq
    exact ⟨a, he, hb⟩
  · rintro ⟨a, he, hb⟩
    exact ⟨(key, a), he, b, hb, rfl⟩

theorem get?_foldl_insert (l : List (String × α)) (d : Dict α) (key : String) :
    (l.foldl (fun d e => d.insert e.1 e.2) d).get? key =
      ((ofList l).get? key).or (d.get? key) := by
  unfold ofList
  induction l generalizing d with
  | nil => rfl
  | cons hd tl ih =>
      obtain ⟨k, v⟩ := hd
      rw [List.foldl_cons, List.foldl_cons, ih (d.insert k v), ih (empty.insert k v), Option.or_assoc,
        get?_insert, get?_insert]
      by_cases hkey : k = key
      · simp [hkey]
      · simp [hkey]

/-- Of a key named twice the last value stays. -/
theorem get?_ofList_cons (k : String) (v : α) (l : List (String × α)) (key : String) :
    (ofList ((k, v) :: l)).get? key =
      ((ofList l).get? key).or (if k = key then some v else none) := by
  have h := get?_foldl_insert l (empty.insert k v) key
  rw [get?_insert] at h
  exact h

theorem lookupIn_eq_none_iff {key : String} {l : List (String × α)} :
    lookupIn key l = none ↔ key ∉ l.map Prod.fst := by
  induction l with
  | nil => simp [lookupIn]
  | cons hd tl ih =>
      obtain ⟨k, v⟩ := hd
      by_cases hkey : k = key
      · simp [lookupIn, hkey]
      · simp only [lookupIn, if_neg hkey, ih, List.map_cons, List.mem_cons, not_or]
        exact ⟨fun h => ⟨Ne.symm hkey, h⟩, And.right⟩

theorem get?_ofList {l : List (String × α)} (h : (l.map Prod.fst).Nodup) (key : String) :
    (ofList l).get? key = lookupIn key l := by
  induction l with
  | nil => rfl
  | cons hd tl ih =>
      obtain ⟨k, v⟩ := hd
      rw [List.map_cons, List.nodup_cons] at h
      rw [get?_ofList_cons, ih h.2, lookupIn]
      by_cases hkey : k = key
      · subst hkey
        rw [if_pos rfl, if_pos rfl, lookupIn_eq_none_iff.2 h.1]
        rfl
      · rw [if_neg hkey, if_neg hkey, Option.or_none]

theorem map_ofList (f : α → β) (l : List (String × α)) :
    (ofList l).map f = ofList (l.map (fun e => (e.1, f e.2))) := by
  apply ext_get?
  intro key
  rw [get?_map]
  induction l with
  | nil => rfl
  | cons e l ih =>
      rw [List.map_cons, get?_ofList_cons, get?_ofList_cons, ← ih]
      cases (ofList l).get? key with
      | some b => rfl
      | none => by_cases hkey : e.1 = key <;> simp [hkey]

theorem isEmpty_ofList {l : List (String × α)} : (ofList l).isEmpty = l.isEmpty := by
  cases l with
  | nil => rfl
  | cons e l =>
      rw [List.isEmpty_cons, ← Bool.not_eq_true, isEmpty_iff]
      intro h
      have := h e.1
      rw [get?_ofList_cons, if_pos rfl] at this
      cases hrest : (ofList l).get? e.1 <;> simp [hrest] at this

theorem get?_ofList_eq_none {l : List (String × α)} {key : String}
    (h : ∀ e ∈ l, e.1 ≠ key) : (ofList l).get? key = none := by
  induction l with
  | nil => rfl
  | cons e l ih =>
      rw [get?_ofList_cons, ih (fun e he => h e (List.mem_cons_of_mem _ he)),
        if_neg (h e List.mem_cons_self)]
      rfl

/-- The keys of a dictionary were given for it, and all of them are there. -/
theorem mem_keys_ofList {l : List (String × α)} {key : String} :
    key ∈ (ofList l).keys ↔ key ∈ l.map Prod.fst := by
  rw [← Decidable.not_iff_not]
  refine lookupIn_eq_none_iff.symm.trans ?_
  change (ofList l).get? key = none ↔ _
  induction l with
  | nil => exact iff_of_true rfl List.not_mem_nil
  | cons e l ih =>
      rw [get?_ofList_cons, Option.or_eq_none_iff, ih, List.map_cons, List.mem_cons, not_or, and_comm]
      simp [eq_comm]

theorem get?_ofList_filter {keep : String × α → Bool} {l : List (String × α)} {key : String}
    (h : ∀ e ∈ l, e.1 = key → keep e = true) :
    (ofList (l.filter keep)).get? key = (ofList l).get? key := by
  induction l with
  | nil => rfl
  | cons e l ih =>
      have ih := ih (fun e he => h e (List.mem_cons_of_mem _ he))
      by_cases hkeep : keep e = true
      · rw [List.filter_cons_of_pos hkeep, get?_ofList_cons, get?_ofList_cons, ih]
      · have hne : e.1 ≠ key := fun heq => hkeep (h e List.mem_cons_self heq)
        rw [List.filter_cons_of_neg hkeep, get?_ofList_cons, ih, if_neg hne, Option.or_none]

/-- What is laid over wins. -/
theorem get?_overlay (d e : Dict α) (key : String) :
    (d.overlay e).get? key = (e.get? key).or (d.get? key) := by
  unfold overlay
  rw [get?_foldl_insert, get?_ofList e.nodup_keys]
  rfl

/-- What is laid over itself stays. -/
theorem overlay_self (d : Dict α) : d.overlay d = d := by
  apply ext_get?
  intro key
  rw [get?_overlay, Option.or_self]

/-- What is laid over may be laid over again. -/
theorem overlay_again (d e : Dict α) : (d.overlay e).overlay e = d.overlay e := by
  apply ext_get?
  intro key
  rw [get?_overlay, get?_overlay, ← Option.or_assoc, Option.or_self]

theorem map_overlay (f : α → β) (d e : Dict α) :
    (d.overlay e).map f = (d.map f).overlay (e.map f) := by
  apply ext_get?
  intro key
  rw [get?_map, get?_overlay, get?_overlay, get?_map, get?_map, Option.map_or]

theorem ofList_entries (d : Dict α) : ofList d.entries = d := by
  apply ext_get?
  intro key
  rw [get?_ofList d.nodup_keys]
  rfl

/-- The entries of a dictionary were given for it. -/
theorem mem_of_mem_ofList {l : List (String × α)} {e : String × α}
    (h : e ∈ (ofList l).entries) : e ∈ l := by
  induction l with
  | nil => cases h
  | cons hd tl ih =>
      have hget : (ofList (hd :: tl)).get? e.1 = some e.2 := get?_eq_some_iff.2 h
      rw [get?_ofList_cons] at hget
      rcases Option.or_eq_some_iff.1 hget with htl | ⟨-, hhd⟩
      · exact List.mem_cons_of_mem _ (ih (get?_eq_some_iff.1 htl))
      · by_cases hkey : hd.1 = e.1
        · rw [if_pos hkey] at hhd
          exact List.mem_cons.2 (Or.inl (Prod.ext hkey.symm (Option.some.inj hhd).symm))
        · rw [if_neg hkey] at hhd
          cases hhd

theorem nodup_keys_filterMap {γ : Type _} {key : γ → String} {f : γ → Option α} {l : List γ}
    (h : (l.map key).Nodup) :
    ((l.filterMap (fun c => (f c).map (fun a => (key c, a)))).map Prod.fst).Nodup := by
  refine List.Nodup.sublist ?_ h
  clear h
  induction l with
  | nil => exact List.Sublist.slnil
  | cons c l ih =>
      rw [List.filterMap_cons, List.map_cons]
      cases f c with
      | none => exact ih.cons _
      | some a => exact ih.cons_cons _

theorem lookupIn_filterMap {γ : Type _} {key : γ → String} {f : γ → Option α} {l : List γ}
    (h : (l.map key).Nodup) {c : γ} (hc : c ∈ l) :
    lookupIn (key c) (l.filterMap (fun c => (f c).map (fun a => (key c, a)))) = f c := by
  induction l with
  | nil => cases hc
  | cons hd tl ih =>
      have hdistinct := h
      rw [List.map_cons, List.nodup_cons] at hdistinct
      rw [List.filterMap_cons]
      rcases List.mem_cons.1 hc with rfl | hc
      · cases hf : f c with
        | some a => simp [lookupIn]
        | none =>
            refine lookupIn_eq_none_iff.2 (fun hmem => hdistinct.1 ?_)
            obtain ⟨m, hm, hkey⟩ := List.mem_map.1 hmem
            obtain ⟨c', hc', hm⟩ := List.mem_filterMap.1 hm
            obtain ⟨a, -, rfl⟩ := Option.map_eq_some_iff.1 hm
            exact hkey ▸ List.mem_map_of_mem hc'
      · have hne : key hd ≠ key c := fun heq => hdistinct.1 (heq ▸ List.mem_map_of_mem hc)
        cases f hd with
        | none => exact ih hdistinct.2 hc
        | some a =>
            rw [Option.map_some, lookupIn, if_neg hne]
            exact ih hdistinct.2 hc

end Fleet.Dict
