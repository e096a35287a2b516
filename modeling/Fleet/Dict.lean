/-! # Maps from names

A `Dict` holds its entries in the order of their keys, each key once.  Two dictionaries with the
same entries are therefore equal, and reading one from first to last visits the keys in the order
of their bytes (the order of UTF-8 bytes is the order of code points).

Main statements: what `get?` finds after `insert` and `erase`, and `Dict.ext_get?`: a dictionary
is determined by what it finds. -/

namespace Fleet

/-- A finite map from names, its entries in the order of their keys. -/
structure Dict (α : Type) where
  /-- The entries, smallest key first. -/
  entries : List (String × α)
  /-- Keys increase strictly. -/
  sorted : entries.Pairwise (fun a b => a.1 < b.1)
  deriving DecidableEq

namespace Dict

variable {α β : Type}

/-! ### Entry lists -/

/-- The value entered under `key`. -/
def lookupIn (key : String) : List (String × α) → Option α
  | [] => none
  | (k, v) :: rest => if k = key then some v else lookupIn key rest

/-- The entries with `key` set to `value`, at its place in the order. -/
def insertIn (key : String) (value : α) : List (String × α) → List (String × α)
  | [] => [(key, value)]
  | (k, v) :: rest =>
    if key < k then (key, value) :: (k, v) :: rest
    else if key = k then (key, value) :: rest
    else (k, v) :: insertIn key value rest

theorem mem_insertIn {key : String} {value : α} {e : String × α} {l : List (String × α)}
    (h : e ∈ insertIn key value l) : e = (key, value) ∨ e ∈ l := by
  induction l with
  | nil => simpa [insertIn] using h
  | cons hd tl ih =>
    obtain ⟨k, v⟩ := hd
    rw [insertIn] at h
    split at h
    · simpa using h
    · split at h
      · rcases List.mem_cons.1 h with h | h
        · exact Or.inl h
        · exact Or.inr (List.mem_cons_of_mem _ h)
      · rcases List.mem_cons.1 h with h | h
        · exact Or.inr (h ▸ List.mem_cons_self)
        · exact (ih h).imp_right (List.mem_cons_of_mem _)

theorem sorted_insertIn {key : String} {value : α} {l : List (String × α)}
    (h : l.Pairwise (fun a b => a.1 < b.1)) :
    (insertIn key value l).Pairwise (fun a b => a.1 < b.1) := by
  induction l with
  | nil => simp [insertIn]
  | cons hd tl ih =>
    obtain ⟨k, v⟩ := hd
    have hk : ∀ e ∈ tl, k < e.1 := fun _ he => List.rel_of_pairwise_cons h he
    rw [insertIn]
    split
    · next hlt =>
      refine List.Pairwise.cons (fun e he => ?_) h
      rcases List.mem_cons.1 he with rfl | he
      · exact hlt
      · exact String.lt_trans hlt (hk e he)
    · split
      · next heq => exact List.Pairwise.cons (fun e he => heq ▸ hk e he) h.of_cons
      · next hge hne =>
        refine List.Pairwise.cons (fun e he => ?_) (ih h.of_cons)
        rcases mem_insertIn he with rfl | he
        · exact Std.lt_of_le_of_ne (String.not_lt.1 hge) (Ne.symm hne)
        · exact hk e he

theorem lookupIn_insertIn (key : String) (value : α) (k : String) (l : List (String × α)) :
    lookupIn k (insertIn key value l) = if key = k then some value else lookupIn k l := by
  induction l with
  | nil => simp [insertIn, lookupIn]
  | cons hd tl ih =>
    obtain ⟨j, v⟩ := hd
    rw [insertIn]
    split
    · simp [lookupIn]
    · split
      · next heq => subst heq; by_cases h : key = k <;> simp [lookupIn, h]
      · next hne =>
        by_cases h : j = k
        · subst h; simp [lookupIn, hne]
        · simp [lookupIn, h, ih]

theorem lookupIn_eq_none_of_lt {key : String} {l : List (String × α)}
    (h : ∀ e ∈ l, key < e.1) : lookupIn key l = none := by
  induction l with
  | nil => rfl
  | cons hd tl ih =>
    obtain ⟨k, v⟩ := hd
    have hk : key < k := h (k, v) List.mem_cons_self
    have hne : ¬ k = key := fun e => String.lt_irrefl key (e ▸ hk)
    simp [lookupIn, hne, ih (fun e he => h e (List.mem_cons_of_mem _ he))]

theorem eq_of_lookupIn_eq {l m : List (String × α)} (hl : l.Pairwise (fun a b => a.1 < b.1))
    (hm : m.Pairwise (fun a b => a.1 < b.1)) (h : ∀ k, lookupIn k l = lookupIn k m) : l = m := by
  induction l generalizing m with
  | nil =>
    cases m with
    | nil => rfl
    | cons hd tl =>
      have := h hd.1
      simp [lookupIn] at this
  | cons hd tl ih =>
    obtain ⟨k, v⟩ := hd
    cases m with
    | nil =>
      have := h k
      simp [lookupIn] at this
    | cons hd' tl' =>
      obtain ⟨k', v'⟩ := hd'
      have hlt := fun e (he : e ∈ tl) => List.rel_of_pairwise_cons hl he
      have hlt' := fun e (he : e ∈ tl') => List.rel_of_pairwise_cons hm he
      have hkk : k = k' := by
        rcases Std.lt_trichotomy k k' with hk | hk | hk
        · have := h k
          rw [lookupIn_eq_none_of_lt (l := (k', v') :: tl') (fun e he => by
            rcases List.mem_cons.1 he with rfl | he
            · exact hk
            · exact String.lt_trans hk (hlt' e he))] at this
          simp [lookupIn] at this
        · exact hk
        · have := h k'
          rw [lookupIn_eq_none_of_lt (l := (k, v) :: tl) (fun e he => by
            rcases List.mem_cons.1 he with rfl | he
            · exact hk
            · exact String.lt_trans hk (hlt e he))] at this
          simp [lookupIn] at this
      subst hkk
      have hv : v = v' := by
        have := h k
        simpa [lookupIn] using this
      subst hv
      rw [ih hl.of_cons hm.of_cons]
      intro j
      by_cases hj : k = j
      · subst hj
        rw [lookupIn_eq_none_of_lt hlt, lookupIn_eq_none_of_lt hlt']
      · have := h j
        simpa [lookupIn, hj] using this

/-! ### Dictionaries -/

/-- The dictionary without entries. -/
def empty : Dict α := ⟨[], List.Pairwise.nil⟩

instance : Inhabited (Dict α) := ⟨empty⟩
instance : EmptyCollection (Dict α) := ⟨empty⟩

/-- The value under `key`. -/
def get? (d : Dict α) (key : String) : Option α := lookupIn key d.entries

/-- Whether `key` has a value. -/
def contains (d : Dict α) (key : String) : Bool := (d.get? key).isSome

/-- Sets `key` to `value`, in place of an earlier value. -/
def insert (d : Dict α) (key : String) (value : α) : Dict α :=
  ⟨insertIn key value d.entries, sorted_insertIn d.sorted⟩

/-- Removes `key`. -/
def erase (d : Dict α) (key : String) : Dict α :=
  ⟨d.entries.filter (fun e => !decide (e.1 = key)), d.sorted.filter _⟩

/-- The dictionary of a list of pairs; of a key named twice the last value stays. -/
def ofList (l : List (String × α)) : Dict α := l.foldl (fun d e => d.insert e.1 e.2) empty

/-- `d` with the entries of `e` set over it. -/
def overlay (d e : Dict α) : Dict α := e.entries.foldl (fun d e => d.insert e.1 e.2) d

/-- Applies `f` to every value. -/
def map (f : α → β) (d : Dict α) : Dict β :=
  ⟨d.entries.map (fun e => (e.1, f e.2)), List.pairwise_map.2 d.sorted⟩

/-- The entries whose value `f` maps to something. -/
def filterMap (f : α → Option β) (d : Dict α) : Dict β :=
  ⟨d.entries.filterMap (fun e => (f e.2).map (fun v => (e.1, v))), by
    refine List.pairwise_filterMap.2 (d.sorted.imp (fun {a b} hab c hc e he => ?_))
    obtain ⟨v, -, rfl⟩ := Option.map_eq_some_iff.1 hc
    obtain ⟨w, -, rfl⟩ := Option.map_eq_some_iff.1 he
    exact hab⟩

/-- The keys, in order. -/
def keys (d : Dict α) : List String := d.entries.map Prod.fst

/-- The values, in the order of their keys. -/
def values (d : Dict α) : List α := d.entries.map Prod.snd

/-- Whether there are no entries. -/
def isEmpty (d : Dict α) : Bool := d.entries.isEmpty

@[simp] theorem get?_empty (k : String) : (empty : Dict α).get? k = none := rfl

@[simp] theorem get?_insert (d : Dict α) (key : String) (value : α) (k : String) :
    (d.insert key value).get? k = if key = k then some value else d.get? k :=
  lookupIn_insertIn key value k d.entries

@[simp] theorem get?_erase (d : Dict α) (key k : String) :
    (d.erase key).get? k = if key = k then none else d.get? k := by
  obtain ⟨l, hl⟩ := d
  simp only [erase, get?]
  clear hl
  induction l with
  | nil => simp [lookupIn]
  | cons hd tl ih =>
    obtain ⟨j, v⟩ := hd
    by_cases hj : j = key
    · subst hj
      by_cases hk : j = k
      · subst hk; simpa [lookupIn] using ih
      · simpa [lookupIn, hk] using ih
    · by_cases hk : j = k
      · subst hk; simp [lookupIn, hj, Ne.symm hj]
      · simpa [lookupIn, hj, hk] using ih

/-- A dictionary is determined by what it finds. -/
theorem ext_get? {d e : Dict α} (h : ∀ k, d.get? k = e.get? k) : d = e := by
  obtain ⟨l, hl⟩ := d
  obtain ⟨m, hm⟩ := e
  have : l = m := eq_of_lookupIn_eq hl hm h
  subst this
  rfl

end Dict
end Fleet
