import Mathlib.Data.String.Basic
import Fleet.Ident

/-! # Identifiers are labels

An identifier that passes `Ident.isValid` is a lower-case label of at most 63 characters
(`Ident.IsLabel`), and one that comes from `Ident.normalize`, given or drawn, starts as it should.
The first identifier that is drawn for a tenant or cluster always passes (`Ident.run_generate`). -/

namespace Fleet.Ident

/-! ### Labels -/

/-- A lower-case label as host names have them: letters, digits and inner hyphens, at least one and
at most 63 of them. -/
structure IsLabel (id : String) : Prop where
  nonempty : id ≠ ""
  short : id.length ≤ 63
  chars : ∀ c ∈ id.toList, 'a' ≤ c ∧ c ≤ 'z' ∨ '0' ≤ c ∧ c ≤ '9' ∨ c = '-'
  first : id.toList.head? ≠ some '-'
  last : id.toList.getLast? ≠ some '-'

/-- There are no more characters than bytes. -/
theorem length_le_utf8ByteSize (s : String) : s.length ≤ s.utf8ByteSize := by
  rw [← String.length_toList, ← String.ofList_toList (s := s), String.utf8ByteSize_ofList,
    String.toList_ofList]
  induction s.toList with
  | nil => exact Nat.zero_le _
  | cons c cs ih =>
      have hpos := c.utf8Size_pos
      rw [List.length_cons, String.utf8Len_cons]
      omega

theorem identChar_cases {c : Char} (h : isIdentChar c = true) :
    'a' ≤ c ∧ c ≤ 'z' ∨ '0' ≤ c ∧ c ≤ '9' ∨ c = '-' := by
  unfold isIdentChar at h
  simp only [Bool.or_eq_true, Bool.and_eq_true, decide_eq_true_eq, beq_iff_eq, or_assoc] at h
  rcases h with h | h | h
  · exact Or.inl h
  · unfold Char.isDigit at h
    simp only [ge_iff_le, Bool.and_eq_true, decide_eq_true_eq] at h
    exact Or.inr (Or.inl h)
  · exact Or.inr (Or.inr h)

theorem isLabel_of_isValid {id : String} (h : isValid id = true) : IsLabel id := by
  unfold isValid at h
  simp only [Bool.and_eq_true, Bool.not_eq_true', bne_iff_ne, decide_eq_true_eq,
    List.all_eq_true] at h
  obtain ⟨⟨⟨⟨hempty, hshort⟩, hchars⟩, hfirst⟩, hlast⟩ := h
  refine ⟨?_, Nat.le_trans (length_le_utf8ByteSize id) hshort,
    fun c hc => identChar_cases (hchars c hc), hfirst, hlast⟩
  rintro rfl
  cases hempty

/-! ### Identifiers that are drawn -/

theorem run_bind {α β : Type} (d : Draw α) (f : α → Draw β) (words : Nat → UInt32) (used : Nat) :
    ((d >>= f).run words).run used =
      ((f ((d.run words).run used).1).run words).run ((d.run words).run used).2 := rfl

/-- Whatever is drawn, it starts as asked for. -/
theorem start_of_draw {start : String} {bound tries : Nat} {words : Nat → UInt32} {used : Nat}
    {id : String} (h : (((draw start bound tries).run words).run used).1 = .ok id) :
    start.toList <+: id.toList := by
  induction tries generalizing used with
  | zero => cases h
  | succ tries ih =>
      rw [draw, run_bind] at h
      generalize (slug.run words).run used = drawn at h
      dsimp only at h
      split at h
      · cases h
        rw [String.toList_append]
        exact List.prefix_append _ _
      · exact ih h

theorem start_of_normalize {id start : String} {words : Nat → UInt32} {used : Nat} {id' : String}
    (h : (((normalize id start).run words).run used).1 = .ok id') :
    start.toList <+: id'.toList := by
  unfold normalize at h
  by_cases hempty : id.isEmpty = true
  · rw [if_pos hempty] at h
    exact start_of_draw h
  · rw [if_neg hempty] at h
    have hid : (if start.toList.isPrefixOf id.toList then id else start ++ id) = id' :=
      Except.ok.inj h
    rw [← hid]
    split
    · next hstart => exact List.isPrefixOf_iff_prefix.1 hstart
    · rw [String.toList_append]
      exact List.prefix_append _ _

/-! ### What is drawn -/

/-- A second word is drawn only if it may matter. -/
theorem run_below (n : Nat) (words : Nat → UInt32) (used : Nat) :
    ((Draw.below n).run words).run used =
      let product := (words used).toNat * n
      if Draw.wordBound < product % Draw.wordBound + n then
        (product / Draw.wordBound + (product % Draw.wordBound +
          (words (used + 1)).toNat * n / Draw.wordBound) / Draw.wordBound, used + 2)
      else (product / Draw.wordBound, used + 1) := by
  unfold Draw.below
  rw [run_bind]
  have hword : (Draw.word.run words).run used = ((words used).toNat, used + 1) := rfl
  rw [hword]
  dsimp only
  split <;> rfl

theorem below_lt {n : Nat} (h : 0 < n) (words : Nat → UInt32) (used : Nat) :
    (((Draw.below n).run words).run used).1 < n := by
  have hword : ∀ i, (words i).toNat * n ≤ 4294967295 * n := fun i =>
    Nat.mul_le_mul_right n (Nat.le_of_lt_succ (words i).toNat_lt)
  have hfirst := hword used
  have hsecond := hword (used + 1)
  rw [run_below]
  unfold Draw.wordBound
  dsimp only
  split
  · dsimp only
    omega
  · dsimp only
    omega

theorem item_mem {items : List String} (h : items ≠ []) (other : String) (words : Nat → UInt32)
    (used : Nat) : (((Draw.item items other).run words).run used).1 ∈ items := by
  have hlt := below_lt (List.length_pos_iff.2 h) words used
  have hempty : ¬ items.isEmpty = true := by simpa using h
  have hrun : (((Draw.item items other).run words).run used).1 =
      items.getD (((Draw.below items.length).run words).run used).1 other := by
    unfold Draw.item
    rw [if_neg hempty]
    rfl
  rw [hrun, List.getD_eq_getElem?_getD, List.getElem?_eq_getElem hlt, Option.getD_some]
  exact List.getElem_mem hlt

/-- An adjective, a noun and a number. -/
def IsSlug (s : String) : Prop :=
  ∃ adjective ∈ adjectives, ∃ noun ∈ nouns, ∃ number < numberBound,
    s = adjective ++ "-" ++ noun ++ "-" ++ toString number

theorem isSlug_slug (words : Nat → UInt32) (used : Nat) :
    IsSlug ((slug.run words).run used).1 := by
  unfold slug
  rw [run_bind, run_bind, run_bind]
  exact ⟨_, item_mem (by decide) _ _ _, _, item_mem (by decide) _ _ _, _,
    below_lt (by decide) _ _, rfl⟩

/-! ### Drawn identifiers are labels -/

theorem isIdentChar_of_isDigit {c : Char} (h : c.isDigit = true) : isIdentChar c = true := by
  unfold isIdentChar
  rw [h, Bool.or_true, Bool.true_or]

/-- Characters of identifiers take one byte each. -/
theorem utf8ByteSize_of_identChars {s : String} (h : ∀ c ∈ s.toList, isIdentChar c = true) :
    s.utf8ByteSize = s.toList.length := by
  rw [← String.ofList_toList (s := s), String.utf8ByteSize_ofList, String.toList_ofList]
  generalize s.toList = cs at h
  induction cs with
  | nil => rfl
  | cons c cs ih =>
      obtain ⟨hc, hcs⟩ := List.forall_mem_cons.1 h
      have hsize : c.utf8Size = 1 := by
        refine Char.utf8Size_eq_one_iff.2 ?_
        rcases identChar_cases hc with ⟨-, hz⟩ | ⟨-, hnine⟩ | rfl
        · exact UInt32.le_trans hz (by decide)
        · exact UInt32.le_trans hnine (by decide)
        · decide
      rw [String.utf8Len_cons, ih hcs, hsize, List.length_cons]

/-- What is drawn is written in characters of identifiers, is short and ends in a digit. -/
theorem IsSlug.plain {s : String} (h : IsSlug s) :
    (∀ c ∈ s.toList, isIdentChar c = true) ∧ s.toList.length ≤ 26 ∧
      ∃ c, s.toList.getLast? = some c ∧ c.isDigit = true := by
  have hwords : ∀ word ∈ adjectives ++ nouns, word.toList.all isIdentChar = true ∧
    word.toList.length ≤ 10 := by decide +kernel
  have hhyphen : ∀ c ∈ "-".toList, isIdentChar c = true := List.all_eq_true.1 (by decide)
  obtain ⟨adjective, hadjective, noun, hnoun, number, hnumber, rfl⟩ := h
  obtain ⟨hadjective, hadjective'⟩ := hwords adjective (List.mem_append_left _ hadjective)
  obtain ⟨hnoun, hnoun'⟩ := hwords noun (List.mem_append_right _ hnoun)
  have hdigit : ∀ c ∈ Nat.toDigits 10 number, c.isDigit = true := fun c hc =>
    Nat.isDigit_of_mem_toDigits (by decide) (by decide) hc
  have hlength : (Nat.toDigits 10 number).length ≤ 4 :=
    (Nat.length_toDigits_le_iff (by decide) (by decide)).2 hnumber
  have hlist : (adjective ++ "-" ++ noun ++ "-" ++ toString number).toList =
      adjective.toList ++ "-".toList ++ noun.toList ++ "-".toList ++ Nat.toDigits 10 number := by
    simp only [String.toList_append, Nat.toString_eq_repr, Nat.toList_repr]
  rw [hlist]
  refine ⟨?_, ?_, ?_⟩
  · simp only [List.forall_mem_append]
    exact ⟨⟨⟨⟨List.all_eq_true.1 hadjective, hhyphen⟩, List.all_eq_true.1 hnoun⟩, hhyphen⟩,
      fun c hc => isIdentChar_of_isDigit (hdigit c hc)⟩
  · have hone : "-".toList.length = 1 := rfl
    simp only [List.length_append, hone]
    omega
  · have hne : Nat.toDigits 10 number ≠ [] := Nat.toDigits_ne_nil
    refine ⟨_, ?_, hdigit _ (List.getLast_mem hne)⟩
    rw [List.getLast?_append_of_ne_nil _ hne, List.getLast?_eq_some_getLast hne]

/-- What is drawn for a tenant or cluster may stand behind the start that is asked for. -/
theorem IsSlug.isValid {start s : String} (hstart : start = tenantStart ∨ start = clusterStart)
    (h : IsSlug s) : isValid (start ++ s) = true := by
  obtain ⟨hchars, hlength, c, hlast, hdigit⟩ := h.plain
  have hfirst : ∃ letter, start.toList = [letter, '-'] ∧ letter ≠ '-' ∧
      isIdentChar letter = true := by
    rcases hstart with rfl | rfl
    · exact ⟨'t', by decide⟩
    · exact ⟨'c', by decide⟩
  obtain ⟨letter, hletter, hne, hplain⟩ := hfirst
  have hlist : (start ++ s).toList = letter :: '-' :: s.toList := by
    rw [String.toList_append, hletter]
    rfl
  have hall : ∀ c ∈ (start ++ s).toList, isIdentChar c = true := by
    rw [hlist]
    exact List.forall_mem_cons.2 ⟨hplain, List.forall_mem_cons.2 ⟨by decide, hchars⟩⟩
  have hsize : (start ++ s).utf8ByteSize ≤ maxLength := by
    rw [utf8ByteSize_of_identChars hall, hlist]
    change s.toList.length + 1 + 1 ≤ 63
    omega
  have hempty : (start ++ s).isEmpty = false := by
    rw [Bool.eq_false_iff, ne_eq, String.isEmpty_iff, ← String.toList_eq_nil_iff, hlist]
    exact List.cons_ne_nil _ _
  have hlast' : (start ++ s).toList.getLast? = some c := by
    have hcons : letter :: '-' :: s.toList = [letter, '-'] ++ s.toList := rfl
    rw [hlist, hcons, List.getLast?_append, hlast]
    rfl
  have hhyphen : c ≠ '-' := by
    rintro rfl
    cases hdigit
  unfold Ident.isValid
  rw [hempty, decide_eq_true hsize, List.all_eq_true.2 hall, hlast', hlist, List.head?_cons]
  simp [hne, hhyphen]

/-- Identifiers are drawn at the first attempt. -/
theorem run_generate {start : String} (hstart : start = tenantStart ∨ start = clusterStart)
    (words : Nat → UInt32) (used : Nat) :
    ((generate start maxLength).run words).run used =
      (.ok (start ++ ((slug.run words).run used).1), ((slug.run words).run used).2) := by
  have hvalid := (isSlug_slug words used).isValid hstart
  unfold isValid at hvalid
  simp only [Bool.and_eq_true, decide_eq_true_eq] at hvalid
  have hsize := hvalid.1.1.1.2
  unfold generate
  change ((draw start maxLength (9 + 1)).run words).run used = _
  rw [draw, run_bind]
  generalize (slug.run words).run used = drawn at hsize ⊢
  dsimp only
  rw [if_pos hsize]
  rfl

end Fleet.Ident
