import Fleet.Text.Split

/-! # Pieces of a text

`splitOn` gives what the library's function gives, which `List.intercalate` puts together again. -/

namespace Fleet.Text

theorem splitOn_eq_splitOnP (sep : Char → Bool) (cs : List Char) :
    splitOn sep cs = cs.splitOnP sep := by
  induction cs with
  | nil => rfl
  | cons c rest ih =>
      rw [List.splitOnP_cons_eq_if_modifyHead, splitOn, ih]
      cases hsplit : rest.splitOnP sep with
      | nil => exact absurd hsplit (List.splitOnP_ne_nil sep rest)
      | cons part parts => rfl

/-- Separators stand between the pieces only. -/
theorem sep_of_mem_splitOn {sep : Char → Bool} {cs part : List Char} (h : part ∈ splitOn sep cs) :
    ∀ c ∈ part, sep c = false := by
  induction cs generalizing part with
  | nil =>
      rw [splitOn, List.mem_singleton] at h
      rw [h]
      exact List.forall_mem_nil _
  | cons d rest ih =>
      rw [splitOn] at h
      split at h
      · rcases List.mem_cons.1 h with rfl | h
        · exact List.forall_mem_nil _
        · exact ih h
      · next hd =>
          have hd : sep d = false := Bool.not_eq_true _ ▸ hd
          split at h
          · rw [List.mem_singleton] at h
            rw [h]
            exact List.forall_mem_singleton.2 hd
          · next first parts hsplit =>
              rw [hsplit] at ih
              rcases List.mem_cons.1 h with rfl | h
              · exact List.forall_mem_cons.2 ⟨hd, ih List.mem_cons_self⟩
              · exact ih (List.mem_cons_of_mem _ h)

theorem not_mem_of_mem_splitOn {c : Char} {part cs : List Char} (h : part ∈ cs.splitOn c) :
    c ∉ part := by
  rw [List.splitOn_eq_splitOnP, ← splitOn_eq_splitOnP] at h
  intro hc
  have hsep := sep_of_mem_splitOn h c hc
  rw [beq_self_eq_true] at hsep
  cases hsep

/-- The first piece is what stands before the first separator; without separators there is no other
one. -/
theorem exists_splitOn (sep : Char → Bool) (cs : List Char) :
    ∃ more, splitOn sep cs = cs.takeWhile (fun c => !sep c) :: more ∧
      ((∀ c ∈ cs, sep c = false) → more = []) := by
  induction cs with
  | nil => exact ⟨[], rfl, fun _ => rfl⟩
  | cons c rest ih =>
      obtain ⟨more, hsplit, hmore⟩ := ih
      rw [splitOn, hsplit]
      cases hc : sep c with
      | true =>
          refine ⟨rest.takeWhile (fun c => !sep c) :: more, ?_, ?_⟩
          · rw [List.takeWhile_cons_of_neg (by simp [hc])]
            rfl
          · intro hnone
            have := hnone c List.mem_cons_self
            rw [hc] at this
            cases this
      | false =>
          refine ⟨more, ?_, fun hnone => hmore (fun d hd => hnone d (List.mem_cons_of_mem _ hd))⟩
          rw [List.takeWhile_cons_of_pos (by simp [hc])]
          rfl

/-- A text is split where a separator stands. -/
theorem splitOn_append {sep : Char → Bool} {c : Char} (hc : sep c = true) (a b : List Char) :
    splitOn sep (a ++ c :: b) = splitOn sep a ++ splitOn sep b := by
  simp only [splitOn_eq_splitOnP]
  exact List.splitOnP_append_cons a b hc

end Fleet.Text
