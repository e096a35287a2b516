import Fleet.Proofs.Text.Split
import Fleet.Proofs.Text.Utf8
import Fleet.Url.Form

/-! # Reading form data

What form data write as it is and what not.  A text is read back as it stands if it has no `+` and
nothing that looks percent encoded (`readFormText_eq_iff`); reading anything else loses characters of
ASCII, so that no beginning of the text is read as the text either. -/

namespace Fleet.Url

open Text

/-! ### Percent encoding -/

theorem isAsciiByte_of_hexValue? {b x : UInt8} (h : hexValue? b = some x) : isAsciiByte b = true := by
  unfold isAsciiByte
  rw [decide_eq_true_iff]
  unfold hexValue? at h
  simp only [UInt8.lt_iff_toNat_lt, UInt8.le_iff_toNat_le, UInt8.reduceToNat] at *
  split_ifs at h <;> omega

theorem eq_or_lt_cons {a : UInt8} {bytes bytes' : List UInt8}
    (h : bytes' = bytes ∨ bytes'.countP isAsciiByte < bytes.countP isAsciiByte) :
    a :: bytes' = a :: bytes ∨
      (a :: bytes').countP isAsciiByte < (a :: bytes).countP isAsciiByte := by
  rcases h with rfl | hlt
  · exact Or.inl rfl
  · rw [List.countP_cons, List.countP_cons]
    exact Or.inr (Nat.add_lt_add_right hlt _)

/-- Decoding changes nothing, or leaves fewer bytes of ASCII. -/
theorem percentDecode_eq_or_lt (bytes : List UInt8) : percentDecode bytes = bytes ∨
    (percentDecode bytes).countP isAsciiByte < bytes.countP isAsciiByte := by
  fun_induction percentDecode bytes with
  | case1 a b rest x y hx hy ih =>
      have hrest : (percentDecode rest).countP isAsciiByte ≤ rest.countP isAsciiByte := by
        rcases ih with heq | hlt
        · exact Nat.le_of_eq (by rw [heq])
        · exact Nat.le_of_lt hlt
      have hpercent : isAsciiByte 0x25 = true := rfl
      refine Or.inr ?_
      simp only [List.countP_cons, isAsciiByte_of_hexValue? hx, isAsciiByte_of_hexValue? hy, hpercent,
        if_true]
      split <;> omega
  | case2 a b rest hnone ih => exact eq_or_lt_cons ih
  | case3 a rest hother ih => exact eq_or_lt_cons ih
  | case4 => exact Or.inl rfl

theorem percentDecode_eq_nil {bytes : List UInt8} (h : percentDecode bytes = []) : bytes = [] := by
  fun_induction percentDecode bytes with
  | case1 | case2 | case3 => cases h
  | case4 => rfl

theorem percentDecode_of_notMem {bytes : List UInt8} (h : 0x25 ∉ bytes) :
    percentDecode bytes = bytes := by
  fun_induction percentDecode bytes with
  | case1 | case2 => exact absurd List.mem_cons_self h
  | case3 a rest hother ih => rw [ih (fun hmem => h (List.mem_cons_of_mem _ hmem))]
  | case4 => rfl

/-- A text without `%` is not percent encoded. -/
theorem percentDecode_encode {s : String} (h : '%' ∉ s.toList) :
    percentDecode (encode s) = encode s := by
  refine percentDecode_of_notMem ?_
  intro hmem
  obtain ⟨c, hc, hbyte⟩ := exists_mem_of_mem_encode hmem rfl
  have hpercent : c = '%' := Char.ext (UInt32.toNat_inj.1 hbyte)
  exact h (hpercent ▸ hc)

/-! ### Texts -/

/-- Characters with blanks for pluses. -/
def blanked (cs : List Char) : List Char := cs.map (fun c => if c = '+' then ' ' else c)

theorem readFormText_eq (cs : List Char) :
    readFormText cs = decodeLossy (percentDecode (encode (String.ofList (blanked cs)))) := rfl

theorem countP_blanked (cs : List Char) : (blanked cs).countP isAscii = cs.countP isAscii := by
  unfold blanked
  rw [List.countP_map]
  refine List.countP_congr (fun c _ => ?_)
  by_cases hplus : c = '+'
  · rw [hplus]
    decide
  · rw [Function.comp_apply, if_neg hplus]

theorem blanked_eq_self_iff {cs : List Char} : blanked cs = cs ↔ '+' ∉ cs := by
  unfold blanked
  constructor
  · intro h hplus
    have hmem : '+' ∈ cs.map (fun c => if c = '+' then ' ' else c) := by rw [h]; exact hplus
    obtain ⟨c, -, hc⟩ := List.mem_map.1 hmem
    split at hc
    · exact absurd hc (by decide)
    · next hne => exact hne hc
  · intro h
    have hid : ∀ c ∈ cs, (if c = '+' then ' ' else c) = id c := by
      intro c hc
      refine if_neg ?_
      rintro rfl
      exact h hc
    rw [List.map_congr_left hid, List.map_id]

/-- Reading a text loses characters of ASCII, unless it only blanks pluses. -/
theorem readFormText_eq_or_lt (cs : List Char) :
    (percentDecode (encode (String.ofList (blanked cs))) = encode (String.ofList (blanked cs)) ∧
      readFormText cs = String.ofList (blanked cs)) ∨
    (readFormText cs).toList.countP isAscii < cs.countP isAscii := by
  rw [readFormText_eq]
  rcases percentDecode_eq_or_lt (encode (String.ofList (blanked cs))) with heq | hlt
  · rw [heq, decodeLossy_encode]
    exact Or.inl ⟨rfl, rfl⟩
  · rw [countP_encode, String.toList_ofList, countP_blanked] at hlt
    exact Or.inr (Nat.lt_of_le_of_lt (countP_decodeLossy _) hlt)

/-- A beginning of a text is read as the text only if it is all of it, has no pluses, and nothing in
it looks percent encoded. -/
theorem readFormText_eq_iff {cs : List Char} {s : String} (h : cs <+: s.toList) :
    readFormText cs = s ↔ cs = s.toList ∧ '+' ∉ cs ∧ percentDecode (encode s) = encode s := by
  constructor
  · intro hread
    have hcount : cs.countP isAscii ≤ s.toList.countP isAscii := h.sublist.countP_le
    rcases readFormText_eq_or_lt cs with ⟨hdecode, hblanked⟩ | hlt
    · have hs : s.toList = blanked cs := by
        rw [← hread, hblanked, String.toList_ofList]
      have hlength : cs.length = s.toList.length := by
        rw [hs]
        exact (List.length_map _).symm
      have hall : cs = s.toList := h.eq_of_length hlength
      have hplus : blanked cs = cs := hs.symm.trans hall.symm
      refine ⟨hall, blanked_eq_self_iff.1 hplus, ?_⟩
      rw [← hblanked, hread] at hdecode
      exact hdecode
    · rw [hread] at hlt
      omega
  · rintro ⟨rfl, hplus, hdecode⟩
    rw [readFormText_eq, blanked_eq_self_iff.2 hplus, String.ofList_toList, hdecode,
      decodeLossy_encode]

/-! ### Pairs -/

theorem readFormPair_append {name : List Char} (hname : '=' ∉ name) (value : List Char) :
    readFormPair (name ++ '=' :: value) = (readFormText name, readFormText value) := by
  have hbefore : (name ++ '=' :: value).takeWhile (· ≠ '=') = name := by
    rw [List.takeWhile_append_of_pos, List.takeWhile_cons_of_neg (by simp), List.append_nil]
    intro c hc
    refine decide_eq_true ?_
    rintro rfl
    exact hname hc
  have hafter : (name ++ '=' :: value).drop (name.length + 1) = value := by
    rw [List.drop_append]
    simp
  unfold readFormPair
  dsimp only
  rw [hbefore, hafter]

/-- The first pair that form data write, if they begin with a name. -/
theorem exists_readForm {name : List Char} (heq : '=' ∉ name) (hand : '&' ∉ name)
    (rest : List Char) :
    ∃ more, readForm (String.ofList (name ++ '=' :: rest)) =
        (readFormText name, readFormText (rest.takeWhile (· ≠ '&'))) :: more ∧
      ('&' ∉ rest → more = []) := by
  obtain ⟨more, hsplit, hmore⟩ := exists_splitOn (· == '&') (name ++ '=' :: rest)
  have hneg : (fun c : Char => !(c == '&')) = fun c => decide (c ≠ '&') := by
    funext c
    exact Bool.eq_iff_iff.2 (by simp)
  have hfirst : (name ++ '=' :: rest).takeWhile (fun c => !(c == '&')) =
      name ++ '=' :: rest.takeWhile (· ≠ '&') := by
    rw [hneg, List.takeWhile_append_of_pos, List.takeWhile_cons_of_pos (by decide)]
    intro c hc
    refine decide_eq_true ?_
    rintro rfl
    exact hand hc
  refine ⟨(more.filter (fun p => !p.isEmpty)).map readFormPair, ?_, ?_⟩
  · unfold readForm
    rw [String.toList_ofList, hsplit, hfirst, List.filter_cons_of_pos (by simp),
      List.map_cons, readFormPair_append heq]
  · intro hrest
    rw [hmore]
    · rfl
    · intro c hc
      refine beq_eq_false_iff_ne.2 ?_
      rintro rfl
      rcases List.mem_append.1 hc with hc | hc
      · exact hand hc
      · rcases List.mem_cons.1 hc with hc | hc
        · exact absurd hc (by decide)
        · exact hrest hc

end Fleet.Url
