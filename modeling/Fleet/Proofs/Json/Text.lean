import Fleet.Json.Printer
import Fleet.Json.Reader

/-! # Texts read back

A text that is written between quotes and read again is the same text (`readString_print`).  Each
character is read back on its own, whatever has been read before it (`readString_escapeChar`). -/

namespace Fleet.Json

/-- A text of which only characters have been read. -/
def Partial.ofReversed (cs : List Char) : Partial := ⟨cs, none, none, false⟩

/-- The two digits that tell a control character. -/
theorem hexFour?_control : ∀ n < 0x20,
    (if n < 0x10 then '0' :: Text.hex n else Text.hex n) =
      [Nat.digitChar (n / 16), Nat.digitChar (n % 16)] ∧
    hexFour? (some '0') (some '0') (some (Nat.digitChar (n / 16)))
      (some (Nat.digitChar (n % 16))) = some n := by
  decide

/-- What stands for a character: itself, a letter behind a backslash, or its number. -/
theorem escapeChar_cases (c : Char) :
    escapeChar c = [c] ∧ c ≠ '"' ∧ c ≠ '\\' ∧ 0x20 ≤ c.toNat ∨
    (∃ e, escapeChar c = ['\\', e] ∧ e ≠ 'u' ∧ unescape? e = some c) ∨
    ∃ a b, escapeChar c = ['\\', 'u', '0', '0', a, b] ∧
      hexFour? (some '0') (some '0') (some a) (some b) = some c.toNat ∧ c.toNat < 0x20 := by
  unfold escapeChar
  split
  · next h => exact Or.inr (Or.inl ⟨'"', rfl, by decide, by rw [h]; rfl⟩)
  split
  · next h => exact Or.inr (Or.inl ⟨'\\', rfl, by decide, by rw [h]; rfl⟩)
  split
  · next h => exact Or.inr (Or.inl ⟨'b', rfl, by decide, by rw [h]; rfl⟩)
  split
  · next h => exact Or.inr (Or.inl ⟨'f', rfl, by decide, by rw [h]; rfl⟩)
  split
  · next h => exact Or.inr (Or.inl ⟨'n', rfl, by decide, by rw [h]; rfl⟩)
  split
  · next h => exact Or.inr (Or.inl ⟨'r', rfl, by decide, by rw [h]; rfl⟩)
  split
  · next h => exact Or.inr (Or.inl ⟨'t', rfl, by decide, by rw [h]; rfl⟩)
  next hquote hslash _ _ _ _ _ =>
  rcases Nat.lt_or_ge c.toNat 0x20 with hcontrol | hplain
  · obtain ⟨hprint, hread⟩ := hexFour?_control c.toNat hcontrol
    refine Or.inr (Or.inr ⟨_, _, ?_, hread, hcontrol⟩)
    split
    · next hsmall =>
        rw [if_pos hsmall] at hprint
        exact congrArg (fun l => ['\\', 'u', '0', '0'] ++ l) hprint
    · next hlarge =>
        rw [if_neg hlarge] at hprint
        exact congrArg (fun l => ['\\', 'u', '0', '0'] ++ l) hprint
  · rw [if_neg (by omega), if_neg (by omega)]
    exact Or.inl ⟨rfl, hquote, hslash, hplain⟩

/-- A text is not longer than what stands for it. -/
theorem length_le_printString (s : String) : s.toList.length ≤ (printString s).length := by
  have hescaped : s.toList.length ≤ (s.toList.flatMap escapeChar).length := by
    induction s.toList with
    | nil => exact Nat.le_refl 0
    | cons c cs ih =>
        have hpos : 0 < (escapeChar c).length := by
          rcases escapeChar_cases c with ⟨h, -⟩ | ⟨e, h, -⟩ | ⟨a, b, h, -⟩ <;>
            rw [h] <;> exact Nat.succ_pos _
        rw [List.flatMap_cons, List.length_append, List.length_cons]
        omega
  unfold printString
  rw [List.length_append, List.length_cons]
  omega

/-! ### Reading one character -/

theorem readString_plain {p : Partial} {c : Char} (rest : Source) (hquote : c ≠ '"')
    (hslash : c ≠ '\\') (hplain : 0x20 ≤ c.toNat) :
    readString p (some c :: rest) = readString (p.settle.push c) rest := by
  rw [readString]
  · exact if_neg (Nat.not_lt.2 hplain)
  all_goals
    intros
    simp_all

theorem readString_named {p : Partial} {c e : Char} (rest : Source) (he : e ≠ 'u')
    (hc : unescape? e = some c) :
    readString p (some '\\' :: some e :: rest) = readString (p.settle.push c) rest := by
  rw [readString]
  · dsimp only
    rw [hc]
  all_goals
    intros
    simp_all

theorem readString_numbered {p : Partial} {a b c d : Char} {n : Nat} (rest : Source)
    (h : hexFour? (some a) (some b) (some c) (some d) = some n) :
    readString p (some '\\' :: some 'u' :: some a :: some b :: some c :: some d :: rest) =
      readString (p.escape n) rest := by
  rw [readString, h]

theorem readString_escapeChar (cs : List Char) (c : Char) (rest : Source) :
    readString (.ofReversed cs) ((escapeChar c).map some ++ rest) =
      readString (.ofReversed (c :: cs)) rest := by
  rcases escapeChar_cases c with ⟨h, hquote, hslash, hplain⟩ | ⟨e, h, he, hc⟩ | ⟨a, b, h, hn, hlt⟩
  · rw [h]
    exact readString_plain rest hquote hslash hplain
  · rw [h]
    exact readString_named rest he hc
  · rw [h]
    refine (readString_numbered rest hn).trans ?_
    have hescape : (Partial.ofReversed cs).escape c.toNat = .ofReversed (c :: cs) := by
      unfold Partial.escape Partial.ofReversed
      dsimp only
      rw [if_neg (by omega), if_neg (by omega), Char.ofNat_toNat]
      rfl
    rw [hescape]

/-! ### Reading a text -/

theorem readString_escaped (cs reversed : List Char) (rest : Source) :
    readString (.ofReversed reversed) ((cs.flatMap escapeChar).map some ++ some '"' :: rest) =
      (.ok (String.ofList (reversed.reverse ++ cs)), .ok rest) := by
  induction cs generalizing reversed with
  | nil =>
      rw [List.append_nil]
      rfl
  | cons c cs ih =>
      rw [List.flatMap_cons, List.map_append, List.append_assoc, readString_escapeChar, ih,
        List.reverse_cons, List.append_assoc]
      rfl

/-- The text after the quote that opens it. -/
theorem readString_print (s : String) (rest : Source) :
    readString .start ((s.toList.flatMap escapeChar).map some ++ some '"' :: rest) =
      (.ok s, .ok rest) := by
  refine (readString_escaped s.toList [] rest).trans ?_
  rw [List.reverse_nil, List.nil_append, String.ofList_toList]

end Fleet.Json
