import Fleet.Proofs.Json.Survival
import Fleet.Proofs.Json.Text
import Fleet.Proofs.Json.Value

/-! # Values read back

A value that a text writes can be written again, and reading what is written gives the value if the
binary64 numbers in it survive (`parse_render`).  The proof follows the printer: the reader finds the
document of a value in front of whatever comes after it, be it the end, a comma or a bracket. -/

namespace Fleet.Json

open Decimal

variable {fuel depth : Nat}

/-! ### Reading by the first character -/

theorem readValue_quote (s : String) (rest : Source) :
    readValue (fuel + 1) depth
      (some '"' :: ((s.toList.flatMap escapeChar).map some ++ some '"' :: rest)) =
      (.string (.ok s), .ok rest) := by
  have hspace : ∀ s, skipSpace (some '"' :: s) = some '"' :: s := fun _ => rfl
  simp only [readValue, hspace, readString_print]

theorem readValue_bracket (s : Source) (hdepth : 0 < depth) {items : List Document} {rest : Source}
    (h : readItems fuel (depth - 1) true s = (items, .ok rest)) :
    readValue (fuel + 1) depth (some '[' :: s) = (.array false items none, .ok rest) := by
  have hspace : skipSpace (some '[' :: s) = some '[' :: s := rfl
  have hzero : (depth == 0) = false := beq_false_of_ne (Nat.ne_of_gt hdepth)
  simp only [readValue, hspace, h, hzero]

theorem readValue_brace (s : Source) (hdepth : 0 < depth)
    {members : List (Except SyntaxError String × Document)} {rest : Source}
    (h : readMembers fuel (depth - 1) true s = (members, .ok rest)) :
    readValue (fuel + 1) depth (some '{' :: s) = (.object false members none, .ok rest) := by
  have hspace : skipSpace (some '{' :: s) = some '{' :: s := rfl
  have hzero : (depth == 0) = false := beq_false_of_ne (Nat.ne_of_gt hdepth)
  simp only [readValue, hspace, h, hzero]

/-! ### How values and their lists are printed -/

/-- The items behind the first one, each with a comma before it. -/
def printMoreItems : List Value → List Char
  | [] => []
  | v :: rest => ',' :: printItems (v :: rest)

/-- The items, behind others unless they are the first. -/
def printItemsFrom (first : Bool) (items : List Value) : List Char :=
  if first then printItems items else printMoreItems items

theorem printItems_cons (v : Value) (items : List Value) :
    printItems (v :: items) = v.print ++ printMoreItems items := by
  cases items with
  | nil => rw [printItems, printMoreItems, List.append_nil]
  | cons w items =>
      rw [printItems, printMoreItems]
      exact List.cons_ne_nil _ _

/-- The members behind the first one, each with a comma before it. -/
def printMoreMembers : List (String × Value) → List Char
  | [] => []
  | m :: rest => ',' :: printMembers (m :: rest)

/-- The members, behind others unless they are the first. -/
def printMembersFrom (first : Bool) (members : List (String × Value)) : List Char :=
  if first then printMembers members else printMoreMembers members

theorem printMembers_cons (k : String) (v : Value) (members : List (String × Value)) :
    printMembers ((k, v) :: members) =
      printString k ++ ':' :: (v.print ++ printMoreMembers members) := by
  cases members with
  | nil => rw [printMembers, printMoreMembers, List.append_nil]
  | cons m members =>
      rw [printMembers, printMoreMembers]
      · rw [List.append_assoc]
        rfl
      · exact List.cons_ne_nil _ _

theorem head_print (v : Value) : ∃ c cs, v.print = c :: cs ∧ Opens c := by
  have hopens : ∀ c, c = 'n' ∨ c = 't' ∨ c = 'f' ∨ c = '"' ∨ c = '[' ∨ c = '{' ∨ c = '-' →
      Opens c := by
    rintro c (rfl | rfl | rfl | rfl | rfl | rfl | rfl) <;>
      exact ⟨by decide, by decide, by decide, by decide⟩
  match v with
  | .null => exact ⟨'n', _, rfl, hopens _ (by simp)⟩
  | .bool true => exact ⟨'t', _, rfl, hopens _ (by simp)⟩
  | .bool false => exact ⟨'f', _, rfl, hopens _ (by simp)⟩
  | .string s => exact ⟨'"', _, rfl, hopens _ (by simp)⟩
  | .array items => exact ⟨'[', _, by rw [Value.print]; rfl, hopens _ (by simp)⟩
  | .object members => exact ⟨'{', _, by rw [Value.print]; rfl, hopens _ (by simp)⟩
  | .number n =>
      rw [Value.print, n.print_eq]
      split
      · exact ⟨'-', _, rfl, hopens _ (by simp)⟩
      · obtain ⟨c, cs, hdigits, hc⟩ := n.isProper_numeral.head
        exact ⟨c, cs, hdigits, opens_digit hc⟩

theorem length_print_pos (v : Value) : 0 < v.print.length := by
  obtain ⟨c, cs, h, -⟩ := head_print v
  rw [h]
  exact Nat.succ_pos _

/-! ### Texts without digits -/

theorem mem_printMoreItems {c : Char} {items : List Value} (h : c ∈ printItems items) :
    c ∈ printMoreItems items := by
  cases items with
  | nil => cases h
  | cons v items => exact List.mem_cons_of_mem _ h

theorem mem_printMoreMembers {c : Char} {members : List (String × Value)}
    (h : c ∈ printMembers members) : c ∈ printMoreMembers members := by
  cases members with
  | nil => cases h
  | cons m members => exact List.mem_cons_of_mem _ h

mutual
/-- A binary64 number is written with digits. -/
theorem exists_digit_of_mem_doubles {d : Double} :
    ∀ {v : Value}, d ∈ v.doubles → ∃ c ∈ v.print, c.isDigit = true
  | .null, h | .bool _, h | .string _, h | .number (.integer _ _), h => by cases h
  | .number (.double e), _ => by
      obtain ⟨c, cs, hprint, hc⟩ := (Number.double e).isProper_numeral.head
      rw [Value.print, Number.print_eq, hprint]
      refine ⟨c, ?_, hc⟩
      split
      · exact List.mem_cons_of_mem _ List.mem_cons_self
      · exact List.mem_cons_self
  | .array items, h => by
      obtain ⟨c, hc, hdigit⟩ := exists_digit_of_mem_itemDoubles h
      rw [Value.print]
      exact ⟨c, List.mem_append_left _ (List.mem_cons_of_mem _ hc), hdigit⟩
  | .object members, h => by
      obtain ⟨c, hc, hdigit⟩ := exists_digit_of_mem_memberDoubles h
      rw [Value.print]
      exact ⟨c, List.mem_append_left _ (List.mem_cons_of_mem _ hc), hdigit⟩

theorem exists_digit_of_mem_itemDoubles {d : Double} :
    ∀ {items : List Value}, d ∈ itemDoubles items → ∃ c ∈ printItems items, c.isDigit = true
  | [], h => by cases h
  | v :: items, h => by
      rw [printItems_cons]
      rcases List.mem_append.1 h with h | h
      · obtain ⟨c, hc, hdigit⟩ := exists_digit_of_mem_doubles h
        exact ⟨c, List.mem_append_left _ hc, hdigit⟩
      · obtain ⟨c, hc, hdigit⟩ := exists_digit_of_mem_itemDoubles h
        exact ⟨c, List.mem_append_right _ (mem_printMoreItems hc), hdigit⟩

theorem exists_digit_of_mem_memberDoubles {d : Double} :
    ∀ {members : List (String × Value)}, d ∈ memberDoubles members →
      ∃ c ∈ printMembers members, c.isDigit = true
  | [], h => by cases h
  | (k, v) :: members, h => by
      rw [printMembers_cons]
      rcases List.mem_append.1 h with h | h
      · obtain ⟨c, hc, hdigit⟩ := exists_digit_of_mem_doubles h
        exact ⟨c, List.mem_append_right _ (List.mem_cons_of_mem _ (List.mem_append_left _ hc)), hdigit⟩
      · obtain ⟨c, hc, hdigit⟩ := exists_digit_of_mem_memberDoubles h
        exact ⟨c, List.mem_append_right _ (List.mem_cons_of_mem _
          (List.mem_append_right _ (mem_printMoreMembers hc))), hdigit⟩
end

/-- Where no digit is written, there is no binary64 number. -/
theorem Value.survives_of_no_digit {v : Value} (h : v.print.any Char.isDigit = false) :
    v.Survives := by
  intro d hd
  obtain ⟨c, hc, hdigit⟩ := exists_digit_of_mem_doubles hd
  exact absurd hdigit (List.any_eq_false.1 h c hc)

/-! ### Reading lists -/

theorem readItems_end (first : Bool) (rest : Source) :
    readItems (fuel + 1) depth first (some ']' :: rest) = ([], .ok rest) := by
  rw [readItems]
  rfl

theorem readItems_first {c : Char} (h : Opens c) (s : Source) :
    readItems (fuel + 1) depth true (some c :: s) = readItem fuel depth (some c :: s) := by
  rw [readItems, skipSpace_of_opens h]
  split
  · next heq => cases heq
  · next heq => exact absurd (Option.some.inj (List.cons.inj heq).1) h.bracket
  · exact if_pos rfl

theorem readItems_comma {c : Char} (h : Opens c) (s : Source) :
    readItems (fuel + 1) depth false (some ',' :: some c :: s) =
      readItem fuel depth (some c :: s) := by
  have hspace : skipSpace (some ',' :: some c :: s) = some ',' :: some c :: s := rfl
  simp [readItems, hspace, skipSpace_of_opens h, h.bracket]

theorem readItem_of_readValue {s rest rest' : Source} {d : Document} {items : List Document}
    (hvalue : readValue fuel depth s = (d, .ok rest))
    (hitems : readItems fuel depth false rest = (items, .ok rest')) :
    readItem (fuel + 1) depth s = (d :: items, .ok rest') := by
  rw [readItem, hvalue]
  dsimp only
  rw [hitems]

theorem readMembers_end (first : Bool) (rest : Source) :
    readMembers (fuel + 1) depth first (some '}' :: rest) = ([], .ok rest) := by
  rw [readMembers]
  rfl

theorem readMembers_first (s : Source) :
    readMembers (fuel + 1) depth true (some '"' :: s) = readMember fuel depth (some '"' :: s) := by
  rw [readMembers]
  rfl

theorem readMembers_comma (s : Source) :
    readMembers (fuel + 1) depth false (some ',' :: some '"' :: s) =
      readMember fuel depth (some '"' :: s) := by
  rw [readMembers]
  rfl

theorem readMember_of_readValue (k : String) {s rest rest' : Source} {d : Document}
    {members : List (Except SyntaxError String × Document)}
    (hvalue : readValue fuel depth s = (d, .ok rest))
    (hmembers : readMembers fuel depth false rest = (members, .ok rest')) :
    readMember (fuel + 1) depth ((printString k).map some ++ some ':' :: s) =
      ((.ok k, d) :: members, .ok rest') := by
  have hprint : (printString k).map some ++ some ':' :: s = some '"' ::
      ((k.toList.flatMap escapeChar).map some ++ some '"' :: some ':' :: s) := by
    simp [printString]
  have hcolon : skipSpace (some ':' :: s) = some ':' :: s := rfl
  rw [hprint]
  simp only [readMember, readString_print, hcolon, hvalue, hmembers]

/-! ### Reading what is printed -/

theorem terminated_more_items (items : List Value) (rest : Source) :
    Terminated ((printMoreItems items).map some ++ some ']' :: rest) := by
  intro u hu
  cases items with
  | nil => exact Or.inr (Or.inl (Option.some.inj hu).symm)
  | cons v items => exact Or.inl (Option.some.inj hu).symm

theorem terminated_more_members (members : List (String × Value)) (rest : Source) :
    Terminated ((printMoreMembers members).map some ++ some '}' :: rest) := by
  intro u hu
  cases members with
  | nil => exact Or.inr (Or.inr (Option.some.inj hu).symm)
  | cons v members => exact Or.inl (Option.some.inj hu).symm

mutual
/-- A value is found in front of whatever ends it; three steps for each character are enough. -/
theorem readValue_print : ∀ (v : Value) {fuel depth : Nat} {rest : Source}, v.Fits depth →
    v.Survives → 3 * v.print.length ≤ fuel → Terminated rest →
    readValue fuel depth (v.print.map some ++ rest) = (.ofValue v, .ok rest)
  | v, 0, depth, rest, _, _, hfuel, _ => by
      have := length_print_pos v
      omega
  | .null, fuel + 1, depth, rest, _, _, _, _ => by
      rw [readValue]
      rfl
  | .bool true, fuel + 1, depth, rest, _, _, _, _ => by
      rw [readValue]
      rfl
  | .bool false, fuel + 1, depth, rest, _, _, _, _ => by
      rw [readValue]
      rfl
  | .number n, fuel + 1, depth, rest, _, hsurvives, _, hrest => by
      rw [Value.print, readValue_number n hrest, value_numeral hsurvives]
      rfl
  | .string s, fuel + 1, depth, rest, _, _, _, _ => by
      have hprint : (Value.string s).print.map some ++ rest = some '"' ::
          ((s.toList.flatMap escapeChar).map some ++ some '"' :: rest) := by
        simp [Value.print, printString]
      rw [hprint, readValue_quote]
      rfl
  | .array items, fuel + 1, depth, rest, hfits, hsurvive, hfuel, _ => by
      have hprint : (Value.array items).print.map some ++ rest =
          some '[' :: ((printItemsFrom true items).map some ++ some ']' :: rest) := by
        simp [Value.print, printItemsFrom]
      rw [Value.print, List.length_append, List.length_cons, List.length_singleton] at hfuel
      rw [hprint, readValue_bracket _ hfits.1
        (readItems_print items true hfits.2 hsurvive (by
          show 3 * (printItems items).length + 3 ≤ fuel
          omega)), Document.ofValue]
  | .object members, fuel + 1, depth, rest, hfits, hsurvive, hfuel, _ => by
      have hprint : (Value.object members).print.map some ++ rest =
          some '{' :: ((printMembersFrom true members).map some ++ some '}' :: rest) := by
        simp [Value.print, printMembersFrom]
      rw [Value.print, List.length_append, List.length_cons, List.length_singleton] at hfuel
      rw [hprint, readValue_brace _ hfits.1
        (readMembers_print members true hfits.2.2 hsurvive (by
          show 3 * (printMembers members).length + 3 ≤ fuel
          omega)), Document.ofValue]

theorem readItems_print : ∀ (items : List Value) (first : Bool) {fuel depth : Nat}
    {rest : Source}, FitsItems depth items → (∀ d ∈ itemDoubles items, d.Survives) →
    3 * (printItemsFrom first items).length + 3 ≤ fuel →
    readItems fuel depth first ((printItemsFrom first items).map some ++ some ']' :: rest) =
      (Document.ofItems items, .ok rest)
  | _, _, 0, _, _, _, _, hfuel => by omega
  | [], first, fuel + 1, depth, rest, _, _, _ => by
      have hprint : printItemsFrom first [] = [] := by
        cases first <;> rfl
      rw [hprint]
      exact readItems_end first rest
  | v :: items, first, 1, depth, rest, _, _, hfuel => by omega
  | v :: items, first, fuel + 2, depth, rest, hfits, hsurvive, hfuel => by
      obtain ⟨hvalueSurvives, hitemsSurvive⟩ := List.forall_mem_append.1 hsurvive
      have hlength : v.print.length + (printMoreItems items).length ≤
          (printItemsFrom first (v :: items)).length := by
        cases first
        · show _ ≤ (printItems (v :: items)).length + 1
          rw [printItems_cons, List.length_append]
          exact Nat.le_succ _
        · show _ ≤ (printItems (v :: items)).length
          exact Nat.le_of_eq (by rw [printItems_cons, List.length_append])
      have hpos := length_print_pos v
      have hvalue := @readValue_print v fuel depth _ hfits.1 hvalueSurvives (by omega)
        (terminated_more_items items rest)
      have hmore := @readItems_print items false fuel depth rest hfits.2 hitemsSurvive (by
        show 3 * (printMoreItems items).length + 3 ≤ fuel
        omega)
      have hitem : readItem (fuel + 1) depth
          ((printItems (v :: items)).map some ++ some ']' :: rest) =
          (Document.ofItems (v :: items), .ok rest) := by
        rw [printItems_cons, List.map_append, List.append_assoc]
        exact readItem_of_readValue hvalue hmore
      obtain ⟨c, cs, hhead, hopens⟩ := head_print v
      rw [printItems_cons, hhead] at hitem
      cases first with
      | true =>
          refine Eq.trans ?_ hitem
          show readItems _ depth true ((printItems (v :: items)).map some ++ _) = _
          rw [printItems_cons, hhead]
          exact readItems_first hopens _
      | false =>
          refine Eq.trans ?_ hitem
          show readItems _ depth false (some ',' :: ((printItems (v :: items)).map some ++ _)) = _
          rw [printItems_cons, hhead]
          exact readItems_comma hopens _

theorem readMembers_print : ∀ (members : List (String × Value)) (first : Bool) {fuel depth : Nat}
    {rest : Source}, FitsMembers depth members → (∀ d ∈ memberDoubles members, d.Survives) →
    3 * (printMembersFrom first members).length + 3 ≤ fuel →
    readMembers fuel depth first
      ((printMembersFrom first members).map some ++ some '}' :: rest) =
      (Document.ofMembers members, .ok rest)
  | _, _, 0, _, _, _, _, hfuel => by omega
  | [], first, fuel + 1, depth, rest, _, _, _ => by
      have hprint : printMembersFrom first [] = [] := by
        cases first <;> rfl
      rw [hprint]
      exact readMembers_end first rest
  | (k, v) :: members, first, 1, depth, rest, _, _, hfuel => by omega
  | (k, v) :: members, first, fuel + 2, depth, rest, hfits, hsurvive, hfuel => by
      obtain ⟨hvalueSurvives, hmembersSurvive⟩ := List.forall_mem_append.1 hsurvive
      have hprint : printMembers ((k, v) :: members) =
          printString k ++ ':' :: (v.print ++ printMoreMembers members) := printMembers_cons k v _
      have hlength : 1 + v.print.length + (printMoreMembers members).length ≤
          (printMembersFrom first ((k, v) :: members)).length := by
        cases first
        · show _ ≤ (printMembers ((k, v) :: members)).length + 1
          rw [hprint, List.length_append, List.length_cons, List.length_append]
          omega
        · show _ ≤ (printMembers ((k, v) :: members)).length
          rw [hprint, List.length_append, List.length_cons, List.length_append]
          omega
      have hvalue := @readValue_print v fuel depth _ hfits.1 hvalueSurvives (by omega)
        (terminated_more_members members rest)
      have hmore := @readMembers_print members false fuel depth rest hfits.2 hmembersSurvive (by
        show 3 * (printMoreMembers members).length + 3 ≤ fuel
        omega)
      have hmember : readMember (fuel + 1) depth
          ((printMembers ((k, v) :: members)).map some ++ some '}' :: rest) =
          (Document.ofMembers ((k, v) :: members), .ok rest) := by
        have hsource : (printMembers ((k, v) :: members)).map some ++ some '}' :: rest =
            (printString k).map some ++ some ':' :: (v.print.map some ++
              ((printMoreMembers members).map some ++ some '}' :: rest)) := by
          rw [hprint]
          simp
        rw [hsource]
        exact readMember_of_readValue k hvalue hmore
      have hquote : ∃ cs, printMembers ((k, v) :: members) = '"' :: cs := ⟨_, by rw [hprint]; rfl⟩
      obtain ⟨cs, hquote⟩ := hquote
      rw [hquote] at hmember
      cases first with
      | true =>
          refine Eq.trans ?_ hmember
          show readMembers _ depth true ((printMembers ((k, v) :: members)).map some ++ _) = _
          rw [hquote]
          exact readMembers_first _
      | false =>
          refine Eq.trans ?_ hmember
          show readMembers _ depth false
            (some ',' :: ((printMembers ((k, v) :: members)).map some ++ _)) = _
          rw [hquote]
          exact readMembers_comma _
end

/-- The text of a value is its document. -/
theorem readText_render {v : Value} (h : v.Fits depthLimit) (hsurvives : v.Survives) :
    readText (.ofString v.render) = ⟨.ofValue v, false⟩ := by
  obtain ⟨s, hs⟩ : ∃ s : Source, s = v.print.map some := ⟨_, rfl⟩
  have hsource : Source.ofString v.render = s := by
    unfold Source.ofString Value.render
    rw [String.toList_ofList, hs]
  have hread : readValue (3 * s.length + 3) depthLimit s = (.ofValue v, .ok []) := by
    have hlength : s.length = v.print.length := by rw [hs, List.length_map]
    have hread := @readValue_print v (3 * s.length + 3) depthLimit [] h hsurvives (by omega)
      (fun u hu => by cases hu)
    rwa [List.append_nil, ← hs] at hread
  rw [hsource]
  unfold readText
  rw [hread]
  rfl

/-- What is written reads as the value. -/
theorem parse_render {v : Value} (h : v.Fits depthLimit) (hsurvives : v.Survives) :
    parse (.ofString v.render) = .ok v := by
  unfold parse
  rw [readText_render h hsurvives]
  show ((Document.ofValue v).toValue >>= fun v => if false then _ else .ok v) = _
  rw [Document.toValue_ofValue h]
  rfl

end Fleet.Json
