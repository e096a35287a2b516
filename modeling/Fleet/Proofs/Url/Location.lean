import Fleet.Proofs.Result
import Fleet.Proofs.Text.Split
import Fleet.Url.Location
import Mathlib.Data.Bool.AllAny
import Mathlib.Data.List.TakeWhile

/-! # The segments of a URL

No segment of a URL has a slash in it, whatever the URL is (`notMem_slash_of_parse`).

A URL with a plain host and plain segments is read as it is written, and slashes more or less do not
matter to the segments that are not empty (`names_of_written`).  Plain characters are those that no
step of the reading looks for. -/

namespace Fleet.Url

open Text

variable {kind : SchemeKind}

/-! ### Segments have no slashes -/

theorem hexDigit_ne_slash (n : Nat) : hexDigit n ≠ '/' := by
  have hdigits : ∀ c ∈ "0123456789ABCDEF".toList, c ≠ '/' :=
    List.all_iff_forall_prop.1 (by decide)
  unfold hexDigit
  rw [List.getD_eq_getElem?_getD]
  cases h : "0123456789ABCDEF".toList[n]? with
  | none => decide
  | some c => exact hdigits c (List.mem_of_getElem? h)

theorem notMem_slash_percentEncode {escaped : Char → Bool} {cs : List Char} (h : '/' ∉ cs) :
    '/' ∉ percentEncode escaped cs := by
  intro hmem
  obtain ⟨c, hc, hslash⟩ := List.mem_flatMap.1 hmem
  split at hslash
  · obtain ⟨b, -, hb⟩ := List.mem_flatMap.1 hslash
    simp only [percentByte, List.mem_cons, List.not_mem_nil, or_false] at hb
    rcases hb with hb | hb | hb
    · exact absurd hb (by decide)
    · exact hexDigit_ne_slash _ hb.symm
    · exact hexDigit_ne_slash _ hb.symm
  · rw [List.mem_singleton] at hslash
    exact h (hslash ▸ hc)

theorem mem_of_mem_shorten {path : List (List Char)} {segment : List Char}
    (h : segment ∈ shorten path) : segment ∈ path := by
  cases path with
  | nil => cases h
  | cons last rest =>
      rw [shorten] at h
      split at h
      · exact h
      · exact List.mem_cons_of_mem _ h

theorem isAlpha_of_drive? {segment : List Char} {letter : Char} (h : drive? segment = some letter) :
    letter.isAlpha = true := by
  unfold drive? at h
  split at h
  · split at h
    · next halpha =>
        cases h
        exact halpha
    · cases h
  · split at h
    · next halpha =>
        cases h
        exact halpha
    · cases h
  · cases h

/-- Adding pieces without slashes to segments without slashes leaves such segments. -/
theorem notMem_slash_addSegments {pieces path : List (List Char)}
    (hpath : ∀ segment ∈ path, '/' ∉ segment) (hpieces : ∀ piece ∈ pieces, '/' ∉ piece) :
    ∀ segment ∈ addSegments kind path pieces, '/' ∉ segment := by
  induction pieces generalizing path with
  | nil => exact hpath
  | cons piece pieces ih =>
      have hsegment : '/' ∉ percentEncode escapedInPath piece :=
        notMem_slash_percentEncode (hpieces piece List.mem_cons_self)
      have hending : ∀ segment ∈ (if pieces.isEmpty then [[]] else [] : List (List Char)),
          '/' ∉ segment := by
        intro segment hmem
        split at hmem
        · rw [List.mem_singleton.1 hmem]
          exact List.not_mem_nil
        · cases hmem
      rw [addSegments]
      refine ih ?_ (fun piece hmem => hpieces piece (List.mem_cons_of_mem _ hmem))
      split
      · exact List.forall_mem_append.2
          ⟨hending, fun segment hmem => hpath segment (mem_of_mem_shorten hmem)⟩
      · split
        · exact List.forall_mem_append.2 ⟨hending, hpath⟩
        · split
          · next letter hletter =>
              refine List.forall_mem_cons.2 ⟨?_, hpath⟩
              split
              · have hne : '/' ≠ letter := by
                  rintro rfl
                  exact absurd (isAlpha_of_drive? hletter) (by decide)
                simp [hne]
              · exact hsegment
          · exact List.forall_mem_cons.2 ⟨hsegment, hpath⟩

theorem notMem_slash_splitOn {cs piece : List Char} (h : piece ∈ splitOn (isSlash kind) cs) :
    '/' ∉ piece := by
  intro hslash
  cases sep_of_mem_splitOn h '/' hslash

theorem notMem_slash_readSegments (cs : List Char) :
    ∀ segment ∈ readSegments kind cs, '/' ∉ segment.toList := by
  intro segment h
  obtain ⟨cs', hmem, rfl⟩ := List.mem_map.1 h
  rw [String.toList_ofList]
  exact notMem_slash_addSegments (List.forall_mem_nil _) (fun _ => notMem_slash_splitOn) cs'
    (List.mem_reverse.1 hmem)

theorem notMem_slash_readPath {cs : List Char} {segments : List String}
    (h : readPath kind cs = some segments) : ∀ segment ∈ segments, '/' ∉ segment.toList := by
  unfold readPath at h
  split at h
  · split at h
    · cases h
    · cases h
      simp
  · split at h
    · cases h
      exact notMem_slash_readSegments _
    · split at h
      · cases h
      · cases h
        exact notMem_slash_readSegments _

theorem notMem_slash_readFile {cs : List Char} {segments : List String}
    (h : readFile cs = .ok (some segments)) : ∀ segment ∈ segments, '/' ∉ segment.toList := by
  unfold readFile at h
  split at h
  · split at h
    · dsimp only at h
      split at h
      · cases h
        exact notMem_slash_readSegments _
      · split at h
        · cases h
          exact notMem_slash_readSegments _
        · obtain ⟨-, -, h⟩ := Result.exists_of_bind h
          split at h
          · cases h
            exact notMem_slash_readSegments _
          · exact notMem_slash_readPath (Except.ok.inj h)
    · exact notMem_slash_readPath (Except.ok.inj h)
  · exact notMem_slash_readPath (Except.ok.inj h)

/-- No segment of a URL has a slash in it. -/
theorem notMem_slash_of_parse {s : String} {l : Location} (h : Location.parse s = .ok l)
    {segments : List String} (hsegments : l.segments = some segments) :
    ∀ segment ∈ segments, '/' ∉ segment.toList := by
  unfold Location.parse at h
  dsimp only at h
  split at h
  · cases h
  · split at h
    · obtain ⟨rest, -, h⟩ := Result.exists_of_bind h
      cases h
      exact notMem_slash_readPath hsegments
    · obtain ⟨path, hpath, h⟩ := Result.exists_of_bind h
      cases h
      obtain rfl : path = some segments := hsegments
      exact notMem_slash_readFile hpath
    · split at h
      · obtain ⟨rest, -, h⟩ := Result.exists_of_bind h
        cases h
        exact notMem_slash_readPath hsegments
      · cases h
        cases hsegments
        exact notMem_slash_readSegments _
      · cases h
        cases hsegments

/-- The segments of a URL that are not empty. -/
def Location.names (l : Location) : List String :=
  (l.segments.getD []).filter (fun s => !s.isEmpty)

theorem Location.proper_names {url : String} (l : Location) (h : Location.parse url = .ok l) :
    ∀ name ∈ l.names, name ≠ "" ∧ '/' ∉ name.toList := by
  intro name hname
  obtain ⟨hmem, hne⟩ := List.mem_filter.1 hname
  have hne : name ≠ "" := by simpa using hne
  cases hsegments : l.segments with
  | none =>
      rw [hsegments] at hmem
      cases hmem
  | some segments =>
      rw [hsegments] at hmem
      exact ⟨hne, notMem_slash_of_parse h hsegments name hmem⟩

/-! ### Plain segments -/

/-- Whether `c` is a character that hosts are commonly written with. -/
def isHostChar (c : Char) : Bool := c.isAlphanum || ['-', '.'].contains c

/-- Whether `c` is a character that segments are commonly written with. -/
def isSegmentChar (c : Char) : Bool := isHostChar c || c == '_'

theorem isSegmentChar_of_isHostChar {c : Char} (h : isHostChar c = true) :
    isSegmentChar c = true := by
  rw [isSegmentChar, h, Bool.true_or]

theorem toNat_of_isSegmentChar {c : Char} (h : isSegmentChar c = true) :
    0x20 < c.toNat ∧ c.toNat < 0x7F := by
  have hcases : c.isAlphanum = true ∨ c = '-' ∨ c = '.' ∨ c = '_' := by
    simpa [isSegmentChar, isHostChar, or_assoc] using h
  rcases hcases with h | rfl | rfl | rfl
  · unfold Char.isAlphanum Char.isAlpha Char.isUpper Char.isLower Char.isDigit at h
    simp only [Char.reduceVal, ge_iff_le, UInt32.le_iff_toNat_le, UInt32.reduceToNat,
      Char.toNat_val, Bool.or_eq_true, Bool.and_eq_true, decide_eq_true_eq, Bool.decide_and] at h
    omega
  all_goals decide

/-- Segments are not written with the characters that the reading looks for. -/
theorem ne_of_isSegmentChar {c d : Char} (h : isSegmentChar c = true)
    (hd : isSegmentChar d = false) : c ≠ d := by
  rintro rfl
  rw [h] at hd
  cases hd

theorem contains_of_isSegmentChar {c : Char} {ds : List Char} (h : isSegmentChar c = true)
    (hds : ds.any isSegmentChar = false) : ds.contains c = false := by
  rw [List.contains_eq_mem, decide_eq_false_iff_not]
  exact fun hmem => List.any_eq_false.1 hds c hmem h

/-- A segment that stands for itself; it may be empty. -/
structure IsPlainSegment (segment : List Char) : Prop where
  chars : ∀ c ∈ segment, isSegmentChar c = true
  not_dot : segment ≠ ['.']
  not_dots : segment ≠ ['.', '.']

instance (segment : List Char) : Decidable (IsPlainSegment segment) :=
  decidable_of_iff
    (segment.all isSegmentChar = true ∧ segment ≠ ['.'] ∧ segment ≠ ['.', '.'])
    ⟨fun ⟨hchars, hdot, hdots⟩ => ⟨List.all_eq_true.1 hchars, hdot, hdots⟩,
      fun h => ⟨List.all_eq_true.2 h.chars, h.not_dot, h.not_dots⟩⟩

theorem isPlainSegment_nil : IsPlainSegment [] := ⟨List.forall_mem_nil _, by simp, by simp⟩

theorem escapedInPath_of_plain {c : Char} (h : isSegmentChar c = true) :
    escapedInPath c = false := by
  obtain ⟨hlow, hhigh⟩ := toNat_of_isSegmentChar h
  rw [escapedInPath, decide_eq_false (by omega), decide_eq_false (by omega),
    contains_of_isSegmentChar h]
  · rfl
  · decide

theorem percentEncode_of_plain {cs : List Char} (h : ∀ c ∈ cs, isSegmentChar c = true) :
    percentEncode escapedInPath cs = cs := by
  induction cs with
  | nil => rfl
  | cons c cs ih =>
      obtain ⟨hc, hcs⟩ := List.forall_mem_cons.1 h
      rw [percentEncode, List.flatMap_cons, if_neg (by simp [escapedInPath_of_plain hc])]
      exact congrArg (c :: ·) (ih hcs)

/-- Only a small letter is the lower case of another character. -/
theorem eq_of_toLower_eq {c d : Char} (hd : d.isLower = false) (h : c.toLower = d) : c = d := by
  unfold Char.toLower at h
  split at h
  · next hupper =>
      rw [← h] at hd
      unfold Char.isLower at hd
      simp only [Char.reduceVal, UInt32.reduceSub, ge_iff_le, UInt32.le_iff_toNat_le,
        UInt32.reduceToNat, UInt32.toNat_add, Char.toNat_val, Nat.reducePow, Bool.and_eq_false_imp,
        decide_eq_true_eq, decide_eq_false_iff_not, not_le] at hd hupper
      omega
  · exact h

/-- No escape is written in plain characters. -/
theorem notMem_percent_of_plain {cs : List Char} (h : ∀ c ∈ cs, isSegmentChar c = true) :
    '%' ∉ cs.map Char.toLower := by
  intro hmem
  obtain ⟨c, hc, hlower⟩ := List.mem_map.1 hmem
  exact ne_of_isSegmentChar (h c hc) (by decide) (eq_of_toLower_eq (by decide) hlower)

theorem eq_of_map_toLower_eq {cs ds : List Char} (hds : ds.any Char.isLower = false)
    (h : cs.map Char.toLower = ds) : cs = ds := by
  induction cs generalizing ds with
  | nil => exact h
  | cons c cs ih =>
      subst h
      rw [List.map_cons, List.any_cons, Bool.or_eq_false_iff] at hds
      obtain ⟨hd, hds⟩ := hds
      rw [List.map_cons, ← eq_of_toLower_eq hd rfl, ← ih hds rfl]

/-- A plain segment, in lower case, is no name that has an escape in it or is one or two dots. -/
theorem IsPlainSegment.not_contains {segment : List Char} (h : IsPlainSegment segment)
    {names : List String} (hnames : ∀ name ∈ names, '%' ∈ name.toList ∨ name = "." ∨ name = "..") :
    names.contains (String.ofList (segment.map Char.toLower)) = false := by
  rw [List.contains_eq_mem, decide_eq_false_iff_not]
  intro hmem
  rcases hnames _ hmem with hpercent | hdot | hdots
  · rw [String.toList_ofList] at hpercent
    exact notMem_percent_of_plain h.chars hpercent
  · have hsegment := congrArg String.toList hdot
    rw [String.toList_ofList] at hsegment
    exact h.not_dot (eq_of_map_toLower_eq (by decide) hsegment)
  · have hsegment := congrArg String.toList hdots
    rw [String.toList_ofList] at hsegment
    exact h.not_dots (eq_of_map_toLower_eq (by decide) hsegment)

theorem IsPlainSegment.isDot {segment : List Char} (h : IsPlainSegment segment) :
    isDot segment = false := h.not_contains (by decide)

theorem IsPlainSegment.isDoubleDot {segment : List Char} (h : IsPlainSegment segment) :
    isDoubleDot segment = false := h.not_contains (by decide)

theorem IsPlainSegment.drive? {segment : List Char} (h : IsPlainSegment segment) :
    drive? segment = none := by
  unfold Url.drive?
  split
  · exact absurd (h.chars ':' (by simp)) (by decide)
  · exact absurd (h.chars '|' (by simp)) (by decide)
  · rfl

theorem addSegments_of_plain {pieces : List (List Char)}
    (h : ∀ piece ∈ pieces, IsPlainSegment piece) (path : List (List Char)) :
    addSegments kind path pieces = pieces.reverse ++ path := by
  induction pieces generalizing path with
  | nil => rfl
  | cons piece pieces ih =>
      obtain ⟨hpiece, hpieces⟩ := List.forall_mem_cons.1 h
      rw [addSegments, percentEncode_of_plain hpiece.chars]
      simp only [hpiece.isDot, hpiece.isDoubleDot, hpiece.drive?, Bool.false_eq_true, if_false]
      rw [ih hpieces, List.reverse_cons, List.append_assoc, List.singleton_append]

/-! ### Paths with any number of slashes -/

/-- The pieces between slashes that are not empty. -/
def named (cs : List Char) : List (List Char) :=
  (splitOn (isSlash .other) cs).filter (fun piece => !piece.isEmpty)

/-- A path as it is written: each segment after a number of slashes, and slashes at the end. -/
def writtenPath (parts : List (Nat × String)) (trailing : Nat) : List Char :=
  parts.flatMap (fun part => List.replicate part.1 '/' ++ part.2.toList) ++
    List.replicate trailing '/'

theorem named_slash (cs : List Char) : named ('/' :: cs) = named cs := rfl

theorem named_slashes (n : Nat) (cs : List Char) :
    named (List.replicate n '/' ++ cs) = named cs := by
  induction n with
  | zero => rfl
  | succ n ih => rw [List.replicate_succ, List.cons_append, named_slash, ih]

theorem isSlash_of_plain {c : Char} (h : isSegmentChar c = true) : isSlash .other c = false := by
  have hne : c ≠ '/' := ne_of_isSegmentChar h (by decide)
  simp [isSlash, hne]

/-- Whether a text is empty or begins with a slash. -/
def Breaks (cs : List Char) : Prop := cs = [] ∨ ∃ rest, cs = '/' :: rest

theorem named_segment {segment : List Char} (hne : segment ≠ [])
    (h : ∀ c ∈ segment, isSegmentChar c = true) {cs : List Char} (hcs : Breaks cs) :
    named (segment ++ cs) = segment :: named cs := by
  have hsplit : splitOn (isSlash .other) segment = [segment] := by
    rw [splitOn_eq_splitOnP]
    exact List.splitOnP_eq_singleton (fun c hc => isSlash_of_plain (h c hc))
  have hnamed : [segment].filter (fun piece => !piece.isEmpty) = [segment] := by simp [hne]
  rcases hcs with rfl | ⟨rest, rfl⟩
  · rw [List.append_nil, named, hsplit, hnamed]
    rfl
  · rw [named, splitOn_append (c := '/') rfl, hsplit, List.filter_append, hnamed]
    rfl

/-- Plain segments, none of them empty, that each come after a slash or more. -/
def PlainParts (parts : List (Nat × String)) : Prop :=
  ∀ part ∈ parts, 0 < part.1 ∧ part.2 ≠ "" ∧ IsPlainSegment part.2.toList

instance (parts : List (Nat × String)) : Decidable (PlainParts parts) :=
  inferInstanceAs (Decidable (∀ part ∈ parts, _))

theorem breaks_writtenPath {parts : List (Nat × String)} (h : PlainParts parts) (trailing : Nat) :
    Breaks (writtenPath parts trailing) := by
  unfold writtenPath
  cases parts with
  | nil =>
      cases trailing with
      | zero => exact Or.inl rfl
      | succ n => exact Or.inr ⟨_, rfl⟩
  | cons part parts =>
      obtain ⟨n, segment⟩ := part
      cases n with
      | zero => exact absurd (h _ List.mem_cons_self).1 (Nat.lt_irrefl 0)
      | succ n => exact Or.inr ⟨_, rfl⟩

theorem named_writtenPath {parts : List (Nat × String)} (h : PlainParts parts) (trailing : Nat) :
    named (writtenPath parts trailing) = parts.map (·.2.toList) := by
  induction parts with
  | nil =>
      have hslashes := named_slashes trailing []
      rw [List.append_nil] at hslashes
      exact hslashes
  | cons part parts ih =>
      obtain ⟨⟨-, hne, hpart⟩, hparts⟩ := List.forall_mem_cons.1 h
      have hpath : writtenPath (part :: parts) trailing =
          List.replicate part.1 '/' ++ (part.2.toList ++ writtenPath parts trailing) := by
        simp [writtenPath]
      have hne : part.2.toList ≠ [] := mt String.toList_eq_nil_iff.1 hne
      rw [hpath, named_slashes, named_segment hne hpart.chars (breaks_writtenPath hparts trailing),
        ih hparts, List.map_cons]

theorem chars_writtenPath {parts : List (Nat × String)} (h : PlainParts parts) (trailing : Nat) :
    ∀ c ∈ writtenPath parts trailing, c = '/' ∨ isSegmentChar c = true := by
  intro c hc
  rcases List.mem_append.1 hc with hc | hc
  · obtain ⟨part, hpart, hc⟩ := List.mem_flatMap.1 hc
    rcases List.mem_append.1 hc with hc | hc
    · exact Or.inl (List.eq_of_mem_replicate hc)
    · exact Or.inr ((h part hpart).2.2.chars c hc)
  · exact Or.inl (List.eq_of_mem_replicate hc)

theorem readSegments_of_plain {cs : List Char} (h : ∀ c ∈ cs, c = '/' ∨ isSegmentChar c = true)
    (hplain : ∀ segment ∈ named cs, IsPlainSegment segment) :
    readSegments .other cs = (splitOn (isSlash .other) cs).map String.ofList := by
  have hpath : cs.takeWhile (fun c => c != '?' && c != '#') = cs := by
    refine List.takeWhile_eq_self_iff.2 (fun c hc => ?_)
    rcases h c hc with rfl | hc
    · rfl
    · have hquery : c ≠ '?' := ne_of_isSegmentChar hc (by decide)
      have hfragment : c ≠ '#' := ne_of_isSegmentChar hc (by decide)
      simp [hquery, hfragment]
  have hpieces : ∀ piece ∈ splitOn (isSlash .other) cs, IsPlainSegment piece := by
    intro piece hpiece
    by_cases hempty : piece = []
    · rw [hempty]
      exact isPlainSegment_nil
    · exact hplain piece (List.mem_filter.2 ⟨hpiece, by simp [hempty]⟩)
  rw [readSegments, hpath, addSegments_of_plain hpieces, List.append_nil, List.reverse_reverse]

theorem filter_map_ofList (pieces : List (List Char)) :
    (pieces.map String.ofList).filter (fun s => !s.isEmpty) =
      (pieces.filter (fun piece => !piece.isEmpty)).map String.ofList := by
  rw [List.filter_map]
  congr 1
  refine List.filter_congr (fun piece _ => ?_)
  cases piece <;> simp

/-- The segments that are read of a path are those that it was written with. -/
theorem readPath_writtenPath {parts : List (Nat × String)} (h : PlainParts parts)
    (trailing : Nat) :
    ((readPath .other (writtenPath parts trailing)).getD []).filter (fun s => !s.isEmpty) =
      parts.map (·.2) := by
  have hnamed := named_writtenPath h trailing
  have hchars := chars_writtenPath h trailing
  have hplain : ∀ segment ∈ named (writtenPath parts trailing), IsPlainSegment segment := by
    rw [hnamed]
    exact List.forall_mem_map.2 (fun part hpart => (h part hpart).2.2)
  rcases breaks_writtenPath h trailing with hpath | ⟨rest, hpath⟩
  · rw [hpath] at hnamed ⊢
    have hnone : parts = [] := List.map_eq_nil_iff.1 hnamed.symm
    rw [hnone]
    rfl
  · rw [hpath, named_slash] at hnamed hplain
    rw [hpath] at hchars ⊢
    have hslash : isSlash .other '/' = true := rfl
    rw [readPath, if_pos hslash, Option.getD_some,
      readSegments_of_plain (fun c hc => hchars c (List.mem_cons_of_mem _ hc)) hplain,
      filter_map_ofList, ← named, hnamed, List.map_map]
    exact List.map_congr_left (fun part _ => String.ofList_toList)

/-! ### Plain hosts -/

theorem endsAuthority_of_breaks {cs : List Char} (h : Breaks cs) :
    cs.takeWhile (fun c => !endsAuthority .other c) = [] := by
  rcases h with rfl | ⟨rest, rfl⟩ <;> rfl

theorem endsAuthority_of_plain {c : Char} (h : isSegmentChar c = true) :
    endsAuthority .other c = false := by
  have hquery : c ≠ '?' := ne_of_isSegmentChar h (by decide)
  have hfragment : c ≠ '#' := ne_of_isSegmentChar h (by decide)
  simp [endsAuthority, isSlash_of_plain h, hquery, hfragment]

theorem hostLength_of_plain {host cs : List Char} (h : ∀ c ∈ host, isHostChar c = true)
    (hcs : Breaks cs) : hostLength .other false (host ++ cs) = host.length := by
  induction host with
  | nil => rcases hcs with rfl | ⟨rest, rfl⟩ <;> rfl
  | cons c host ih =>
      obtain ⟨hc, hhost⟩ := List.forall_mem_cons.1 h
      have hc := isSegmentChar_of_isHostChar hc
      have hcolon : c ≠ ':' := ne_of_isSegmentChar hc (by decide)
      have hopen : c ≠ '[' := ne_of_isSegmentChar hc (by decide)
      rw [List.cons_append, hostLength, if_neg (by simp [endsAuthority_of_plain hc, hcolon])]
      simp [hopen, ih hhost, Nat.add_comm]

theorem checkHost_of_plain {host : List Char} (h : ∀ c ∈ host, isHostChar c = true) :
    checkHost .other host = .ok () := by
  unfold checkHost
  split
  · exact absurd (h '[' List.mem_cons_self) (by decide)
  · rw [if_pos rfl, if_neg]
    rw [List.any_eq_true]
    rintro ⟨c, hc, hforbidden⟩
    rw [contains_of_isSegmentChar (isSegmentChar_of_isHostChar (h c hc)) (by decide)] at hforbidden
    cases hforbidden

theorem readHost_of_plain {host cs : List Char} (hne : host ≠ [])
    (h : ∀ c ∈ host, isHostChar c = true) (hcs : Breaks cs) (withUser : Bool) :
    readHost .other withUser (host ++ cs) = .ok cs := by
  have hempty : host.isEmpty = false := by simp [hne]
  unfold readHost
  rw [hostLength_of_plain h hcs]
  dsimp only
  rw [List.take_left, List.drop_left, hempty, checkHost_of_plain h]
  rcases hcs with rfl | ⟨rest, rfl⟩ <;> rfl

/-- The user that git servers are commonly asked as, or none. -/
def user (withUser : Bool) : List Char := if withUser then "git@".toList else []

theorem notMem_at_of_plain {host : List Char} (h : ∀ c ∈ host, isHostChar c = true) :
    '@' ∉ host := fun hat => absurd (h '@' hat) (by decide)

theorem takeWhile_of_plain {host cs : List Char} (h : ∀ c ∈ host, isHostChar c = true)
    (hcs : Breaks cs) : (host ++ cs).takeWhile (fun c => !endsAuthority .other c) = host := by
  have hhost : ∀ c ∈ host, (!endsAuthority .other c) = true := by
    intro c hc
    rw [endsAuthority_of_plain (isSegmentChar_of_isHostChar (h c hc)), Bool.not_false]
  rw [List.takeWhile_append_of_pos hhost, endsAuthority_of_breaks hcs, List.append_nil]

theorem readAuthority_of_plain {host cs : List Char} (hne : host ≠ [])
    (h : ∀ c ∈ host, isHostChar c = true) (hcs : Breaks cs) (withUser : Bool) :
    readAuthority .other (user withUser ++ (host ++ cs)) = .ok cs := by
  have hat := notMem_at_of_plain h
  cases withUser with
  | false =>
      have hnone : host.contains '@' = false := by simp [hat]
      rw [user, if_neg Bool.false_ne_true, List.nil_append, readAuthority, takeWhile_of_plain h hcs,
        hnone]
      exact readHost_of_plain hne h hcs false
  | true =>
      have hauthority : (user true ++ (host ++ cs)).takeWhile
          (fun c => !endsAuthority .other c) = 'g' :: 'i' :: 't' :: '@' :: host := by
        exact congrArg (['g', 'i', 't', '@'] ++ ·) (takeWhile_of_plain h hcs)
      have huser : ((('g' :: 'i' :: 't' :: '@' :: host).reverse.dropWhile
          (· ≠ '@')).drop 1).reverse = ['g', 'i', 't'] := by
        have hreverse : ('g' :: 'i' :: 't' :: '@' :: host).reverse =
            host.reverse ++ ['@', 't', 'i', 'g'] := by simp
        rw [hreverse, List.dropWhile_append_of_pos]
        · rfl
        · intro c hc
          rw [decide_eq_true_iff]
          rintro rfl
          exact hat (List.mem_reverse.1 hc)
      have hsome : ('g' :: 'i' :: 't' :: '@' :: host).contains '@' = true := by simp
      rw [readAuthority, hauthority, hsome]
      dsimp only
      rw [huser]
      exact readHost_of_plain hne h hcs true

/-! ### The whole URL -/

theorem dropWhile_of_visible {cs : List Char} (h : ∀ c ∈ cs, 0x20 < c.toNat) :
    cs.dropWhile (fun c => decide (c.toNat ≤ 0x20)) = cs := by
  cases cs with
  | nil => rfl
  | cons c cs =>
      have hc := h c List.mem_cons_self
      rw [List.dropWhile_cons_of_neg (by simp [hc])]

theorem filter_of_visible {cs : List Char} (h : ∀ c ∈ cs, 0x20 < c.toNat) :
    cs.filter (fun c => !(['\t', '\n', '\r'].contains c)) = cs := by
  have hblank : ∀ d ∈ ['\t', '\n', '\r'], d.toNat ≤ 0x20 :=
    List.all_iff_forall_prop.1 (by decide)
  refine List.filter_eq_self.2 (fun c hc => ?_)
  rw [List.contains_eq_mem, Bool.not_eq_true', decide_eq_false_iff_not]
  intro hmem
  exact absurd (h c hc) (Nat.not_lt.2 (hblank c hmem))

theorem readScheme_ssh (cs : List Char) :
    readScheme ("ssh://".toList ++ cs) = some ("ssh", '/' :: '/' :: cs) := rfl

/-- A URL of visible characters is read as it stands. -/
theorem parse_ssh {cs : List Char} (h : ∀ c ∈ cs, 0x20 < c.toNat) :
    Location.parse (String.ofList ("ssh://".toList ++ cs)) =
      (readAuthority .other cs).map (fun rest => ⟨"ssh", readPath .other rest⟩) := by
  have hvisible : ∀ c ∈ "ssh://".toList ++ cs, 0x20 < c.toNat :=
    List.forall_mem_append.2 ⟨List.all_iff_forall_prop.1 (by decide), h⟩
  have hreverse : ∀ c ∈ ("ssh://".toList ++ cs).reverse, 0x20 < c.toNat :=
    fun c hc => hvisible c (List.mem_reverse.1 hc)
  have hkind : SchemeKind.of "ssh" = .other := by decide
  unfold Location.parse
  rw [String.toList_ofList]
  dsimp only
  rw [dropWhile_of_visible hvisible, dropWhile_of_visible hreverse, List.reverse_reverse,
    filter_of_visible hvisible, readScheme_ssh]
  dsimp only
  rw [hkind]
  change (readAuthority .other cs >>= fun rest =>
    pure (⟨"ssh", readPath .other rest⟩ : Location)) = _
  cases readAuthority .other cs <;> rfl

/-- So many slashes. -/
def slashes (n : Nat) : String := String.ofList (List.replicate n '/')

/-- A URL as it is written for `ssh`: with or without a user, then the host, then segments after any
number of slashes, then slashes. -/
def written (withUser : Bool) (host : String) (parts : List (Nat × String)) (trailing : Nat) :
    String :=
  "ssh://" ++ (if withUser then "git@" else "") ++ host ++
    String.join (parts.map (fun part => slashes part.1 ++ part.2)) ++ slashes trailing

theorem toList_written (withUser : Bool) (host : String) (parts : List (Nat × String))
    (trailing : Nat) : (written withUser host parts trailing).toList =
      "ssh://".toList ++ (user withUser ++ (host.toList ++ writtenPath parts trailing)) := by
  have huser : (if withUser then "git@" else "").toList = user withUser := by
    cases withUser <;> rfl
  simp only [written, writtenPath, slashes, String.toList_append, String.toList_join, huser,
    String.toList_ofList, List.flatMap_map, List.append_assoc]

/-- A URL is read as it is written. -/
theorem names_of_written {host : String} (hne : host ≠ "")
    (hhost : ∀ c ∈ host.toList, isHostChar c = true) {parts : List (Nat × String)}
    (hparts : PlainParts parts) (withUser : Bool) (trailing : Nat) :
    ∃ l, Location.parse (written withUser host parts trailing) = .ok l ∧
      l.names = parts.map (·.2) := by
  have hvisible : ∀ c ∈ user withUser ++ (host.toList ++ writtenPath parts trailing),
      0x20 < c.toNat := by
    refine List.forall_mem_append.2 ⟨?_, List.forall_mem_append.2 ⟨?_, ?_⟩⟩
    · refine List.all_iff_forall_prop.1 ?_
      cases withUser <;> decide
    · exact fun c hc => (toNat_of_isSegmentChar (isSegmentChar_of_isHostChar (hhost c hc))).1
    · intro c hc
      rcases chars_writtenPath hparts trailing c hc with rfl | hc
      · decide
      · exact (toNat_of_isSegmentChar hc).1
  have hread := readAuthority_of_plain (mt String.toList_eq_nil_iff.1 hne) hhost
    (breaks_writtenPath hparts trailing) withUser
  refine ⟨⟨"ssh", readPath .other (writtenPath parts trailing)⟩, ?_,
    readPath_writtenPath hparts trailing⟩
  rw [← String.ofList_toList (s := written withUser host parts trailing), toList_written,
    parse_ssh hvisible, hread]
  rfl

end Fleet.Url
