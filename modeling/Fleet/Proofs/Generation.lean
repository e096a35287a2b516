import Mathlib.Data.Nat.Find
import Mathlib.Logic.Function.Iterate
import Fleet.Proofs.Draw

/-! # Identifiers that are generated

A stream of words stands for an endless sequence of candidates, each made of an adjective, a noun
and a number, one behind the other (`candidate`).  Of the first ten the first one that is short
enough is taken, and the words behind it are left alone.

Main statement: `generate_first_fitting`. -/

namespace Fleet.Ident

/-! ### Candidates -/

section Candidates

variable (words : Nat → UInt32)

/-- The number below `n` that is drawn at a place of the stream, and the place of the next draw. -/
def pickAt (n : UInt32) (i : Nat) : Nat × Nat :=
  let (number, taken) := Draw.pick n (words i) (words (i + 1))
  (number.toNat, i + taken)

/-- What is drawn at a place of the stream: an adjective, a noun and a number, each drawn where the
one before it ends. -/
def slugAt (i : Nat) : String × Nat :=
  let (adjective, i) := pickAt words (UInt32.ofNat adjectives.length) i
  let (noun, i) := pickAt words (UInt32.ofNat nouns.length) i
  let (number, i) := pickAt words (UInt32.ofNat numberBound) i
  (adjectives.getD adjective "" ++ "-" ++ nouns.getD noun "" ++ "-" ++ toString number, i)

/-- Where a candidate begins in the stream; candidates are counted from nought. -/
def place (used k : Nat) : Nat := (fun i => (slugAt words i).2)^[k] used

/-- A candidate for an identifier that is to start as asked for. -/
def candidate (start : String) (used k : Nat) : String :=
  start ++ (slugAt words (place words used k)).1

theorem place_succ (used k : Nat) :
    place words used (k + 1) = place words (place words used 1) k := rfl

theorem place_succ_eq_slugAt (used k : Nat) :
    place words used (k + 1) = (slugAt words (place words used k)).2 :=
  Function.iterate_succ_apply' _ k used

/-- The candidates after the first are those of a stream that begins behind it. -/
theorem candidate_succ (start : String) (used k : Nat) :
    candidate words start used (k + 1) = candidate words start (place words used 1) k := rfl

/-! ### What one candidate takes -/

theorem run_below_eq_pickAt {n : UInt32} (h : n ≠ 0) (i : Nat) :
    ((Draw.below n.toNat).run words).run i = pickAt words n i :=
  Draw.run_below_eq_pick h words i

theorem pickAt_lt {n : UInt32} (h : n ≠ 0) (i : Nat) : (pickAt words n i).1 < n.toNat := by
  rw [← run_below_eq_pickAt words h]
  exact below_lt (Draw.toNat_pos h) words i

theorem pickAt_snd (n : UInt32) (i : Nat) :
    (pickAt words n i).2 = i + 1 ∨ (pickAt words n i).2 = i + 2 := by
  unfold pickAt Draw.pick
  dsimp only
  split
  · exact Or.inr rfl
  · exact Or.inl rfl

theorem slugAt_snd (i : Nat) : i + 3 ≤ (slugAt words i).2 ∧ (slugAt words i).2 ≤ i + 6 := by
  unfold slugAt
  dsimp only
  have hadjective := pickAt_snd words (UInt32.ofNat adjectives.length) i
  have hnoun := pickAt_snd words (UInt32.ofNat nouns.length)
    (pickAt words (UInt32.ofNat adjectives.length) i).2
  have hnumber := pickAt_snd words (UInt32.ofNat numberBound) (pickAt words
    (UInt32.ofNat nouns.length) (pickAt words (UInt32.ofNat adjectives.length) i).2).2
  omega

theorem run_item {items : List String} {n : UInt32} (hn : n ≠ 0) (hlength : n.toNat = items.length)
    (other : String) (i : Nat) :
    ((Draw.item items other).run words).run i =
      (items.getD (pickAt words n i).1 "", (pickAt words n i).2) := by
  have hlt := pickAt_lt words hn i
  rw [hlength] at hlt
  have hempty : ¬ items.isEmpty = true := by
    rw [List.isEmpty_iff_length_eq_zero]
    omega
  unfold Draw.item
  rw [if_neg hempty, run_bind, ← hlength, run_below_eq_pickAt words hn]
  refine Prod.ext ?_ rfl
  change items.getD _ other = items.getD _ ""
  simp [List.getD_eq_getElem?_getD, List.getElem?_eq_getElem hlt]

/-- The draws of an identifier are those of the candidates. -/
theorem run_slug (i : Nat) : (slug.run words).run i = slugAt words i := by
  unfold slug
  have hadjectives : UInt32.ofNat adjectives.length ≠ 0 := by decide
  have hnouns : UInt32.ofNat nouns.length ≠ 0 := by decide
  have hnumbers : UInt32.ofNat numberBound ≠ 0 := by decide
  have hnumber := run_below_eq_pickAt words hnumbers
  rw [show (UInt32.ofNat numberBound).toNat = numberBound from rfl] at hnumber
  rw [run_bind, run_item words hadjectives rfl, run_bind, run_item words hnouns rfl, run_bind,
    hnumber]
  rfl

theorem isSlug_slugAt (i : Nat) : IsSlug (slugAt words i).1 := by
  rw [← run_slug]
  exact isSlug_slug words i

end Candidates

/-! ### Taking the first that is short enough -/

section Search

variable {start : String} {bound : Nat} {words : Nat → UInt32}

theorem run_draw_succ (tries used : Nat) :
    ((draw start bound (tries + 1)).run words).run used =
      if (candidate words start used 0).utf8ByteSize ≤ bound then
        (.ok (candidate words start used 0), place words used 1)
      else ((draw start bound tries).run words).run (place words used 1) := by
  rw [draw, run_bind, run_slug]
  dsimp only
  split
  · next hfits => exact (if_pos hfits).symm
  · next hfits => exact (if_neg hfits).symm

theorem run_draw_of_fits {tries k used : Nat} (hk : k < tries)
    (hfits : (candidate words start used k).utf8ByteSize ≤ bound)
    (hfirst : ∀ j < k, ¬ (candidate words start used j).utf8ByteSize ≤ bound) :
    ((draw start bound tries).run words).run used =
      (.ok (candidate words start used k), place words used (k + 1)) := by
  induction tries generalizing k used with
  | zero => cases hk
  | succ tries ih =>
      rw [run_draw_succ]
      cases k with
      | zero => exact if_pos hfits
      | succ k =>
          rw [if_neg (hfirst 0 (Nat.succ_pos k)), candidate_succ, place_succ words used (k + 1)]
          apply ih (Nat.lt_of_succ_lt_succ hk)
          · rwa [candidate_succ] at hfits
          · intro j hj
            rw [← candidate_succ]
            exact hfirst (j + 1) (Nat.succ_lt_succ hj)

theorem run_draw_of_none {tries used : Nat}
    (hnone : ∀ k < tries, ¬ (candidate words start used k).utf8ByteSize ≤ bound) :
    ((draw start bound tries).run words).run used =
      (.error ⟨start, attempts⟩, place words used tries) := by
  induction tries generalizing used with
  | zero => rfl
  | succ tries ih =>
      rw [run_draw_succ, if_neg (hnone 0 (Nat.succ_pos tries)), place_succ words used tries]
      apply ih
      intro k hk
      rw [← candidate_succ]
      exact hnone (k + 1) (Nat.succ_lt_succ hk)

/-- A draw fails for want of a candidate that is short enough, and for no other reason. -/
theorem run_draw_error_iff {tries used : Nat} {e : Exhausted} :
    (((draw start bound tries).run words).run used).1 = .error e ↔
      e = ⟨start, attempts⟩ ∧
        ∀ k < tries, ¬ (candidate words start used k).utf8ByteSize ≤ bound := by
  constructor
  · intro herror
    have hnone : ∀ k < tries, ¬ (candidate words start used k).utf8ByteSize ≤ bound := by
      intro k hk hfits
      -- then there is a first one, and it is taken
      have hexists : ∃ k, (candidate words start used k).utf8ByteSize ≤ bound := ⟨k, hfits⟩
      have hlt : Nat.find hexists < tries :=
        Nat.lt_of_le_of_lt (Nat.find_min' hexists hfits) hk
      rw [run_draw_of_fits hlt (Nat.find_spec hexists) (fun j hj => Nat.find_min hexists hj)]
        at herror
      cases herror
    rw [run_draw_of_none hnone] at herror
    cases herror
    exact ⟨rfl, hnone⟩
  · rintro ⟨rfl, hnone⟩
    rw [run_draw_of_none hnone]

theorem isFrugal_slug : Draw.IsFrugal slug := by
  unfold slug
  apply (Draw.isFrugal_item adjectives _).bind
  intro adjective
  apply (Draw.isFrugal_item nouns _).bind
  intro noun
  apply (Draw.isFrugal_below numberBound).bind
  intro number
  exact Draw.isFrugal_pure _

theorem isFrugal_draw (start : String) (bound tries : Nat) :
    Draw.IsFrugal (draw start bound tries) := by
  induction tries with
  | zero => exact Draw.isFrugal_pure _
  | succ tries ih =>
      unfold draw
      apply isFrugal_slug.bind
      intro id
      apply Draw.IsFrugal.ite
      · exact Draw.isFrugal_pure _
      · exact ih

end Search

/-- An identifier that starts as it should is kept, and nothing is drawn. -/
theorem run_normalize_of_start {id start : String} (hempty : id ≠ "")
    (hstart : start.toList <+: id.toList) (words : Nat → UInt32) (used : Nat) :
    ((normalize id start).run words).run used = (.ok id, used) := by
  unfold normalize
  rw [if_neg (String.isEmpty_iff.not.2 hempty), if_pos (List.isPrefixOf_iff_prefix.2 hstart)]
  rfl

/-! ### Result -/

/-- Candidates are an adjective, a noun and a number below 10000 behind the start that is asked for,
and each takes three to six words.  Of the first ten the first that is short enough is taken; there
is no identifier if and only if none of the ten is.  Either way the words of later candidates are
not drawn, and they make no difference.  For tenants and clusters the first candidate is always
short enough; it is valid, and kept as it is when it is given back. -/
theorem generate_first_fitting (start : String) (bound : Nat) (words : Nat → UInt32)
    (used : Nat) :
    let drawn := ((generate start bound).run words).run used
    let id := candidate words start used
    let place := place words used
    let fits := fun k => (id k).utf8ByteSize ≤ bound
    (∀ k, (∃ adjective ∈ adjectives, ∃ noun ∈ nouns, ∃ number < 10000,
        id k = start ++ (adjective ++ "-" ++ noun ++ "-" ++ toString number)) ∧
      place k + 3 ≤ place (k + 1) ∧ place (k + 1) ≤ place k + 6) ∧
    (∀ k < 10, fits k → (∀ j < k, ¬ fits j) → drawn = (.ok (id k), place (k + 1))) ∧
    (∀ e, drawn.1 = .error e ↔ e = ⟨start, 10⟩ ∧ ∀ k < 10, ¬ fits k) ∧
    ((∀ k < 10, ¬ fits k) → drawn.2 = place 10) ∧
    (∀ others : Nat → UInt32, (∀ i, used ≤ i → i < drawn.2 → others i = words i) →
      ((generate start bound).run others).run used = drawn) ∧
    (start = "t-" ∨ start = "c-" → bound = 63 →
      drawn = (.ok (id 0), place 1) ∧ isValid (id 0) = true ∧
      ∀ (others : Nat → UInt32) (used' : Nat),
        ((normalize (id 0) start).run others).run used' = (.ok (id 0), used')) := by
  intro drawn id place fits
  refine ⟨fun k => ⟨?_, ?_⟩, fun k hk hfits hfirst => run_draw_of_fits hk hfits hfirst,
    fun e => run_draw_error_iff, fun hnone => congrArg Prod.snd (run_draw_of_none hnone),
    fun others hsame => (isFrugal_draw start bound attempts).congr words others used hsame, ?_⟩
  · obtain ⟨adjective, hadjective, noun, hnoun, number, hnumber, hslug⟩ :=
      isSlug_slugAt words (place k)
    exact ⟨adjective, hadjective, noun, hnoun, number, hnumber, congrArg (start ++ ·) hslug⟩
  · have hsucc : place (k + 1) = (slugAt words (place k)).2 := place_succ_eq_slugAt words used k
    rw [hsucc]
    exact slugAt_snd words (place k)
  · rintro hstart rfl
    have hvalid : isValid (id 0) = true := (isSlug_slugAt words used).isValid hstart
    refine ⟨?_, hvalid, run_normalize_of_start (isLabel_of_isValid hvalid).nonempty ?_⟩
    · have hrun := run_generate hstart words used
      rw [run_slug] at hrun
      exact hrun
    · change start.toList <+: (start ++ _).toList
      rw [String.toList_append]
      exact List.prefix_append _ _

/-! #### A candidate that is too long -/

namespace Retried

/-- The second word decides the first adjective; from the fifth on all words are nought. -/
def words (i : Nat) : UInt32 :=
  [48806446, 4294967295, 4294967295, 4294967295].getD i 0

theorem generate_first_fitting_retried :
    candidate words "t-" 0 0 = "t-ancient-wood-9999" ∧ place words 0 1 = 4 ∧
    ((generate "t-" 15).run words).run 0 = (.ok "t-amber-art-0", 7) ∧
    (((generate "t-" 12).run words).run 0).1 = .error ⟨"t-", 10⟩ ∧
    ((generate "t-" 63).run words).run 0 = (.ok "t-ancient-wood-9999", 4) := by
  have hlong : candidate words "t-" 0 0 = "t-ancient-wood-9999" := by decide +kernel
  have hshort : candidate words "t-" 0 1 = "t-amber-art-0" := by decide +kernel
  have hfour : place words 0 1 = 4 := by decide +kernel
  have hseven : place words 0 2 = 7 := by decide +kernel
  obtain ⟨-, hfirst, -⟩ := generate_first_fitting "t-" 15 words 0
  obtain ⟨-, -, herror, -⟩ := generate_first_fitting "t-" 12 words 0
  obtain ⟨-, -, -, -, -, htenant⟩ := generate_first_fitting "t-" 63 words 0
  obtain ⟨hgenerate, -⟩ := htenant (Or.inl rfl) rfl
  refine ⟨hlong, hfour, ?_, (herror _).2 ⟨rfl, by decide +kernel⟩, ?_⟩
  · have hsecond := hfirst 1 (by decide) (by decide +kernel) (by decide +kernel)
    rw [hsecond, hshort, hseven]
  · rw [hgenerate, hlong, hfour]

end Retried
end Fleet.Ident
