import Fleet.Proofs.Json.Stable
import Fleet.Proofs.Result
import Fleet.Proofs.Text.Utf8
import Fleet.Service.Body

/-! # Bodies that write values

A body that is JSON writes a value, and whatever is read from it is taken out of the document of this
value (`exists_writes`).  The text of a value is such a body if the binary64 numbers in it survive
(`writes_render`), so that a record that keeps is then read from the body that writes it
(`readBody_render`). -/

namespace Fleet

open Json

/-- The bytes of a text are read as the text. -/
theorem Json.Source.ofBytes_encode (s : String) : Source.ofBytes (Text.encode s) = .ofString s := by
  unfold Source.ofBytes Text.pieces Source.ofString
  rw [Text.encode_eq_flatMap, Text.piecesFrom_chars, List.flatMap_map]
  exact List.flatMap_pure_eq_map _ _

namespace Service

variable {body : List UInt8} {v : Value}

/-- A body is received as it is, if it is. -/
theorem receivedBody?_eq_some_iff {r : Http.Request} :
    receivedBody? r = some body ↔ r.body.length ≤ bodyLimit ∧ r.body = body :=
  Option.ite_none_right_eq_some.trans (and_congr_right fun _ => Option.some_inj)

theorem receivedBody?_of_le {r : Http.Request} (h : r.body.length ≤ bodyLimit) :
    receivedBody? r = some r.body :=
  receivedBody?_eq_some_iff.2 ⟨h, rfl⟩

theorem receivedBody?_of_lt {r : Http.Request} (h : bodyLimit < r.body.length) :
    receivedBody? r = none :=
  if_neg (Nat.not_le.2 h)

theorem isEmpty_encode_render (v : Value) : (Text.encode v.render).isEmpty = false := by
  rw [Bool.eq_false_iff, ne_eq, List.isEmpty_iff]
  intro hempty
  have hrender : v.print = [] := by
    have h := congrArg String.toList (Text.eq_empty_of_encode hempty)
    unfold Value.render at h
    rwa [String.toList_ofList] at h
  have hpos := length_print_pos v
  rw [hrender] at hpos
  exact absurd hpos (Nat.lt_irrefl 0)

/-- A body is longer than a text that it begins with. -/
theorem length_lt_encode_render (key text : String) (rest : List (String × Value)) :
    text.toList.length < (Text.encode (Value.object ((key, .string text) :: rest)).render).length := by
  have hmembers : (printString text).length ≤ (printMembers ((key, .string text) :: rest)).length := by
    cases rest with
    | nil =>
        simp only [printMembers, Value.print, List.length_append, List.length_cons]
        omega
    | cons e rest =>
        simp only [printMembers, Value.print, List.length_append, List.length_cons]
        omega
  have hprint : (printMembers ((key, .string text) :: rest)).length <
      (Value.object ((key, .string text) :: rest)).render.toList.length := by
    unfold Value.render
    rw [String.toList_ofList, Value.print, List.length_append, List.length_cons]
    omega
  calc text.toList.length
      ≤ (printString text).length := length_le_printString text
    _ ≤ (printMembers ((key, .string text) :: rest)).length := hmembers
    _ < (Value.object ((key, .string text) :: rest)).render.toList.length := hprint
    _ ≤ _ := Text.length_le_encode _

theorem readText_body {v : Value} (h : v.Fits depthLimit) (hsurvives : v.Survives) :
    readText (.ofBytes (Text.encode v.render)) = ⟨.ofValue v, false⟩ := by
  rw [Source.ofBytes_encode]
  exact readText_render h hsurvives

/-- The body is the text of a value, in which names may be given twice: whatever is read from the body
is taken out of the document of this value. -/
def Writes (body : List UInt8) (given : Value) : Prop :=
  ∀ {α : Type} (decode : Decoder α), readBody decode body =
    (decode .text (.ofValue given)).mapError (fun e => .badRequest e.message)

/-- A body that is read as a value writes one that settles to it. -/
theorem exists_writes (h : readBody anyValue body = .ok v) :
    ∃ given : Value, given.settle = v ∧ Writes body given := by
  unfold readBody at h
  split at h
  · cases h
  · next hempty =>
      obtain ⟨w, hvalue, h⟩ := Result.exists_of_bind (Result.mapError_eq_ok_iff.1 h)
      split at h
      · cases h
      · next hmore =>
          cases h
          obtain ⟨given, hgiven, rfl⟩ :=
            Document.toValue_eq_ok_iff.1 (Result.mapError_eq_ok_iff.1 hvalue)
          refine ⟨given, rfl, fun decode => ?_⟩
          unfold readBody decodeText
          dsimp only
          rw [if_neg hempty, hgiven, Bool.eq_false_iff.2 hmore]
          cases decode .text (.ofValue given) <;> rfl

theorem writes_render (h : v.Fits depthLimit) (hsurvives : v.Survives) :
    Writes (Text.encode v.render) v := by
  intro α decode
  unfold readBody decodeText
  rw [isEmpty_encode_render, readText_body h hsurvives]
  dsimp only
  cases decode .text (.ofValue v) <;> rfl

theorem Writes.readBody_eq_ok_iff {given : Value} (h : Writes body given) {α : Type} {decode : Decoder α}
    {a : α} : readBody decode body = .ok a ↔ decode .text (.ofValue given) = .ok a := by
  rw [h decode, Result.mapError_eq_ok_iff]

/-- A record is read from the body that writes it. -/
theorem readBody_render {α : Type} {c : Codec α} {a : α} (h : c.Keeps depthLimit a)
    (hsurvives : (c.encode a).Survives) :
    readBody c.decode (Text.encode (c.encode a).render) = .ok a :=
  (Writes.readBody_eq_ok_iff (writes_render h.fits hsurvives)).2 (h.reads .text)

/-- A body that cannot be read is a bad request. -/
theorem status_of_readBody {e : Refusal} {α : Type} {decode : Decoder α} {body : List UInt8}
    (h : readBody decode body = .error e) : e.status = 400 := by
  unfold readBody at h
  split at h
  · cases h
    rfl
  · cases hread : decodeText decode (.ofBytes body) with
    | ok a =>
        rw [hread] at h
        cases h
    | error e' =>
        rw [hread] at h
        cases h
        rfl

theorem status_of_readStrict {e : Refusal} {ρ : Type} {l : Layout ρ} {body : List UInt8}
    (h : readStrict l body = .error e) : e.status = 400 := by
  have hfails : Result.FailsOnly (fun e : Refusal => e.status = 400) (readStrict l body) := by
    refine Result.FailsOnly.bind (fun _ he => status_of_readBody he) ?_
    rintro ⟨record, unknown⟩
    dsimp only
    split
    · exact Result.failsOnly_ok _
    · exact Result.failsOnly_error rfl
  exact hfails e h

end Service
end Fleet
