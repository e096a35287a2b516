import Fleet.Json.Layout

/-! # Reasons

What a client is told when a request is refused. -/

namespace Fleet.Record

open Json

/-- Why a request is refused. -/
structure Reason where
  reason : String
  deriving DecidableEq, Repr

/-- Reasons as objects. -/
def Reason.layout : Layout Reason where
  name := "Reason"
  blank := ⟨""⟩
  fields := [.required "reason" .text (·.reason) (fun v _ => ⟨v⟩)]

end Fleet.Record
