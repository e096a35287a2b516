/-! # Splitting text -/

namespace Fleet.Text

/-- The characters between separators: one list more than there are separators. -/
def splitOn (sep : Char → Bool) : List Char → List (List Char)
  | [] => [[]]
  | c :: rest =>
    if sep c then [] :: splitOn sep rest
    else
      match splitOn sep rest with
      | [] => [[c]]
      | part :: parts => (c :: part) :: parts

end Fleet.Text
