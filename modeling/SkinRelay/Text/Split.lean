/-!
Lists cut at separators.
-/

namespace SkinRelay.Text

/-- The parts of a list between the elements equal to `sep`. -/
def splitOn [DecidableEq α] (sep : α) : List α → List (List α)
  | [] => [[]]
  | a :: rest =>
    if a = sep then [] :: splitOn sep rest
    else match splitOn sep rest with
      | part :: parts => (a :: part) :: parts
      | [] => [[a]]

end SkinRelay.Text
