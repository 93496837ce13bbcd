import SkinRelay.Text.CodePoints

/-!
Large tables of numbers, kept as text: decimal numbers are separated by blanks or line ends, and
each row ends in a semicolon.
-/

namespace SkinRelay.Text

/-- How far a table has been read: the rows and the numbers of the current row, last ones first,
and a number whose digits have not all been seen. -/
structure RowReading where
  rows : List (List Nat) := []
  row : List Nat := []
  number : Option Nat := none

namespace RowReading

/-- The current row with the number that has just ended. -/
def currentRow (r : RowReading) : List Nat := r.number.elim r.row (· :: r.row)

def next (r : RowReading) (c : Char) : RowReading :=
  if c.isDigit then { r with number := some (r.number.getD 0 * 10 + (c.toNat - 0x30)) }
  else if c = ';' then { rows := r.currentRow.reverse :: r.rows }
  else { r with row := r.currentRow, number := none }

end RowReading

/-- The rows of a table. -/
def rows (text : String) : List (List Nat) := (text.toList.foldl RowReading.next {}).rows.reverse

/-- A set whose bounds are the numbers of a table. -/
def CodePoints.ofText (text : String) : CodePoints := ⟨(rows text).flatten⟩

end SkinRelay.Text
