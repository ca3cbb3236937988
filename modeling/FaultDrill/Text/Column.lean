/-!
# FaultDrill.Text.Column

Texts in the columns of a table. Widths are counted in characters.
-/

namespace FaultDrill.Text.Column

/-- A text with blanks after it up to a width. A longer text is left as it is. -/
def padded (width : Nat) (s : List Char) : List Char :=
  s ++ List.replicate (width - s.length) ' '

/-- A text that fits a width. Three dots stand for the end of a longer one. -/
def clipped (width : Nat) (s : List Char) : List Char :=
  if s.length ≤ width then s else s.take (width - 3) ++ ['.', '.', '.']

/-- The cell of a text in a column of a width, with a blank after it. -/
def cell (width : Nat) (s : String) : String :=
  String.ofList (padded width s.toList) ++ " "

end FaultDrill.Text.Column
