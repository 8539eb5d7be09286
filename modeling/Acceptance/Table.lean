namespace Acceptance

/-! Tables of steps. The first cell of a row is its marker, the second its sentence; what
follows them is ignored. A row may lack either. -/

structure Row where
  cells : List String
deriving DecidableEq

namespace Row

def marker (row : Row) : Option String :=
  row.cells[0]?

def sentence (row : Row) : Option String :=
  row.cells[1]?

def sameIgnoringCase (left right : String) : Bool :=
  left.toList.map Char.toLower = right.toList.map Char.toLower

def continues (row : Row) (keyword : String) : Bool :=
  row.marker.any fun marker => sameIgnoringCase marker keyword

def display (row : Row) : String :=
  "| " ++ " | ".intercalate row.cells ++ " |\n"

end Row

structure Table where
  rows : List Row
deriving DecidableEq

namespace Table

def empty : Table :=
  ⟨[]⟩

def ofCells (cells : List (List String)) : Table :=
  ⟨cells.map Row.mk⟩

def size (table : Table) : Nat :=
  table.rows.length

def row? (table : Table) (index : Nat) : Option Row :=
  table.rows[index]?

/-- The table with bars between its cells, one row on a line. -/
def display (table : Table) : String :=
  String.join (table.rows.map Row.display)

end Table

example : Row.continues ⟨["And", "he logs in"]⟩ "AND" = true := rfl
example : Row.continues ⟨[]⟩ "AND" = false := rfl

end Acceptance
