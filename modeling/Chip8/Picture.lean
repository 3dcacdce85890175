import Chip8.Screen

/-!
# Pictures

A picture is a rectangle of lit and dark pixels of any size, kept column by column. Its rows are
read across the columns (`Picture.rows`), and a row is what the two renderings are made of: a line of
text (`Picture.text`) or rows of coloured pixels (`Chip8.Picture.Frame`).
-/

namespace Chip8

/-- A rectangle of pixels: columns of one height. -/
structure Picture where
  height : Nat
  columns : List (List Bool)
  rectangular : ∀ column ∈ columns, column.length = height

/-- The texts that stand for a lit and a dark pixel. -/
structure Marks where
  on : String := "#"
  off : String := "."
deriving DecidableEq

/-- The text that stands for a pixel. -/
def Marks.of (marks : Marks) (pixel : Bool) : String := if pixel then marks.on else marks.off

namespace Picture

/-- The number of columns. -/
def width (p : Picture) : Nat := p.columns.length

/-- The picture with given columns, if they are of one height. -/
def ofColumns? (columns : List (List Bool)) : Option Picture :=
  let height := (columns.head?.map List.length).getD 0
  if same : ∀ column ∈ columns, column.length = height then some ⟨height, columns, same⟩ else none

/-- The picture with given columns of numbers, if they are of one height: a pixel is lit if its number
is not zero. -/
def ofValues? (values : List (List Int)) : Option Picture :=
  ofColumns? (values.map fun column => column.map (· != 0))

/-- Whether the pixel in column `x` and row `y` is lit; outside the picture nothing is. -/
def lit (p : Picture) (x y : Nat) : Bool := ((p.columns[x]?.getD [])[y]?).getD false

/-- The pixels of a row, from left to right. -/
def row (p : Picture) (y : Nat) : List Bool :=
  p.columns.map fun column => column[y]?.getD false

/-- The rows, from top to bottom. -/
def rows (p : Picture) : List (List Bool) := (List.range p.height).map p.row

/-- The number of pixels that are lit, or that are dark. -/
def count (p : Picture) (lit : Bool) : Nat := p.rows.flatten.count lit

/-- A row as a line of text. -/
def line (marks : Marks) (row : List Bool) : String := String.join (row.map marks.of)

/-- The rows as lines of text. -/
def lines (p : Picture) (marks : Marks) : List String := p.rows.map (line marks)

/-- The rows as lines of text with line breaks between them. -/
def text (p : Picture) (marks : Marks) : String := "\n".intercalate (p.lines marks)

theorem length_row (p : Picture) (y : Nat) : (p.row y).length = p.width := by
  simp only [row, width, List.length_map]

theorem length_rows (p : Picture) : p.rows.length = p.height := by
  simp only [rows, List.length_map, List.length_range]

/-- A row holds the pixels of its height in each column. -/
theorem getElem?_row (p : Picture) {x y : Nat} (inside : x < p.width) :
    (p.row y)[x]? = some (p.lit x y) := by
  simp only [row, lit, List.getElem?_map, List.getElem?_eq_getElem inside, Option.map_some,
    Option.getD_some]

end Picture

/-- A screen as a picture. -/
def Screen.picture (s : Screen) : Picture where
  height := 32
  columns := List.ofFn fun x : Fin 64 => List.ofFn fun y : Fin 32 => s.lit x y
  rectangular := by
    intro column member
    obtain ⟨x, rfl⟩ := List.mem_ofFn.mp member
    exact List.length_ofFn

end Chip8
