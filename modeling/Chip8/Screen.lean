/-!
# Screen and sprites

The screen is 64 pixels wide and 32 high. A sprite is eight pixels wide, one byte a row, the highest
bit on the left. Drawn at a place it becomes a screen of its own, wrapped around all four edges
(`Sprite.place`); drawing is exclusive or of the two screens (`Screen.xor`).
-/

namespace Chip8

/-- The pixels of a screen, row by row. -/
@[ext]
structure Screen where
  pixels : Vector Bool 2048
deriving DecidableEq

namespace Screen

/-- The number of columns. -/
def width : Nat := 64

/-- The number of rows. -/
def height : Nat := 32

/-- The screen with every pixel dark. -/
def dark : Screen := ⟨Vector.replicate 2048 false⟩

/-- Whether the pixel in column `x` and row `y` is lit. -/
def lit (s : Screen) (x : Fin 64) (y : Fin 32) : Bool :=
  s.pixels[x.val + 64 * y.val]

/-- The screen with given pixels. -/
def ofFn (pixel : Fin 64 → Fin 32 → Bool) : Screen :=
  ⟨Vector.ofFn fun i => pixel ⟨i.val % 64, by omega⟩ ⟨i.val / 64, by omega⟩⟩

/-- Makes one pixel lit or dark. -/
def put (s : Screen) (x : Fin 64) (y : Fin 32) (value : Bool) : Screen :=
  ⟨s.pixels.set (x.val + 64 * y.val) value⟩

/-- Toggles the pixels of one screen that are lit in another. -/
def xor (s t : Screen) : Screen := ⟨Vector.zipWith Bool.xor s.pixels t.pixels⟩

/-- The pixels that are lit in both screens. -/
def and (s t : Screen) : Screen := ⟨Vector.zipWith Bool.and s.pixels t.pixels⟩

/-- Whether any pixel is lit. -/
def any (s : Screen) : Bool := s.pixels.any id

/-- Whether two screens have a lit pixel in common. -/
def meets (s t : Screen) : Bool := (s.and t).any

@[simp]
theorem lit_dark (x : Fin 64) (y : Fin 32) : dark.lit x y = false := by
  simp only [lit, dark, Vector.getElem_replicate]

theorem lit_put (s : Screen) (x px : Fin 64) (y py : Fin 32) (value : Bool) :
    (s.put x y value).lit px py = if px = x ∧ py = y then value else s.lit px py := by
  have same_index : x.val + 64 * y.val = px.val + 64 * py.val ↔ px = x ∧ py = y := by
    rw [Fin.ext_iff, Fin.ext_iff]
    omega
  simp only [lit, put, Vector.getElem_set, same_index]

@[simp]
theorem lit_xor (s t : Screen) (x : Fin 64) (y : Fin 32) :
    (s.xor t).lit x y = (s.lit x y).xor (t.lit x y) := by
  simp only [lit, xor, Vector.getElem_zipWith]

@[simp]
theorem lit_and (s t : Screen) (x : Fin 64) (y : Fin 32) :
    (s.and t).lit x y = (s.lit x y && t.lit x y) := by
  simp only [lit, and, Vector.getElem_zipWith]

/-- **A screen is its pixels.** -/
theorem ext_lit {s t : Screen} (same : ∀ x y, s.lit x y = t.lit x y) : s = t := by
  apply Screen.ext
  apply Vector.ext
  intro i inside
  have pixel := same ⟨i % 64, by omega⟩ ⟨i / 64, by omega⟩
  simp only [lit] at pixel
  have place : i % 64 + 64 * (i / 64) = i := by omega
  simpa only [place] using pixel

theorem any_iff {s : Screen} : s.any = true ↔ ∃ x y, s.lit x y = true := by
  simp only [any, Vector.any_eq_true, id]
  constructor
  · rintro ⟨i, inside, hi⟩
    refine ⟨⟨i % 64, by omega⟩, ⟨i / 64, by omega⟩, ?_⟩
    have place : i % 64 + 64 * (i / 64) = i := by omega
    simpa only [lit, place] using hi
  · rintro ⟨x, y, hxy⟩
    exact ⟨x.val + 64 * y.val, by omega, hxy⟩

/-- Two screens meet where a pixel is lit in both. -/
theorem meets_iff {s t : Screen} :
    s.meets t = true ↔ ∃ x y, s.lit x y = true ∧ t.lit x y = true := by
  simp only [meets, any_iff, lit_and, Bool.and_eq_true]

end Screen

/-- The rows of a sprite, top first. -/
abbrev Sprite := List UInt8

namespace Sprite

/-- The number of columns of a sprite. -/
def width : Nat := 8

/-- The most rows that an instruction can draw. -/
def maxHeight : Nat := 15

/-- Whether column `c` of row `r` is set; outside the sprite nothing is. -/
def bit (rows : Sprite) (r c : Nat) : Bool :=
  decide (c < 8) && (rows[r]?.getD 0).toNat.testBit (7 - c)

/-- The cells of the block that a sprite is drawn in, by row and column, row after row. -/
def cells : List (Nat × Nat) :=
  (List.range maxHeight).flatMap fun r => (List.range width).map fun c => (r, c)

/-- The pixel where a cell lies whose sprite has its top left corner at column `x` and row `y`, both
taken around the edges. -/
def pixelOf (x y : UInt8) (cell : Nat × Nat) : Fin 64 × Fin 32 :=
  (Fin.ofNat 64 (x.toNat + cell.2), Fin.ofNat 32 (y.toNat + cell.1))

/-- The sprite alone on a screen, its top left corner at column `x` and row `y`. Every cell of the
block is written, also those outside the sprite, which are dark. -/
def place (rows : Sprite) (x y : UInt8) : Screen :=
  cells.foldl (fun screen cell =>
    screen.put (pixelOf x y cell).1 (pixelOf x y cell).2 (rows.bit cell.1 cell.2)) .dark

theorem bit_of_le {rows : Sprite} {r c : Nat} (below : rows.length ≤ r) : rows.bit r c = false := by
  simp only [bit, List.getElem?_eq_none below, Option.getD_none, UInt8.toNat_zero,
    Nat.zero_testBit, Bool.and_false]

end Sprite

end Chip8
