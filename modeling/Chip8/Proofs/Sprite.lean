import Chip8.Alu
import Chip8.Screen

/-!
# Sprites on a screen

Where the pixels of a sprite lie (`Sprite.Covers`), whereas `Sprite.place` writes a block of cells one
after the other. No two cells of the block lie at one pixel (`Sprite.pixelOf_inj`), so none undoes what
another one did, and the sprite that was placed is lit where it covers (`Sprite.lit_place_iff`).
Screens under exclusive or form a commutative group in which every element is its own inverse.
-/

namespace Chip8

namespace Screen

variable (s t u : Screen)

theorem xor_right_comm : (s.xor t).xor u = (s.xor u).xor t := by
  apply ext_lit
  intro x y
  simp only [lit_xor, Bool.xor_right_comm]

/-- What is drawn twice is gone. -/
theorem xor_xor_cancel : (s.xor t).xor t = s := by
  apply ext_lit
  intro x y
  simp only [lit_xor, Bool.xor_assoc, Bool.xor_self, Bool.xor_false]

/-- Cells that lie apart are written as if each were alone. -/
theorem lit_foldl_put {α : Type} {pixel : α → Fin 64 × Fin 32} {value : α → Bool} {cells : List α}
    (apart : cells.Pairwise fun a b => pixel a ≠ pixel b) (s : Screen) (px : Fin 64) (py : Fin 32) :
    (cells.foldl (fun t a => t.put (pixel a).1 (pixel a).2 (value a)) s).lit px py = true ↔
      (∃ a ∈ cells, pixel a = (px, py) ∧ value a = true) ∨
        (s.lit px py = true ∧ ∀ a ∈ cells, pixel a ≠ (px, py)) := by
  induction cells generalizing s with
  | nil => simp
  | cons a rest ih =>
    obtain ⟨first_apart, rest_apart⟩ := List.pairwise_cons.mp apart
    have here_iff : px = (pixel a).1 ∧ py = (pixel a).2 ↔ pixel a = (px, py) := by
      rw [Prod.ext_iff, eq_comm, eq_comm (a := py)]
    rw [List.foldl_cons, ih rest_apart, lit_put]
    simp only [here_iff, List.mem_cons, forall_eq_or_imp, exists_eq_or_imp]
    by_cases here : pixel a = (px, py)
    · -- What is written here stays: all later cells lie elsewhere.
      have nowhere_else : ∀ b ∈ rest, pixel b ≠ (px, py) := fun b member same =>
        first_apart b member (here.trans same.symm)
      have none_else : ¬∃ b ∈ rest, pixel b = (px, py) ∧ value b = true :=
        fun ⟨b, member, same, _⟩ => nowhere_else b member same
      simp only [here, none_else, if_true, true_and, false_or, not_true, false_and, and_false,
        or_false, ne_eq]
      exact and_iff_left nowhere_else
    · simp only [here, if_false, false_and, false_or, ne_eq, not_false_eq_true, true_and]

end Screen

/-- A flag is one exactly if its condition holds. -/
theorem Operation.flagOf_eq_one_iff {condition : Bool} :
    flagOf condition = 1 ↔ condition = true := by
  cases condition <;> decide

namespace Sprite

variable {rows : Sprite} {x y : UInt8} {px : Fin 64} {py : Fin 32}

/-- A pixel belongs to a sprite whose corner is at column `x` and row `y`: a bit of the sprite lies
there, counted from the corner and around the edges. -/
def Covers (rows : Sprite) (x y : UInt8) (px : Fin 64) (py : Fin 32) : Prop :=
  ∃ r c, rows.bit r c = true ∧ px.val = (x.toNat + c) % 64 ∧ py.val = (y.toNat + r) % 32

theorem lt_of_bit {r c : Nat} (set : rows.bit r c = true) : r < rows.length ∧ c < 8 := by
  constructor
  · refine Nat.lt_of_not_le fun below => ?_
    rw [bit_of_le below] at set
    cases set
  · simp only [bit, Bool.and_eq_true, decide_eq_true_eq] at set
    exact set.1

theorem mem_cells_iff {cell : Nat × Nat} : cell ∈ cells ↔ cell.1 < maxHeight ∧ cell.2 < 8 := by
  obtain ⟨r, c⟩ := cell
  simp [cells, width]

theorem pixelOf_eq_iff {cell : Nat × Nat} : pixelOf x y cell = (px, py) ↔
    px.val = (x.toNat + cell.2) % 64 ∧ py.val = (y.toNat + cell.1) % 32 := by
  rw [pixelOf, Prod.mk.injEq, eq_comm, eq_comm (b := py), Fin.ext_iff, Fin.ext_iff]
  rfl

/-- **No two cells of a block lie at one pixel**, whatever edges the block runs over. -/
theorem pixelOf_inj {a b : Nat × Nat} (one : a ∈ cells) (two : b ∈ cells)
    (same : pixelOf x y a = pixelOf x y b) : a = b := by
  obtain ⟨columns, rows⟩ := pixelOf_eq_iff.mp same
  obtain ⟨row_one, column_one⟩ := mem_cells_iff.mp one
  obtain ⟨row_two, column_two⟩ := mem_cells_iff.mp two
  simp only [Fin.ofNat] at columns rows
  simp only [maxHeight] at row_one row_two
  exact Prod.ext (by omega) (by omega)

theorem pairwise_cells (x y : UInt8) :
    cells.Pairwise fun a b => pixelOf x y a ≠ pixelOf x y b := by
  have distinct : cells.Nodup := by decide +kernel
  exact distinct.imp_of_mem fun one two differ same => differ (pixelOf_inj one two same)

/-- **A placed sprite is lit where it covers.** -/
theorem lit_place_iff (short : rows.length ≤ maxHeight) :
    (rows.place x y).lit px py = true ↔ rows.Covers x y px py := by
  rw [place, Screen.lit_foldl_put (pairwise_cells x y), Screen.lit_dark]
  simp only [Bool.false_eq_true, false_and, or_false, pixelOf_eq_iff]
  constructor
  · rintro ⟨⟨r, c⟩, _, lies, set⟩
    exact ⟨r, c, set, lies⟩
  · rintro ⟨r, c, set, lies⟩
    obtain ⟨r_lt, c_lt⟩ := lt_of_bit set
    exact ⟨(r, c), mem_cells_iff.mpr ⟨Nat.lt_of_lt_of_le r_lt short, c_lt⟩, lies, set⟩

theorem exists_bit_iff {r : Nat} : (∃ c, rows.bit r c = true) ↔ rows[r]?.getD 0 ≠ 0 := by
  constructor
  · rintro ⟨c, set⟩ blank
    rw [bit, blank, UInt8.toNat_zero, Nat.zero_testBit, Bool.and_false] at set
    cases set
  · intro filled
    have positive : (rows[r]?.getD 0).toNat ≠ 0 := fun zero => filled (UInt8.toNat_inj.mp zero)
    obtain ⟨i, set⟩ := Nat.exists_testBit_of_ne_zero positive
    have below : i < 8 := by
      refine Nat.lt_of_not_le fun high => ?_
      have small := Nat.lt_of_lt_of_le (rows[r]?.getD 0).toNat_lt
        (Nat.pow_le_pow_right Nat.two_pos high)
      rw [Nat.testBit_lt_two_pow small] at set
      cases set
    refine ⟨7 - i, ?_⟩
    have mirrored : 7 - (7 - i) = i := by omega
    have column : 7 - i < 8 := by omega
    rw [bit, mirrored, set, decide_eq_true column, Bool.and_true]

/-- A sprite covers nothing exactly if all its rows are blank. -/
theorem exists_covers_iff :
    (∃ px py, rows.Covers x y px py) ↔ ∃ r < rows.length, rows[r]?.getD 0 ≠ 0 := by
  constructor
  · rintro ⟨px, py, r, c, set, _⟩
    exact ⟨r, (lt_of_bit set).1, exists_bit_iff.mp ⟨c, set⟩⟩
  · rintro ⟨r, _, filled⟩
    obtain ⟨c, set⟩ := exists_bit_iff.mpr filled
    exact ⟨⟨(x.toNat + c) % 64, by omega⟩, ⟨(y.toNat + r) % 32, by omega⟩, r, c, set, rfl, rfl⟩

end Sprite

end Chip8
