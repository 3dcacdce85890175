import Chip8.Proofs.Drawing

/-!
# Sprites pixel by pixel

What the drawing of a sprite does to every single pixel (`Cpu.draw_toggles_sprite`). Which bit of the
sprite lies at which pixel is said by the bytes of memory and the two registers alone (`Cpu.BitAt`),
without the screen that the sprite becomes when it is placed. Sprites have at most fifteen rows and
eight columns, so around the edges no bit meets another one (`Cpu.BitAt.unique`).
-/

namespace Chip8

namespace Cpu

/-- The bit in row `r` and column `c` of the sprite that a draw with operands `x`, `y` and `n` finds
at the index: it is set, and it lies at a pixel, counted from the corner and around the edges. -/
structure BitAt (s : Cpu) (x y : Register) (n : Fin 16) (px : Fin 64) (py : Fin 32) (r c : Nat) :
    Prop where
  row_lt : r < n.val
  column_lt : c < 8
  column : px.val = ((s.registers.get x).toNat + c) % 64
  row : py.val = ((s.registers.get y).toNat + r) % 32
  set : ∃ byte, s.memory.bytes[s.index.toNat + r]? = some byte ∧ byte.toNat.testBit (7 - c) = true

/-- A pixel belongs to the sprite of a draw. -/
def InSprite (s : Cpu) (x y : Register) (n : Fin 16) (px : Fin 64) (py : Fin 32) : Prop :=
  ∃ r c, s.BitAt x y n px py r c

variable {s : Cpu} {x y : Register} {n : Fin 16} {px : Fin 64} {py : Fin 32}

/-- **At most one bit lies at a pixel.** -/
theorem BitAt.unique {r r' c c' : Nat} (one : s.BitAt x y n px py r c)
    (two : s.BitAt x y n px py r' c') : r = r' ∧ c = c' := by
  have lies : ∀ {r c}, s.BitAt x y n px py r c →
      (r, c) ∈ Sprite.cells ∧
        Sprite.pixelOf (s.registers.get x) (s.registers.get y) (r, c) = (px, py) := by
    intro r c bit
    have row_lt : r < Sprite.maxHeight := Nat.lt_of_lt_of_le bit.row_lt (Nat.le_of_lt_succ n.isLt)
    exact ⟨Sprite.mem_cells_iff.mpr ⟨row_lt, bit.column_lt⟩,
      Sprite.pixelOf_eq_iff.mpr ⟨bit.column, bit.row⟩⟩
  obtain ⟨one_cell, one_pixel⟩ := lies one
  obtain ⟨two_cell, two_pixel⟩ := lies two
  have same := Sprite.pixelOf_inj one_cell two_cell (one_pixel.trans two_pixel.symm)
  exact Prod.mk.inj same

/-- The sprite that a draw finds: a block of rows under its mask. -/
def spriteRows (s : Cpu) (n : Fin 16) : Sprite :=
  (s.memory.readMany Memory.openBus s.index.toNat Sprite.maxHeight).take n.val

/-- Under the mask are the bytes that the draw asks for. -/
theorem spriteRows_eq :
    s.spriteRows n = s.memory.readMany Memory.openBus s.index.toNat n.val :=
  Memory.take_readMany _ _ _ (Nat.le_of_lt_succ n.isLt)

theorem bit_spriteRows_iff (fits : s.index.toNat + n.val ≤ 0x1000) {r c : Nat} :
    (s.spriteRows n).bit r c = true ↔
      r < n.val ∧ c < 8 ∧ ∃ byte, s.memory.bytes[s.index.toNat + r]? = some byte ∧
        byte.toNat.testBit (7 - c) = true := by
  by_cases inside : r < n.val
  · have below : s.index.toNat + r < 4096 := by omega
    have byte : (s.spriteRows n)[r]? = some s.memory.bytes[s.index.toNat + r] := by
      rw [spriteRows_eq, Memory.getElem?_readMany _ _ _ inside, Memory.read_of_lt _ _ below]
    simp only [Sprite.bit, byte, Option.getD_some, Bool.and_eq_true, decide_eq_true_eq, inside,
      true_and, Vector.getElem?_eq_getElem below, Option.some.injEq, exists_eq_left']
  · have dark : (s.spriteRows n).bit r c = false := by
      apply Sprite.bit_of_le
      rw [spriteRows_eq, Memory.length_readMany]
      exact Nat.le_of_not_lt inside
    simp only [dark, Bool.false_eq_true, inside, false_and]

/-- Memory and registers tell where the placed sprite is lit. -/
theorem lit_place_spriteRows_iff (fits : s.index.toNat + n.val ≤ 0x1000) :
    ((s.spriteRows n).place (s.registers.get x) (s.registers.get y)).lit px py = true ↔
      s.InSprite x y n px py := by
  have short : (s.spriteRows n).length ≤ Sprite.maxHeight := by
    rw [spriteRows_eq]
    exact Sprite.length_readMany_le ..
  rw [Sprite.lit_place_iff short]
  refine exists_congr fun r => exists_congr fun c => ?_
  rw [bit_spriteRows_iff fits]
  constructor
  · rintro ⟨⟨row_lt, column_lt, set⟩, column, row⟩
    exact ⟨row_lt, column_lt, column, row, set⟩
  · intro bit
    exact ⟨⟨bit.row_lt, bit.column_lt, bit.set⟩, bit.column, bit.row⟩

/-- **A draw toggles the pixels of its sprite.** Let the sprite lie in memory. The pixels that change
are those at which a set bit of the sprite lies, and at each of them lies one bit only. The flag tells
whether one of them was lit before. The screen is marked as drawn, and all other places hold what they
held, the record of faults among them. -/
theorem draw_toggles_sprite (s : Cpu) (x y : Register) (n : Fin 16)
    (fits : s.index.toNat + n.val ≤ 0x1000) :
    let t := s.execute (0xD000 + 0x100 * x.val + 0x10 * y.val + n.val : Nat)
    (∀ px py, t.screen.lit px py ≠ s.screen.lit px py ↔ s.InSprite x y n px py) ∧
    ((∃ px py, s.InSprite x y n px py ∧ s.screen.lit px py = true) → t.registers.get 15 = 1) ∧
    ((∀ px py, s.InSprite x y n px py → s.screen.lit px py = false) → t.registers.get 15 = 0) ∧
    t.drawn = true ∧
    (∀ place : Place, place ≠ .register 15 → place ≠ .screen → place ≠ .drawn →
      t.SameAt s place) ∧
    ∀ px py r r' c c', s.BitAt x y n px py r c → s.BitAt x y n px py r' c' → r = r' ∧ c = c' := by
  intro t
  let sprite := (s.spriteRows n).place (s.registers.get x) (s.registers.get y)
  have lit_iff : ∀ px py, sprite.lit px py = true ↔ s.InSprite x y n px py :=
    fun _ _ => lit_place_spriteRows_iff fits
  have drawn : t = (Instruction.draw x y n).effect Memory.openBus s :=
    (execute_draw s x y n fits).2
  have screen : t.screen = s.screen.xor sprite := by rw [drawn]; rfl
  have flag : t.registers.get 15 = Operation.flagOf (s.screen.meets sprite) := by
    rw [drawn]
    exact Vector.getElem_set_self ..
  refine ⟨?_, ?_, ?_, by rw [drawn]; rfl, ?_, fun _ _ _ _ _ _ => BitAt.unique⟩
  · intro px py
    rw [screen, Screen.lit_xor, ← lit_iff]
    cases s.screen.lit px py <;> cases sprite.lit px py <;> decide
  · rintro ⟨px, py, inside, pixel⟩
    rw [flag, Operation.flagOf_eq_one_iff, Screen.meets_iff]
    exact ⟨px, py, pixel, (lit_iff px py).mpr inside⟩
  · intro dark
    have apart : s.screen.meets sprite = false := by
      refine Bool.eq_false_iff.mpr fun meets => ?_
      obtain ⟨px, py, pixel, inside⟩ := Screen.meets_iff.mp meets
      rw [dark px py ((lit_iff px py).mp inside)] at pixel
      cases pixel
    rw [flag, apart]
    rfl
  · intro place no_flag no_screen no_mark
    rw [drawn]
    apply Instruction.sameAt_effect
    rintro (flag | screen | mark)
    · exact no_flag flag
    · exact no_screen screen
    · exact no_mark mark

/-- A glyph across two edges, at a place that the flag register gives: one pixel goes dark, one is
lit. -/
theorem draw_toggles_sprite_across_edges :
    let s : Cpu :=
      { create ⟨0, 0⟩ Font.standard false with
        registers := #v[0, 0, 30, 0, 0, 0, 0, 0, 0, 0, 0, 0, 0, 0, 0, 62]
        screen := Screen.dark.put 0 30 true }
    let t := s.execute 0xDF25
    s.index.toNat + (5 : Fin 16).val ≤ 0x1000 ∧
      s.InSprite 15 2 5 0 30 ∧ t.screen.lit 0 30 = false ∧
      s.InSprite 15 2 5 1 0 ∧ t.screen.lit 1 0 = true ∧
      t.registers.get 15 = 1 ∧ t.registers.get 2 = 30 ∧ t.fault = none := by
  intro s t
  have fits : s.index.toNat + (5 : Fin 16).val ≤ 0x1000 := by decide +kernel
  have upper : s.InSprite 15 2 5 0 30 :=
    ⟨0, 2, by decide, by decide, by decide +kernel, by decide +kernel, 0xF0, by decide +kernel,
      by decide⟩
  have lower : s.InSprite 15 2 5 1 0 :=
    ⟨2, 3, by decide, by decide, by decide +kernel, by decide +kernel, 0x90, by decide +kernel,
      by decide⟩
  have lit : s.screen.lit 0 30 = true := by decide +kernel
  have dark : s.screen.lit 1 0 = false := by decide +kernel
  have unfaulted : s.fault = none := rfl
  have second : s.registers.get 2 = 30 := rfl
  obtain ⟨toggled, collides, _, _, kept, _⟩ := draw_toggles_sprite s 15 2 5 fits
  have went_dark : t.screen.lit 0 30 = false := by
    have differs := (toggled 0 30).mpr upper
    rw [lit] at differs
    exact Bool.eq_false_iff.mpr differs
  have went_lit : t.screen.lit 1 0 = true := by
    have differs := (toggled 1 0).mpr lower
    rw [dark] at differs
    exact eq_true_of_ne_false differs
  have same_register := kept (.register 2) (by simp) (by simp) (by simp)
  have same_fault := kept .fault (by simp) (by simp) (by simp)
  exact ⟨fits, upper, went_dark, lower, went_lit, collides ⟨0, 30, upper, lit⟩,
    same_register.trans second, same_fault.trans unfaulted⟩

end Cpu

end Chip8
