import Chip8.Proofs.Overrun
import Chip8.Proofs.Pixels
import Mathlib.Algebra.BigOperators.Intervals
import Mathlib.Data.Finset.SymmDiff
import Mathlib.Data.Fintype.Prod

/-!
# Counting pixels

A draw neither loses nor merges pixels of its sprite at an edge: as many pixels change as bits of the
sprite are set (`Sprite.card_litPixels_place`). What was lit before, what is lit after and what went
dark are balanced by the bits of the sprite (`Cpu.draw_conserves_pixels`), and the flag says whether
anything went dark.
-/

namespace Chip8

/-- The pixels that are lit. -/
def Screen.litPixels (s : Screen) : Finset (Fin 64 × Fin 32) :=
  Finset.univ.filter fun pixel => s.lit pixel.1 pixel.2 = true

/-- The number of set bits of a byte. -/
def setBits (byte : UInt8) : Nat := ((Finset.range 8).filter (byte.toNat.testBit ·)).card

namespace Screen

variable {s t : Screen} {x : Fin 64} {y : Fin 32}

theorem mem_litPixels : (x, y) ∈ s.litPixels ↔ s.lit x y = true := Finset.mem_filter_univ (x, y)

/-- What is lit after a toggle was lit in one of the two screens and not in the other. -/
theorem litPixels_xor (s t : Screen) : (s.xor t).litPixels = symmDiff s.litPixels t.litPixels := by
  ext ⟨x, y⟩
  rw [Finset.mem_symmDiff, mem_litPixels, mem_litPixels, mem_litPixels, lit_xor]
  cases s.lit x y <;> cases t.lit x y <;> decide

/-- What goes dark was lit in both screens. -/
theorem litPixels_sdiff_xor (s t : Screen) :
    s.litPixels \ (s.xor t).litPixels = s.litPixels ∩ t.litPixels := by
  ext ⟨x, y⟩
  rw [Finset.mem_sdiff, Finset.mem_inter, mem_litPixels, mem_litPixels, mem_litPixels, lit_xor]
  cases s.lit x y <;> cases t.lit x y <;> decide

/-- A toggle puts out every pixel that is lit in both screens, and such a pixel is counted twice. -/
theorem card_litPixels_xor (s t : Screen) :
    (s.xor t).litPixels.card + 2 * (s.litPixels \ (s.xor t).litPixels).card =
      s.litPixels.card + t.litPixels.card := by
  have apart : Disjoint (s.litPixels \ t.litPixels) (t.litPixels \ s.litPixels) :=
    disjoint_sdiff_sdiff
  have sum : (s.xor t).litPixels.card =
      (s.litPixels \ t.litPixels).card + (t.litPixels \ s.litPixels).card := by
    rw [litPixels_xor, symmDiff_def, Finset.sup_eq_union, Finset.card_union_of_disjoint apart]
  have left := Finset.card_sdiff_add_card_inter s.litPixels t.litPixels
  have right := Finset.card_sdiff_add_card_inter t.litPixels s.litPixels
  rw [Finset.inter_comm] at right
  rw [litPixels_sdiff_xor, sum]
  omega

theorem meets_iff_card_pos : s.meets t = true ↔ 0 < (s.litPixels ∩ t.litPixels).card := by
  rw [meets_iff, Finset.card_pos, Finset.nonempty_def, Prod.exists]
  simp only [Finset.mem_inter, mem_litPixels]

end Screen

namespace Sprite

variable {rows : Sprite}

/-- The cells of a sprite in which a bit is set. -/
def setCells (rows : Sprite) : Finset (Nat × Nat) :=
  (Finset.range rows.length ×ˢ Finset.range 8).filter fun cell => rows.bit cell.1 cell.2 = true

theorem mem_setCells {r c : Nat} : (r, c) ∈ rows.setCells ↔ rows.bit r c = true := by
  rw [setCells, Finset.mem_filter, Finset.mem_product, Finset.mem_range, Finset.mem_range]
  exact and_iff_right_of_imp lt_of_bit

/-- The bits of a row are counted from either end. -/
theorem card_row (rows : Sprite) (r : Nat) :
    ((Finset.range 8).filter fun c => rows.bit r c = true).card = setBits (rows[r]?.getD 0) := by
  rw [setBits, Finset.card_filter, Finset.card_filter, ← Finset.sum_range_reflect]
  refine Finset.sum_congr rfl fun c inside => ?_
  have column : 8 - 1 - c < 8 := by omega
  have mirrored : 7 - (8 - 1 - c) = c := by
    have := Finset.mem_range.mp inside
    omega
  rw [bit, decide_eq_true column, Bool.true_and, mirrored]

theorem card_setCells (rows : Sprite) :
    rows.setCells.card = ∑ r ∈ Finset.range rows.length, setBits (rows[r]?.getD 0) := by
  rw [setCells, Finset.card_filter, Finset.sum_product]
  refine Finset.sum_congr rfl fun r _ => ?_
  rw [← card_row, Finset.card_filter]

/-- **Placed on a screen, a sprite keeps its number of pixels**, whatever edges it runs over. -/
theorem card_litPixels_place (short : rows.length ≤ maxHeight) (x y : UInt8) :
    (rows.place x y).litPixels.card =
      ∑ r ∈ Finset.range rows.length, setBits (rows[r]?.getD 0) := by
  have inside : ∀ cell ∈ rows.setCells, cell ∈ cells := by
    rintro ⟨r, c⟩ member
    obtain ⟨r_lt, c_lt⟩ := lt_of_bit (mem_setCells.mp member)
    exact mem_cells_iff.mpr ⟨Nat.lt_of_lt_of_le r_lt short, c_lt⟩
  have lies : (rows.place x y).litPixels = rows.setCells.image (pixelOf x y) := by
    ext ⟨px, py⟩
    rw [Screen.mem_litPixels, lit_place_iff short, Finset.mem_image]
    constructor
    · rintro ⟨r, c, set, place⟩
      exact ⟨(r, c), mem_setCells.mpr set, pixelOf_eq_iff.mpr place⟩
    · rintro ⟨⟨r, c⟩, member, place⟩
      exact ⟨r, c, mem_setCells.mp member, pixelOf_eq_iff.mp place⟩
  have apart : Set.InjOn (pixelOf x y) rows.setCells := fun one one_set two two_set =>
    pixelOf_inj (inside one one_set) (inside two two_set)
  rw [lies, Finset.card_image_of_injOn apart, card_setCells]

end Sprite

namespace Cpu

variable {s : Cpu} {x y : Register} {n : Fin 16}

/-- The number of set bits of the sprite that a draw finds at the index. -/
def spriteBits (s : Cpu) (n : Fin 16) : Nat :=
  ∑ r ∈ Finset.range n.val, setBits (s.memory.read Memory.openBus (s.index.toNat + r))

/-- The placed sprite has as many pixels as bits are set in memory. -/
theorem card_litPixels_spriteRows (s : Cpu) (x y : Register) (n : Fin 16) :
    ((s.spriteRows n).place (s.registers.get x) (s.registers.get y)).litPixels.card =
      s.spriteBits n := by
  have rows : (s.spriteRows n).length = n.val := by rw [spriteRows_eq, Memory.length_readMany]
  have short : (s.spriteRows n).length ≤ Sprite.maxHeight := by
    rw [rows]
    exact Nat.le_of_lt_succ n.isLt
  rw [Sprite.card_litPixels_place short, rows, spriteBits]
  refine Finset.sum_congr rfl fun r inside => ?_
  rw [spriteRows_eq, Memory.getElem?_readMany _ _ _ (Finset.mem_range.mp inside), Option.getD_some]

/-- A draw that is not refused finds its sprite in memory. -/
theorem fits_of_accepted
    (accepted : ¬s.Records (0xD000 + 0x100 * x.val + 0x10 * y.val + n.val : Nat) .outOfBounds) :
    s.index.toNat + n.val ≤ 0x1000 := by
  have access : (Fields.ofWord (0xD000 + 0x100 * x.val + 0x10 * y.val + n.val : Nat)).accessSize? =
      some n.val :=
    Fields.accessSize?_eq_some_iff.mpr ⟨_, Instruction.ofWord?_draw x y n, rfl⟩
  rw [records_overrun_iff access] at accepted
  exact Nat.le_of_not_lt accepted

/-- What a draw does to the screen and to the flag. -/
theorem execute_draw_sprite (s : Cpu) (x y : Register) (n : Fin 16)
    (fits : s.index.toNat + n.val ≤ 0x1000) :
    let t := s.execute (0xD000 + 0x100 * x.val + 0x10 * y.val + n.val : Nat)
    let sprite := (s.spriteRows n).place (s.registers.get x) (s.registers.get y)
    t.screen = s.screen.xor sprite ∧
      t.registers.get 15 = Operation.flagOf (s.screen.meets sprite) := by
  intro t sprite
  have drawn : t = (Instruction.draw x y n).effect Memory.openBus s :=
    (execute_draw s x y n fits).2
  rw [drawn]
  exact ⟨rfl, Vector.getElem_set_self ..⟩

/-- **Pixels are conserved.** Let a draw not be refused. The pixels lit afterwards, and twice those
that went dark, are the pixels lit before and the bits of the sprite. The flag is set if a pixel went
dark, and it is zero if all bits of the sprite were added. As many pixels change as bits are set, so
none is lost at an edge and no two meet. -/
theorem draw_conserves_pixels (s : Cpu) (x y : Register) (n : Fin 16)
    (accepted : ¬s.Records (0xD000 + 0x100 * x.val + 0x10 * y.val + n.val : Nat) .outOfBounds) :
    let t := s.execute (0xD000 + 0x100 * x.val + 0x10 * y.val + n.val : Nat)
    let before := s.screen.litPixels
    let after := t.screen.litPixels
    let dark := (before \ after).card
    after.card + 2 * dark = before.card + s.spriteBits n ∧
    (t.registers.get 15 = 1 ↔ 0 < dark) ∧
    (t.registers.get 15 = 0 ↔ after.card = before.card + s.spriteBits n) ∧
    (symmDiff before after).card = s.spriteBits n := by
  intro t before after dark
  let sprite := (s.spriteRows n).place (s.registers.get x) (s.registers.get y)
  have bits : sprite.litPixels.card = s.spriteBits n := card_litPixels_spriteRows s x y n
  obtain ⟨screen, flag⟩ : t.screen = s.screen.xor sprite ∧
      t.registers.get 15 = Operation.flagOf (s.screen.meets sprite) :=
    execute_draw_sprite s x y n (fits_of_accepted accepted)
  have balance : after.card + 2 * dark = before.card + s.spriteBits n := by
    have counted := Screen.card_litPixels_xor s.screen sprite
    rw [← screen, bits] at counted
    exact counted
  have raised : t.registers.get 15 = 1 ↔ 0 < dark := by
    have went_dark : before \ after = before ∩ sprite.litPixels := by
      show before \ t.screen.litPixels = _
      rw [screen]
      exact Screen.litPixels_sdiff_xor s.screen sprite
    rw [flag, Operation.flagOf_eq_one_iff, Screen.meets_iff_card_pos, ← went_dark]
  have cleared : t.registers.get 15 = 0 ↔ ¬t.registers.get 15 = 1 := by
    rw [flag]
    cases s.screen.meets sprite <;> decide
  refine ⟨balance, raised, ?_, ?_⟩
  · rw [cleared, raised]
    omega
  · show (symmDiff before t.screen.litPixels).card = _
    rw [screen, Screen.litPixels_xor, symmDiff_symmDiff_cancel_left, bits]

/-- A glyph of fourteen bits across two edges, over one lit pixel. -/
theorem draw_conserves_pixels_across_edges :
    let s : Cpu :=
      { create ⟨0, 0⟩ Font.standard false with
        registers := #v[0, 0, 30, 0, 0, 0, 0, 0, 0, 0, 0, 0, 0, 0, 0, 62]
        screen := Screen.dark.put 0 30 true }
    let t := s.execute 0xDF25
    ¬s.Records 0xDF25 .outOfBounds ∧ s.screen.litPixels.card = 1 ∧ s.spriteBits 5 = 14 ∧
      t.registers.get 15 = 1 ∧ (s.screen.litPixels \ t.screen.litPixels).card = 1 ∧
      t.screen.litPixels.card = 13 ∧ (symmDiff s.screen.litPixels t.screen.litPixels).card = 14 := by
  intro s t
  have access : (Fields.ofWord 0xDF25).accessSize? = some 5 := by decide
  have fits : s.index.toNat + (5 : Fin 16).val ≤ 0x1000 := by decide +kernel
  have accepted : ¬s.Records 0xDF25 .outOfBounds := by
    rw [records_overrun_iff access]
    exact Nat.not_lt_of_le fits
  have one : s.screen.litPixels = {(0, 30)} := by
    ext ⟨px, py⟩
    rw [Screen.mem_litPixels, Screen.lit_put, Screen.lit_dark, Finset.mem_singleton, Prod.mk.injEq]
    simp
  have before : s.screen.litPixels.card = 1 := by rw [one, Finset.card_singleton]
  have bits : s.spriteBits 5 = 14 := by decide +kernel
  have raised : t.registers.get 15 = 1 := by
    have hit : s.InSprite 15 2 5 0 30 :=
      ⟨0, 2, by decide, by decide, by decide +kernel, by decide +kernel, 0xF0, by decide +kernel,
        by decide⟩
    have lit : s.screen.lit 0 30 = true := by decide +kernel
    have flag : t.registers.get 15 = Operation.flagOf (s.screen.meets _) :=
      (execute_draw_sprite s 15 2 5 fits).2
    rw [flag, Operation.flagOf_eq_one_iff, Screen.meets_iff]
    exact ⟨0, 30, lit, (lit_place_spriteRows_iff fits).mpr hit⟩
  obtain ⟨balance, flag, _, changed⟩ := draw_conserves_pixels s 15 2 5 accepted
  have dark_pos : 0 < (s.screen.litPixels \ t.screen.litPixels).card := flag.mp raised
  have dark_le : (s.screen.litPixels \ t.screen.litPixels).card ≤ s.screen.litPixels.card :=
    Finset.card_le_card Finset.sdiff_subset
  have total : t.screen.litPixels.card + 2 * (s.screen.litPixels \ t.screen.litPixels).card =
      s.screen.litPixels.card + s.spriteBits 5 := balance
  exact ⟨accepted, before, bits, raised, by omega, by omega, changed.trans bits⟩

end Cpu

end Chip8
