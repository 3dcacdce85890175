import Chip8.Proofs.Footprint
import Chip8.Proofs.Sprite
import Mathlib.Data.List.Basic

/-!
# Sprites drawn one after the other

A draw sets the index and draws the sprite there (`Draw.words`), at a place that two registers other
than the flag give. It toggles the pixels that its sprite covers and leaves memory and all registers
but the flag alone, so it neither moves nor changes the sprites that are drawn after it. Hence a
sequence of draws is one fold of exclusive or over screens that are fixed at the start
(`Cpu.screen_drawAll`): the order does not count, and two draws of the same kind cancel
(`Cpu.drawAll_commutes`).
-/

namespace Chip8

/-- The draw of a sprite of `n` rows from an address, at the place that registers `x` and `y` give.
The registers are not the flag, and the sprite lies in memory. -/
structure Draw where
  address : Address
  x : Register
  y : Register
  n : Fin 16
  x_ne_flag : x ≠ 15
  y_ne_flag : y ≠ 15
  inside : address.val + n.val ≤ 0x1000

/-- No instruction draws more rows than a block has. -/
theorem Sprite.length_readMany_le (bus : UInt8) (m : Memory) (address : Nat) (n : Fin 16) :
    (m.readMany bus address n.val).length ≤ Sprite.maxHeight := by
  rw [Memory.length_readMany]
  exact Nat.le_of_lt_succ n.isLt

namespace Draw

/-- The words of a draw: one sets the index, one draws. -/
def words (d : Draw) : List Int :=
  [(0xA000 + d.address.val : Nat), (0xD000 + 0x100 * d.x.val + 0x10 * d.y.val + d.n.val : Nat)]

/-- The rows of the sprite. -/
def rows (d : Draw) (s : Cpu) : Sprite := s.memory.readMany Memory.openBus d.address.val d.n.val

/-- The pixels that a draw toggles, as a screen. -/
def sprite (d : Draw) (s : Cpu) : Screen :=
  (d.rows s).place (s.registers.get d.x) (s.registers.get d.y)

/-- A pixel belongs to the sprite of a draw. -/
def Covers (d : Draw) (s : Cpu) (px : Fin 64) (py : Fin 32) : Prop :=
  (d.rows s).Covers (s.registers.get d.x) (s.registers.get d.y) px py

theorem length_rows (d : Draw) (s : Cpu) : (d.rows s).length = d.n.val :=
  Memory.length_readMany ..

theorem lit_sprite_iff (d : Draw) (s : Cpu) (px : Fin 64) (py : Fin 32) :
    (d.sprite s).lit px py = true ↔ d.Covers s px py :=
  Sprite.lit_place_iff (Sprite.length_readMany_le ..)

/-- A draw covers a pixel exactly if one of the bytes that it reads is not zero. -/
theorem exists_covers_iff (d : Draw) (s : Cpu) :
    (∃ px py, d.Covers s px py) ↔ ∃ r < d.n.val, s.memory.read 0 (d.address.val + r) ≠ 0 := by
  unfold Covers
  rw [Sprite.exists_covers_iff, length_rows]
  refine exists_congr fun r => and_congr_right fun below => ?_
  have byte : (d.rows s)[r]? = some (s.memory.read 0 (d.address.val + r)) :=
    Memory.getElem?_readMany _ _ _ below
  rw [byte, Option.getD_some]

end Draw

namespace Cpu

variable {s : Cpu} {d : Draw} {draws first second : List Draw}

/-- None of the words is a fault when they are executed one after the other. -/
def NeverFails (s : Cpu) : List Int → Prop
  | [] => True
  | w :: rest => s.fault? w = none ∧ (s.execute w).NeverFails rest

/-- Executes draws one after the other. -/
def drawAll (s : Cpu) (draws : List Draw) : Cpu := s.executeAll (draws.flatMap Draw.words)

/-! ## One draw -/

theorem execute_setIndex (s : Cpu) (target : Address) :
    s.fault? (0xA000 + target.val : Nat) = none ∧
      s.execute (0xA000 + target.val : Nat) = { s with index := UInt16.ofNat target.val } :=
  execute_of_ofWord? (Instruction.ofWord?_setIndex target) rfl

/-- A sprite that lies in memory is drawn. -/
theorem execute_draw (s : Cpu) (x y : Register) (n : Fin 16)
    (fits : s.index.toNat + n.val ≤ 0x1000) :
    let word : Int := (0xD000 + 0x100 * x.val + 0x10 * y.val + n.val : Nat)
    s.fault? word = none ∧ s.execute word = (Instruction.draw x y n).effect Memory.openBus s := by
  have allowed : (Instruction.draw x y n).fault? s = none := by
    have inside : ¬Memory.size < s.index.toNat + n.val := Nat.not_lt_of_le fits
    simp only [Instruction.fault?, Instruction.reach?, Option.bind_some, overruns,
      decide_eq_false inside, Bool.false_eq_true, if_false]
  exact execute_of_ofWord? (Instruction.ofWord?_draw x y n) allowed

/-- **What a draw does**: it sets the index and the flag, and toggles the pixels of its sprite. -/
theorem executeAll_words (s : Cpu) (d : Draw) :
    s.NeverFails d.words ∧
      s.executeAll d.words =
        { s.setRegister 15 (Operation.flagOf (s.screen.meets (d.sprite s))) with
          index := UInt16.ofNat d.address.val
          screen := s.screen.xor (d.sprite s)
          drawn := true } := by
  obtain ⟨clear_index, indexed⟩ := s.execute_setIndex d.address
  have here : (UInt16.ofNat d.address.val).toNat = d.address.val :=
    UInt16.toNat_ofNat_of_lt' (Nat.lt_of_lt_of_le d.address.isLt (by decide))
  have fits : (UInt16.ofNat d.address.val).toNat + d.n.val ≤ 0x1000 := by
    rw [here]
    exact d.inside
  obtain ⟨clear_draw, drawn⟩ :=
    execute_draw { s with index := UInt16.ofNat d.address.val } d.x d.y d.n fits
  constructor
  · refine ⟨clear_index, ?_, trivial⟩
    rw [indexed]
    exact clear_draw
  · calc s.executeAll d.words
        = (s.execute (0xA000 + d.address.val : Nat)).execute
            (0xD000 + 0x100 * d.x.val + 0x10 * d.y.val + d.n.val : Nat) := rfl
      _ = _ := by
        rw [indexed, drawn, Instruction.effect_draw]
        simp only [here]
        rfl

/-- A draw leaves the sprites of all draws where they were and as they were. -/
theorem rows_words (s : Cpu) (d other : Draw) :
    other.rows (s.executeAll d.words) = other.rows s := by
  rw [(executeAll_words s d).2]
  rfl

theorem registers_words (s : Cpu) (d : Draw) {i : Register} (other : i ≠ 15) :
    (s.executeAll d.words).registers.get i = s.registers.get i := by
  rw [(executeAll_words s d).2]
  exact Instruction.registers_setRegister s other _

theorem sprite_words (s : Cpu) (d other : Draw) :
    other.sprite (s.executeAll d.words) = other.sprite s := by
  rw [Draw.sprite, rows_words, registers_words s d other.x_ne_flag,
    registers_words s d other.y_ne_flag]
  rfl

/-! ## Many draws -/

theorem drawAll_cons (s : Cpu) (d : Draw) (rest : List Draw) :
    s.drawAll (d :: rest) = (s.executeAll d.words).drawAll rest := by
  rw [drawAll, List.flatMap_cons, executeAll_append]
  rfl

theorem NeverFails.append {s : Cpu} {first second : List Int} (one : s.NeverFails first)
    (two : (s.executeAll first).NeverFails second) : s.NeverFails (first ++ second) := by
  induction first generalizing s with
  | nil => exact two
  | cons w rest ih => exact ⟨one.1, ih one.2 two⟩

/-- Words none of which fails leave the record of faults alone. -/
theorem NeverFails.record {s : Cpu} {words : List Int} (clear : s.NeverFails words) :
    (s.executeAll words).fault = s.fault ∧ (s.executeAll words).faultWord = s.faultWord := by
  induction words generalizing s with
  | nil => exact ⟨rfl, rfl⟩
  | cons w rest ih =>
    obtain ⟨same_fault, same_word⟩ := execute_record clear.1
    obtain ⟨last_fault, last_word⟩ := ih clear.2
    exact ⟨last_fault.trans same_fault, last_word.trans same_word⟩

theorem neverFails_drawAll (s : Cpu) (draws : List Draw) :
    s.NeverFails (draws.flatMap Draw.words) := by
  induction draws generalizing s with
  | nil => trivial
  | cons d rest ih =>
    rw [List.flatMap_cons]
    exact (executeAll_words s d).1.append (ih _)

/-- **Many draws are one fold of exclusive or**, over screens that are fixed at the start. -/
theorem screen_drawAll (s : Cpu) (draws : List Draw) :
    (s.drawAll draws).screen =
      draws.foldl (fun screen d => screen.xor (d.sprite s)) s.screen := by
  induction draws generalizing s with
  | nil => rfl
  | cons d rest ih =>
    have drawn : (s.executeAll d.words).screen = s.screen.xor (d.sprite s) := by
      rw [(executeAll_words s d).2]
    rw [drawAll_cons, ih, drawn, List.foldl_cons]
    simp only [sprite_words]

theorem screen_drawAll_of_perm (s : Cpu) (perm : first.Perm second) :
    (s.drawAll first).screen = (s.drawAll second).screen := by
  rw [screen_drawAll, screen_drawAll]
  apply perm.foldl_eq'
  intro d _ e _ screen
  exact Screen.xor_right_comm ..

/-- Two draws of the same kind at the front cancel. -/
theorem screen_drawAll_twice (s : Cpu) (d : Draw) (rest : List Draw) :
    (s.drawAll (d :: d :: rest)).screen = (s.drawAll rest).screen := by
  rw [screen_drawAll, screen_drawAll, List.foldl_cons, List.foldl_cons, Screen.xor_xor_cancel]

/-! ## The flag -/

theorem flag_words (s : Cpu) (d : Draw) :
    (s.executeAll d.words).registers.get 15 = 1 ↔
      ∃ px py, d.Covers s px py ∧ s.screen.lit px py = true := by
  have flag : (s.executeAll d.words).registers.get 15 =
      Operation.flagOf (s.screen.meets (d.sprite s)) := by
    rw [(executeAll_words s d).2]
    exact Vector.getElem_set_self ..
  rw [flag, Operation.flagOf_eq_one_iff, Screen.meets_iff]
  simp only [Draw.lit_sprite_iff, and_comm]

/-- The draw again: the pixels that it toggles are then lit where they were dark. -/
theorem flag_words_twice (s : Cpu) (d : Draw) :
    ((s.executeAll d.words).executeAll d.words).registers.get 15 = 1 ↔
      ∃ px py, d.Covers s px py ∧ s.screen.lit px py = false := by
  have same_place : ∀ px py, d.Covers (s.executeAll d.words) px py ↔ d.Covers s px py := by
    intro px py
    rw [← d.lit_sprite_iff, ← d.lit_sprite_iff, sprite_words]
  have toggled : (s.executeAll d.words).screen = s.screen.xor (d.sprite s) := by
    rw [(executeAll_words s d).2]
  rw [flag_words, toggled]
  simp only [same_place]
  refine exists_congr fun px => exists_congr fun py => and_congr_right fun covers => ?_
  rw [Screen.lit_xor, (d.lit_sprite_iff s px py).mpr covers, Bool.xor_true, Bool.not_eq_true']

/-- **Draws commute and cancel.** In any state none of the words of a sequence of draws fails. The
screen that the draws leave does not depend on their order, and two draws of the same kind may be
left out wherever they stand, so a draw that is done twice restores the screen. When one draw is done
twice in a row, the flag is set the first time exactly if the sprite covers a pixel that was lit, and
the second time exactly if it covers one that was dark; so it is set at least once exactly if a byte
of the sprite is not zero. -/
theorem drawAll_commutes (s : Cpu) :
    (∀ draws : List Draw, s.NeverFails (draws.flatMap Draw.words) ∧
      (s.drawAll draws).fault = s.fault ∧ (s.drawAll draws).faultWord = s.faultWord) ∧
    (∀ first second : List Draw, first.Perm second →
      (s.drawAll first).screen = (s.drawAll second).screen) ∧
    (∀ (before between after : List Draw) (d : Draw),
      (s.drawAll (before ++ d :: between ++ d :: after)).screen =
        (s.drawAll (before ++ between ++ after)).screen) ∧
    ∀ d : Draw,
      let first := (s.drawAll [d]).registers.get 15
      let second := (s.drawAll [d, d]).registers.get 15
      (first = 1 ↔ ∃ px py, d.Covers s px py ∧ s.screen.lit px py = true) ∧
      (second = 1 ↔ ∃ px py, d.Covers s px py ∧ s.screen.lit px py = false) ∧
      (first = 1 ∨ second = 1 ↔ ∃ r < d.n.val, s.memory.read 0 (d.address.val + r) ≠ 0) := by
  refine ⟨?_, ?_, ?_, ?_⟩
  · intro draws
    have clear := neverFails_drawAll s draws
    exact ⟨clear, clear.record⟩
  · intro first second perm
    exact screen_drawAll_of_perm s perm
  · intro before between after d
    have second_out : (before ++ d :: between ++ d :: after).Perm
        (d :: (before ++ d :: between ++ after)) := List.perm_middle
    have first_out : (before ++ d :: between ++ after).Perm
        (d :: (before ++ between ++ after)) := by
      rw [List.append_assoc, List.append_assoc, List.cons_append]
      exact List.perm_middle
    have to_front := second_out.trans (first_out.cons d)
    rw [screen_drawAll_of_perm s to_front, screen_drawAll_twice]
  · intro d first second
    have once : first = 1 ↔ _ := flag_words s d
    have twice : second = 1 ↔ _ := flag_words_twice s d
    refine ⟨once, twice, ?_⟩
    rw [once, twice, ← d.exists_covers_iff]
    constructor
    · rintro (⟨px, py, covers, _⟩ | ⟨px, py, covers, _⟩) <;> exact ⟨px, py, covers⟩
    · rintro ⟨px, py, covers⟩
      cases pixel : s.screen.lit px py with
      | true => exact .inl ⟨px, py, covers, pixel⟩
      | false => exact .inr ⟨px, py, covers, pixel⟩

/-- Two glyphs on a dark screen, one of them across two edges. It is drawn before and after the other
one or twice at the end, and the flag is set by the second of two draws in a row only. -/
theorem drawAll_commutes_across_edges :
    let s : Cpu :=
      { create ⟨0, 0⟩ Font.standard false with
        registers := #v[0, 62, 30, 1, 0, 0, 0, 0, 0, 0, 0, 0, 0, 0, 0, 0] }
    let across : Draw := ⟨0, 1, 2, 5, by decide, by decide, by decide⟩
    let within : Draw := ⟨5, 3, 3, 5, by decide, by decide, by decide⟩
    [across, within, across].Perm [within, across, across] ∧
      (s.drawAll [across, within, across]).screen = (s.drawAll [within, across, across]).screen ∧
      (s.drawAll [across, within, across]).screen = (s.drawAll [within]).screen ∧
      (s.drawAll [across]).registers.get 15 ≠ 1 ∧
      (s.drawAll [across, across]).registers.get 15 = 1 := by
  intro s across within
  obtain ⟨_, commute, cancel, flags⟩ := drawAll_commutes s
  obtain ⟨once, _, either⟩ := flags across
  have perm : [across, within, across].Perm [within, across, across] := .swap ..
  have undrawn : ¬(s.drawAll [across]).registers.get 15 = 1 := by
    rw [once]
    rintro ⟨px, py, _, pixel⟩
    cases (Screen.lit_dark px py).symm.trans pixel
  have filled : ∃ r < across.n.val, s.memory.read 0 (across.address.val + r) ≠ 0 :=
    ⟨0, by decide, by decide +kernel⟩
  exact ⟨perm, commute _ _ perm, cancel [] [within] [] across, undrawn,
    (either.mpr filled).resolve_left undrawn⟩

end Cpu

end Chip8
