import Chip8.Machine
import Chip8.Proofs.Decode
import Chip8.Proofs.Effect

/-!
# Keys are split into different keys

The cipher behind the random keys can be undone (`Random.decipher_encipher`): a rotation by rotating
back, a round by subtracting what it added, an injection by subtracting the scheduled words, and a
whole cipher stage by stage from the last one. So different blocks are enciphered differently under
every key. A split enciphers two blocks under one key, hence no key that is kept is one that is used
up, neither by a word that draws a byte nor by a reset (`Machine.kept_key_ne_spent`).

Nothing is said about how the keys of a run lie apart from one another: keys of different splits may
agree.
-/

namespace Chip8

namespace Random

/-! ## Rotations -/

/-- Rotates a word to the right by an amount between 1 and 31. -/
def rotateRight (word amount : UInt32) : UInt32 :=
  (word >>> amount) ||| (word <<< (32 - amount))

section Rotations

variable {amount : UInt32} (positive : 0 < amount.toNat) (bounded : amount.toNat < 32)

include positive bounded

theorem toNat_complement : ((32 - amount).toBitVec % 32).toNat = 32 - amount.toNat := by
  have most : amount ≤ 32 := UInt32.le_iff_toNat_le.mpr (Nat.le_of_lt bounded)
  show (32 - amount).toNat % 32 = 32 - amount.toNat
  rw [UInt32.toNat_sub_of_le _ _ most]
  exact Nat.mod_eq_of_lt (Nat.sub_lt (by decide) positive)

theorem toBitVec_rotateLeft (word : UInt32) :
    (rotateLeft word amount).toBitVec = word.toBitVec.rotateLeft amount.toNat := by
  have here : (amount.toBitVec % 32).toNat = amount.toNat := Nat.mod_eq_of_lt bounded
  rw [BitVec.rotateLeft_def, Nat.mod_eq_of_lt bounded, rotateLeft, UInt32.toBitVec_or,
    UInt32.toBitVec_shiftLeft, UInt32.toBitVec_shiftRight, BitVec.shiftLeft_eq',
    BitVec.ushiftRight_eq', here, toNat_complement positive bounded]

theorem toBitVec_rotateRight (word : UInt32) :
    (rotateRight word amount).toBitVec = word.toBitVec.rotateRight amount.toNat := by
  have here : (amount.toBitVec % 32).toNat = amount.toNat := Nat.mod_eq_of_lt bounded
  rw [BitVec.rotateRight_def, Nat.mod_eq_of_lt bounded, rotateRight, UInt32.toBitVec_or,
    UInt32.toBitVec_shiftLeft, UInt32.toBitVec_shiftRight, BitVec.shiftLeft_eq',
    BitVec.ushiftRight_eq', here, toNat_complement positive bounded]

/-- Rotating back puts every bit where it was. -/
theorem rotateRight_rotateLeft (word : UInt32) :
    rotateRight (rotateLeft word amount) amount = word := by
  apply UInt32.toBitVec_inj.mp
  rw [toBitVec_rotateRight positive bounded, toBitVec_rotateLeft positive bounded]
  generalize amount.toNat = r at positive bounded
  apply BitVec.eq_of_getLsbD_eq
  intro i inside
  rw [BitVec.getLsbD_rotateRight, Nat.mod_eq_of_lt bounded]
  by_cases low : i < 32 - r
  · have moved_up : ¬r + i < r := by omega
    have kept : r + i < 32 := by omega
    have back : r + i - r = i := by omega
    rw [decide_eq_true low, cond_true, BitVec.getLsbD_rotateLeft, Nat.mod_eq_of_lt bounded,
      decide_eq_false moved_up, cond_false, decide_eq_true kept, Bool.true_and, back]
  -- The upper bits have gone around the end.
  · have around : i - (32 - r) < r := by omega
    have back : 32 - r + (i - (32 - r)) = i := by omega
    rw [decide_eq_false low, cond_false, decide_eq_true inside, Bool.true_and,
      BitVec.getLsbD_rotateLeft, Nat.mod_eq_of_lt bounded, decide_eq_true around, cond_true, back]

end Rotations

/-- Every rotation of the cipher moves a bit, and none goes once around. -/
theorem rotations_bounds {stage : Nat} {amount : UInt32} (member : amount ∈ rotations stage) :
    0 < amount.toNat ∧ amount.toNat < 32 := by
  unfold rotations at member
  split at member
  all_goals
    simp only [List.mem_cons, List.not_mem_nil, or_false] at member
    rcases member with rfl | rfl | rfl | rfl <;> decide

/-! ## The cipher, undone -/

/-- Undoes a round. -/
def unmix (amount : UInt32) (y : Key) : Key :=
  let second := rotateRight (y.second ^^^ y.first) amount
  ⟨y.first - second, second⟩

/-- Undoes an injection. -/
def withdraw (key : Key) (stage : Nat) (y : Key) : Key :=
  ⟨y.first - schedule key (stage + 1),
   y.second - (schedule key (stage + 2) + UInt32.ofNat (stage + 1))⟩

/-- Undoes a stage: its injection, then its rounds from the last one. -/
def undoStage (key : Key) (stage : Nat) (y : Key) : Key :=
  (rotations stage).foldr unmix (withdraw key stage y)

/-- Undoes the cipher. -/
def decipher (key y : Key) : Key :=
  let x := (List.range 5).foldr (undoStage key) y
  ⟨x.first - key.first, x.second - key.second⟩

/-- What is done from the first to the last is undone from the last to the first. -/
theorem foldr_foldl_of_undoes {α β : Type} {run : β → α → β} {undo : α → β → β} :
    ∀ (steps : List α) (x : β), (∀ step ∈ steps, ∀ x, undo step (run x step) = x) →
      steps.foldr undo (steps.foldl run x) = x
  | [], _, _ => rfl
  | step :: rest, x, undoes => by
    obtain ⟨first, later⟩ := List.forall_mem_cons.mp undoes
    rw [List.foldl_cons, List.foldr_cons, foldr_foldl_of_undoes rest _ later]
    exact first x

theorem unmix_mix {stage : Nat} {amount : UInt32} (member : amount ∈ rotations stage) (x : Key) :
    unmix amount (mix amount x) = x := by
  obtain ⟨positive, bounded⟩ := rotations_bounds member
  have rotated (sum : UInt32) : rotateLeft x.second amount ^^^ sum ^^^ sum =
      rotateLeft x.second amount := by
    rw [UInt32.xor_assoc, UInt32.xor_self, UInt32.xor_zero]
  simp only [unmix, mix, rotated, rotateRight_rotateLeft positive bounded, UInt32.add_sub_cancel]

theorem withdraw_inject (key : Key) (stage : Nat) (x : Key) :
    withdraw key stage (inject key stage x) = x := by
  simp only [withdraw, inject, UInt32.add_sub_cancel]

theorem undoStage_runStage (key : Key) (stage : Nat) (x : Key) :
    undoStage key stage (runStage key x stage) = x := by
  rw [undoStage, runStage, withdraw_inject]
  exact foldr_foldl_of_undoes _ _ fun _ member => unmix_mix member

/-- **Deciphering undoes enciphering**, under every key. -/
theorem decipher_encipher (key x : Key) : decipher key (encipher key x) = x := by
  simp only [decipher, encipher,
    foldr_foldl_of_undoes (List.range 5) _ fun stage _ => undoStage_runStage key stage,
    UInt32.add_sub_cancel]

/-- Different blocks are enciphered differently. -/
theorem encipher_injective (key : Key) : Function.Injective (encipher key) :=
  Function.LeftInverse.injective (decipher_encipher key)

/-- The two keys of a split are different. -/
theorem Key.next_ne_spare (key : Key) : key.next ≠ key.spare := by
  intro same
  have blocks : (⟨0, 0⟩ : Key) = ⟨0, 1⟩ := encipher_injective key same
  exact absurd (congrArg Key.second blocks) (by decide)

end Random

/-! ## Draws and resets -/

/-- What a word that draws a random byte does: one key of the split yields the byte, the other one is
kept. -/
theorem Cpu.execute_random (s : Cpu) (x : Register) (nn : UInt8) :
    s.execute (0xC000 + 0x100 * x.val + nn.toNat : Nat) =
      { s.setRegister x (s.random.spare.byte &&& nn) with random := s.random.next } :=
  (execute_of_ofWord? (Instruction.ofWord?_random x nn) rfl).2

namespace Machine

/-- **No random key is used twice.** Under every key the cipher is injective in its block, so the two
keys of a split are different. Hence the key that a processor keeps is not the one that yielded a
random byte, and the key that a machine keeps is not the one that it gave to the processor, neither at
the start nor after a reset. -/
theorem kept_key_ne_spent :
    (∀ key : Random.Key, Function.Injective (Random.encipher key)) ∧
    (∀ key : Random.Key, key.next ≠ key.spare) ∧
    (∀ (s : Cpu) (x : Register) (nn : UInt8),
      let t := s.execute (0xC000 + 0x100 * x.val + nn.toNat : Nat)
      t.registers.get x = s.random.spare.byte &&& nn ∧
        t.random = s.random.next ∧ t.random ≠ s.random.spare) ∧
    (∀ config : Config, (start config).seedKey ≠ (start config).cpu.random) ∧
    ∀ m : Machine, (m.perform .reset).machine.seedKey ≠ (m.perform .reset).machine.cpu.random := by
  refine ⟨Random.encipher_injective, Random.Key.next_ne_spare, ?_, ?_, ?_⟩
  · intro s x nn t
    have drawn : t = _ := s.execute_random x nn
    have kept : t.random = s.random.next := by rw [drawn]
    refine ⟨?_, kept, ?_⟩
    · rw [drawn]
      exact Vector.getElem_set_self ..
    · rw [kept]
      exact s.random.next_ne_spare
  · intro config
    exact (Random.Key.ofSeed config.seed).next_ne_spare
  · intro m
    exact m.seedKey.next_ne_spare

end Machine

end Chip8
