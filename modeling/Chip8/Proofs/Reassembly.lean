import Chip8.Proofs.Decode
import Chip8.Proofs.Effect
import Mathlib.Data.Int.Bitwise

/-!
# Words from their fields

The fields of a word are what masks leave of it, for every integer in two's complement
(`Fields.CutFrom`). They overlap just so that the lowest sixteen bits can be put together again from
them (`Fields.ofWord_loses_nothing`). A word that is fetched is made of two bytes, and its fields are the
digits of these. Past the end of memory it is made of zeros, and never of the byte at address 0.
-/

namespace Chip8

/-! ## Masks -/

/-- The bits from `low` up, `width` of them. -/
def maskOf (low width : Nat) : Nat := ((1 <<< width) - 1) <<< low

theorem maskOf_shiftRight (low width : Nat) : maskOf low width >>> low = 2 ^ width - 1 := by
  rw [maskOf, Nat.shiftLeft_shiftRight, Nat.one_shiftLeft]

/-- **A field of an integer is what its mask leaves of it, moved down to the last bit.** In two's
complement the bits of a negative integer are those that its complement does not have. -/
theorem land_maskOf_shiftRight (w : Int) (low width : Nat) :
    Int.land w (maskOf low width) >>> low = bitField w low width := by
  cases w with
  | ofNat n =>
    have left : (n &&& maskOf low width) >>> low = (n >>> low) % (1 <<< width) := by
      rw [Nat.shiftRight_and_distrib, maskOf_shiftRight, Nat.and_two_pow_sub_one_eq_mod,
        Nat.one_shiftLeft]
    exact congrArg Int.ofNat left
  | negSucc n =>
    have below : (n >>> low) % 2 ^ width < 2 ^ width := Nat.mod_lt _ (Nat.two_pow_pos width)
    -- Both sides have the bits of the field that `n` does not have.
    have left : Nat.ldiff (maskOf low width) n >>> low =
        2 ^ width - ((n >>> low) % 2 ^ width + 1) := by
      apply Nat.eq_of_testBit_eq
      intro i
      have ones := Nat.testBit_two_pow_sub_one width i
      rw [← maskOf_shiftRight low, Nat.testBit_shiftRight] at ones
      rw [Nat.testBit_two_pow_sub_succ below, Nat.testBit_mod_two_pow, Nat.testBit_shiftRight,
        Nat.testBit_shiftRight, Nat.testBit_ldiff, ones]
      cases decide (i < width) <;> rfl
    have right : bitField (Int.negSucc n) low width =
        2 ^ width - ((n >>> low) % 2 ^ width + 1) := by
      have positive : (0 : Int) < (2 ^ width : Nat) := Int.natCast_pos.mpr (Nat.two_pow_pos width)
      rw [bitField, Nat.one_shiftLeft, Int.negSucc_shiftRight, Int.negSucc_emod _ positive]
      omega
    rw [right, ← left]
    rfl

/-- A field at the end of an integer is not moved. -/
theorem land_maskOf_zero (w : Int) (width : Nat) :
    Int.land w (maskOf 0 width) = bitField w 0 width := by
  rw [← land_maskOf_shiftRight, Int.shiftRight_zero]

theorem Fields.toNat_nn_ofWord (w : Int) : (ofWord w).nn.toNat = bitField w 0 8 :=
  UInt8.toNat_ofNat_of_lt' (bitField_lt w 0 8)

/-- The fields are what masks leave of a word, moved down to the last bit. -/
structure Fields.CutFrom (f : Fields) (w : Int) : Prop where
  word : f.word = w
  group : Int.land w 0xF000 >>> (12 : Nat) = f.group.val
  x : Int.land w 0x0F00 >>> (8 : Nat) = f.x.val
  y : Int.land w 0x00F0 >>> (4 : Nat) = f.y.val
  n : Int.land w 0x000F = f.n.val
  nn : Int.land w 0x00FF = f.nn.toNat
  nnn : Int.land w 0x0FFF = f.nnn.val

theorem Fields.cutFrom_ofWord (w : Int) : (ofWord w).CutFrom w where
  word := rfl
  group := land_maskOf_shiftRight w 12 4
  x := land_maskOf_shiftRight w 8 4
  y := land_maskOf_shiftRight w 4 4
  n := land_maskOf_zero w 4
  nn := by
    rw [toNat_nn_ofWord]
    exact land_maskOf_zero w 8
  nnn := land_maskOf_zero w 12

/-! ## Numbers -/

theorem natCast_bitField (w : Int) (low width : Nat) :
    (bitField w low width : Int) = w / (1 <<< low : Nat) % (1 <<< width : Nat) := by
  have positive : ((1 <<< width : Nat) : Int) ≠ 0 := by
    rw [Nat.one_shiftLeft]
    exact Int.natCast_ne_zero.mpr (Nat.two_pow_pos width).ne'
  rw [bitField, Int.toNat_of_nonneg (Int.emod_nonneg _ positive), Int.shiftRight_eq_div_pow,
    Nat.one_shiftLeft low]

/-- The fields as numbers. -/
theorem Fields.values_ofWord (w : Int) :
    let f := ofWord w
    f.group.val = w / 4096 % 16 ∧ f.x.val = w / 256 % 16 ∧ f.y.val = w / 16 % 16 ∧
      f.n.val = w % 16 ∧ f.nn.toNat = w % 256 ∧ f.nnn.val = w % 4096 := by
  have last (width : Nat) : (bitField w 0 width : Int) = w % (1 <<< width : Nat) :=
    (natCast_bitField w 0 width).trans (congrArg (· % _) (Int.ediv_one w))
  refine ⟨natCast_bitField w 12 4, natCast_bitField w 8 4, natCast_bitField w 4 4, last 4, ?_,
    last 12⟩
  rw [toNat_nn_ofWord]
  exact last 8

namespace Fields

/-- The fields overlap: two digits are the last byte, three the address. -/
theorem overlap_ofWord (w : Int) :
    (ofWord w).nn.toNat = 16 * (ofWord w).y.val + (ofWord w).n.val ∧
      (ofWord w).nnn.val = 256 * (ofWord w).x.val + (ofWord w).nn.toNat := by
  obtain ⟨-, x, y, n, nn, nnn⟩ := values_ofWord w
  omega

/-- Group and address make up a word again. -/
theorem reassemble_ofWord (w : Int) :
    4096 * ((ofWord w).group.val : Int) + (ofWord w).nnn.val = w % 65536 := by
  obtain ⟨group, -, -, -, -, nnn⟩ := values_ofWord w
  omega

/-- The fields but the word itself depend on its lowest sixteen bits only. -/
theorem ofWord_eq_of_emod (w : Int) : ofWord w = { ofWord (w % 65536) with word := w } := by
  rw [ofWord_emod]
  rfl

/-- Group and address tell the lowest sixteen bits of a word. -/
theorem group_nnn_eq_iff {v w : Int} :
    ((ofWord v).group = (ofWord w).group ∧ (ofWord v).nnn = (ofWord w).nnn) ↔
      v % 65536 = w % 65536 := by
  constructor
  · rintro ⟨group, nnn⟩
    rw [← reassemble_ofWord v, ← reassemble_ofWord w, group, nnn]
  · intro same
    rw [ofWord_eq_of_emod v, ofWord_eq_of_emod w, same]
    exact ⟨rfl, rfl⟩

end Fields

/-! ## Fetched words -/

/-- The number at an address of a memory that goes on with zeros behind its end. -/
def Memory.numberAt (m : Memory) (address : Nat) : Nat :=
  if inside : address < 4096 then (m.bytes.get ⟨address, inside⟩).toNat else 0

theorem Memory.toNat_read_zero (m : Memory) (address : Nat) :
    (m.read 0 address).toNat = m.numberAt address := by
  rw [numberAt]
  split
  · rename_i inside
    rw [read_of_lt 0 m inside]
    rfl
  · rename_i outside
    rw [read_of_ge 0 m (Nat.le_of_not_lt outside)]
    rfl

theorem Memory.numberAt_lt (m : Memory) (address : Nat) : m.numberAt address < 256 := by
  rw [← toNat_read_zero]
  exact UInt8.toNat_lt _

theorem Cpu.toNat_fetch (s : Cpu) :
    s.fetch.1.toNat = 256 * s.memory.numberAt s.pc.toNat + s.memory.numberAt (s.pc.toNat + 1) := by
  rw [← Memory.toNat_read_zero, ← Memory.toNat_read_zero]
  exact s.toNat_nextWord

/-- The first two digits of a fetched word are its first byte, and its last byte is the second one. -/
theorem Cpu.digits_fetch (s : Cpu) :
    let f := Fields.ofWord s.fetch.1.toNat
    16 * f.group.val + f.x.val = s.memory.numberAt s.pc.toNat ∧
      f.nn.toNat = s.memory.numberAt (s.pc.toNat + 1) := by
  have made := s.toNat_fetch
  have first_lt := s.memory.numberAt_lt s.pc.toNat
  have second_lt := s.memory.numberAt_lt (s.pc.toNat + 1)
  obtain ⟨group, x, -, -, nn, -⟩ := Fields.values_ofWord s.fetch.1.toNat
  dsimp only at group x nn ⊢
  omega

/-- **Cutting a word into fields loses nothing of its lowest sixteen bits, and fetching one loses nothing
of its bytes.** For an integer of any size and either sign the fields are what masks leave of it. They
overlap, and group and address make up the integer modulo 65536; so all of them but the word itself
depend on this remainder only, and group and address tell it. A fetched word is made of the bytes at
the program counter and behind it, where memory goes on with zeros. Only the program counter moves, by
two modulo 65536. The fields of the word are the digits of its bytes. -/
theorem Fields.ofWord_loses_nothing (w : Int) (s : Cpu) :
    let f := ofWord w
    let word := s.fetch.1.toNat
    let fetched := ofWord word
    let first := s.memory.numberAt s.pc.toNat
    let second := s.memory.numberAt (s.pc.toNat + 1)
    (f.CutFrom w ∧ f.group.val ≤ 15 ∧ f.x.val ≤ 15 ∧ f.y.val ≤ 15 ∧ f.n.val ≤ 15) ∧
    (f.nn.toNat = 16 * f.y.val + f.n.val ∧ f.nnn.val = 256 * f.x.val + f.nn.toNat ∧
      4096 * (f.group.val : Int) + f.nnn.val = w % 65536) ∧
    f = { ofWord (w % 65536) with word := w } ∧
    (∀ v, ((ofWord v).group = f.group ∧ (ofWord v).nnn = f.nnn) ↔ v % 65536 = w % 65536) ∧
    (word = 256 * first + second ∧ word ≤ 0xFFFF) ∧
    (s.fetch.2 = { s with pc := s.fetch.2.pc } ∧
      s.fetch.2.pc.toNat = (s.pc.toNat + 2) % 65536) ∧
    16 * fetched.group.val + fetched.x.val = first ∧ fetched.nn.toNat = second := by
  intro f word fetched first second
  obtain ⟨last_byte, address⟩ := overlap_ofWord w
  have digit_le (digit : Fin 16) : digit.val ≤ 15 := Nat.le_of_lt_succ digit.isLt
  have word_le : word ≤ 0xFFFF := Nat.le_of_lt_succ s.fetch.1.toNat_lt
  have moved : s.fetch.2.pc.toNat = (s.pc.toNat + 2) % 65536 := UInt16.toNat_add s.pc 2
  exact ⟨⟨cutFrom_ofWord w, digit_le f.group, digit_le f.x, digit_le f.y, digit_le f.n⟩,
    ⟨last_byte, address, reassemble_ofWord w⟩, ofWord_eq_of_emod w, fun _ => group_nnn_eq_iff,
    ⟨s.toNat_fetch, word_le⟩, ⟨rfl, moved⟩, s.digits_fetch⟩

/-- A negative word, and a word fetched at the highest program counter: it is zero, though the byte at
address 0 is not. -/
theorem Fields.ofWord_loses_nothing_at_highest_pc :
    let s : Cpu := { Cpu.create ⟨0, 0⟩ Font.standard false with pc := 0xFFFF }
    let f := ofWord (-2)
    Int.land (-2) 0xF000 >>> (12 : Nat) = f.group.val ∧
      4096 * (f.group.val : Int) + f.nnn.val = 0xFFFE ∧
      s.memory.numberAt 0 = 0xF0 ∧ s.fetch.1.toNat = 0 ∧ s.fetch.2.pc.toNat = 1 := by
  intro s f
  obtain ⟨⟨cut, -⟩, ⟨-, -, whole⟩, -, -, ⟨word, -⟩, ⟨-, moved⟩, -⟩ := ofWord_loses_nothing (-2) s
  have first : s.memory.numberAt 0 = 0xF0 := by decide +kernel
  have behind (address : Nat) (past : 4096 ≤ address) : s.memory.numberAt address = 0 :=
    dif_neg (Nat.not_lt_of_le past)
  rw [behind s.pc.toNat (by decide), behind (s.pc.toNat + 1) (by decide)] at word
  have wrapped : (s.pc.toNat + 2) % 65536 = 1 := by decide
  exact ⟨cut.group, whole, first, word, moved.trans wrapped⟩

end Chip8
