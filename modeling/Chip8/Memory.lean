/-!
# Memory

The 4096 bytes of a machine, from address 0. Programs start at 0x200, so a program has at most 3584
bytes. Addresses are natural numbers: a read past the last byte sees the open bus, a write past it
is dropped. `getElem_write` says what a write does to every byte.
-/

namespace Chip8

/-- The bytes of a machine. -/
@[ext]
structure Memory where
  bytes : Vector UInt8 4096
deriving DecidableEq

namespace Memory

/-- The number of bytes. -/
def size : Nat := 4096

/-- The address of the first byte of a program. -/
def programStart : Nat := 0x200

/-- The number of bytes from the start of a program to the end of memory. -/
def programCapacity : Nat := size - programStart

/-- What a read past the last byte sees. -/
def openBus : UInt8 := 0

/-- Memory that holds zero everywhere. -/
def blank : Memory := ⟨Vector.replicate 4096 0⟩

/-- The byte at an address, or `bus` past the last one. -/
def read (bus : UInt8) (m : Memory) (address : Nat) : UInt8 :=
  m.bytes[address]?.getD bus

/-- The `count` bytes from an address on. -/
def readMany (bus : UInt8) (m : Memory) (address count : Nat) : List UInt8 :=
  (List.range count).map fun i => m.read bus (address + i)

/-- Puts one byte at an address; past the end nothing happens. -/
def put (m : Memory) (address : Nat) (byte : UInt8) : Memory :=
  ⟨m.bytes.setIfInBounds address byte⟩

/-- Puts bytes at an address and the ones after it; what falls past the end is dropped. -/
def write (m : Memory) : Nat → List UInt8 → Memory
  | _, [] => m
  | address, byte :: rest => (m.put address byte).write (address + 1) rest

/-- Inside memory the bus is not seen. -/
theorem read_of_lt (bus : UInt8) (m : Memory) {address : Nat} (inside : address < 4096) :
    m.read bus address = m.bytes[address] := by
  simp only [read, Vector.getElem?_eq_getElem inside, Option.getD_some]

/-- Past the end every read sees the bus. -/
theorem read_of_ge (bus : UInt8) (m : Memory) {address : Nat} (outside : 4096 ≤ address) :
    m.read bus address = bus := by
  simp only [read, Vector.getElem?_eq_none outside, Option.getD_none]

theorem length_readMany (bus : UInt8) (m : Memory) (address count : Nat) :
    (m.readMany bus address count).length = count := by
  simp only [readMany, List.length_map, List.length_range]

theorem getElem?_readMany (bus : UInt8) (m : Memory) (address : Nat) {count i : Nat}
    (below : i < count) : (m.readMany bus address count)[i]? = some (m.read bus (address + i)) := by
  rw [readMany, List.getElem?_map, List.getElem?_range below, Option.map_some]

/-- Reading fewer bytes is reading more and dropping the last ones. -/
theorem take_readMany (bus : UInt8) (m : Memory) (address : Nat) {count n : Nat}
    (fewer : n ≤ count) : (m.readMany bus address count).take n = m.readMany bus address n := by
  rw [readMany, ← List.map_take, List.take_range, Nat.min_eq_left fewer, readMany]

theorem getElem_put (m : Memory) (address : Nat) (byte : UInt8) {i : Nat} (inside : i < 4096) :
    (m.put address byte).bytes[i] = if address = i then byte else m.bytes[i] := by
  simp only [put, Vector.getElem_setIfInBounds inside]

/-- **What a write does**: the bytes written stand from the address on, all others stay. -/
theorem getElem_write (bytes : List UInt8) :
    ∀ (m : Memory) (address : Nat) {i : Nat} (inside : i < 4096),
      (m.write address bytes).bytes[i] =
        if address ≤ i then bytes[i - address]?.getD m.bytes[i] else m.bytes[i] := by
  induction bytes with
  | nil => intro m address i inside; simp only [write, List.getElem?_nil, Option.getD_none, ite_self]
  | cons byte rest ih =>
    intro m address i inside
    rw [write, ih (m.put address byte) (address + 1) inside, getElem_put m address byte inside]
    by_cases before : i < address
    · rw [if_neg (by omega), if_neg (by omega), if_neg (by omega)]
    · by_cases here : address = i
      · subst here
        rw [if_neg (by omega), if_pos rfl, if_pos (Nat.le_refl _), Nat.sub_self]
        rfl
      · rw [if_pos (by omega), if_neg here, if_pos (by omega),
          show i - address = (i - (address + 1)) + 1 by omega, List.getElem?_cons_succ]

end Memory

end Chip8
