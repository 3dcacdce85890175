/-!
# Font

The sixteen hexadecimal glyphs that stand at the bottom of memory. A glyph is a sprite of five rows,
so the glyph of a digit starts at five times the digit.
-/

namespace Chip8.Font

/-- The address of the first glyph. -/
def start : Nat := 0

/-- The rows of a glyph. -/
def glyphHeight : Nat := 5

/-- The bytes of a font. -/
def size : Nat := 80

/-- The font of a machine that is given no other. -/
def standard : List UInt8 :=
  [0xF0, 0x90, 0x90, 0x90, 0xF0,  -- 0
   0x20, 0x60, 0x20, 0x20, 0x70,  -- 1
   0xF0, 0x10, 0xF0, 0x80, 0xF0,  -- 2
   0xF0, 0x10, 0xF0, 0x10, 0xF0,  -- 3
   0x90, 0x90, 0xF0, 0x10, 0x10,  -- 4
   0xF0, 0x80, 0xF0, 0x10, 0xF0,  -- 5
   0xF0, 0x80, 0xF0, 0x90, 0xF0,  -- 6
   0xF0, 0x10, 0x20, 0x40, 0x40,  -- 7
   0xF0, 0x90, 0xF0, 0x90, 0xF0,  -- 8
   0xF0, 0x90, 0xF0, 0x10, 0xF0,  -- 9
   0xF0, 0x90, 0xF0, 0x90, 0x90,  -- A
   0xE0, 0x90, 0xE0, 0x90, 0xE0,  -- B
   0xF0, 0x80, 0x80, 0x80, 0xF0,  -- C
   0xE0, 0x90, 0x90, 0x90, 0xE0,  -- D
   0xF0, 0x80, 0xF0, 0x80, 0xF0,  -- E
   0xF0, 0x80, 0xF0, 0x80, 0x80]  -- F

/-- The standard font has five rows for each of the sixteen digits. -/
theorem length_standard : standard.length = size := by decide

end Chip8.Font
