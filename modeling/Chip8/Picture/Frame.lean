import Chip8.Picture

/-!
# Frames

A frame is a rectangle of colours. A picture becomes a frame by giving each pixel one of two colours
and repeating it in both directions by a scale. What can be wrong with the scale and the colours is
checked in the order scale, columns, colour of the lit pixels, colour of the dark ones.
-/

namespace Chip8

/-- A colour, as the strengths of its three lights. -/
structure Colour where
  red : UInt8
  green : UInt8
  blue : UInt8
deriving DecidableEq

/-- What a caller asks of a frame: lit pixels are white and dark ones black, eight times enlarged,
unless another scale or other colours are given. A colour is given by its components. -/
structure FrameSettings where
  scale : Int := 8
  on : List Int := [255, 255, 255]
  off : List Int := [0, 0, 0]
deriving DecidableEq

/-- A rectangle of colours, row by row. -/
structure Frame where
  width : Nat
  height : Nat
  rows : List (List Colour)
deriving DecidableEq

/-- The colour of a pixel, if it lies in the frame. -/
def Frame.pixel? (f : Frame) (x y : Nat) : Option Colour := (f.rows[y]?).bind (·[x]?)

/-- Why a picture cannot be turned into a frame. -/
inductive FrameError where
  | scaleNotPositive (scale : Int)
  | noColumns
  /-- A colour has a component that is no byte. -/
  | componentOutOfRange (component : Int)
  /-- A colour has neither one nor three components. -/
  | componentCount (components pixels : Nat)
deriving DecidableEq

/-- The text of a frame error. -/
def FrameError.message : FrameError → String
  | scaleNotPositive scale => "scale must be positive, got " ++ toString scale
  | noColumns => "not enough values to unpack (expected 2, got 1)"
  | componentOutOfRange component =>
    "Python integer " ++ toString component ++ " out of bounds for uint8"
  | componentCount components pixels =>
    "shape mismatch: value array of shape (" ++ toString components
      ++ ",) could not be broadcast to indexing result of shape (" ++ toString pixels ++ ",3)"

/-- The colour with given components, one for all lights or one for each. The components are checked
first, then their number; `pixels` is how many pixels have the colour. -/
def Colour.ofComponents (components : List Int) (pixels : Nat) : Except FrameError Colour :=
  match components.find? fun component => decide (component < 0 ∨ 255 < component) with
  | some component => .error (.componentOutOfRange component)
  | none =>
    match components with
    | [all] => .ok ⟨UInt8.ofInt all, UInt8.ofInt all, UInt8.ofInt all⟩
    | [red, green, blue] => .ok ⟨UInt8.ofInt red, UInt8.ofInt green, UInt8.ofInt blue⟩
    | _ => .error (.componentCount components.length pixels)

namespace Picture

/-- Each element of a list, repeated. -/
def stretch {α : Type} (scale : Nat) (xs : List α) : List α :=
  xs.flatMap fun x => List.replicate scale x

/-- A picture in two colours, each pixel a square of `scale` by `scale`. -/
def paint (p : Picture) (scale : Nat) (on off : Colour) : Frame where
  width := p.width * scale
  height := p.height * scale
  rows := stretch scale (p.rows.map fun row =>
    stretch scale (row.map fun pixel => if pixel then on else off))

/-- A picture as a frame, for settings that are yet to be checked. -/
def frame (p : Picture) (settings : FrameSettings) : Except FrameError Frame := do
  if settings.scale < 1 then throw (.scaleNotPositive settings.scale)
  if p.width = 0 then throw .noColumns
  let on ← Colour.ofComponents settings.on (p.count true)
  let off ← Colour.ofComponents settings.off (p.count false)
  return p.paint settings.scale.toNat on off

theorem length_stretch {α : Type} (scale : Nat) (xs : List α) :
    (stretch scale xs).length = xs.length * scale := by
  induction xs with
  | nil => simp only [stretch, List.flatMap_nil, List.length_nil, Nat.zero_mul]
  | cons x xs ih =>
    simp only [stretch, List.flatMap_cons, List.length_append, List.length_replicate,
      List.length_cons, Nat.add_mul, Nat.one_mul] at ih ⊢
    omega

/-- An element is found as often as it is repeated. -/
theorem getElem?_stretch {α : Type} {scale : Nat} (positive : 0 < scale) (xs : List α) (i : Nat) :
    (stretch scale xs)[i]? = xs[i / scale]? := by
  induction xs generalizing i with
  | nil => simp only [stretch, List.flatMap_nil, List.getElem?_nil]
  | cons x xs ih =>
    rw [stretch, List.flatMap_cons]
    rcases Nat.lt_or_ge i scale with first | later
    · rw [List.getElem?_append_left (by rw [List.length_replicate]; exact first),
        List.getElem?_replicate, if_pos first, Nat.div_eq_of_lt first, List.getElem?_cons_zero]
    · rw [List.getElem?_append_right (by rw [List.length_replicate]; exact later),
        List.length_replicate, Nat.div_eq_sub_div positive later, List.getElem?_cons_succ]
      exact ih (i - scale)

theorem map_stretch {α β : Type} (f : α → β) (scale : Nat) (xs : List α) :
    (stretch scale xs).map f = stretch scale (xs.map f) := by
  simp only [stretch, List.map_flatMap, List.flatMap_map, List.map_replicate]

/-- Repeating twice is repeating by the product. -/
theorem stretch_stretch {α : Type} (a b : Nat) (xs : List α) :
    stretch b (stretch a xs) = stretch (a * b) xs := by
  simp only [stretch, List.flatMap_assoc, List.flatMap_replicate, List.flatten_replicate_replicate]

end Picture

end Chip8
