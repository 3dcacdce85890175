import Chip8.Picture.Frame
import Chip8.Proofs.Load
import Chip8.Text.Pieces
import Mathlib.Data.List.Basic

/-!
# What is rendered

A rectangle of numbers, given column by column, is shown as a frame of colours and as lines of text.
Each pixel of either is decided by one number of the rectangle (`Picture.frame_shows_values`): in a
frame by the one whose place is left when the pixel's place is divided by the scale, in a text by the
one at the same place. A frame is enlarged by repeating its rows and, in each row, its pixels, so two
enlargements make one by the product of their factors.
-/

namespace Chip8

/-! ## Colours -/

namespace Colour

/-- Components that make a colour: one byte for all lights or a byte for each. -/
def IsComponents (components : List Int) : Prop :=
  (components.length = 1 ∨ components.length = 3) ∧ AllBytes components

instance (components : List Int) : Decidable (IsComponents components) := by
  unfold IsComponents AllBytes
  infer_instance

/-- The strengths of the lights. -/
def strengths (c : Colour) : List Int := [c.red.toNat, c.green.toNat, c.blue.toNat]

/-- The components are the strengths of a colour's lights, or the one strength that all have. -/
def GivenBy (c : Colour) (components : List Int) : Prop :=
  c.strengths = if components.length = 1 then components ++ components ++ components else components

instance (c : Colour) (components : List Int) : Decidable (c.GivenBy components) := by
  unfold GivenBy
  infer_instance

theorem strengths_injective : Function.Injective strengths := by
  intro c d same
  obtain ⟨red, green, blue⟩ := c
  obtain ⟨red', green', blue'⟩ := d
  simp only [strengths, List.cons.injEq, Int.natCast_inj, UInt8.toNat_inj, and_true] at same
  obtain ⟨rfl, rfl, rfl⟩ := same
  rfl

/-- Components make one colour. -/
theorem GivenBy.unique {c d : Colour} {components : List Int} (first : c.GivenBy components)
    (second : d.GivenBy components) : c = d :=
  strengths_injective (first.trans second.symm)

/-- Components that make a colour are accepted, however many pixels have it. -/
theorem exists_ofComponents {components : List Int} (valid : IsComponents components) :
    ∃ c : Colour, c.GivenBy components ∧ ∀ pixels, ofComponents components pixels = .ok c := by
  obtain ⟨counted, bytes⟩ := valid
  have all_bytes : components.find? (fun b => decide (b < 0 ∨ 255 < b)) = none := by
    refine List.find?_eq_none.mpr fun b member => ?_
    have bounds := bytes b member
    rw [decide_eq_true_eq]
    omega
  rcases counted with one | three
  · obtain ⟨all, rfl⟩ := List.length_eq_one_iff.mp one
    have byte := toNat_byte (bytes all List.mem_cons_self)
    refine ⟨⟨UInt8.ofInt all, UInt8.ofInt all, UInt8.ofInt all⟩, ?_, fun pixels => ?_⟩
    · rw [GivenBy, strengths, byte]
      rfl
    · rw [ofComponents, all_bytes]
  · obtain ⟨red, green, blue, rfl⟩ := List.length_eq_three.mp three
    simp only [AllBytes, List.forall_mem_cons] at bytes
    obtain ⟨red_byte, green_byte, blue_byte, -⟩ := bytes
    refine ⟨⟨UInt8.ofInt red, UInt8.ofInt green, UInt8.ofInt blue⟩, ?_, fun pixels => ?_⟩
    · rw [GivenBy, strengths, toNat_byte red_byte, toNat_byte green_byte, toNat_byte blue_byte]
      rfl
    · rw [ofComponents, all_bytes]

end Colour

/-! ## Frames -/

/-- A frame shows numbers, enlarged and in two colours: it has the first colour where the number is not
zero and the second one where it is. -/
structure Frame.Shows (f : Frame) (values : List (List Int)) (height scale : Nat) (on off : Colour) :
    Prop where
  height : f.height = height * scale
  width : f.width = values.length * scale
  rows : f.rows.length = f.height
  columns : ∀ row ∈ f.rows, row.length = f.width
  pixel : ∀ x < f.width, ∀ y < f.height, ∃ value,
    values[x / scale]?.bind (·[y / scale]?) = some value ∧
      f.pixel? x y = some (if value ≠ 0 then on else off)

namespace Frame

/-- A frame with each pixel repeated in both directions. -/
def enlarge (f : Frame) (scale : Nat) : Frame where
  width := f.width * scale
  height := f.height * scale
  rows := Picture.stretch scale (f.rows.map (Picture.stretch scale))

/-- An enlarged pixel is found by dividing its place. -/
theorem pixel?_enlarge (f : Frame) {scale : Nat} (positive : 0 < scale) (x y : Nat) :
    (f.enlarge scale).pixel? x y = f.pixel? (x / scale) (y / scale) := by
  rw [pixel?, enlarge, Picture.getElem?_stretch positive, List.getElem?_map, Option.bind_map]
  exact congrArg (Option.bind _) (funext fun row => Picture.getElem?_stretch positive row x)

/-- **Enlarging twice is enlarging by the product.** -/
theorem enlarge_enlarge (f : Frame) (a b : Nat) : (f.enlarge a).enlarge b = f.enlarge (a * b) := by
  have rows_twice : Picture.stretch b
      ((Picture.stretch a (f.rows.map (Picture.stretch a))).map (Picture.stretch b)) =
        Picture.stretch (a * b) (f.rows.map (Picture.stretch (a * b))) := by
    rw [Picture.map_stretch, Picture.stretch_stretch, List.map_map]
    exact congrArg _ (List.map_congr_left fun row _ => Picture.stretch_stretch a b row)
  simp only [enlarge, Nat.mul_assoc, rows_twice]

end Frame

namespace Picture

/-- A picture in two colours, its pixels not enlarged. -/
def plain (p : Picture) (on off : Colour) : Frame where
  width := p.width
  height := p.height
  rows := p.rows.map fun row => row.map fun pixel => if pixel then on else off

/-- A picture holds numbers: it is as large as they are, and it is lit where a number is not zero. -/
structure Holds (p : Picture) (values : List (List Int)) (height : Nat) : Prop where
  width : p.width = values.length
  height : p.height = height
  lit : ∀ x < p.width, ∀ y < p.height, ∃ value,
    values[x]?.bind (·[y]?) = some value ∧ p.lit x y = decide (value ≠ 0)

variable {values : List (List Int)} {height : Nat}

theorem paint_eq_enlarge (p : Picture) (scale : Nat) (on off : Colour) :
    p.paint scale on off = (p.plain on off).enlarge scale := by
  rw [paint, Frame.enlarge, plain, List.map_map]
  rfl

theorem getElem?_rows (p : Picture) {y : Nat} (inside : y < p.height) :
    p.rows[y]? = some (p.row y) := by
  rw [rows, List.getElem?_map, List.getElem?_range inside, Option.map_some]

theorem pixel?_plain (p : Picture) (on off : Colour) {x y : Nat} (across : x < p.width)
    (down : y < p.height) : (p.plain on off).pixel? x y = some (if p.lit x y then on else off) := by
  rw [Frame.pixel?, plain, List.getElem?_map, p.getElem?_rows down, Option.map_some,
    Option.bind_some, List.getElem?_map, p.getElem?_row across, Option.map_some]

/-- A painted pixel has the colour of the picture's pixel at its place divided by the scale. -/
theorem pixel?_paint (p : Picture) {scale : Nat} (positive : 0 < scale) (on off : Colour) {x y : Nat}
    (across : x < p.width * scale) (down : y < p.height * scale) :
    (p.paint scale on off).pixel? x y =
      some (if p.lit (x / scale) (y / scale) then on else off) := by
  rw [paint_eq_enlarge, Frame.pixel?_enlarge _ positive]
  exact p.pixel?_plain on off ((Nat.div_lt_iff_lt_mul positive).mpr across)
    ((Nat.div_lt_iff_lt_mul positive).mpr down)

theorem ofColumns?_of_rectangular {columns : List (List Bool)} (filled : columns ≠ [])
    (rectangular : ∀ column ∈ columns, column.length = height) :
    ofColumns? columns = some ⟨height, columns, rectangular⟩ := by
  obtain ⟨first, rest, rfl⟩ := List.exists_cons_of_ne_nil filled
  obtain rfl := rectangular first List.mem_cons_self
  exact dif_pos rectangular

theorem exists_holds (filled : values ≠ [])
    (rectangular : ∀ column ∈ values, column.length = height) :
    ∃ p, ofValues? values = some p ∧ p.Holds values height := by
  have same : ∀ column ∈ values.map (fun column => column.map (· != 0)),
      column.length = height := by
    refine List.forall_mem_map.mpr fun column member => ?_
    rw [List.length_map]
    exact rectangular column member
  have width : Picture.width ⟨height, _, same⟩ = values.length := List.length_map ..
  refine ⟨⟨height, _, same⟩, ofColumns?_of_rectangular (mt List.map_eq_nil_iff.mp filled) same,
    width, rfl, fun x across y down => ?_⟩
  rw [width] at across
  have tall : y < values[x].length := by
    rw [rectangular _ (List.getElem_mem across)]
    exact down
  refine ⟨values[x][y], ?_, ?_⟩
  · rw [List.getElem?_eq_getElem across, Option.bind_some, List.getElem?_eq_getElem tall]
  · rw [lit, List.getElem?_map, List.getElem?_eq_getElem across, Option.map_some, Option.getD_some,
      List.getElem?_map, List.getElem?_eq_getElem tall, Option.map_some, Option.getD_some]
    exact decide_not.symm

/-! ## Lines of text -/

theorem toList_line (marks : Marks) (row : List Bool) :
    (line marks row).toList = row.flatMap fun pixel => (marks.of pixel).toList := by
  rw [line, String.toList_join, List.flatMap_map]

/-- **A text cut at its line breaks is the lines it was made of**, if there are some and no mark has
a line break in it. -/
theorem pieces_text (p : Picture) {marks : Marks} (tall : 0 < p.height)
    (unbroken : ∀ pixel, ∀ c ∈ (marks.of pixel).toList, c ≠ '\n') :
    Text.pieces '\n' (p.text marks).toList =
      p.rows.map fun row => row.flatMap fun pixel => (marks.of pixel).toList := by
  have texts : (p.lines marks).map String.toList =
      p.rows.map fun row => row.flatMap fun pixel => (marks.of pixel).toList := by
    rw [lines, List.map_map]
    exact List.map_congr_left fun row _ => toList_line marks row
  rw [text, String.toList_intercalate, texts]
  refine Text.pieces_intercalate ?_ ?_
  · rw [← List.length_pos_iff, List.length_map, length_rows]
    exact tall
  · refine List.forall_mem_map.mpr fun row _ => List.forall_mem_flatMap.mpr fun pixel _ => ?_
    exact unbroken pixel

/-- In a text with marks of one character, a pixel is shown by the character at its place. -/
theorem getElem?_pieces_text (p : Picture) {mark blank : Char} (mark_plain : mark ≠ '\n')
    (blank_plain : blank ≠ '\n') {x y : Nat} (across : x < p.width) (down : y < p.height) :
    (Text.pieces '\n'
        (p.text ⟨String.singleton mark, String.singleton blank⟩).toList)[y]?.bind (·[x]?) =
      some (if p.lit x y then mark else blank) := by
  have characters (pixel : Bool) :
      (Marks.of ⟨String.singleton mark, String.singleton blank⟩ pixel).toList =
        [if pixel then mark else blank] := by
    cases pixel <;> exact String.toList_singleton _
  have unbroken (pixel : Bool) : ∀ c ∈ [if pixel then mark else blank], c ≠ '\n' := by
    refine List.forall_mem_singleton.mpr ?_
    cases pixel
    · exact blank_plain
    · exact mark_plain
  rw [p.pieces_text (Nat.zero_lt_of_lt down) (fun pixel => characters pixel ▸ unbroken pixel),
    List.getElem?_map, p.getElem?_rows down, Option.map_some, Option.bind_some]
  simp only [characters, ← List.map_eq_flatMap]
  rw [List.getElem?_map, p.getElem?_row across, Option.map_some]

/-! ## Both renderings -/

/-- With a positive scale, columns and colours that are accepted, a frame is painted. -/
theorem frame_of_valid (p : Picture) {onParts offParts : List Int} (wide : 0 < p.width) {on off : Colour}
    (on_made : ∀ pixels, Colour.ofComponents onParts pixels = .ok on)
    (off_made : ∀ pixels, Colour.ofComponents offParts pixels = .ok off) {scale : Nat}
    (positive : 1 ≤ scale) :
    p.frame ⟨scale, onParts, offParts⟩ = .ok (p.paint scale on off) := by
  have large : ¬((scale : Int) < 1) := by omega
  have some_columns : p.width ≠ 0 := by omega
  unfold frame
  simp only [large, some_columns, on_made, off_made]
  rfl

/-- What a picture holds is shown when it is painted. -/
theorem Holds.shows_paint {p : Picture} (holds : p.Holds values height) (on off : Colour) {scale : Nat}
    (positive : 1 ≤ scale) : (p.paint scale on off).Shows values height scale on off where
  height := congrArg (· * scale) holds.height
  width := congrArg (· * scale) holds.width
  rows := by
    rw [paint, length_stretch, List.length_map, length_rows]
  columns := by
    intro row member
    obtain ⟨plain_row, made, again⟩ := List.mem_flatMap.mp member
    obtain ⟨pixels, here, rfl⟩ := List.mem_map.mp made
    obtain ⟨y, -, rfl⟩ := List.mem_map.mp here
    rw [List.eq_of_mem_replicate again, length_stretch, List.length_map, length_row]
    rfl
  pixel := by
    intro x across y down
    obtain ⟨value, found, shown⟩ :=
      holds.lit (x / scale) ((Nat.div_lt_iff_lt_mul positive).mpr across)
        (y / scale) ((Nat.div_lt_iff_lt_mul positive).mpr down)
    refine ⟨value, found, ?_⟩
    rw [p.pixel?_paint positive on off across down, shown]
    simp only [decide_eq_true_eq]

/-- **A frame shows the numbers of a rectangle, and a text shows the same.** Let there be at least one
column, all of one height, and two colours given by components, equal or not. Then every positive scale
gives a frame that shows the numbers enlarged by it; a scale that is a product gives the frame of its
first factor with each pixel repeated in both directions as often as the second one says. If the
colours differ, a pixel has the first one exactly if the character of lit pixels stands at its place,
divided by the scale, in the lines of the text with two different characters for marks. -/
theorem frame_shows_values (values : List (List Int)) (height : Nat) (onParts offParts : List Int)
    (filled : values ≠ []) (rectangular : ∀ column ∈ values, column.length = height)
    (on_valid : Colour.IsComponents onParts) (off_valid : Colour.IsComponents offParts) :
    ∃ (p : Picture) (on off : Colour) (shown : Nat → Frame),
      ofValues? values = some p ∧ on.GivenBy onParts ∧ off.GivenBy offParts ∧
      (∀ scale ≥ (1 : Nat), p.frame ⟨scale, onParts, offParts⟩ = .ok (shown scale) ∧
        (shown scale).Shows values height scale on off) ∧
      (∀ a ≥ 1, ∀ b ≥ 1, shown (a * b) = (shown a).enlarge b) ∧
      (on ≠ off → ∀ mark blank : Char, mark ≠ blank → mark ≠ '\n' → blank ≠ '\n' →
        let lines := Text.pieces '\n'
          (p.text ⟨String.singleton mark, String.singleton blank⟩).toList
        ∀ scale ≥ 1, ∀ x < (shown scale).width, ∀ y < (shown scale).height,
          ((shown scale).pixel? x y = some on ↔
            lines[y / scale]?.bind (·[x / scale]?) = some mark)) := by
  obtain ⟨p, made, holds⟩ := exists_holds filled rectangular
  obtain ⟨on, on_given, on_made⟩ := Colour.exists_ofComponents on_valid
  obtain ⟨off, off_given, off_made⟩ := Colour.exists_ofComponents off_valid
  have some_columns : 0 < p.width := by
    rw [holds.width]
    exact List.length_pos_of_ne_nil filled
  refine ⟨p, on, off, fun scale => p.paint scale on off, made, on_given, off_given, ?_, ?_, ?_⟩
  · intro scale positive
    exact ⟨p.frame_of_valid some_columns on_made off_made positive,
      holds.shows_paint on off positive⟩
  · intro a _ b _
    simp only [paint_eq_enlarge, Frame.enlarge_enlarge]
  · intro told_apart mark blank distinct mark_plain blank_plain lines scale positive x across y down
    have column : x / scale < p.width := (Nat.div_lt_iff_lt_mul positive).mpr across
    have row : y / scale < p.height := (Nat.div_lt_iff_lt_mul positive).mpr down
    rw [p.pixel?_paint positive on off across down,
      p.getElem?_pieces_text mark_plain blank_plain column row]
    cases p.lit (x / scale) (y / scale) with
    | true => exact iff_of_true rfl rfl
    | false =>
      exact iff_of_false (fun same => told_apart (Option.some.inj same).symm)
        (fun same => distinct (Option.some.inj same).symm)

/-- Three columns of two pixels, three times enlarged: a negative number is lit in the frame and in the
text, and the other pixel of its row is not. -/
theorem frame_shows_values_of_three_columns :
    let values : List (List Int) := [[0, -3], [1, 0], [0, 0]]
    values ≠ [] ∧ (∀ column ∈ values, column.length = 2) ∧ Colour.IsComponents [255] ∧
      Colour.IsComponents [1, 2, 3] ∧
      ∃ p frame, ofValues? values = some p ∧ p.frame ⟨3, [255], [1, 2, 3]⟩ = .ok frame ∧
        frame.width = 9 ∧ frame.height = 6 ∧
        frame.pixel? 2 3 = some ⟨255, 255, 255⟩ ∧ frame.pixel? 3 3 = some ⟨1, 2, 3⟩ ∧
        (Text.pieces '\n' (p.text ⟨String.singleton '#', String.singleton '.'⟩).toList)[1]?.bind
          (·[0]?) = some '#' := by
  intro values
  have filled : values ≠ [] := List.cons_ne_nil [0, -3] [[1, 0], [0, 0]]
  have rectangular : ∀ column ∈ values, column.length = 2 := by decide
  have on_valid : Colour.IsComponents [255] := by decide
  have off_valid : Colour.IsComponents [1, 2, 3] := by decide
  obtain ⟨p, on, off, shown, made, on_given, off_given, frames, -, alike⟩ :=
    frame_shows_values values 2 [255] [1, 2, 3] filled rectangular on_valid off_valid
  obtain rfl : on = ⟨255, 255, 255⟩ := on_given.unique (by decide)
  obtain rfl : off = ⟨1, 2, 3⟩ := off_given.unique (by decide)
  obtain ⟨framed, shows⟩ := frames 3 (by decide)
  have wide : (shown 3).width = 9 := shows.width
  have tall : (shown 3).height = 6 := shows.height
  have left : 2 < (shown 3).width := by omega
  have middle : 3 < (shown 3).width := by omega
  have lower : 3 < (shown 3).height := by omega
  obtain ⟨value, found, lit⟩ := shows.pixel 2 left 3 lower
  obtain ⟨zero, blank, dark⟩ := shows.pixel 3 middle 3 lower
  obtain rfl : -3 = value := Option.some.inj found
  obtain rfl : 0 = zero := Option.some.inj blank
  have marked := alike (by decide) '#' '.' (by decide) (by decide) (by decide) 3 (by decide)
    2 left 3 lower
  exact ⟨filled, rectangular, on_valid, off_valid, p, shown 3, made, framed, wide, tall, lit, dark,
    marked.mp lit⟩

end Picture

end Chip8
