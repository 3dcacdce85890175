import Chip8.Proofs.Rendering
import Mathlib.Data.Set.Basic

/-!
# Texts that can be read back

A text made of a picture is cut into its lines at the line breaks, and a line into blocks of the size of
a mark. If no mark has a line break in it and both are of one size, but different, the blocks are the
pixels again (`Picture.blocks_pieces_text`). So a text tells which numbers of a rectangle are not zero,
and nothing else (`Picture.text_tells_nonzero`).
-/

namespace Chip8

/-! ## Marks -/

namespace Marks

/-- Marks of one size that can be told apart, and none of which breaks a line. -/
structure Readable (marks : Marks) : Prop where
  filled : 0 < marks.on.length
  same_length : marks.off.length = marks.on.length
  distinct : marks.on ≠ marks.off
  on_plain : '\n' ∉ marks.on.toList
  off_plain : '\n' ∉ marks.off.toList

variable {marks : Marks}

theorem Readable.length_of (readable : marks.Readable) (pixel : Bool) :
    (marks.of pixel).toList.length = marks.on.length := by
  cases pixel with
  | true => exact String.length_toList
  | false => exact String.length_toList.trans readable.same_length

theorem Readable.unbroken (readable : marks.Readable) (pixel : Bool) :
    ∀ c ∈ (marks.of pixel).toList, c ≠ '\n' := by
  cases pixel with
  | true => exact fun c member => ne_of_mem_of_not_mem member readable.on_plain
  | false => exact fun c member => ne_of_mem_of_not_mem member readable.off_plain

/-- A mark tells its pixel. -/
theorem Readable.of_injective (readable : marks.Readable) :
    Function.Injective fun pixel => (marks.of pixel).toList := by
  intro pixel other same
  have same_mark : marks.of pixel = marks.of other := String.toList_inj.mp same
  cases pixel with
  | true =>
    cases other with
    | true => rfl
    | false => exact absurd same_mark readable.distinct
  | false =>
    cases other with
    | true => exact absurd same_mark.symm readable.distinct
    | false => rfl

/-- A row of marks is as long as its marks together. -/
theorem Readable.length_row (readable : marks.Readable) (row : List Bool) :
    (row.flatMap fun pixel => (marks.of pixel).toList).length = row.length * marks.on.length := by
  induction row with
  | nil => rw [List.flatMap_nil, List.length_nil, List.length_nil, Nat.zero_mul]
  | cons pixel row ih =>
    rw [List.flatMap_cons, List.length_append, readable.length_of, ih, List.length_cons,
      Nat.succ_mul, Nat.add_comm]

/-- A row of marks is cut into its marks. -/
theorem Readable.blocks_row (readable : marks.Readable) (row : List Bool) :
    Text.blocks marks.on.length (row.flatMap fun pixel => (marks.of pixel).toList) =
      row.map fun pixel => (marks.of pixel).toList := by
  rw [List.flatMap_def]
  exact Text.blocks_flatten readable.filled (List.forall_mem_map.mpr fun pixel _ =>
    readable.length_of pixel)

/-- A text shows numbers by marks: it has a line for each row of them, a line a block for each number
of its row, and a block is the first mark exactly if its number is not zero and the second one exactly
if it is. -/
structure Show (marks : Marks) (text : String) (values : List (List Int)) (height : Nat) : Prop where
  lines : (Text.pieces '\n' text.toList).length = height
  line : ∀ line ∈ Text.pieces '\n' text.toList,
    line.length = values.length * marks.on.length
  block : ∀ x < values.length, ∀ y < height, ∃ value line block,
    values[x]?.bind (·[y]?) = some value ∧
    (Text.pieces '\n' text.toList)[y]? = some line ∧
    (Text.blocks marks.on.length line)[x]? = some block ∧
    (block = marks.on.toList ↔ value ≠ 0) ∧ (block = marks.off.toList ↔ value = 0)

end Marks

/-! ## Pictures -/

namespace Picture

variable {p q : Picture} {marks : Marks} {values : List (List Int)} {height : Nat}

theorem lit_of_outside (p : Picture) {x y : Nat} (outside : p.width ≤ x ∨ p.height ≤ y) :
    p.lit x y = false := by
  rw [lit]
  cases found : p.columns[x]? with
  | none => rfl
  | some column =>
    have tall : column.length = p.height := p.rectangular column (List.mem_of_getElem? found)
    rcases outside with across | down
    · have absent : p.columns[x]? = none := List.getElem?_eq_none across
      cases found.symm.trans absent
    · rw [Option.getD_some, List.getElem?_eq_none (tall ▸ down), Option.getD_none]

/-- Pictures of one size have the same rows if they are lit at the same places. -/
theorem rows_eq_iff (same_width : p.width = q.width) (same_height : p.height = q.height) :
    p.rows = q.rows ↔ ∀ x y, p.lit x y = q.lit x y := by
  constructor
  · intro same x y
    by_cases inside : x < p.width ∧ y < p.height
    · obtain ⟨across, down⟩ := inside
      have same_row : some (p.row y) = some (q.row y) := by
        rw [← p.getElem?_rows down, ← q.getElem?_rows (same_height ▸ down), same]
      have same_pixel : some (p.lit x y) = some (q.lit x y) := by
        rw [← p.getElem?_row across, ← q.getElem?_row (same_width ▸ across),
          Option.some.inj same_row]
      exact Option.some.inj same_pixel
    · have outside : p.width ≤ x ∨ p.height ≤ y := by omega
      rw [p.lit_of_outside outside, q.lit_of_outside (same_width ▸ same_height ▸ outside)]
  · intro same
    rw [rows, rows, same_height]
    refine List.map_congr_left fun y _ => List.ext_getElem? fun x => ?_
    rcases Nat.lt_or_ge x p.width with across | past
    · rw [p.getElem?_row across, q.getElem?_row (same_width ▸ across), same]
    · rw [List.getElem?_eq_none (by rw [length_row]; exact past),
        List.getElem?_eq_none (by rw [length_row, ← same_width]; exact past)]

/-- The places of the numbers that are not zero. -/
def nonzeroPlaces (values : List (List Int)) : Set (Nat × Nat) :=
  {place | ∃ value, values[place.1]?.bind (·[place.2]?) = some value ∧ value ≠ 0}

theorem columns_of_ofValues? (made : ofValues? values = some p) :
    p.columns = values.map fun column => column.map (· != 0) := by
  dsimp only [ofValues?, ofColumns?] at made
  split_ifs at made
  cases made
  rfl

/-- The picture of numbers is lit where they are not zero, and nowhere else. -/
theorem lit_iff_mem_nonzeroPlaces (made : ofValues? values = some p) {x y : Nat} :
    p.lit x y = true ↔ (x, y) ∈ nonzeroPlaces values := by
  have place : p.lit x y = ((values[x]?.bind (·[y]?)).map (· != 0)).getD false := by
    rw [lit, columns_of_ofValues? made, List.getElem?_map]
    cases values[x]? with
    | none => rfl
    | some column => rw [Option.map_some, Option.getD_some, List.getElem?_map, Option.bind_some]
  rw [place, nonzeroPlaces, Set.mem_ofPred_eq]
  cases values[x]?.bind (·[y]?) with
  | none => simp
  | some value => simp

/-! ## Texts -/

/-- **A text cut into lines and blocks is the marks of its pixels, row by row.** -/
theorem blocks_pieces_text (p : Picture) (tall : 0 < p.height) (readable : marks.Readable) :
    (Text.pieces '\n' (p.text marks).toList).map (Text.blocks marks.on.length) =
      p.rows.map fun row => row.map fun pixel => (marks.of pixel).toList := by
  rw [p.pieces_text tall readable.unbroken, List.map_map]
  exact List.map_congr_left fun row _ => readable.blocks_row row

/-- Pictures that have the same text have the same rows. -/
theorem text_eq_iff (p_tall : 0 < p.height) (q_tall : 0 < q.height) (readable : marks.Readable) :
    p.text marks = q.text marks ↔ p.rows = q.rows := by
  constructor
  · intro same
    -- The same text is cut into the same blocks, and a block tells its pixel.
    have same_blocks := p.blocks_pieces_text p_tall readable
    rw [same, q.blocks_pieces_text q_tall readable] at same_blocks
    have injective := List.map_injective_iff.mpr (List.map_injective_iff.mpr readable.of_injective)
    exact (injective same_blocks).symm
  · intro same
    rw [text, text, lines, lines, same]

/-- What a picture holds is shown by its text. -/
theorem Holds.show_text (holds : p.Holds values height) (tall : 0 < height)
    (readable : marks.Readable) : marks.Show (p.text marks) values height := by
  have cut := p.pieces_text (holds.height.symm ▸ tall) readable.unbroken
  constructor
  case lines => rw [cut, List.length_map, length_rows, holds.height]
  case line =>
    rw [cut]
    refine List.forall_mem_map.mpr fun row member => ?_
    obtain ⟨y, -, rfl⟩ := List.mem_map.mp member
    rw [readable.length_row, length_row, holds.width]
  case block =>
    intro x across y down
    rw [← holds.width] at across
    rw [← holds.height] at down
    obtain ⟨value, found, shown⟩ := holds.lit x across y down
    refine ⟨value, (p.row y).flatMap fun pixel => (marks.of pixel).toList,
      (marks.of (p.lit x y)).toList, found, ?_, ?_, ?_, ?_⟩
    · rw [cut, List.getElem?_map, p.getElem?_rows down, Option.map_some]
    · rw [readable.blocks_row, List.getElem?_map, p.getElem?_row across, Option.map_some]
    · exact (readable.of_injective.eq_iff (b := true)).trans (by rw [shown, decide_eq_true_eq])
    · exact (readable.of_injective.eq_iff (b := false)).trans
        (by rw [shown, decide_eq_false_iff_not, not_not])

/-- **A text tells which numbers are not zero, and nothing else.** Let a rectangle of numbers have a
column and a row, and let the marks be of one size, different, and without line breaks. The text then
shows the numbers, line by line and block by block, and two rectangles of one size have the same text
exactly if the same of their numbers are not zero. -/
theorem text_tells_nonzero (values : List (List Int)) (height : Nat) (marks : Marks)
    (filled : values ≠ []) (tall : 0 < height)
    (rectangular : ∀ column ∈ values, column.length = height) (readable : marks.Readable) :
    ∃ p, ofValues? values = some p ∧ marks.Show (p.text marks) values height ∧
      ∀ others : List (List Int), others.length = values.length →
        (∀ column ∈ others, column.length = height) →
        ∃ q, ofValues? others = some q ∧
          (p.text marks = q.text marks ↔ nonzeroPlaces values = nonzeroPlaces others) := by
  obtain ⟨p, made, holds⟩ := exists_holds filled rectangular
  refine ⟨p, made, holds.show_text tall readable, ?_⟩
  intro others same_count others_rectangular
  have others_filled : others ≠ [] := by
    rw [← List.length_pos_iff, same_count, List.length_pos_iff]
    exact filled
  obtain ⟨q, others_made, others_hold⟩ := exists_holds others_filled others_rectangular
  refine ⟨q, others_made, ?_⟩
  have same_width : p.width = q.width := by rw [holds.width, others_hold.width, same_count]
  have same_height : p.height = q.height := by rw [holds.height, others_hold.height]
  have p_tall : 0 < p.height := holds.height.symm ▸ tall
  rw [text_eq_iff p_tall (same_height ▸ p_tall) readable, rows_eq_iff same_width same_height,
    Set.ext_iff, Prod.forall]
  refine forall_congr' fun x => forall_congr' fun y => ?_
  rw [Bool.eq_iff_iff, lit_iff_mem_nonzeroPlaces made, lit_iff_mem_nonzeroPlaces others_made]

/-- Marks of two characters: a negative number is seen in its block, and without it the text is another
one. -/
theorem text_tells_nonzero_of_wide_marks :
    let values : List (List Int) := [[0, -3], [1, 0], [0, 0]]
    let others : List (List Int) := [[0, 0], [1, 0], [0, 0]]
    let marks : Marks := ⟨"##", ".-"⟩
    values ≠ [] ∧ 0 < 2 ∧ (∀ column ∈ values, column.length = 2) ∧ marks.Readable ∧
      others.length = values.length ∧ (∀ column ∈ others, column.length = 2) ∧
      ∃ p q line, ofValues? values = some p ∧ ofValues? others = some q ∧
        (Text.pieces '\n' (p.text marks).toList).length = 2 ∧
        (Text.pieces '\n' (p.text marks).toList)[1]? = some line ∧ line.length = 6 ∧
        (Text.blocks 2 line)[0]? = some ['#', '#'] ∧ p.text marks ≠ q.text marks := by
  intro values others marks
  have filled : values ≠ [] := List.cons_ne_nil [0, -3] [[1, 0], [0, 0]]
  have rectangular : ∀ column ∈ values, column.length = 2 := by decide
  have others_rectangular : ∀ column ∈ others, column.length = 2 := by decide
  have readable : marks.Readable :=
    ⟨by decide, by decide, by decide, by decide, by decide⟩
  obtain ⟨p, made, shown, told⟩ :=
    text_tells_nonzero values 2 marks filled (by decide) rectangular readable
  obtain ⟨q, others_made, same_iff⟩ := told others rfl others_rectangular
  obtain ⟨value, line, block, number, found, cut, lit, -⟩ :=
    shown.block 0 (by decide) 1 (by decide)
  obtain rfl : -3 = value := Option.some.inj number
  have mark : marks.on.toList = ['#', '#'] := by decide
  have size : marks.on.length = 2 := by decide
  obtain rfl : block = ['#', '#'] := (lit.mpr (by decide)).trans mark
  have long : line.length = values.length * marks.on.length :=
    shown.line line (List.mem_of_getElem? found)
  rw [size] at cut long
  refine ⟨filled, by decide, rectangular, readable, rfl, others_rectangular, p, q, line, made,
    others_made, shown.lines, found, long, cut, ?_⟩
  intro same
  have seen : (0, 1) ∈ nonzeroPlaces values := ⟨-3, rfl, by decide⟩
  rw [same_iff.mp same] at seen
  obtain ⟨value, number, nonzero⟩ := seen
  exact nonzero (Option.some.inj number).symm

end Picture

end Chip8
