/-!
# Pieces of a text

A text cut at every occurrence of a separator. There is always one piece more than there are
separators, so two neighbouring separators have an empty piece between them. `pieces_append` and
`pieces_of_forall_ne` say together what the pieces are, and `pieces_intercalate` that a text made of
pieces has just these.

A text can also be cut into blocks of one size. A text made of such blocks has just these
(`blocks_flatten`).
-/

namespace Chip8.Text

/-- The pieces of a text between separators. -/
def pieces (separator : Char) : List Char → List (List Char)
  | [] => [[]]
  | c :: rest =>
    if c = separator then [] :: pieces separator rest
    else (pieces separator rest).modifyHead (c :: ·)

/-- Up to its first separator a text is its first piece. -/
theorem pieces_append {separator : Char} {piece : List Char} (rest : List Char)
    (plain : ∀ c ∈ piece, c ≠ separator) :
    pieces separator (piece ++ separator :: rest) = piece :: pieces separator rest := by
  induction piece with
  | nil => simp only [List.nil_append, pieces, if_pos]
  | cons c piece ih =>
    rw [List.cons_append, pieces, if_neg (plain c List.mem_cons_self),
      ih fun d member => plain d (List.mem_cons_of_mem c member), List.modifyHead_cons]

/-- A text without separators is one piece. -/
theorem pieces_of_forall_ne {separator : Char} {text : List Char}
    (plain : ∀ c ∈ text, c ≠ separator) : pieces separator text = [text] := by
  induction text with
  | nil => rfl
  | cons c text ih =>
    rw [pieces, if_neg (plain c List.mem_cons_self),
      ih fun d member => plain d (List.mem_cons_of_mem c member), List.modifyHead_cons]

/-- **Joining undoes cutting**: texts without separators are the pieces of the text that they make up
when a separator is put between any two of them. -/
theorem pieces_intercalate {separator : Char} {texts : List (List Char)} (filled : texts ≠ [])
    (plain : ∀ text ∈ texts, ∀ c ∈ text, c ≠ separator) :
    pieces separator ([separator].intercalate texts) = texts := by
  induction texts with
  | nil => exact absurd rfl filled
  | cons text rest ih =>
    obtain ⟨first, later⟩ := List.forall_mem_cons.mp plain
    cases rest with
    | nil =>
      rw [List.intercalate_singleton]
      exact pieces_of_forall_ne first
    | cons next rest =>
      rw [List.intercalate_cons_cons, List.append_assoc, List.singleton_append,
        pieces_append _ first, ih (List.cons_ne_nil next rest) later]

/-- The blocks of a text: its characters cut after every `size` of them. What is left over at the end is
no block. -/
def blocks (size : Nat) (text : List Char) : List (List Char) :=
  (List.range (text.length / size)).map fun i => (text.drop (i * size)).take size

/-- A text that begins with a block has it as its first one, and behind it those of the rest. -/
theorem blocks_append {block : List Char} (filled : block ≠ []) (rest : List Char) :
    blocks block.length (block ++ rest) = block :: blocks block.length rest := by
  have count : (block ++ rest).length / block.length = rest.length / block.length + 1 := by
    rw [List.length_append, Nat.add_div_left _ (List.length_pos_iff.mpr filled)]
  rw [blocks, count, List.range_succ_eq_map, List.map_cons, List.map_map, Nat.zero_mul,
    List.drop_zero, List.take_left]
  refine congrArg (block :: ·) (List.map_congr_left fun i _ => ?_)
  rw [Function.comp_apply, Nat.succ_mul, Nat.add_comm, List.drop_length_add_append]

/-- **Putting together undoes cutting into blocks**: texts of one length are the blocks of the text that
they make up. -/
theorem blocks_flatten {size : Nat} (positive : 0 < size) {texts : List (List Char)}
    (same : ∀ text ∈ texts, text.length = size) : blocks size texts.flatten = texts := by
  induction texts with
  | nil => rw [List.flatten_nil, blocks, List.length_nil, Nat.zero_div]; rfl
  | cons text rest ih =>
    obtain ⟨rfl, later⟩ := List.forall_mem_cons.mp same
    rw [List.flatten_cons, blocks_append (List.ne_nil_of_length_pos positive), ih later]

end Chip8.Text
