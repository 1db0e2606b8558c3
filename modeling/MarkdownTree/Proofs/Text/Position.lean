import MarkdownTree.Proofs.Text.LineTable

/-! Positions are exact: they count the line feeds among the bytes up to an offset and the characters
after the last one, and they are in the order of the offsets. -/

namespace MarkdownTree

open String (utf8Len)

/-- The byte of a line feed. -/
def lineFeed : UInt8 := 0x0A

/-- The bytes of a text before an offset. -/
def bytesBefore (text : String) (offset : Nat) : List UInt8 :=
  text.toByteArray.data.toList.take offset

/-- Whether an offset is between two characters, or at an end of the text. -/
def IsBoundary (text : String) (offset : Nat) : Prop :=
  ∃ before after, text = before ++ after ∧ before.utf8ByteSize = offset

/-- Whether a position comes before another one: on an earlier line, or earlier on the same line. -/
def Position.Before (first second : Position) : Prop :=
  first.line < second.line ∨ first.line = second.line ∧ first.column < second.column

/-- What holds of all that is added at the end is taken from there first. -/
theorem rtakeWhile_append {α : Type} {p : α → Bool} {front part : List α} (all : ∀ x ∈ part, p x) :
    (front ++ part).rtakeWhile p = front.rtakeWhile p ++ part := by
  have all' : ∀ x ∈ part.reverse, p x := fun x member => all x (List.mem_reverse.mp member)
  rw [List.rtakeWhile, List.reverse_append, List.takeWhile_append_of_pos all', List.reverse_append,
    List.reverse_reverse, List.rtakeWhile]

/-- A byte made of a number is that of a line feed if the number is, but for whole bytes. -/
theorem lineFeed_eq_iff {number : Nat} : lineFeed = UInt8.ofNat number ↔ number % 256 = 10 := by
  rw [← UInt8.toNat_inj, UInt8.toNat_ofNat', eq_comm]
  rfl

/-- Only the line feed has the byte of a line feed. -/
theorem lineFeed_mem_iff {c : Char} : lineFeed ∈ String.utf8EncodeChar c ↔ c = '\n' := by
  have same : c = '\n' ↔ c.val.toNat = 10 := by
    rw [Char.ext_iff, ← UInt32.toNat_inj]
    rfl
  rw [same, String.utf8EncodeChar]
  generalize c.val.toNat = number
  split
  · rw [List.mem_singleton, lineFeed_eq_iff]
    omega
  · -- Every byte of a character that has several is larger.
    refine iff_of_false ?_ (by omega)
    split
    · simp only [List.mem_cons, List.not_mem_nil, or_false, lineFeed_eq_iff]
      omega
    · split
      · simp only [List.mem_cons, List.not_mem_nil, or_false, lineFeed_eq_iff]
        omega
      · simp only [List.mem_cons, List.not_mem_nil, or_false, lineFeed_eq_iff]
        omega

/-- The bytes of a text are those of its characters. -/
theorem bytes_eq (text : String) :
    text.toByteArray.data.toList = text.toList.flatMap String.utf8EncodeChar := by
  rw [← String.utf8Encode_toList, List.utf8Encode]
  simp

/-- Characters have as many bytes as they fill. -/
theorem length_bytes (chars : List Char) :
    (chars.flatMap String.utf8EncodeChar).length = utf8Len chars := by
  induction chars with
  | nil => rfl
  | cons c chars ih =>
    rw [List.flatMap_cons, List.length_append, ih, String.length_utf8EncodeChar,
      String.utf8Len_cons, Nat.add_comm]

/-- Characters have as many bytes of a line feed as line feeds, and after the last such byte those
of the characters after the last line feed. -/
theorem bytes_line (chars : List Char) :
    (chars.flatMap String.utf8EncodeChar).count lineFeed = chars.count '\n' ∧
      ((chars.flatMap String.utf8EncodeChar).rtakeWhile (· ≠ lineFeed)).length =
        utf8Len (chars.rtakeWhile (· ≠ '\n')) := by
  induction chars using List.reverseRecOn with
  | nil => exact ⟨rfl, rfl⟩
  | append_singleton chars c ih =>
    rw [List.flatMap_append, List.flatMap_singleton, List.count_append, List.count_append, ih.1]
    by_cases feed : c = '\n'
    · -- The line starts again with both.
      subst feed
      have byte : String.utf8EncodeChar '\n' = [lineFeed] := by decide
      rw [byte, List.rtakeWhile_concat_neg _ _ _ (by simp),
        List.rtakeWhile_concat_neg _ _ _ (by simp)]
      exact ⟨rfl, rfl⟩
    · have none : lineFeed ∉ String.utf8EncodeChar c := mt lineFeed_mem_iff.mp feed
      have others : ∀ byte ∈ String.utf8EncodeChar c, decide (byte ≠ lineFeed) := by
        intro byte member
        simpa using fun same : byte = lineFeed => none (same ▸ member)
      rw [List.count_eq_zero.mpr none, rtakeWhile_append others, List.length_append, ih.2,
        String.length_utf8EncodeChar, List.rtakeWhile_concat_pos _ _ _ (by simpa using feed),
        String.utf8Len_append]
      simp [feed]

/-- What is read before an offset that ends a part of the characters, or less than one more character
behind it, counts the line feeds among these, and the bytes after the last one. -/
theorem line_before {text : String} {front : List Char} {part : List UInt8} {offset : Nat}
    (read : bytesBefore text offset = front.flatMap String.utf8EncodeChar ++ part)
    (plain : lineFeed ∉ part) : (bytesBefore text offset).count lineFeed = front.count '\n' ∧
      ((bytesBefore text offset).rtakeWhile (· ≠ lineFeed)).length =
        utf8Len (front.rtakeWhile (· ≠ '\n')) + part.length := by
  obtain ⟨count, length⟩ := bytes_line front
  -- The part has no line feed, so all of it is after the last one.
  have others : ∀ byte ∈ part, decide (byte ≠ lineFeed) := by
    intro byte member
    simpa using fun same : byte = lineFeed => plain (same ▸ member)
  rw [read, List.count_append, List.count_eq_zero.mpr plain, count, rtakeWhile_append others,
    List.length_append, length]
  exact ⟨rfl, rfl⟩

/-- Before an offset between two characters stand the bytes of the characters before it. -/
theorem bytesBefore_append (before after : String) :
    bytesBefore (before ++ after) before.utf8ByteSize =
      before.toList.flatMap String.utf8EncodeChar := by
  -- As many bytes are taken as those characters fill.
  rw [bytesBefore, bytes_eq, String.toList_append, List.flatMap_append, ← utf8Len_toList,
    ← length_bytes, List.take_left]

/-- Before an offset inside a character stand the bytes of the characters before it, and some of its
own. -/
theorem bytesBefore_inside {text : String} {front rest : List Char} {c : Char} {count : Nat}
    (whole : text.toList = front ++ c :: rest) (inside : count < c.utf8Size) :
    bytesBefore text (utf8Len front + count) =
      front.flatMap String.utf8EncodeChar ++ (String.utf8EncodeChar c).take count := by
  have enough : count ≤ (String.utf8EncodeChar c).length := by
    rw [String.length_utf8EncodeChar]
    omega
  rw [bytesBefore, bytes_eq, whole, List.flatMap_append, List.flatMap_cons, ← length_bytes,
    List.take_length_add_append, List.take_append_of_le_length enough]

/-- Characters added behind others make the position come later. -/
theorem Position.before_append (before more after : String) (some : more ≠ "") :
    (ofOffset (before ++ more ++ after) before.utf8ByteSize).Before
      (ofOffset (before ++ more ++ after) (before ++ more).utf8ByteSize) := by
  have first := ofOffset_append before (more ++ after)
  rw [← String.append_assoc] at first
  rw [first, ofOffset_append (before ++ more) after, String.toList_append, List.count_append]
  by_cases feed : '\n' ∈ more.toList
  · -- The later position is on a later line.
    have positive := List.count_pos_iff.mpr feed
    exact .inl (Nat.lt_add_of_pos_right positive)
  · -- The later position is on the same line, further on.
    have others : ∀ c ∈ more.toList, decide (c ≠ '\n') := by
      intro c member
      simpa using fun same : c = '\n' => feed (same ▸ member)
    refine .inr ⟨?_, ?_⟩
    · rw [List.count_eq_zero.mpr feed, Nat.add_zero]
    · have positive : 0 < more.toList.length := List.length_pos_iff.mpr (by simpa using some)
      rw [rtakeWhile_append others, List.length_append]
      exact Nat.lt_add_of_pos_right positive

/-- Of two offsets between characters, the smaller one has the earlier position. -/
theorem Position.before_of_lt {text : String} {offset offset' : Nat}
    (boundary : IsBoundary text offset) (boundary' : IsBoundary text offset')
    (less : offset < offset') : (ofOffset text offset).Before (ofOffset text offset') := by
  obtain ⟨before, after, whole, rfl⟩ := boundary
  obtain ⟨before', after', rfl, rfl⟩ := boundary'
  -- The text before the smaller offset starts the one before the larger one.
  have parts := congrArg String.toList whole
  rw [String.toList_append, String.toList_append] at parts
  obtain ⟨more, split⟩ := prefix_of_utf8Len_le parts.symm (by
    rw [utf8Len_toList, utf8Len_toList]
    omega)
  obtain rfl : before' = before ++ String.ofList more :=
    String.toList_inj.mp (by rw [← split, String.toList_append, String.toList_ofList])
  refine before_append before (String.ofList more) after' fun none => ?_
  rw [none, String.append_empty] at less
  exact Nat.lt_irrefl _ less

/-- No position comes before itself or before what it comes after. -/
theorem Position.Before.asymm {first second : Position} (before : first.Before second) :
    ¬ second.Before first := by
  unfold Before at before ⊢
  omega

/-- The line of an offset counts the line feeds among the bytes before it, and the column the bytes
after the last one if the offset is inside a character. -/
theorem Position.ofOffset_bytes {text : String} {offset : Nat} (fits : offset ≤ text.utf8ByteSize) :
    (ofOffset text offset).line = (bytesBefore text offset).count lineFeed ∧
      (¬ IsBoundary text offset → (ofOffset text offset).column =
        ((bytesBefore text offset).rtakeWhile (· ≠ lineFeed)).length) := by
  rw [← utf8Len_toList] at fits
  rcases between_or_inside fits with
    ⟨front, rest, whole, rfl⟩ | ⟨front, c, rest, count, whole, positive, inside, rfl⟩
  · obtain rfl : text = String.ofList front ++ String.ofList rest := by
      rw [← String.ofList_append, ← whole, String.ofList_toList]
    rw [← String.utf8ByteSize_ofList, ofOffset_append, bytesBefore_append, String.toList_ofList]
    exact ⟨(bytes_line front).1.symm, fun inside => absurd ⟨_, _, rfl, rfl⟩ inside⟩
  · -- A line feed has a single byte, so the character is none.
    have other : c ≠ '\n' := by
      rintro rfl
      have single : '\n'.utf8Size = 1 := rfl
      omega
    have plain : lineFeed ∉ (String.utf8EncodeChar c).take count := fun member =>
      other (lineFeed_mem_iff.mp (List.mem_of_mem_take member))
    have length : ((String.utf8EncodeChar c).take count).length = count := by
      rw [List.length_take, String.length_utf8EncodeChar]
      omega
    obtain ⟨line, column⟩ := line_before (bytesBefore_inside whole inside) plain
    rw [ofOffset_inside whole positive inside, line, column, length]
    exact ⟨rfl, fun _ => rfl⟩

/--
Positions are exact, and in the order of the offsets.

An offset past the end stands for the end. The line is the number of line feeds among the bytes
before the offset. The column is the number of characters after the last of them if the offset is
between two characters, and else the number of bytes. The table of lines finds the same. Of two
offsets between characters, the smaller one has the earlier position, so that different ones have
different positions.
-/
theorem positions_count_and_keep_order (text : String) :
    (∀ offset, let place := min offset text.utf8ByteSize
      (Position.ofOffset text offset).line = (bytesBefore text place).count lineFeed ∧
      (∀ before after, text = before ++ after → before.utf8ByteSize = place →
        (Position.ofOffset text offset).column = (before.toList.rtakeWhile (· ≠ '\n')).length) ∧
      (¬ IsBoundary text place → (Position.ofOffset text offset).column =
        ((bytesBefore text place).rtakeWhile (· ≠ lineFeed)).length) ∧
      (LineTable.ofText text).position text offset = Position.ofOffset text offset) ∧
    ∀ offset offset', IsBoundary text offset → IsBoundary text offset' →
      (offset < offset' ↔ (Position.ofOffset text offset).Before (Position.ofOffset text offset')) ∧
      (offset = offset' ↔ Position.ofOffset text offset = Position.ofOffset text offset') := by
  refine ⟨fun offset => ?_, fun offset offset' boundary boundary' => ?_⟩
  · -- The position is that of the place, which is not past the end.
    intro place
    rw [LineTable.position_ofText, ← Position.ofOffset_min]
    obtain ⟨line, column⟩ := Position.ofOffset_bytes (Nat.min_le_right offset text.utf8ByteSize)
    refine ⟨line, ?_, column, rfl⟩
    intro before after whole (filled : before.utf8ByteSize = min offset text.utf8ByteSize)
    rw [← filled, whole, Position.ofOffset_append]
  · -- Whichever offset is smaller has the earlier position, so the order of the positions decides.
    have earlier := Position.before_of_lt boundary boundary'
    have later := Position.before_of_lt boundary' boundary
    refine ⟨⟨earlier, fun before => ?_⟩, ⟨fun same => same ▸ rfl, fun same => ?_⟩⟩
    · rcases Nat.lt_trichotomy offset offset' with less | rfl | more
      · exact less
      · exact absurd before before.asymm
      · exact absurd (later more) before.asymm
    · rcases Nat.lt_trichotomy offset offset' with less | rfl | more
      · have before := earlier less
        rw [same] at before
        exact absurd before before.asymm
      · rfl
      · have before := later more
        rw [same] at before
        exact absurd before before.asymm

/-- An offset inside a character may share its position with the end of the character. -/
example : Position.ofOffset "né" 2 = ⟨0, 2⟩ ∧ Position.ofOffset "né" 3 = ⟨0, 2⟩ := by decide

end MarkdownTree
