import MarkdownTree.Proofs.Text.Offset
import MarkdownTree.Text.CharRanges
import Mathlib.Data.List.GetD

/-! Tables of lines: the offsets at which the lines of a text start, made once, so that the position
of an offset is found by a binary search and not by reading the text up to it. -/

namespace MarkdownTree

open String (utf8Len)

/-- Where the lines after the first start, for characters that start at `offset`. -/
def laterStarts (offset : Nat) : List Char → List Nat
  | [] => []
  | c :: rest =>
    let behind := offset + c.utf8Size
    if c = '\n' then behind :: laterStarts behind rest else laterStarts behind rest

/-- The offsets at which lines start. -/
structure LineTable where
  /-- Ascending, with the start of the text first. -/
  starts : Array Nat

namespace LineTable

/-- The table of a text. -/
def ofText (text : String) : LineTable where
  starts := (0 :: laterStarts 0 text.toList).toArray

/-- The position of a byte offset in the text of the table. -/
def position (table : LineTable) (text : String) (offset : Nat) : Position :=
  let place := min offset text.utf8ByteSize
  -- The first line starts at zero, so at least one start is up to the place.
  let line := CharRanges.countUpTo table.starts place 0 table.starts.size - 1
  let start := table.starts.getD line 0
  -- A place inside a character ends no slice, so bytes are counted.
  { line, column := ((slice? text start place).map String.length).getD (place - start) }

end LineTable

/-- The number of entries up to a value is found if those entries come first. -/
theorem CharRanges.countUpTo_eq {bounds : Array Nat} {value count low high : Nat}
    (least : low ≤ count) (most : count ≤ high)
    (upTo : ∀ place < count, bounds.getD place 0 ≤ value)
    (beyond : ∀ place, count ≤ place → place < high → value < bounds.getD place 0) :
    countUpTo bounds value low high = count := by
  -- The number that is sought stays between the ends of the part that is left.
  fun_induction countUpTo bounds value low high with
  | case1 low high searched middle small ih =>
    -- An entry up to the value is one of those that are counted.
    refine ih ?_ most beyond
    by_contra fewer
    have large := beyond middle (by omega) (by omega)
    omega
  | case2 low high searched middle large ih =>
    refine ih least ?_ fun place after before => beyond place after (by omega)
    -- If there were more, the entry in the middle would be among them.
    by_contra more
    exact large (upTo middle (by omega))
  | case3 low high found => omega

/-- The starts in a text are those in its first part, and then those in the rest. -/
theorem laterStarts_append (offset : Nat) (front rest : List Char) :
    laterStarts offset (front ++ rest) =
      laterStarts offset front ++ laterStarts (offset + utf8Len front) rest := by
  induction front generalizing offset with
  | nil => rfl
  | cons c front ih =>
    have behind : offset + c.utf8Size + utf8Len front = offset + utf8Len (c :: front) := by
      rw [String.utf8Len_cons]
      omega
    simp only [List.cons_append, laterStarts, ih, behind]
    split <;> rfl

/-- A line starts after each line feed. -/
theorem length_laterStarts (offset : Nat) (chars : List Char) :
    (laterStarts offset chars).length = chars.count '\n' := by
  induction chars generalizing offset with
  | nil => rfl
  | cons c chars ih =>
    by_cases feed : c = '\n'
    · simp [laterStarts, feed, ih]
    · simp [laterStarts, feed, ih]

/-- Later lines start after the start of the text, and not after its end. -/
theorem bounds_of_mem_laterStarts {offset start : Nat} {chars : List Char}
    (member : start ∈ laterStarts offset chars) :
    offset < start ∧ start ≤ offset + utf8Len chars := by
  induction chars generalizing offset with
  | nil => cases member
  | cons c chars ih =>
    have size := c.utf8Size_pos
    rw [String.utf8Len_cons]
    have later : start ∈ laterStarts (offset + c.utf8Size) chars →
        offset < start ∧ start ≤ offset + (utf8Len chars + c.utf8Size) := by
      intro member
      have bounds := ih member
      omega
    simp only [laterStarts] at member
    split at member
    · rcases List.mem_cons.mp member with rfl | member
      · omega
      · exact later member
    · exact later member

/-- No line starts inside a character. -/
theorem le_of_mem_laterStarts_cons {offset start : Nat} {c : Char} {rest : List Char}
    (member : start ∈ laterStarts offset (c :: rest)) : offset + c.utf8Size ≤ start := by
  simp only [laterStarts] at member
  split at member
  · rcases List.mem_cons.mp member with rfl | member
    · exact Nat.le_refl _
    · exact (bounds_of_mem_laterStarts member).1.le
  · exact (bounds_of_mem_laterStarts member).1.le

/-- The last line that starts in a text starts behind the last line feed. -/
theorem getLast?_starts (chars : List Char) : (0 :: laterStarts 0 chars).getLast? =
    some (utf8Len (chars.rdropWhile (· ≠ '\n'))) := by
  induction chars using List.reverseRecOn with
  | nil => rfl
  | append_singleton chars c ih =>
    rw [laterStarts_append, List.rdropWhile_concat, Nat.zero_add]
    by_cases feed : c = '\n'
    · subst feed
      rw [← List.cons_append, laterStarts, if_pos rfl, List.getLast?_append]
      simp [laterStarts]
    · simpa [laterStarts, feed] using ih

namespace LineTable

variable {text : String} {front rest : List Char} {place : Nat}
  (whole : text.toList = front ++ rest) (before : utf8Len front ≤ place)
  (after : ∀ start ∈ laterStarts (utf8Len front) rest, place < start)
include whole

/-- The table holds the starts in the first part of a text, and then those in the rest. -/
theorem starts_ofText (number : Nat) : (ofText text).starts.getD number 0 =
    ((0 :: laterStarts 0 front) ++ laterStarts (utf8Len front) rest).getD number 0 := by
  simp [ofText, whole, laterStarts_append, Array.getD_eq_getD_getElem?, List.getD_eq_getElem?_getD]

/-- The last start in the first part of a text is that of the line which the part ends in. -/
theorem start_ofText : (ofText text).starts.getD (front.count '\n') 0 =
    utf8Len (front.rdropWhile (· ≠ '\n')) := by
  have last := getLast?_starts front
  rw [List.getLast?_eq_getElem?, List.length_cons, length_laterStarts, Nat.add_sub_cancel] at last
  -- The starts in the first part come first in the table.
  have among : front.count '\n' < (0 :: laterStarts 0 front).length := by
    rw [List.length_cons, length_laterStarts]
    omega
  rw [starts_ofText whole, List.getD_append _ _ _ _ among, List.getD_eq_getElem?_getD, last]
  rfl

include before after in
/-- Of the starts, those in the first part of a text are up to a place behind it that no further
start is up to. -/
theorem countUpTo_ofText :
    CharRanges.countUpTo (ofText text).starts place 0 (ofText text).starts.size =
      front.count '\n' + 1 := by
  have length : (0 :: laterStarts 0 front).length = front.count '\n' + 1 := by
    rw [List.length_cons, length_laterStarts]
  have size : (ofText text).starts.size =
      (0 :: laterStarts 0 front).length + (laterStarts (utf8Len front) rest).length := by
    simp [ofText, whole, laterStarts_append]
    omega
  refine CharRanges.countUpTo_eq (Nat.zero_le _) (by omega) (fun number among => ?_)
    fun number behind within => ?_
  · rw [← length] at among
    rw [starts_ofText whole, List.getD_append _ _ _ _ among, List.getD_eq_getElem _ _ among]
    -- The start of the text is up to everything.
    rcases List.mem_cons.mp (List.getElem_mem among) with first | later
    · rw [first]
      exact Nat.zero_le place
    · have bounds := bounds_of_mem_laterStarts later
      omega
  · -- All other starts are in the rest, and none of those is up to the place.
    rw [← length] at behind
    have among : number - (0 :: laterStarts 0 front).length <
        (laterStarts (utf8Len front) rest).length := by
      omega
    rw [starts_ofText whole, List.getD_append_right _ _ _ _ behind, List.getD_eq_getElem _ _ among]
    exact after _ (List.getElem_mem among)

end LineTable

/-- The last line that starts in the first part of a text is what the part ends with. -/
theorem slice?_last_line {text : String} {front rest : List Char}
    (whole : text.toList = front ++ rest) :
    slice? text (utf8Len (front.rdropWhile (· ≠ '\n'))) (utf8Len front) =
      some (String.ofList (front.rtakeWhile (· ≠ '\n'))) := by
  refine slice?_eq_some_iff.mpr ⟨String.ofList (front.rdropWhile (· ≠ '\n')), String.ofList rest,
    ?_, String.utf8ByteSize_ofList _, ?_⟩
  · rw [← String.ofList_append, ← String.ofList_append, List.rdropWhile_append_rtakeWhile, ← whole,
      String.ofList_toList]
  · rw [← String.ofList_append, List.rdropWhile_append_rtakeWhile, String.utf8ByteSize_ofList]

/-- No slice ends inside a character. -/
theorem slice?_inside {text : String} {front rest : List Char} {c : Char} {count : Nat}
    (whole : text.toList = front ++ c :: rest) (positive : 0 < count) (inside : count < c.utf8Size)
    (start : Nat) : slice? text start (utf8Len front + count) = none := by
  rw [Option.eq_none_iff_forall_ne_some]
  intro cut found
  -- A slice ends where characters end, which is not inside of one.
  obtain ⟨before, after, rfl, -, filled⟩ := slice?_eq_some_iff.mp found
  rw [String.toList_append] at whole
  refine not_between_of_inside whole.symm positive inside ?_
  rw [utf8Len_toList, filled]

/-- The table finds the position of every offset. -/
theorem LineTable.position_ofText (text : String) (offset : Nat) :
    (ofText text).position text offset = Position.ofOffset text offset := by
  rw [← Position.ofOffset_min, position]
  generalize limit : min offset text.utf8ByteSize = place
  have fits : place ≤ utf8Len text.toList := by
    rw [utf8Len_toList]
    omega
  rcases between_or_inside fits with
    ⟨front, rest, whole, rfl⟩ | ⟨front, c, rest, count, whole, positive, inside, rfl⟩
  · have after : ∀ start ∈ laterStarts (utf8Len front) rest, utf8Len front < start :=
      fun _ member => (bounds_of_mem_laterStarts member).1
    rw [countUpTo_ofText whole (Nat.le_refl _) after, Nat.add_sub_cancel, start_ofText whole,
      slice?_last_line whole]
    -- The characters of the slice are counted.
    have split : text = String.ofList front ++ String.ofList rest := by
      rw [← String.ofList_append, ← whole, String.ofList_toList]
    have found := Position.ofOffset_append (String.ofList front) (String.ofList rest)
    rw [← split, String.utf8ByteSize_ofList, String.toList_ofList] at found
    rw [found]
    simp
  · have after : ∀ start ∈ laterStarts (utf8Len front) (c :: rest),
        utf8Len front + count < start := by
      intro start member
      have bound := le_of_mem_laterStarts_cons member
      omega
    rw [countUpTo_ofText whole (Nat.le_add_right _ _) after, Nat.add_sub_cancel,
      start_ofText whole, slice?_inside whole positive inside,
      Position.ofOffset_inside whole positive inside]
    -- The bytes from the start of the line are those of its characters, and some more.
    have parts : utf8Len (front.rdropWhile (· ≠ '\n')) + utf8Len (front.rtakeWhile (· ≠ '\n')) =
        utf8Len front := by
      rw [← String.utf8Len_append, List.rdropWhile_append_rtakeWhile]
    simp only [Option.map_none, Option.getD_none, Position.mk.injEq, true_and]
    omega

end MarkdownTree
