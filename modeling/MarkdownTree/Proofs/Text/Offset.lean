import MarkdownTree.Text.Position
import MarkdownTree.Text.Slice
import Mathlib.Data.List.DropRight
import Mathlib.Data.String.Basic

/-! Byte offsets: an offset between two characters splits a text, and slices and positions are read
off the parts. -/

namespace MarkdownTree

open String (utf8Len)

/-- Some bytes are filled by the first character and those that fill what it leaves of them. -/
theorem split_succ {c : Char} {chars front rest : List Char} {count : Nat} :
    c :: chars = front ++ rest ∧ utf8Len front = count + 1 ↔ c.utf8Size ≤ count + 1 ∧
      ∃ tail, front = c :: tail ∧ chars = tail ++ rest ∧
        utf8Len tail = count + 1 - c.utf8Size := by
  constructor
  · rintro ⟨whole, filled⟩
    cases front with
    | nil => cases filled
    | cons first tail =>
      obtain ⟨same, behind⟩ := List.cons_eq_cons.mp whole
      rw [String.utf8Len_cons, ← same] at filled
      exact ⟨by omega, tail, by rw [same], behind, by omega⟩
  · rintro ⟨fits, tail, rfl, rfl, filled⟩
    exact ⟨rfl, by rw [String.utf8Len_cons]; omega⟩

/-- Bytes can be dropped when some characters fill exactly them, and then the others are left. -/
theorem dropBytes_eq_some_iff {count : Nat} {chars rest : List Char} :
    dropBytes count chars = some rest ↔ ∃ front, chars = front ++ rest ∧ utf8Len front = count := by
  -- One character is dropped at a time, which leaves fewer bytes for the others.
  induction chars generalizing count with
  | nil =>
    cases count with
    | zero => simp [dropBytes]
    | succ count =>
      -- No characters fill no bytes.
      rw [dropBytes]
      refine iff_of_false (by simp) ?_
      rintro ⟨front, whole, filled⟩
      rw [(List.append_eq_nil_iff.mp whole.symm).1] at filled
      cases filled
  | cons c chars ih =>
    cases count with
    | zero => simp [dropBytes]
    | succ count =>
      rw [dropBytes]
      simp only [split_succ]
      split
      · next fits => simp [ih, fits]
      · next tooFew => simp [tooFew]

/-- To take no bytes is to take no characters. -/
theorem takeBytes_zero_iff {chars front : List Char} :
    takeBytes 0 chars = some front ↔ ∃ rest, chars = front ++ rest ∧ utf8Len front = 0 := by
  simp only [takeBytes, String.utf8Len_eq_zero, Option.some.injEq]
  constructor
  · rintro rfl
    exact ⟨chars, rfl, rfl⟩
  · rintro ⟨_, _, rfl⟩
    rfl

/-- Bytes can be taken when some characters fill exactly them, and then these are taken. -/
theorem takeBytes_eq_some_iff {count : Nat} {chars front : List Char} :
    takeBytes count chars = some front ↔
      ∃ rest, chars = front ++ rest ∧ utf8Len front = count := by
  induction chars generalizing count front with
  | nil =>
    cases count with
    | zero => exact takeBytes_zero_iff
    | succ count =>
      rw [takeBytes]
      refine iff_of_false (by simp) ?_
      rintro ⟨rest, whole, filled⟩
      rw [(List.append_eq_nil_iff.mp whole.symm).1] at filled
      cases filled
  | cons c chars ih =>
    cases count with
    | zero => exact takeBytes_zero_iff
    | succ count =>
      rw [takeBytes]
      simp only [split_succ]
      split
      · next fits =>
        simp only [Option.map_eq_some_iff, ih, fits, true_and]
        constructor
        · rintro ⟨tail, ⟨rest, whole, filled⟩, rfl⟩
          exact ⟨rest, tail, rfl, whole, filled⟩
        · rintro ⟨rest, tail, rfl, whole, filled⟩
          exact ⟨tail, ⟨rest, whole, filled⟩, rfl⟩
      · next tooFew => simp [tooFew]

/-- The bytes of a text are those of its characters. -/
theorem utf8Len_toList (text : String) : utf8Len text.toList = text.utf8ByteSize := by
  rw [← String.utf8ByteSize_ofList, String.ofList_toList]

/-- A slice is the part of the text that starts and ends at the offsets. -/
theorem slice?_eq_some_iff {text cut : String} {start stop : Nat} :
    slice? text start stop = some cut ↔ ∃ before after, text = before ++ cut ++ after ∧
      before.utf8ByteSize = start ∧ (before ++ cut).utf8ByteSize = stop := by
  unfold slice?
  constructor
  · intro found
    split at found
    · next ordered =>
      simp only [Option.map_eq_some_iff, Option.bind_eq_some_iff] at found
      obtain ⟨inner, ⟨rest, dropped, taken⟩, rfl⟩ := found
      obtain ⟨front, whole, filled⟩ := dropBytes_eq_some_iff.mp dropped
      obtain ⟨back, rfl, filled'⟩ := takeBytes_eq_some_iff.mp taken
      -- The characters dropped, those taken and those left make up the text.
      refine ⟨String.ofList front, String.ofList back, ?_, ?_, ?_⟩
      · rw [← String.ofList_toList (s := text), whole, ← List.append_assoc, String.ofList_append,
          String.ofList_append]
      · rw [String.utf8ByteSize_ofList, filled]
      · rw [String.utf8ByteSize_append, String.utf8ByteSize_ofList, String.utf8ByteSize_ofList]
        omega
    · cases found
  · rintro ⟨before, after, rfl, rfl, rfl⟩
    rw [String.utf8ByteSize_append, if_pos (Nat.le_add_right _ _), Nat.add_sub_cancel_left]
    have dropped : dropBytes before.utf8ByteSize (before ++ cut ++ after).toList =
        some (cut.toList ++ after.toList) :=
      dropBytes_eq_some_iff.mpr ⟨before.toList, by simp, utf8Len_toList before⟩
    have taken : takeBytes cut.utf8ByteSize (cut.toList ++ after.toList) = some cut.toList :=
      takeBytes_eq_some_iff.mpr ⟨after.toList, rfl, utf8Len_toList cut⟩
    rw [dropped, Option.bind_some, taken, Option.map_some, String.ofList_toList]

/-- What is known after some characters counts the line feeds among them, and the characters and
the bytes after the last one. -/
theorem Position.foldl_advance (front : List Char) :
    (front.foldl Reading.advance {}).line = front.count '\n' ∧
      (front.foldl Reading.advance {}).column = (front.rtakeWhile (· ≠ '\n')).length ∧
      (front.foldl Reading.advance {}).bytes = utf8Len (front.rtakeWhile (· ≠ '\n')) := by
  -- The last character tells whether the column starts again, so they are taken from the right.
  induction front using List.reverseRecOn with
  | nil => exact ⟨rfl, rfl, rfl⟩
  | append_singleton front c ih =>
    rw [List.foldl_concat, List.rtakeWhile_concat, List.count_append, Reading.advance]
    by_cases feed : c = '\n'
    · subst feed
      simp [ih.1]
    · simp [feed, ih]

/-- Reading as many bytes as some characters fill reads these characters. -/
theorem Position.ofChars_append (reading : Reading) (front rest : List Char) :
    ofChars reading (utf8Len front) (front ++ rest) =
      ⟨(front.foldl Reading.advance reading).line, (front.foldl Reading.advance reading).column⟩ := by
  induction front generalizing reading with
  | nil => cases rest <;> rfl
  | cons c front ih =>
    -- The offset is behind the whole first character, which is read.
    have positive := c.utf8Size_pos
    rw [String.utf8Len_cons, List.cons_append, ofChars, if_neg (by omega), if_neg (by omega),
      Nat.add_sub_cancel, ih, List.foldl_cons]

/-- Reading to a place inside a character reads the characters before it, and counts bytes. -/
theorem Position.ofChars_inside (reading : Reading) (front rest : List Char) {c : Char} {count : Nat}
    (positive : 0 < count) (inside : count < c.utf8Size) :
    ofChars reading (utf8Len front + count) (front ++ c :: rest) =
      ⟨(front.foldl Reading.advance reading).line,
        (front.foldl Reading.advance reading).bytes + count⟩ := by
  induction front generalizing reading with
  | nil =>
    rw [String.utf8Len_nil, Nat.zero_add, List.nil_append, ofChars, if_neg positive.ne',
      if_pos inside]
    rfl
  | cons first front ih =>
    have size := first.utf8Size_pos
    rw [String.utf8Len_cons, List.cons_append, ofChars, if_neg (by omega), if_neg (by omega),
      List.foldl_cons, ← ih]
    congr 1
    omega

/-- The position of an offset between two characters counts the line feeds before it, and the
characters after the last one of these. -/
theorem Position.ofOffset_append (before after : String) :
    ofOffset (before ++ after) before.utf8ByteSize =
      ⟨before.toList.count '\n', (before.toList.rtakeWhile (· ≠ '\n')).length⟩ := by
  obtain ⟨line, column, -⟩ := foldl_advance before.toList
  rw [ofOffset, ← utf8Len_toList, String.toList_append, ofChars_append, line, column]

/-- The position of an offset inside a character counts the line feeds before it, and the bytes after
the last one of these. -/
theorem Position.ofOffset_inside {text : String} {front rest : List Char} {c : Char} {count : Nat}
    (whole : text.toList = front ++ c :: rest) (positive : 0 < count) (inside : count < c.utf8Size) :
    ofOffset text (utf8Len front + count) =
      ⟨front.count '\n', utf8Len (front.rtakeWhile (· ≠ '\n')) + count⟩ := by
  obtain ⟨line, -, bytes⟩ := foldl_advance front
  rw [ofOffset, whole, ofChars_inside {} front rest positive inside, line, bytes]

/-- An offset past the end stands for the end. -/
theorem Position.ofOffset_min (text : String) (offset : Nat) :
    ofOffset text (min offset text.utf8ByteSize) = ofOffset text offset := by
  have past : ∀ (reading : Reading) (chars : List Char) (offset : Nat), utf8Len chars ≤ offset →
      ofChars reading offset chars = ofChars reading (utf8Len chars) chars := by
    intro reading chars
    induction chars generalizing reading with
    | nil => exact fun _ _ => rfl
    | cons c chars ih =>
      intro offset far
      have size := c.utf8Size_pos
      rw [String.utf8Len_cons] at far ⊢
      rw [ofChars, ofChars, if_neg (by omega), if_neg (by omega), if_neg (by omega),
        if_neg (by omega), ih _ _ (by omega), Nat.add_sub_cancel]
  rcases Nat.le_total offset text.utf8ByteSize with fits | far
  · rw [Nat.min_eq_left fits]
  · rw [Nat.min_eq_right far, ofOffset, ofOffset, ← utf8Len_toList,
      past _ _ offset (utf8Len_toList text ▸ far)]

/-- An offset is between two characters or inside one of them. -/
theorem between_or_inside {chars : List Char} {offset : Nat} (fits : offset ≤ utf8Len chars) :
    (∃ front rest, chars = front ++ rest ∧ utf8Len front = offset) ∨
      ∃ front c rest count, chars = front ++ c :: rest ∧ 0 < count ∧ count < c.utf8Size ∧
        utf8Len front + count = offset := by
  induction chars generalizing offset with
  | nil => exact .inl ⟨[], [], rfl, (Nat.le_zero.mp fits).symm⟩
  | cons c chars ih =>
    rw [String.utf8Len_cons] at fits
    rcases Nat.lt_or_ge offset c.utf8Size with inside | behind
    · rcases Nat.eq_zero_or_pos offset with rfl | positive
      · exact .inl ⟨[], c :: chars, rfl, rfl⟩
      · exact .inr ⟨[], c, chars, offset, rfl, positive, inside, Nat.zero_add _⟩
    · -- Behind the first character, the offset is counted from there.
      have shorter : offset - c.utf8Size ≤ utf8Len chars := by omega
      rcases ih shorter with
        ⟨front, rest, rfl, filled⟩ | ⟨front, d, rest, count, rfl, positive, inside, filled⟩
      · exact .inl ⟨c :: front, rest, rfl, by rw [String.utf8Len_cons]; omega⟩
      · exact .inr ⟨c :: front, d, rest, count, rfl, positive, inside, by
          rw [String.utf8Len_cons]; omega⟩

/-- Of two parts at the start of a text, the one with fewer bytes starts the other. -/
theorem prefix_of_utf8Len_le {front rest front' rest' : List Char}
    (whole : front ++ rest = front' ++ rest') (fewer : utf8Len front ≤ utf8Len front') :
    front <+: front' := by
  rcases List.prefix_or_prefix_of_prefix (List.prefix_append front rest)
    (whole ▸ List.prefix_append front' rest') with shorter | ⟨tail, rfl⟩
  · exact shorter
  · -- What is longer by no bytes is longer by no characters.
    rw [String.utf8Len_append] at fewer
    obtain rfl : tail = [] := String.utf8Len_eq_zero.mp (by omega)
    simp

/-- A slice and the one that starts where it ends make up the slice over both. -/
theorem slice?_append {text first rest : String} {start middle stop : Nat}
    (front : slice? text start middle = some first) (back : slice? text middle stop = some rest) :
    slice? text start stop = some (first ++ rest) := by
  obtain ⟨before, behind, whole, starts, ends⟩ := slice?_eq_some_iff.mp front
  obtain ⟨before', after, whole', starts', ends'⟩ := slice?_eq_some_iff.mp back
  -- What is before the second slice ends where the first one does, so it is the same text.
  have same : before ++ first = before' := by
    have chars : (before ++ first).toList ++ behind.toList =
        before'.toList ++ (rest ++ after).toList := by
      rw [← String.toList_append, ← String.toList_append, ← whole, whole', String.append_assoc]
    have bytes : utf8Len (before ++ first).toList = utf8Len before'.toList := by
      rw [utf8Len_toList, utf8Len_toList, ends, starts']
    have shorter := prefix_of_utf8Len_le chars (Nat.le_of_eq bytes)
    have longer := prefix_of_utf8Len_le chars.symm (Nat.le_of_eq bytes.symm)
    exact String.toList_injective (shorter.eq_of_length_le longer.length_le)
  have joined : before ++ (first ++ rest) = before' ++ rest := by
    rw [← String.append_assoc, same]
  exact slice?_eq_some_iff.mpr
    ⟨before, after, whole'.trans (congrArg (· ++ after) joined.symm), starts, joined ▸ ends'⟩

/-- An offset inside a character is not between two characters. -/
theorem not_between_of_inside {front rest front' rest' : List Char} {c : Char} {count : Nat}
    (whole : front ++ c :: rest = front' ++ rest') (positive : 0 < count)
    (inside : count < c.utf8Size) : utf8Len front' ≠ utf8Len front + count := by
  intro filled
  obtain ⟨tail, rfl⟩ := prefix_of_utf8Len_le whole (by omega)
  rw [String.utf8Len_append, Nat.add_left_cancel_iff] at filled
  cases tail with
  | nil =>
    rw [String.utf8Len_nil] at filled
    omega
  | cons first tail =>
    -- The part that is too long takes the character whole.
    rw [List.append_assoc, List.append_cancel_left_eq] at whole
    obtain ⟨rfl, -⟩ := List.cons_eq_cons.mp whole
    rw [String.utf8Len_cons] at filled
    omega

end MarkdownTree
