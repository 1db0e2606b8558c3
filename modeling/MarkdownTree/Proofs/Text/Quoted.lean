import MarkdownTree.Text.Quoted
import Mathlib.Data.List.Basic

/-! Quoted text: it has no line breaks, and it tells where it ends and which text it stands for. -/

namespace MarkdownTree

section run

variable {α : Type} {p : α → Prop} {run run' rest rest' : List α}

/-- A run ends where what it is made of ends, so two runs in the same list are the same. -/
theorem append_inj_of_run (inside : ∀ c ∈ run, p c) (inside' : ∀ c ∈ run', p c)
    (ends : ∀ c ∈ rest.head?, ¬p c) (ends' : ∀ c ∈ rest'.head?, ¬p c)
    (same : run ++ rest = run' ++ rest') : run = run' ∧ rest = rest' := by
  induction run generalizing run' with
  | nil =>
    cases run' with
    | nil => exact ⟨rfl, same⟩
    | cons d more =>
      -- The other run would go on with what is after this one.
      have head : d ∈ rest.head? := by simp [show rest = _ from same]
      exact absurd (inside' d List.mem_cons_self) (ends d head)
  | cons c more ih =>
    cases run' with
    | nil =>
      have head : c ∈ rest'.head? := by simp [← show _ = rest' from same]
      exact absurd (inside c List.mem_cons_self) (ends' c head)
    | cons d more' =>
      -- Both go on with the same, so it is the runs behind that are compared.
      obtain ⟨rfl, behind⟩ := List.cons.inj same
      rw [List.forall_mem_cons] at inside inside'
      obtain ⟨rfl, after⟩ := ih inside.2 inside'.2 behind
      exact ⟨rfl, after⟩

/-- What is up to the first place of a mark, and what is after it. -/
theorem append_cons_inj_of_first {mark : α} (none : mark ∉ run) (none' : mark ∉ run')
    (same : run ++ mark :: rest = run' ++ mark :: rest') : run = run' ∧ rest = rest' := by
  -- What is no mark is a run that the mark ends.
  have other : ∀ {run : List α}, mark ∉ run → ∀ c ∈ run, c ≠ mark :=
    fun none c member same => none (same ▸ member)
  obtain ⟨before, after⟩ := append_inj_of_run (other none) (other none') (by simp) (by simp) same
  exact ⟨before, (List.cons.inj after).2⟩

end run

section digits

/-- A number is known from its hexadecimal digits. -/
theorem hexDigits_inj {number number' : Nat}
    (same : Nat.toDigits 16 number = Nat.toDigits 16 number') : number = number' := by
  have one : ∀ d < 16, ∀ d' < 16, d.digitChar = d'.digitChar → d = d' := by decide
  have nonempty : ∀ n, Nat.toDigits 16 n ≠ [] := fun n => Nat.toDigits_ne_nil
  -- All digits but the last one are those of the number without it.
  induction number using Nat.strongRecOn generalizing number' with
  | ind number ih =>
    rw [Nat.toDigits_eq_if (by decide), @Nat.toDigits_eq_if 16 number' (by decide)] at same
    split at same <;> split at same
    · next small small' => exact one _ small _ small' (List.singleton_inj.mp same)
    -- One digit is not several.
    · have lengths := congrArg List.length same
      have := List.length_pos_of_ne_nil (nonempty (number' / 16))
      simp at lengths
    · have lengths := congrArg List.length same
      simp at lengths
    · next large large' =>
      obtain ⟨front, last⟩ := List.append_singleton_inj.mp same
      have front := ih _ (by omega) front
      have last := one _ (Nat.mod_lt _ (by decide)) _ (Nat.mod_lt _ (by decide)) last
      omega

/-- Hexadecimal digits are letters and decimal digits. -/
theorem isAlphanum_of_mem_hexDigits {number : Nat} {c : Char}
    (member : c ∈ Nat.toDigits 16 number) : c.isAlphanum := by
  have one : ∀ d < 16, (Nat.digitChar d).isAlphanum := by decide
  -- The last digit is one of sixteen, and the others are digits of a smaller number.
  induction number using Nat.strongRecOn with
  | ind number ih =>
    rw [Nat.toDigits_eq_if (by decide)] at member
    split at member
    · next small => exact List.mem_singleton.mp member ▸ one _ small
    · rcases List.mem_append.mp member with front | last
      · exact ih _ (by omega) front
      · exact List.mem_singleton.mp last ▸ one _ (Nat.mod_lt _ (by decide))

end digits

/-- The characters that have an escape of their own, each with the sign after the backslash. -/
def shortEscapes : List (Char × Char) :=
  [('\x00', '0'), ('\t', 't'), ('\n', 'n'), ('\r', 'r'), ('"', '"'), ('\\', '\\')]

/-- A character is written with its own escape, as its code point, or as itself. -/
theorem quotedChar_cases (c : Char) :
    (∃ sign, (c, sign) ∈ shortEscapes ∧ quotedChar c = ['\\', sign]) ∨
      quotedChar c = escapedCodePoint c ∨ quotedChar c = [c] ∧ c ∉ ['\\', '"', '\n'] := by
  unfold quotedChar
  -- Six characters have their own escape, in the order of the list.
  split
  · exact .inl ⟨_, by decide, rfl⟩
  · exact .inl ⟨_, by decide, rfl⟩
  · exact .inl ⟨_, by decide, rfl⟩
  · exact .inl ⟨_, by decide, rfl⟩
  · exact .inl ⟨_, by decide, rfl⟩
  · exact .inl ⟨_, by decide, rfl⟩
  · next feed _ quote backslash =>
    split
    · exact .inr (.inl rfl)
    · exact .inr (.inr ⟨rfl, by simpa using ⟨backslash, quote, feed⟩⟩)

/-- No character is written with a line break. -/
theorem not_mem_quotedChar (c : Char) : '\n' ∉ quotedChar c := by
  rcases quotedChar_cases c with ⟨sign, known, written⟩ | written | ⟨written, plain⟩
  · have all : ∀ escape ∈ shortEscapes, '\n' ≠ escape.2 := by decide
    simpa [written] using all _ known
  · -- Besides the digits there are only the signs around them.
    have digits : '\n' ∉ Nat.toDigits 16 c.toNat := fun member =>
      absurd (isAlphanum_of_mem_hexDigits member) (by decide)
    simpa [written, escapedCodePoint] using digits
  · rw [written, List.mem_singleton]
    rintro rfl
    exact plain (by decide)

/-- No character is written so that it starts like the end of the text. -/
theorem quotedChar_ne_quote (c : Char) (rest after : List Char) :
    quotedChar c ++ rest ≠ '"' :: after := by
  rcases quotedChar_cases c with ⟨sign, known, written⟩ | written | ⟨written, plain⟩
  · simp [written]
  · simp [written, escapedCodePoint]
  · rw [written]
    intro same
    exact plain (by simp [(List.cons.inj same).1])

/-- A code point in braces tells the character and where it ends. -/
theorem escapedCodePoint_inj {c d : Char} {rest rest' : List Char}
    (same : escapedCodePoint c ++ rest = escapedCodePoint d ++ rest') : c = d ∧ rest = rest' := by
  simp only [escapedCodePoint, List.cons_append, List.append_assoc, List.nil_append,
    List.cons.injEq, true_and] at same
  -- The digits end at the brace, which is none of them.
  have brace : ∀ number, '}' ∉ Nat.toDigits 16 number := fun number member =>
    absurd (isAlphanum_of_mem_hexDigits member) (by decide)
  obtain ⟨digits, after⟩ := append_cons_inj_of_first (brace _) (brace _) same
  exact ⟨Char.toNat_inj.mp (hexDigits_inj digits), after⟩

/-- What is written for a character tells the character and where it ends. -/
theorem quotedChar_inj {c d : Char} {rest rest' : List Char}
    (same : quotedChar c ++ rest = quotedChar d ++ rest') : c = d ∧ rest = rest' := by
  have signs : ∀ escape ∈ shortEscapes, escape.2 ≠ 'u' := by decide
  have known : ∀ escape ∈ shortEscapes, ∀ escape' ∈ shortEscapes,
      escape.2 = escape'.2 → escape.1 = escape'.1 := by decide
  have bare : ∀ {c : Char} {after after' : List Char}, c ∉ ['\\', '"', '\n'] →
      c :: after ≠ '\\' :: after' :=
    fun plain same => plain (by simp [(List.cons.inj same).1])
  -- The three ways of writing start differently, or differ in the sign after the backslash.
  rcases quotedChar_cases c with ⟨sign, short, written⟩ | written | ⟨written, plain⟩ <;>
    rcases quotedChar_cases d with ⟨sign', short', written'⟩ | written' | ⟨written', plain'⟩ <;>
    rw [written, written'] at same
  · obtain ⟨rfl, after⟩ : sign = sign' ∧ rest = rest' := by simpa using same
    exact ⟨known _ short _ short' rfl, after⟩
  · exact absurd (List.cons.inj (List.cons.inj same).2).1 (signs _ short)
  · exact absurd same.symm (bare plain')
  · exact absurd (List.cons.inj (List.cons.inj same).2).1.symm (signs _ short')
  · exact escapedCodePoint_inj same
  · exact absurd same.symm (bare plain')
  · exact absurd same (bare plain)
  · exact absurd same (bare plain)
  · exact List.cons.inj same

/-- Two quoted texts are the same only if they stand for the same text. -/
theorem flatMap_quotedChar_inj {text text' rest rest' : List Char}
    (same : text.flatMap quotedChar ++ '"' :: rest = text'.flatMap quotedChar ++ '"' :: rest') :
    text = text' ∧ rest = rest' := by
  induction text generalizing text' with
  | nil =>
    cases text' with
    | nil => exact ⟨rfl, (List.cons.inj same).2⟩
    | cons d more' =>
      -- One text is at its end, and the other one has a character, which starts differently.
      rw [List.flatMap_cons, List.append_assoc] at same
      exact absurd same.symm (quotedChar_ne_quote d _ _)
  | cons c more ih =>
    cases text' with
    | nil =>
      rw [List.flatMap_cons, List.append_assoc] at same
      exact absurd same (quotedChar_ne_quote c _ _)
    | cons d more' =>
      rw [List.flatMap_cons, List.flatMap_cons, List.append_assoc, List.append_assoc] at same
      obtain ⟨rfl, behind⟩ := quotedChar_inj same
      obtain ⟨rfl, after⟩ := ih behind
      exact ⟨rfl, after⟩

/-- The characters of a quoted text. -/
theorem toList_quoted (text : String) :
    (quoted text).toList = '"' :: (text.toList.flatMap quotedChar ++ ['"']) :=
  String.toList_ofList

/-- A quoted text tells the text and where it ends. -/
theorem quoted_append_inj {text text' rest rest' : String}
    (same : quoted text ++ rest = quoted text' ++ rest') : text = text' ∧ rest = rest' := by
  -- Behind the opening quote stand the characters, up to the closing one.
  have chars := congrArg String.toList same
  simp only [String.toList_append, toList_quoted, List.cons_append, List.append_assoc,
    List.nil_append] at chars
  obtain ⟨text, after⟩ := flatMap_quotedChar_inj (List.cons.inj chars).2
  exact ⟨String.toList_inj.mp text, String.toList_inj.mp after⟩

/-- Texts that are the same when quoted are the same. -/
theorem quoted_inj {text text' : String} (same : quoted text = quoted text') : text = text' :=
  (quoted_append_inj (congrArg (· ++ "") same)).1

/-- A quoted text has no line breaks. -/
theorem not_mem_quoted (text : String) : '\n' ∉ (quoted text).toList := by
  simp [toList_quoted, not_mem_quotedChar]

end MarkdownTree
