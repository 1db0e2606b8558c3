import MarkdownTree.Html.Escape
import Mathlib.Data.List.Basic

/-! Escaped text: it holds no special character but the signs that start entities, and replacing the
entities gives back the text that was written. -/

namespace MarkdownTree

/-- The entities, with the characters that they stand for. -/
def entities : List (List Char × Char) :=
  [("&amp;".toList, '&'), ("&lt;".toList, '<'), ("&gt;".toList, '>'), ("&quot;".toList, '"'),
    ("&#x27;".toList, '\'')]

/-- The characters left when entities are replaced, once through from the left. -/
def unescapeChars : List Char → List Char
  | [] => []
  | c :: rest =>
    match entities.find? fun entity => entity.1.isPrefixOf (c :: rest) with
    -- What an entity stands for is not read again.
    | some (written, decoded) => decoded :: unescapeChars (rest.drop (written.length - 1))
    | none => c :: unescapeChars rest
termination_by text => text.length

/-- The text that is left when the entities of a text are replaced. -/
def unescapeHtml (text : String) : String :=
  String.ofList (unescapeChars text.toList)

namespace Html

/-- The characters of a text as it is written. -/
theorem toList_escapeHtml (text : String) :
    (escapeHtml text).toList = text.toList.flatMap escapedChar :=
  String.toList_ofList

/-- Texts one after the other are written so. -/
theorem escapeHtml_append (text more : String) :
    escapeHtml (text ++ more) = escapeHtml text ++ escapeHtml more := by
  simp [escapeHtml]

/-- A character is written as its entity, or as itself if it is not special. -/
theorem escapedChar_cases (c : Char) : (escapedChar c, c) ∈ entities ∨
    escapedChar c = [c] ∧ c ∉ ['&', '<', '>', '"', '\''] := by
  unfold escapedChar
  split
  · exact .inl (by decide)
  · exact .inl (by decide)
  · exact .inl (by decide)
  · exact .inl (by decide)
  · exact .inl (by decide)
  · next amp less greater quote apostrophe =>
    exact .inr ⟨rfl, by simpa using ⟨amp, less, greater, quote, apostrophe⟩⟩

/-- Written text has no angles and no quotes. -/
theorem plain_of_mem_escaped {c d : Char} (member : c ∈ escapedChar d) :
    c ∉ ['<', '>', '"', '\''] := by
  rcases escapedChar_cases d with entity | ⟨itself, plain⟩
  · -- The entities are closed texts, so it is enough to look at them.
    have all : ∀ entity ∈ entities, entity.1.all (· ∉ ['<', '>', '"', '\'']) := by decide
    exact of_decide_eq_true (List.all_eq_true.mp (all _ entity) c member)
  · rw [itself, List.mem_singleton] at member
    exact member ▸ mt (List.mem_cons_of_mem _) plain

/-- An ampersand in a written character is the start of an entity. -/
theorem entity_of_split {c : Char} {before after : List Char}
    (split : escapedChar c = before ++ '&' :: after) : ('&' :: after, c) ∈ entities := by
  rcases escapedChar_cases c with entity | ⟨itself, plain⟩
  · -- No entity has an ampersand after its first character.
    have starts : ∀ entity ∈ entities, '&' ∉ entity.1.tail := by decide
    cases before with
    | nil =>
      rw [split] at entity
      exact entity
    | cons first before =>
      refine absurd ?_ (starts _ entity)
      rw [split]
      simp
  · -- The only character that is written is the character itself, and that is no ampersand.
    have member : '&' ∈ escapedChar c := by simp [split]
    rw [itself, List.mem_singleton] at member
    exact absurd (member ▸ List.mem_cons_self) plain

/-- Every ampersand in a written text is the start of an entity. -/
theorem entity_of_ampersand {text before after : List Char}
    (split : text.flatMap escapedChar = before ++ '&' :: after) :
    ∃ entity ∈ entities, entity.1 <+: '&' :: after := by
  induction text generalizing before with
  | nil => simp at split
  | cons c rest ih =>
    rw [List.flatMap_cons] at split
    -- The ampersand is in what the first character is written as, or in what follows.
    rcases List.append_eq_append_iff.mp split with ⟨front, rfl, here⟩ | ⟨back, here, later⟩
    · exact ih here
    · cases back with
      | nil => exact @ih [] later.symm
      | cons first back =>
        obtain ⟨rfl, rfl⟩ := List.cons_eq_cons.mp later
        exact ⟨_, entity_of_split here, List.prefix_append _ _⟩

/-- An entity is found at the start of whatever text it starts. -/
theorem find?_entity {entity : List Char × Char} (member : entity ∈ entities) (rest : List Char) :
    (entities.find? fun other => other.1.isPrefixOf (entity.1 ++ rest)) = some entity := by
  -- No other entity starts like it.
  simp only [entities, List.mem_cons, List.not_mem_nil, or_false] at member
  rcases member with rfl | rfl | rfl | rfl | rfl <;> rfl

/-- What a character is written as stands for the character, whatever follows. -/
theorem unescapeChars_append (c : Char) (rest : List Char) :
    unescapeChars (escapedChar c ++ rest) = c :: unescapeChars rest := by
  rcases escapedChar_cases c with entity | ⟨itself, plain⟩
  · have nonempty : ∀ entity ∈ entities, entity.1 ≠ [] := by decide
    have found := find?_entity entity rest
    obtain ⟨first, others, written : escapedChar c = first :: others⟩ :=
      List.exists_cons_of_ne_nil (nonempty _ entity)
    rw [written, List.cons_append] at found
    -- The rest is left when the whole entity is dropped.
    rw [written, List.cons_append, unescapeChars, found]
    simp
  · -- Every entity starts with an ampersand, and this character is none.
    have starts : ∀ entity ∈ entities, entity.1 = '&' :: entity.1.tail := by decide
    have missing : (entities.find? fun entity => entity.1.isPrefixOf (c :: rest)) = none := by
      rw [List.find?_eq_none]
      intro entity member found
      rw [starts entity member, List.isPrefixOf_cons_cons, Bool.and_eq_true, beq_iff_eq] at found
      exact plain (found.1 ▸ List.mem_cons_self)
    rw [itself, List.singleton_append, unescapeChars, missing]

/-- What a text is written as stands for the text. -/
theorem unescapeChars_flatMap (text : List Char) :
    unescapeChars (text.flatMap escapedChar) = text := by
  induction text with
  | nil => rw [List.flatMap_nil, unescapeChars]
  | cons c rest ih => rw [List.flatMap_cons, unescapeChars_append, ih]

/-- Escaping is undone by replacing the entities. -/
theorem unescapeHtml_escapeHtml (text : String) : unescapeHtml (escapeHtml text) = text := by
  rw [unescapeHtml, toList_escapeHtml, unescapeChars_flatMap, String.ofList_toList]

/-- An entity that a text held itself is there again. -/
example : unescapeHtml "&amp;lt;" = "&lt;" := by cbv

end Html

/--
Escaping is undone by replacing entities.

An escaped text has none of the angles and quotes, and an ampersand only where one of the five
entities starts. Replacing these once through from the left gives the text back, whatever entities
or parts of entities it held itself, so different texts are written differently. Texts one after
the other are written so.
-/
theorem escaped_text_read_back (text more : String) :
    (∀ c ∈ (escapeHtml text).toList, c ∉ ['<', '>', '"', '\'']) ∧
    (∀ before after, (escapeHtml text).toList = before ++ '&' :: after →
      ∃ entity ∈ entities, entity.1 <+: '&' :: after) ∧
    unescapeHtml (escapeHtml text) = text ∧
    (escapeHtml text = escapeHtml more ↔ text = more) ∧
    escapeHtml (text ++ more) = escapeHtml text ++ escapeHtml more := by
  refine ⟨fun c member => ?_, fun before after split => ?_, Html.unescapeHtml_escapeHtml text,
    ⟨fun same => ?_, fun same => same ▸ rfl⟩, Html.escapeHtml_append text more⟩
  · rw [Html.toList_escapeHtml] at member
    obtain ⟨d, _, member⟩ := List.mem_flatMap.mp member
    exact Html.plain_of_mem_escaped member
  · exact Html.entity_of_ampersand ((Html.toList_escapeHtml text).symm.trans split)
  · -- Both texts are what the entities of the one written text stand for.
    calc text = unescapeHtml (escapeHtml text) := (Html.unescapeHtml_escapeHtml text).symm
      _ = unescapeHtml (escapeHtml more) := congrArg unescapeHtml same
      _ = more := Html.unescapeHtml_escapeHtml more

end MarkdownTree
