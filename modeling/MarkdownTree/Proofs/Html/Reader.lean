import MarkdownTree.Proofs.Html.Escape

/-! A minimal reader of HTML: one character after the other, with the elements that are open, and
the HTML that it is known to read. -/

namespace MarkdownTree.Html

/--
What HTML shows: a character of a text, or an element with what is inside it.

Texts that stand side by side are one text, so a text is no item of its own but its characters.
-/
inductive Item where
  | char (c : Char)
  | element (name : String) (attributes : List (String × String)) (below : List Item)
  deriving Repr

/-- The characters of a text. -/
def Item.text (text : String) : List Item :=
  text.toList.map .char

/-- What an entity stands for; there are five. -/
def entity? : (name : List Char) → Option Char
  | ['a', 'm', 'p'] => some '&'
  | ['l', 't'] => some '<'
  | ['g', 't'] => some '>'
  | ['q', 'u', 'o', 't'] => some '"'
  | ['#', 'x', '2', '7'] => some '\''
  | _ => none

/--
Reads a character of a text, or of an entity whose name is read so far.

What comes back is the entity that goes on, if one does, and the characters that are decoded.
-/
def readChar : (entity : Option (List Char)) → Char → Option (Option (List Char) × List Char)
  | none, c => if c = '&' then some (some [], []) else some (none, [c])
  | some name, c =>
    if c = ';' then (entity? name).map fun decoded => (none, [decoded])
    else some (some (name ++ [c]), [])

/-- Where in a tag the reader is. -/
inductive Place where
  | name
  | attribute (name : List Char)
  /-- After the sign that follows the name of an attribute. -/
  | quote (name : List Char)
  | value (name : List Char) (entity : Option (List Char)) (text : List Char)
  /-- After the quotes around a value. -/
  | closed
  deriving DecidableEq

/-- A tag, read so far. -/
structure TagReader where
  name : List Char := []
  attributes : List (String × String) := []
  place : Place := .name

/-- Reads one character of a tag. -/
def TagReader.step (tag : TagReader) (c : Char) : Option TagReader :=
  match tag.place with
  | .name =>
    if c = ' ' then some { tag with place := .attribute [] }
    else some { tag with name := tag.name ++ [c] }
  | .attribute name =>
    if c = '=' then some { tag with place := .quote name }
    else some { tag with place := .attribute (name ++ [c]) }
  | .quote name => if c = '"' then some { tag with place := .value name none [] } else none
  | .value name entity text =>
    if c = '"' then
      if entity.isSome then none
      else some { tag with
        attributes := tag.attributes ++ [(String.ofList name, String.ofList text)]
        place := .closed }
    else (readChar entity c).map fun read =>
      { tag with place := .value name read.1 (text ++ read.2) }
  | .closed => if c = ' ' then some { tag with place := .attribute [] } else none

/-- Whether a text can name an element or an attribute. -/
def isName (text : List Char) : Bool :=
  !text.isEmpty && text.all Char.isAlphanum

/-- Reads what stands between the angles of an opening tag: a name and attributes. -/
def readTag? (written : List Char) : Option (String × List (String × String)) := do
  let tag ← written.foldlM TagReader.step {}
  if (tag.place = .name ∨ tag.place = .closed) ∧ isName tag.name ∧
      tag.attributes.all fun pair => isName pair.1.toList then
    return (String.ofList tag.name, tag.attributes)
  else none

/-- Whether an element has no content and no closing tag. -/
def isVoid (name : String) : Bool :=
  name ∈ ["hr", "br", "img"]

/-- An element that is open, and what was read before it in the element around it. -/
structure OpenElement where
  name : String
  attributes : List (String × String)
  before : List Item

/-- Whether the reader is in a text or in a tag. -/
inductive Mode where
  | content (entity : Option (List Char))
  | tag (written : List Char)

/-- The elements that are open, innermost first, and what was read inside the innermost one. -/
structure Reader where
  around : List OpenElement := []
  items : List Item := []
  mode : Mode := .content none

namespace Reader

/-- Takes in a whole tag: a closing one has to be that of the innermost open element. -/
def takeTag (reader : Reader) (written : List Char) : Option Reader :=
  match written with
  | '/' :: name =>
    match reader.around with
    | [] => none
    | opened :: around =>
      if opened.name.toList = name then
        -- The whole element goes after what was put aside when it was opened.
        let whole := .element opened.name opened.attributes reader.items
        some { around, items := opened.before ++ [whole] }
      else none
  | _ => (readTag? written).map fun tag =>
    if isVoid tag.1 then { reader with
      items := reader.items ++ [.element tag.1 tag.2 []], mode := .content none }
    -- What was read so far is put aside until the element is closed.
    else { around := ⟨tag.1, tag.2, reader.items⟩ :: reader.around }

/-- Reads one character; a tag runs up to the next closing angle. -/
def step (reader : Reader) (c : Char) : Option Reader :=
  match reader.mode with
  | .tag written =>
    if c = '>' then reader.takeTag written
    else some { reader with mode := .tag (written ++ [c]) }
  | .content entity =>
    if c = '<' then
      if entity.isSome then none else some { reader with mode := .tag [] }
    else (readChar entity c).map fun read =>
      { reader with items := reader.items ++ read.2.map .char, mode := .content read.1 }

end Reader

/-- Reads HTML to its end, where all elements are closed and no entity is open. -/
def read? (html : String) : Option (List Item) := do
  let reader ← html.toList.foldlM Reader.step {}
  match reader.around, reader.mode with
  | [], .content none => return reader.items
  | _, _ => none

/-- Nested tags have to be closed from the inside out. -/
example : read? "<p>a<em>b</p></em>" = none := by decide

/-- An attribute as it is written. -/
def attributeText (pair : String × String) : String :=
  " " ++ pair.1 ++ "=\"" ++ escapeHtml pair.2 ++ "\""

/-- What stands between the angles of an opening tag. -/
def tagText (name : String) (attributes : List (String × String)) : String :=
  name ++ String.join (attributes.map attributeText)

/-- An opening tag. -/
def openingTag (name : String) (attributes : List (String × String)) : String :=
  "<" ++ tagText name attributes ++ ">"

/-- A closing tag. -/
def closingTag (name : String) : String :=
  "</" ++ name ++ ">"

section Steps

variable {σ : Type} {step : σ → Char → Option σ}

/-- Characters that are kept one by one are all kept. -/
theorem foldlM_kept (put : List Char → σ) {written : List Char}
    (keeps : ∀ text, ∀ c ∈ written, step (put text) c = some (put (text ++ [c])))
    (text : List Char) : written.foldlM step (put text) = some (put (text ++ written)) := by
  induction written generalizing text with
  | nil => simp
  | cons c rest ih =>
    -- The rest is kept after whatever was kept before, so the text stays general.
    have others := ih (fun text c member => keeps text c (List.mem_cons_of_mem _ member))
    simp [keeps text c List.mem_cons_self, others]

variable (put : Option (List Char) → List Char → σ)
  (decodes : ∀ entity text c, c ≠ '<' → c ≠ '"' →
    step (put entity text) c = (readChar entity c).map fun read => put read.1 (text ++ read.2))
include decodes

/-- A character is decoded from the way it is written. -/
theorem foldlM_escapedChar (text : List Char) (c : Char) :
    (escapedChar c).foldlM step (put none text) = some (put none (text ++ [c])) := by
  -- The five special characters are written as entities, and all others as they are.
  unfold escapedChar
  split
  · simp [decodes, readChar, entity?]
  · simp [decodes, readChar, entity?]
  · simp [decodes, readChar, entity?]
  · simp [decodes, readChar, entity?]
  · simp [decodes, readChar, entity?]
  · next noEntity less _ quote _ =>
    have plain : c ≠ '&' := noEntity
    simp [decodes _ _ c less quote, readChar, plain]

/-- A text is decoded from the way it is written. -/
theorem foldlM_escaped (text more : List Char) :
    (more.flatMap escapedChar).foldlM step (put none text) = some (put none (text ++ more)) := by
  induction more generalizing text with
  | nil => simp
  | cons c rest ih =>
    simp [List.flatMap_cons, foldlM_escapedChar put decodes, ih]

end Steps

/-- No name has a character that means something in a tag. -/
theorem ne_of_isName {name : List Char} (isName : isName name) {c : Char} (member : c ∈ name) :
    c ≠ ' ' ∧ c ≠ '=' ∧ c ≠ '>' ∧ c ≠ '/' := by
  have all := List.all_eq_true.mp (Bool.and_eq_true_iff.mp isName).2 c member
  -- None of these characters is a letter or a digit.
  refine ⟨?_, ?_, ?_, ?_⟩ <;> rintro rfl <;> exact absurd all (by decide)

/-- An attribute is read after the name of the element or after another attribute. -/
theorem read_attribute {tag : TagReader} (ended : tag.place = .name ∨ tag.place = .closed)
    {pair : String × String} (named : isName pair.1.toList) :
    (attributeText pair).toList.foldlM TagReader.step tag =
      some { tag with attributes := tag.attributes ++ [pair], place := .closed } := by
  have blank : tag.step ' ' = some { tag with place := .attribute [] } := by
    rcases ended with place | place <;> simp [TagReader.step, place]
  have name : pair.1.toList.foldlM TagReader.step { tag with place := .attribute [] } =
      some { tag with place := .attribute pair.1.toList } := by
    refine foldlM_kept (fun name => { tag with place := .attribute name }) ?_ []
    intro text c member
    simp [TagReader.step, (ne_of_isName named member).2.1]
  have value : (pair.2.toList.flatMap escapedChar).foldlM TagReader.step
      { tag with place := .value pair.1.toList none [] } =
      some { tag with place := .value pair.1.toList none pair.2.toList } := by
    refine foldlM_escaped (fun entity text =>
      { tag with place := .value pair.1.toList entity text }) ?_ [] _
    intro entity text c _ quote
    simp [TagReader.step, quote]
  have sign : ({ tag with place := .attribute pair.1.toList } : TagReader).step '=' =
      some { tag with place := .quote pair.1.toList } := rfl
  have opened : ({ tag with place := .quote pair.1.toList } : TagReader).step '"' =
      some { tag with place := .value pair.1.toList none [] } := rfl
  have closed : ({ tag with place := .value pair.1.toList none pair.2.toList } : TagReader).step
      '"' = some { tag with attributes := tag.attributes ++ [pair], place := .closed } := by
    simp [TagReader.step]
  -- A blank, the name, a sign and the value in quotes come one after the other.
  simp [attributeText, toList_escapeHtml, blank, name, sign, opened, value, closed]

/-- Attributes are read one after the other. -/
theorem read_attributes {attributes : List (String × String)}
    (named : ∀ pair ∈ attributes, isName pair.1.toList) {tag : TagReader}
    (ended : tag.place = .name ∨ tag.place = .closed) :
    ∃ place, (place = .name ∨ place = .closed) ∧
      (String.join (attributes.map attributeText)).toList.foldlM TagReader.step tag =
        some { tag with attributes := tag.attributes ++ attributes, place } := by
  induction attributes generalizing tag with
  | nil => exact ⟨tag.place, ended, by simp⟩
  | cons pair rest ih =>
    rw [List.forall_mem_cons] at named
    -- After the first attribute the reader is ready for the next one.
    obtain ⟨place, ended', others⟩ := @ih named.2
      { tag with attributes := tag.attributes ++ [pair], place := .closed } (.inr rfl)
    refine ⟨place, ended', ?_⟩
    rw [List.map_cons, String.join_cons, String.toList_append, List.foldlM_append,
      read_attribute ended named.1]
    simpa using others

/-- From one angle to the other a tag is taken in as a whole. -/
theorem foldlM_tag {written : List Char} (inside : ∀ c ∈ written, c ≠ '>')
    (around : List OpenElement) (before : List Item) :
    ('<' :: written ++ ['>']).foldlM Reader.step ⟨around, before, .content none⟩ =
      Reader.takeTag ⟨around, before, .tag written⟩ written := by
  have kept : written.foldlM Reader.step ⟨around, before, .tag []⟩ =
      some ⟨around, before, .tag written⟩ := by
    refine foldlM_kept (fun written => Reader.mk around before (.tag written)) ?_ []
    intro text c member
    simp [Reader.step, inside c member]
  have opened : Reader.step ⟨around, before, .content none⟩ '<' =
      some ⟨around, before, .tag []⟩ := rfl
  have closed : Reader.step ⟨around, before, .tag written⟩ '>' =
      Reader.takeTag ⟨around, before, .tag written⟩ written := rfl
  simp [opened, kept, closed]

/-- HTML that is read as these items wherever it stands in a text. -/
def Reads (html : String) (items : List Item) : Prop :=
  ∀ around before, html.toList.foldlM Reader.step ⟨around, before, .content none⟩ =
    some ⟨around, before ++ items, .content none⟩

/-- Nothing reads as nothing. -/
theorem reads_empty : Reads "" [] := by
  intro around before
  simp

/-- What stands one after the other is read so. -/
theorem Reads.append {html html' : String} {items items' : List Item} (first : Reads html items)
    (second : Reads html' items') : Reads (html ++ html') (items ++ items') := by
  intro around before
  simp [List.foldlM_append, first around before, second around]

/-- Any number of pieces is read piece by piece. -/
theorem reads_join {α : Type} {html : α → String} {items : α → List Item} {pieces : List α}
    (each : ∀ piece ∈ pieces, Reads (html piece) (items piece)) :
    Reads (String.join (pieces.map html)) (pieces.flatMap items) := by
  induction pieces with
  | nil => exact reads_empty
  | cons piece rest ih =>
    rw [List.map_cons, String.join_cons, List.flatMap_cons]
    exact (each piece List.mem_cons_self).append
      (ih fun other member => each other (List.mem_cons_of_mem _ member))

/-- A text is read from the way it is written. -/
theorem reads_escaped (text : String) : Reads (escapeHtml text) (Item.text text) := by
  intro around before
  have decoded : (text.toList.flatMap escapedChar).foldlM Reader.step
      ⟨around, before ++ [].map .char, .content none⟩ =
      some ⟨around, before ++ text.toList.map .char, .content none⟩ := by
    refine foldlM_escaped (fun entity text =>
      Reader.mk around (before ++ text.map .char) (.content entity)) ?_ [] _
    intro entity text c less _
    simp [Reader.step, less]
  simpa [toList_escapeHtml, Item.text] using decoded

section Tags

variable (name : String) (attributes : List (String × String)) (named : isName name.toList)
  (namedAll : ∀ pair ∈ attributes, isName pair.1.toList)
include named namedAll

/-- A tag is read with its name and all its attributes. -/
theorem readTag?_tagText : readTag? (tagText name attributes).toList = some (name, attributes) := by
  have start : name.toList.foldlM TagReader.step {} = some { name := name.toList } := by
    refine foldlM_kept (fun name => ({ name } : TagReader)) ?_ []
    intro text c member
    simp [TagReader.step, (ne_of_isName named member).1]
  obtain ⟨place, ended, others⟩ := @read_attributes attributes namedAll
    { name := name.toList } (.inl rfl)
  have whole : (tagText name attributes).toList.foldlM TagReader.step {} =
      some { name := name.toList, attributes, place } := by
    rw [tagText, String.toList_append, List.foldlM_append, start]
    simpa using others
  have all : attributes.all fun pair => isName pair.1.toList := List.all_eq_true.mpr namedAll
  simp [readTag?, whole, ended, named, all]

/-- No tag has a closing angle inside. -/
theorem ne_of_mem_tagText {c : Char} (member : c ∈ (tagText name attributes).toList) : c ≠ '>' := by
  rw [tagText, String.toList_append, List.mem_append] at member
  rcases member with member | member
  · exact (ne_of_isName named member).2.2.1
  · -- The characters of the attributes are those of one of them.
    induction attributes with
    | nil => simp at member
    | cons pair rest ih =>
      rw [List.forall_mem_cons] at namedAll
      simp only [List.map_cons, String.join_cons, String.toList_append, List.mem_append] at member
      rcases member with member | member
      · simp only [attributeText, String.toList_append, toList_escapeHtml, List.mem_append,
          List.mem_flatMap] at member
        -- A blank, the name, the sign and a quote, the value, another quote.
        rcases member with (((member | member) | member) | ⟨d, _, member⟩) | member
        · rintro rfl; exact absurd member (by decide)
        · exact (ne_of_isName namedAll.1 member).2.2.1
        · rintro rfl; exact absurd member (by decide)
        · rintro rfl; exact plain_of_mem_escaped member (by decide)
        · rintro rfl; exact absurd member (by decide)
      · exact ih namedAll.2 member

omit namedAll in
/-- No opening tag starts like a closing one. -/
theorem tagText_ne_slash (closed : List Char) :
    (tagText name attributes).toList ≠ '/' :: closed := by
  intro same
  rw [tagText, String.toList_append] at same
  -- The first character is that of the name.
  cases chars : name.toList with
  | nil =>
    rw [chars] at named
    cases named
  | cons first rest =>
    rw [chars] at same
    have slash : first = '/' := (List.cons.inj same).1
    exact (ne_of_isName named (by simp [chars])).2.2.2 slash

/-- An opening tag opens its element, or is all of it. -/
theorem foldlM_openingTag (around : List OpenElement) (before : List Item) :
    (openingTag name attributes).toList.foldlM Reader.step ⟨around, before, .content none⟩ =
      some (if isVoid name then ⟨around, before ++ [.element name attributes []], .content none⟩
        else ⟨⟨name, attributes, before⟩ :: around, [], .content none⟩) := by
  have whole : (openingTag name attributes).toList =
      '<' :: (tagText name attributes).toList ++ ['>'] := by
    simp [openingTag]
  -- The whole tag is taken in at its closing angle.
  rw [whole, foldlM_tag fun c member => ne_of_mem_tagText name attributes named namedAll member]
  unfold Reader.takeTag
  split
  · next closed same => exact absurd same (tagText_ne_slash name attributes named closed)
  · rw [readTag?_tagText name attributes named namedAll]
    rfl

/-- An element is read with what is inside it. -/
theorem Reads.element {inner : String} {items : List Item} (inside : Reads inner items)
    (notVoid : isVoid name = false) :
    Reads (openingTag name attributes ++ inner ++ closingTag name)
      [.element name attributes items] := by
  intro around before
  have noAngle : ∀ c ∈ '/' :: name.toList, c ≠ '>' := by
    intro c member
    rcases List.mem_cons.mp member with rfl | member
    · decide
    · exact (ne_of_isName named member).2.2.1
  have closing : (closingTag name).toList = '<' :: ('/' :: name.toList) ++ ['>'] := by
    simp [closingTag]
  rw [String.toList_append, String.toList_append, List.foldlM_append, List.foldlM_append,
    foldlM_openingTag name attributes named namedAll, notVoid]
  -- What is inside is read while the element is open, and the closing tag takes up the rest again.
  simp only [Bool.false_eq_true, if_false, Option.bind_eq_bind, Option.bind_some, inside _ _,
    closing, foldlM_tag noAngle]
  simp [Reader.takeTag]

/-- An element without content is read from its tag. -/
theorem reads_void (isVoid : isVoid name) :
    Reads (openingTag name attributes) [.element name attributes []] := by
  intro around before
  rw [foldlM_openingTag name attributes named namedAll, if_pos isVoid]

end Tags

/-- HTML that reads as some items is accepted as a whole. -/
theorem Reads.read?_eq {html : String} {items : List Item} (reads : Reads html items) :
    read? html = some items := by
  simp [read?, reads [] []]

end MarkdownTree.Html
