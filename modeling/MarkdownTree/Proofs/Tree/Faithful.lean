import MarkdownTree.Proofs.Processing.Reachable
import MarkdownTree.Proofs.Text.Quoted
import MarkdownTree.Proofs.Tree.Outline

/-! Outlines tell the tree: from the text alone one can read off the shape, the tags and the fields
that are shown, as long as no label breaks a line. -/

namespace MarkdownTree

namespace AlertKind

/-- An alert is known from its word. -/
theorem ofName?_name (alert : AlertKind) : ofName? alert.name = some alert := by
  cases alert <;> decide

/-- Two alerts have two words. -/
theorem name_inj {alert alert' : AlertKind} (same : alert.name = alert'.name) :
    alert = alert' := by
  -- Reading the word gives the alert back.
  have read := congrArg ofName? same
  rw [ofName?_name, ofName?_name] at read
  exact Option.some.inj read

end AlertKind

namespace Tag

/-- A tag is known from its name. -/
theorem ofName?_name (tag : Tag) : ofName? tag.name = some tag := by
  cases tag <;> decide

/-- Two tags have two names. -/
theorem name_inj {tag tag' : Tag} (same : tag.name = tag'.name) : tag = tag' := by
  have read := congrArg ofName? same
  rw [ofName?_name, ofName?_name] at read
  exact Option.some.inj read

/-- The name of a tag is one word. -/
theorem not_mem_name (tag : Tag) : ' ' ∉ tag.name.toList ∧ '\n' ∉ tag.name.toList := by
  cases tag <;> decide

/-- A name has a first letter. -/
theorem head_name (tag : Tag) (after : List Char) :
    ∀ c ∈ (tag.name.toList ++ after).head?, c ≠ ' ' := by
  -- The name is not empty, so what follows it does not matter.
  have nonempty : tag.name.toList ≠ [] := by cases tag <;> decide
  obtain ⟨first, letters, split⟩ := List.exists_cons_of_ne_nil nonempty
  rw [split]
  rintro c ⟨⟩ rfl
  exact tag.not_mem_name.1 (split ▸ List.mem_cons_self)

end Tag

namespace Kind

/-- A kind with what outlines do not show left empty: titles, and the targets of references. -/
def shown : Kind → Kind
  | link target => link ⟨target.url, ""⟩
  | image target => image ⟨target.url, ""⟩
  | linkRef _ label => linkRef ⟨"", ""⟩ label
  | imageRef _ label => imageRef ⟨"", ""⟩ label
  | kind => kind

/-- The label by which a link or an image names its definition. -/
def label? : Kind → Option String
  | linkRef _ label | imageRef _ label => some label
  | _ => none

/-- Whether the line of a kind is one line: no label breaks it. -/
def Unbroken (kind : Kind) : Prop :=
  ∀ label ∈ kind.label?, '\n' ∉ label.toList

instance (kind : Kind) : Decidable kind.Unbroken :=
  inferInstanceAs (Decidable (∀ label ∈ kind.label?, '\n' ∉ label.toList))

/-- What is shown has the same label. -/
theorem unbroken_shown {kind : Kind} (unbroken : kind.Unbroken) : kind.shown.Unbroken := by
  cases kind <;> exact unbroken

/-- What is not shown is left empty once. -/
@[simp] theorem shown_shown (kind : Kind) : kind.shown.shown = kind.shown := by
  cases kind <;> rfl

/-- A line has only what is shown. -/
theorem outlineLine_shown (kind : Kind) (depth : Nat) :
    kind.shown.outlineLine depth = kind.outlineLine depth := by
  cases kind <;> rfl

/-- The fields follow the tag after a space, if there are any. -/
theorem head_shownFields (kind : Kind) : ∀ c ∈ kind.shownFields.toList.head?, c = ' ' := by
  -- Most kinds have one field after the space; the others have several pieces, or none.
  have space : ∀ field : String, ∀ c ∈ (" " ++ field).toList.head?, c = ' ' := by
    simp [String.toList_append]
  cases kind with
  | heading level => exact space level.repr
  | list start =>
    cases start with
    | none => nofun
    | some start => exact space start.repr
  | alert mark => exact space mark.name
  | codeBlock info literal => simp [shownFields]
  | htmlBlock | text | code | inlineHtml | link | image => exact space (quoted _)
  | linkRef | imageRef => simp [shownFields]
  | _ => nofun

/-- Fields break a line only within a label. -/
theorem not_mem_shownFields {kind : Kind} (unbroken : kind.Unbroken) :
    '\n' ∉ kind.shownFields.toList := by
  have number : ∀ number : Nat, '\n' ∉ (" " ++ number.repr).toList := by
    -- A break is no digit.
    intro number member
    simp only [String.toList_append, Nat.toList_repr, List.mem_append] at member
    rcases member with space | digit
    · exact absurd space (by decide)
    · exact absurd (Nat.isDigit_of_mem_toDigits (by decide) (by decide) digit) (by decide)
  cases kind with
  | heading level => exact number level
  | list start =>
    cases start with
    | none => nofun
    | some start => exact number start
  | alert mark => cases mark <;> decide
  | codeBlock | htmlBlock | text | code | inlineHtml | link | image =>
    simp [shownFields, not_mem_quoted]
  | linkRef _ label | imageRef _ label =>
    have label := unbroken label rfl
    simpa [shownFields] using label
  | _ => nofun

/-- A number is known from its digits. -/
theorem number_inj {number number' : Nat}
    (same : " " ++ number.repr = " " ++ number'.repr) : number = number' := by
  -- The value of the digits is the number.
  have digits := congrArg String.toList ((String.append_right_inj " ").mp same)
  rw [Nat.toList_repr, Nat.toList_repr] at digits
  have read := congrArg (Nat.ofDigitChars 10 · 0) digits
  simpa only [Nat.ofDigitChars_ten_toDigits] using read

/-- A tag with the fields after it tells all that is shown. -/
theorem shown_eq_of_shownFields {kind kind' : Kind} (tags : kind.tag = kind'.tag)
    (fields : kind.shownFields = kind'.shownFields) : kind.shown = kind'.shown := by
  -- In every case the tags leave one kind for the other.
  cases kind with
  | heading level =>
    cases kind' <;> cases tags
    rw [number_inj fields]
  | alert mark =>
    cases kind' <;> cases tags
    rw [AlertKind.name_inj ((String.append_right_inj " ").mp fields)]
  | list start =>
    cases kind' <;> cases tags
    next start' =>
      cases start <;> cases start'
      · rfl
      · simp [shownFields] at fields
      · simp [shownFields] at fields
      · rw [number_inj fields]
  | codeBlock info literal =>
    cases kind' <;> cases tags
    -- The first text is quoted, so it tells where the second one begins.
    simp only [shownFields, String.append_assoc, String.append_right_inj] at fields
    obtain ⟨infos, literals⟩ := quoted_append_inj fields
    rw [infos, quoted_inj ((String.append_right_inj " ").mp literals)]
  | htmlBlock | text | code | inlineHtml | link | image =>
    cases kind' <;> cases tags
    have literal := quoted_inj ((String.append_right_inj " ").mp fields)
    simp only [shown, literal]
  | linkRef | imageRef =>
    cases kind' <;> cases tags
    simp only [shownFields, String.append_left_inj, String.append_right_inj] at fields
    simp only [shown, fields]
  | _ =>
    cases kind' <;> cases tags
    rfl

/-- The line of a kind without its end. -/
def lineText (depth : Nat) (kind : Kind) : String :=
  String.ofList (List.replicate (2 * depth) ' ') ++ kind.tag.name ++ kind.shownFields

/-- The text of a line has no breaks. -/
theorem not_mem_lineText {kind : Kind} (unbroken : kind.Unbroken) (depth : Nat) :
    '\n' ∉ (kind.lineText depth).toList := by
  intro member
  -- A line has its indentation, a name and fields, and none of them has a break.
  simp only [lineText, String.toList_append, String.toList_ofList, List.mem_append] at member
  rcases member with (indent | name) | field
  · exact absurd (List.eq_of_mem_replicate indent) (by decide)
  · exact kind.tag.not_mem_name.2 name
  · exact not_mem_shownFields unbroken field

/-- The text of a line tells the depth and all that is shown. -/
theorem lineText_inj {kind kind' : Kind} {depth depth' : Nat}
    (same : kind.lineText depth = kind'.lineText depth') :
    depth = depth' ∧ kind.shown = kind'.shown := by
  have chars := congrArg String.toList same
  simp only [lineText, String.toList_append, String.toList_ofList, List.append_assoc] at chars
  -- The indentation ends at the name.
  obtain ⟨indents, chars⟩ := append_inj_of_run (p := (· = ' ')) (fun c => List.eq_of_mem_replicate)
    (fun c => List.eq_of_mem_replicate) (kind.tag.head_name _) (kind'.tag.head_name _) chars
  -- The name ends at the next space, or at the end of the line.
  have word : ∀ kind : Kind, ∀ c ∈ kind.tag.name.toList, c ≠ ' ' := fun kind c member blank =>
    kind.tag.not_mem_name.1 (blank ▸ member)
  obtain ⟨names, fields⟩ := append_inj_of_run (p := (· ≠ ' ')) (word kind) (word kind')
    (fun c first => not_not.mpr (kind.head_shownFields c first))
    (fun c first => not_not.mpr (kind'.head_shownFields c first)) chars
  -- Each level is two spaces, and the tag with its fields tells the rest.
  have depths := congrArg List.length indents
  rw [List.length_replicate, List.length_replicate] at depths
  exact ⟨by omega, shown_eq_of_shownFields (Tag.name_inj (String.toList_inj.mp names))
    (String.toList_inj.mp fields)⟩

/-- A line tells where it ends, besides the depth and all that is shown. -/
theorem outlineLine_append_inj {kind kind' : Kind} (unbroken : kind.Unbroken)
    (unbroken' : kind'.Unbroken) {depth depth' : Nat} {rest rest' : String}
    (same : kind.outlineLine depth ++ rest = kind'.outlineLine depth' ++ rest') :
    (depth = depth' ∧ kind.shown = kind'.shown) ∧ rest = rest' := by
  -- A line ends at its first break, as there is none in its text.
  have line : ∀ (kind : Kind) (depth : Nat) (rest : String),
      (kind.outlineLine depth ++ rest).toList =
        (kind.lineText depth).toList ++ '\n' :: rest.toList := by
    intro kind depth rest
    show (kind.lineText depth ++ "\n" ++ rest).toList = _
    simp
  have chars := congrArg String.toList same
  rw [line, line] at chars
  obtain ⟨text, after⟩ := append_cons_inj_of_first (not_mem_lineText unbroken depth)
    (not_mem_lineText unbroken' depth') chars
  exact ⟨lineText_inj (String.toList_inj.mp text), String.toList_inj.mp after⟩

/-- No line is empty. -/
theorem outlineLine_ne_empty (kind : Kind) (depth : Nat) : kind.outlineLine depth ≠ "" := by
  simp [outlineLine]

end Kind

/-- What is printed tells the kinds and their depths, if these have nothing that is not shown. -/
theorem printed_inj {entries entries' : List (Nat × Kind)}
    (shows : ∀ entry ∈ entries, entry.2.shown = entry.2 ∧ entry.2.Unbroken)
    (shows' : ∀ entry ∈ entries', entry.2.shown = entry.2 ∧ entry.2.Unbroken)
    (same : printed entries = printed entries') : entries = entries' := by
  induction entries generalizing entries' with
  | nil =>
    cases entries' with
    | nil => rfl
    | cons entry' more' => exact absurd same.symm (by simp [printed, Kind.outlineLine_ne_empty])
  | cons entry more ih =>
    cases entries' with
    | nil => exact absurd same (by simp [printed, Kind.outlineLine_ne_empty])
    | cons entry' more' =>
      -- The first line tells its entry and where the other lines start.
      rw [List.forall_mem_cons] at shows shows'
      simp only [printed, List.map_cons, String.join_cons] at same
      obtain ⟨⟨depths, kinds⟩, others⟩ :=
        Kind.outlineLine_append_inj shows.1.2 shows'.1.2 same
      rw [shows.1.1, shows'.1.1] at kinds
      rw [Prod.ext depths kinds, ih shows.2 shows'.2 others]

namespace Document

variable {doc other : Document} {id id' : NodeId}

/-- The entries of a tree whose labels break no line have nothing that is not shown. -/
theorem WellFormed.shows_entries (wf : doc.WellFormed)
    (unbroken : ∀ node ∈ doc.descendants id, (doc.kind node).Unbroken) (depth : Nat) :
    ∀ entry ∈ (doc.labelled Kind.shown id).entries depth,
      entry.2.shown = entry.2 ∧ entry.2.Unbroken := by
  intro entry member
  -- Every entry tells of a node within the tree.
  have label := List.mem_map_of_mem (f := Prod.snd) member
  rw [wf.map_entries] at label
  obtain ⟨node, within, kind⟩ := List.mem_map.mp label
  rw [← kind]
  exact ⟨Kind.shown_shown _, Kind.unbroken_shown (unbroken node within)⟩

/-- Outlines are faithful: where no label breaks a line, two subtrees have the same outline if and
only if they have the same shape, with the same tags and the same shown fields throughout. -/
theorem outline_eq_iff_labelled_eq (reachable : doc.Reachable) (reachable' : other.Reachable)
    (unbroken : ∀ node ∈ doc.descendants id, (doc.kind node).Unbroken)
    (unbroken' : ∀ node ∈ other.descendants id', (other.kind node).Unbroken) :
    doc.outline id = other.outline id' ↔
      doc.labelled Kind.shown id = other.labelled Kind.shown id' := by
  have wf := reachable.wellFormed
  have wf' := reachable'.wellFormed
  rw [wf.outline_eq, wf'.outline_eq, wf.outlineAt_eq_printed Kind.outlineLine_shown,
    wf'.outlineAt_eq_printed Kind.outlineLine_shown]
  constructor
  · -- The lines tell the entries, and the entries tell the tree.
    intro same
    exact Labelled.entries_inj (printed_inj (wf.shows_entries unbroken 0)
      (wf'.shows_entries unbroken' 0) same)
  · intro same
    rw [same]

/-- A loose reference with another target has the outline of one in a document; it tells that the
quoted text below them is the same. -/
theorem loose_reference_told :
    let text := Kind.text "\"]\n\x1b\\u\x7b1b\x7d"
    let doc := List.foldl after (ofSource "") [.create .paragraph {},
      .create (.linkRef ⟨"u", "one"⟩ "a b") {}, .create text {}, .create .softBreak {},
      .move (.append root 1), .move (.append 1 2), .move (.append 2 3), .move (.append 2 4)]
    let other := List.foldl after (ofSource "") [.create text ⟨3, 4⟩, .create .softBreak ⟨4, 5⟩,
      .create (.linkRef ⟨"v", "two"⟩ "a b") ⟨2, 9⟩, .move (.append 3 2), .move (.prepend 3 1)]
    doc.outline 2 = other.outline 3 ∧
      doc.labelled Kind.shown 2 = other.labelled Kind.shown 3 := by
  intro text doc other
  have reachable : doc.Reachable := ⟨_, _, rfl⟩
  have reachable' : other.Reachable := ⟨_, _, rfl⟩
  have same : doc.outline 2 = other.outline 3 := by decide +kernel
  exact ⟨same, (outline_eq_iff_labelled_eq reachable reachable' (by decide +kernel)
    (by decide +kernel)).mp same⟩

/-- A label that breaks its line can look like a child. -/
example : (Kind.linkRef ⟨"u", ""⟩ "a]\n  link_ref [b").outlineLine 0 =
    (Kind.linkRef ⟨"u", ""⟩ "a").outlineLine 0 ++ (Kind.linkRef ⟨"u", ""⟩ "b").outlineLine 1 := by
  decide

end Document

end MarkdownTree
