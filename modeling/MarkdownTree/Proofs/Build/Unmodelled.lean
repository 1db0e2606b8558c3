import MarkdownTree.Build.Builder

/-! Containers that the tree does not model: what is told inside them is built as if they were not
there. -/

namespace MarkdownTree

/-- How many containers are open after events that may close `count` open ones; none if an end would
close another one. -/
def openAfter? : (count : Nat) → List SpannedEvent → Option Nat
  | count, [] => some count
  | count, spanned :: rest =>
    match spanned.event with
    | .start _ => openAfter? (count + 1) rest
    | .stop =>
      match count with
      | 0 => none
      | count + 1 => openAfter? count rest
    | _ => openAfter? count rest

/-- Events that close all they open, and nothing that was open before. -/
def Balanced (events : List SpannedEvent) : Prop :=
  openAfter? 0 events = some 0

instance (events : List SpannedEvent) : Decidable (Balanced events) :=
  inferInstanceAs (Decidable (openAfter? 0 events = some 0))

namespace Builder

variable {doc : Document} {inner outer : List (Option NodeId)}

/-- A container without a node does not change what the innermost open node is. -/
theorem parent_wrapped : parent ⟨doc, inner ++ none :: outer⟩ = parent ⟨doc, inner ++ outer⟩ := by
  simp [parent, List.findSome?_append]

/-- What a builder does with an event that opens and closes nothing depends on its document and its
innermost open node alone. -/
theorem push_wrapped {event : Event} (opens : ∀ container, event ≠ .start container)
    (closes : event ≠ .stop) (span : Span) : ∃ doc', push ⟨doc, inner ++ outer⟩ ⟨event, span⟩ =
        ⟨doc', inner ++ outer⟩ ∧
      push ⟨doc, inner ++ none :: outer⟩ ⟨event, span⟩ = ⟨doc', inner ++ none :: outer⟩ := by
  have same := @parent_wrapped doc inner outer
  -- Both builders look at the same node, and then take the same way.
  have leaf : ∀ kind, ∃ doc', addLeaf ⟨doc, inner ++ outer⟩ kind span = ⟨doc', inner ++ outer⟩ ∧
      addLeaf ⟨doc, inner ++ none :: outer⟩ kind span = ⟨doc', inner ++ none :: outer⟩ := by
    intro kind
    simp only [addLeaf, add, same]
    exact ⟨_, rfl, rfl⟩
  cases event with
  | start container => exact absurd rfl (opens container)
  | stop => exact absurd rfl closes
  | text literal =>
    simp only [push, text, same]
    split
    · exact ⟨_, rfl, rfl⟩
    · split
      · split
        · split
          · exact ⟨_, rfl, rfl⟩
          · exact leaf _
        · exact leaf _
      · exact leaf _
  | html literal =>
    simp only [push, html, same]
    split
    · exact ⟨_, rfl, rfl⟩
    · exact leaf _
  | code literal => exact leaf _
  | softBreak => exact leaf _
  | hardBreak => exact leaf _
  | rule => exact leaf _
  | unmodelled => exact ⟨_, rfl, rfl⟩

/-- With and without a container around them that has no node, events that do not close it build the
same, and open the same inside it. -/
theorem push_all_wrapped {events : List SpannedEvent} {count : Nat}
    (opened : openAfter? inner.length events = some count) : ∃ doc' inner', inner'.length = count ∧
      events.foldl push ⟨doc, inner ++ outer⟩ = ⟨doc', inner' ++ outer⟩ ∧
      events.foldl push ⟨doc, inner ++ none :: outer⟩ = ⟨doc', inner' ++ none :: outer⟩ := by
  induction events generalizing doc inner with
  | nil => exact ⟨doc, inner, Option.some.inj opened, rfl, rfl⟩
  | cons spanned rest ih =>
    obtain ⟨event, span⟩ := spanned
    rw [List.foldl_cons, List.foldl_cons]
    have passed := fun opens closes => @push_wrapped doc inner outer event opens closes span
    cases event with
    | start container =>
      cases models : container.kind? with
      | none =>
        simp only [push, models]
        exact @ih _ (none :: inner) opened
      | some kind =>
        -- The node of the container goes to the same place, and has the same id.
        simp only [push, models, add, parent_wrapped]
        exact @ih _ (some doc.size :: inner) opened
    | stop =>
      -- What is closed was opened inside.
      cases inner with
      | nil => cases opened
      | cons entry inner => exact @ih _ inner opened
    | text | code | html | softBreak | hardBreak | rule | unmodelled =>
      -- An event that opens and closes nothing leaves both spines.
      obtain ⟨doc', plain, wrapped⟩ := passed (by simp) (by simp)
      rw [plain, wrapped]
      exact ih opened

end Builder

/--
A container that the tree does not model is transparent: told with or without its start and its end
around balanced events, whatever is told before and after, the document is the same.
-/
theorem unmodelled_container_transparent (source : String) {container : Container}
    (models : container.kind? = none) {inner : List SpannedEvent} (balanced : Balanced inner)
    (before after : List SpannedEvent) (span ended : Span) :
    Document.ofEvents source
        (before ++ ⟨.start container, span⟩ :: inner ++ ⟨.stop, ended⟩ :: after) =
      Document.ofEvents source (before ++ inner ++ after) := by
  unfold Document.ofEvents
  simp only [List.foldl_append, List.foldl_cons]
  generalize before.foldl Builder.push (.ofSource source) = builder
  obtain ⟨doc, outer⟩ := builder
  have opened : Builder.push ⟨doc, outer⟩ ⟨.start container, span⟩ = ⟨doc, none :: outer⟩ := by
    simp only [Builder.push, models]
  -- Inside the container nothing is open at first, and nothing is left open in the end.
  obtain ⟨doc', inner', empty, plain, wrapped⟩ :=
    @Builder.push_all_wrapped doc [] outer inner 0 balanced
  obtain rfl := List.length_eq_zero_iff.mp empty
  rw [opened]
  exact congrArg (fun builder => (List.foldl Builder.push builder after).doc)
    ((congrArg (Builder.push · _) wrapped).trans plain.symm)

/-- Texts run together over the start and the end of a container that the tree does not model, and
so do those inside it. -/
theorem text_across_unmodelled_joined :
    let before : List SpannedEvent := [⟨.start .paragraph, ⟨0, 6⟩⟩, ⟨.text "a", ⟨0, 1⟩⟩]
    let inner : List SpannedEvent := [⟨.text "b", ⟨1, 2⟩⟩, ⟨.start .unmodelled, ⟨2, 4⟩⟩,
      ⟨.start .emphasis, ⟨2, 4⟩⟩, ⟨.text "c", ⟨2, 3⟩⟩, ⟨.stop, ⟨2, 4⟩⟩, ⟨.stop, ⟨2, 4⟩⟩,
      ⟨.text "d", ⟨4, 5⟩⟩]
    let after : List SpannedEvent := [⟨.text "e", ⟨5, 6⟩⟩, ⟨.stop, ⟨0, 6⟩⟩]
    let doc := Document.ofEvents "abcdef"
      (before ++ ⟨.start .unmodelled, ⟨1, 5⟩⟩ :: inner ++ ⟨.stop, ⟨1, 5⟩⟩ :: after)
    Container.unmodelled.kind? = none ∧ Balanced inner ∧
      doc = Document.ofEvents "abcdef" (before ++ inner ++ after) ∧ doc.children 1 = [2, 3, 5] ∧
      doc.kind 2 = .text "ab" ∧ doc.kind 5 = .text "de" := by
  intro before inner after doc
  have balanced : Balanced inner := by decide
  exact ⟨rfl, balanced, unmodelled_container_transparent "abcdef" rfl balanced before after _ _,
    by decide +kernel, by decide +kernel, by decide +kernel⟩

end MarkdownTree
