import MarkdownTree.Markdown.Cursor

/-! Containers of blocks, and the marks with which a line continues them. -/

namespace MarkdownTree.Markdown

/-- A block that holds blocks. -/
inductive ContainerKind where
  | quote
  /-- A list with its mark, the number it starts at, and whether no blank line parts its items. -/
  | list (mark : Char) (start : Nat) (tight : Bool)
  /-- A list item, continued by lines indented this far. -/
  | item (indent : Nat)
  | footnote
  | definitionList (tight : Bool)
  /-- A definition, continued by lines indented this far. -/
  | definition (indent : Nat)
  deriving DecidableEq, Repr

namespace ContainerKind

/-- Whether a container is an item of either kind of list. -/
def isItem : ContainerKind → Bool
  | item _ | definition _ => true
  | _ => false

/-- Whether a container is a definition. -/
def isDefinition : ContainerKind → Bool
  | definition _ => true
  | _ => false

/-- Whether a container is a list of either kind. -/
def isList : ContainerKind → Bool
  | list _ _ _ | definitionList _ => true
  | _ => false

/-- A list that blank lines part. -/
def loosened : ContainerKind → ContainerKind
  | list mark start _ => list mark start false
  | definitionList _ => definitionList false
  | kind => kind

/-- An item indented this far; a blank line also continues it. -/
def continueIndented (w : Window) (cursor : Cursor) (indent : Nat) : Option Cursor :=
  let (inside, found) := cursor.skip w indent
  if found || inside.atLineEnd w then some inside else none

/-- The cursor after the part of a line that continues a container, if the line does. -/
def continue? (w : Window) (cursor : Cursor) : ContainerKind → Option Cursor
  | quote => (cursor.skip w 3).1.quoteMark? w
  | item indent | definition indent => continueIndented w cursor indent
  | footnote => continueIndented w cursor 4
  | list _ _ _ | definitionList _ => some cursor

/-- Follows containers, outermost first, as far as a line continues them; also counts those it does.
-/
def follow (w : Window) (cursor : Cursor) : List ContainerKind → Cursor × Nat
  | [] => (cursor, 0)
  | kind :: inner =>
    match kind.continue? w cursor with
    | none => (cursor, 0)
    | some cursor =>
      let (cursor, count) := follow w cursor inner
      (cursor, count + 1)

end ContainerKind

/-- The offset at which a line's own text starts, after the marks of the containers it continues. -/
def Window.afterMarks (w : Window) (containers : List ContainerKind) (line : Nat) : Nat :=
  (ContainerKind.follow w (.atLine line) containers).1.pos

end MarkdownTree.Markdown
