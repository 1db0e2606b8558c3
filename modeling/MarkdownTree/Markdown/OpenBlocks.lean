import MarkdownTree.Markdown.Block

/-! The containers that are open at a line, and how lists begin and end. -/

namespace MarkdownTree.Markdown

/-- An open container and the blocks in it so far. -/
structure Frame where
  kind : ContainerKind
  start : Nat
  /-- Blocks that are complete, last first. -/
  children : List Block := []

/-- The state between two lines. -/
structure OpenBlocks where
  /-- Open containers, innermost first. -/
  frames : List Frame := []
  /-- Complete blocks of the document, last first. -/
  done : List Block := []
  /-- The end of the first line of an item that has nothing on it. -/
  emptyItem : Option Nat := none
  /-- Whether the line before was blank. -/
  blankBefore : Bool := false
  /-- A task's box that waits for the paragraph after it. -/
  box : Option Token := none
  definitions : Definitions := {}
  footnotes : List String := []

namespace OpenBlocks

/-- The open containers, outermost first. -/
def kinds (blocks : OpenBlocks) : List ContainerKind :=
  (blocks.frames.map Frame.kind).reverse

/-- The innermost open container. -/
def innermost? (blocks : OpenBlocks) : Option ContainerKind :=
  blocks.frames.head?.map Frame.kind

/-- Changes what the innermost open container is. -/
def setInnermost (blocks : OpenBlocks) (kind : ContainerKind) : OpenBlocks :=
  match blocks.frames with
  | frame :: outer => { blocks with frames := { frame with kind } :: outer }
  | [] => blocks

/-- The complete blocks of the innermost open container, last first. -/
def siblings (blocks : OpenBlocks) : List Block :=
  match blocks.frames with
  | frame :: _ => frame.children
  | [] => blocks.done

/-- Changes the complete blocks of the innermost open container. -/
def setSiblings (blocks : OpenBlocks) (children : List Block) : OpenBlocks :=
  match blocks.frames with
  | frame :: outer => { blocks with frames := { frame with children } :: outer }
  | [] => { blocks with done := children }

/-- Adds a complete block to the innermost open container. -/
def add (blocks : OpenBlocks) (block : Block) : OpenBlocks :=
  blocks.setSiblings (block :: blocks.siblings)

/-- Opens a container. -/
def enter (blocks : OpenBlocks) (kind : ContainerKind) (start : Nat) : OpenBlocks :=
  { blocks with frames := { kind, start } :: blocks.frames }

/-- Ends the innermost open container at an offset. -/
def leave (blocks : OpenBlocks) (stop : Nat) : OpenBlocks :=
  match blocks.frames with
  | [] => blocks
  | frame :: outer =>
    let blocks := { blocks with frames := outer }
    let span : Span := ⟨frame.start, stop⟩
    let children := frame.children.reverse
    match frame.kind with
    | .list mark start true =>
      { blocks with emptyItem := none }.add
        (.container (.list mark start true) span (children.map Block.tightItem))
    | .definitionList tight =>
      let own := children.takeWhile Block.inDefinitionList
      let rest := (children.dropWhile Block.inDefinitionList).map Block.untitled
      let own := if tight then own.map Block.tightItem else own
      -- What follows the last definition was never part of the list.
      rest.foldl add ({ blocks with emptyItem := none }.add
        (.container (.definitionList tight) span own))
    | kind => blocks.add (.container kind span children)

/-- Ends the innermost containers until `count` are left. -/
def leaveTo (blocks : OpenBlocks) (count stop : Nat) : OpenBlocks :=
  (List.range (blocks.frames.length - count)).foldl (fun blocks _ => blocks.leave stop) blocks

/-- Ends an item that starts with two blank lines. -/
def leaveEmptyItem (blocks : OpenBlocks) : OpenBlocks :=
  let left := match blocks.emptyItem with
    | some stop =>
      if blocks.blankBefore && blocks.innermost?.any ContainerKind.isItem then blocks.leave stop
      else blocks
    | none => blocks
  { left with emptyItem := none }

/-- Makes the list around the innermost container loose. -/
def loosenOuter (blocks : OpenBlocks) : OpenBlocks :=
  match blocks.frames with
  | inner :: outer :: rest =>
    { blocks with frames := inner :: { outer with kind := outer.kind.loosened } :: rest }
  | _ => blocks

/-- Ends a list that nothing continues; a blank line before makes the list around it loose. -/
def leaveList (blocks : OpenBlocks) (stop : Nat) : OpenBlocks :=
  let blocks := blocks.leaveEmptyItem
  let blocks := if blocks.innermost?.any ContainerKind.isList then blocks.leave stop else blocks
  if blocks.blankBefore then { blocks.loosenOuter with blankBefore := false } else blocks

/-- Goes on with the open list if it has this mark, else opens one. -/
def continueList (blocks : OpenBlocks) (start : Nat) (mark : Char) (number : Nat) : OpenBlocks :=
  let blocks := blocks.leaveEmptyItem
  match blocks.innermost? with
  | some (.list open' first _) =>
    if open' = mark then
      if blocks.blankBefore then
        { blocks.setInnermost (.list open' first false) with blankBefore := false }
      else blocks
    else fresh (blocks.leaveList start)
  | some _ => fresh (blocks.leaveList start)
  | none => fresh blocks
where
  fresh (blocks : OpenBlocks) : OpenBlocks :=
    { blocks.enter (.list mark number true) start with blankBefore := false }

/-- Notes a blank line; an item with nothing on its first line cannot go on after it. -/
def noteBlank (blocks : OpenBlocks) : OpenBlocks :=
  match blocks.innermost? with
  | some .quote => blocks
  | some (.item _) => blankItem (.item 0)
  | some (.definition _) => blankItem (.definition 0)
  | _ => { blocks with blankBefore := true }
where
  blankItem (kind : ContainerKind) : OpenBlocks :=
    let blocks := if blocks.emptyItem.isSome then blocks.setInnermost kind else blocks
    { blocks with blankBefore := true }

end OpenBlocks

end MarkdownTree.Markdown
