import MarkdownTree.Markdown.Content
import MarkdownTree.Markdown.Structure

/-! Telling a source: the events of its blocks and of their content, in source order. -/

namespace MarkdownTree.Markdown

/-- What the content of every block is read with. -/
structure Telling where
  setting : Setting
  definitions : Definitions
  footnotes : List String

/-- The container that a block is told as. -/
def ContainerKind.container : ContainerKind → Container
  | quote => .blockQuote
  | list mark start _ => .list (if mark = '.' || mark = ')' then some start else none)
  | item _ => .item
  | footnote | definitionList _ | definition _ => .unmodelled

namespace Telling

/-- The events of what a block consists of, within those of the block. -/
def within (container : Container) (span : Span) (events : List SpannedEvent) :
    List SpannedEvent :=
  ⟨.start container, span⟩ :: (events ++ [⟨.stop, span⟩])

/-- The events of the content between here and `stop`, and the allowance that is left. -/
def content (telling : Telling) (containers : List ContainerKind) (inTable : Bool)
    (allowance stop : Nat) (tokens : List Token) : List SpannedEvent × Nat :=
  let passage : Passage :=
    { window := telling.setting.window.upTo stop
      options := telling.setting.options
      containers
      inTable
      definitions := telling.definitions
      footnotes := telling.footnotes }
  let (inlines, allowance) := passage.content allowance tokens
  (inlines.flatMap Inline.events, allowance)

/-- The events of the cells of a table. -/
def cells (telling : Telling) (containers : List ContainerKind) :
    (allowance : Nat) → List Cell → List SpannedEvent × Nat
  | allowance, [] => ([], allowance)
  | allowance, cell :: rest =>
    let (events, allowance) := telling.content containers true allowance cell.stop cell.tokens
    let (more, allowance) := cells telling containers allowance rest
    (events ++ more, allowance)

mutual

/-- The events of a block in these containers, outermost first, and the allowance that is left. -/
def block (telling : Telling) (containers : List ContainerKind) (allowance : Nat) :
    Block → List SpannedEvent × Nat
  | .container kind span children =>
    let (events, allowance) := blocks telling (containers ++ [kind]) allowance children
    (within kind.container span events, allowance)
  | .paragraph role span tokens =>
    let (events, allowance) := telling.content containers false allowance span.stop tokens
    match role with
    | .plain | .maybeTitle => (within .paragraph span events, allowance)
    | .tight => (events, allowance)
    | .title => (within .unmodelled span events, allowance)
  | .heading level span tokens =>
    let (events, allowance) := telling.content containers false allowance span.stop tokens
    (within (.heading level) span events, allowance)
  | .verbatim container span pieces => (within container span pieces, allowance)
  | .rule span => ([⟨.rule, span⟩], allowance)
  | .table span cells =>
    let (events, allowance) := telling.cells containers allowance cells
    (within .unmodelled span events, allowance)

/-- The events of blocks one after another. -/
def blocks (telling : Telling) (containers : List ContainerKind) (allowance : Nat) :
    List Block → List SpannedEvent × Nat
  | [] => ([], allowance)
  | first :: rest =>
    let (events, allowance) := block telling containers allowance first
    let (more, allowance) := blocks telling containers allowance rest
    (events ++ more, allowance)

end

end Telling

/-- The events that a source text tells. -/
def events (options : Options) (source : String) : List SpannedEvent :=
  let setting : Setting := { window := .ofText source, options }
  let read := Blocks.ofSetting setting
  let telling : Telling :=
    { setting, definitions := read.definitions, footnotes := read.footnotes }
  -- Targets taken from definitions may not make the document much longer than its source.
  (telling.blocks [] (max source.utf8ByteSize 100000) read.blocks).1

end MarkdownTree.Markdown
