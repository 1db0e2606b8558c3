import Std.Data.HashMap
import MarkdownTree.Build.Event
import MarkdownTree.Markdown.Token
import MarkdownTree.Text.CaseFold

/-! Blocks: the structure of a source by lines, before emphasis and links are found. -/

namespace MarkdownTree.Markdown

/-- What a paragraph is to the blocks around it. -/
inductive ParagraphRole where
  | plain
  /-- The paragraph of a tight list's item, of which only the content is told. -/
  | tight
  /-- A title of a definition list, if a definition follows. -/
  | maybeTitle
  | title
  deriving DecidableEq, Repr

/-- A cell of a table. -/
structure Cell where
  stop : Nat
  tokens : List Token
  deriving Repr

/-- A block and the part of the source that it covers. -/
inductive Block where
  | container (kind : ContainerKind) (span : Span) (children : List Block)
  | paragraph (role : ParagraphRole) (span : Span) (tokens : List Token)
  | heading (level : Nat) (span : Span) (tokens : List Token)
  /-- A block whose lines have no marks, told piece by piece. -/
  | verbatim (container : Container) (span : Span) (pieces : List SpannedEvent)
  | rule (span : Span)
  | table (span : Span) (cells : List Cell)
  deriving Repr

/-- Where labels lead, by the folded label. -/
abbrev Definitions := Std.HashMap String Target

/-- What a source consists of. -/
structure Blocks where
  blocks : List Block
  definitions : Definitions
  /-- The folded labels of the footnotes. -/
  footnotes : List String

namespace Block

/-- A paragraph that stands directly in an item of a tight list. -/
def tightened : Block → Block
  | paragraph .plain span tokens => paragraph .tight span tokens
  | block => block

/-- An item of a tight list. -/
def tightItem : Block → Block
  | container kind span children => container kind span (children.map tightened)
  | block => block

/-- Whether a block belongs to a definition list. -/
def inDefinitionList : Block → Bool
  | paragraph .title _ _ | container (.definition _) _ _ => true
  | _ => false

/-- A title that no definition follows is a paragraph. -/
def untitled : Block → Block
  | paragraph .maybeTitle span tokens => paragraph .plain span tokens
  | block => block

end Block

end MarkdownTree.Markdown
