/-! What a node of a document tree is: its kind with the kind's own fields, and the bare tag. -/

namespace MarkdownTree

/-- The five alerts of a marked block quote. -/
inductive AlertKind where
  | note
  | tip
  | important
  | warning
  | caution
  deriving DecidableEq, Repr

namespace AlertKind

/-- Every alert, in the order in which markers are tried. -/
def all : List AlertKind :=
  [note, tip, important, warning, caution]

/-- The word written in a marker. -/
def name : AlertKind → String
  | note => "NOTE"
  | tip => "TIP"
  | important => "IMPORTANT"
  | warning => "WARNING"
  | caution => "CAUTION"

/-- The word shown as the title of a rendered alert. -/
def title : AlertKind → String
  | note => "note"
  | tip => "tip"
  | important => "important"
  | warning => "warning"
  | caution => "caution"

/-- The alert named by a marker word; capitals are required. -/
def ofName? (word : String) : Option AlertKind :=
  all.find? fun alert => alert.name == word

end AlertKind

/-- Where a link or an image leads. -/
structure Target where
  url : String
  title : String
  deriving DecidableEq, Repr

/-- The kind of a node, with the fields of that kind. -/
inductive Kind where
  | document
  | paragraph
  | heading (level : Nat)
  | blockQuote
  | alert (alert : AlertKind)
  /-- A list; an ordered one has the number of its first item. -/
  | list (start : Option Nat)
  | item
  | codeBlock (info literal : String)
  | htmlBlock (literal : String)
  | thematicBreak
  | text (literal : String)
  | code (literal : String)
  | inlineHtml (literal : String)
  | softBreak
  | hardBreak
  | emphasis
  | strong
  | strikethrough
  | link (target : Target)
  | image (target : Target)
  /-- A link whose target comes from a definition elsewhere in the source. -/
  | linkRef (target : Target) (label : String)
  /-- An image whose target comes from a definition elsewhere in the source. -/
  | imageRef (target : Target) (label : String)
  deriving DecidableEq, Repr

/-- A kind without its fields. -/
inductive Tag where
  | document
  | paragraph
  | heading
  | blockQuote
  | alert
  | list
  | item
  | codeBlock
  | htmlBlock
  | thematicBreak
  | text
  | code
  | inlineHtml
  | softBreak
  | hardBreak
  | emphasis
  | strong
  | strikethrough
  | link
  | image
  | linkRef
  | imageRef
  deriving DecidableEq, Repr

namespace Tag

/-- Every tag once. -/
def all : List Tag :=
  [document, paragraph, heading, blockQuote, alert, list, item, codeBlock, htmlBlock,
    thematicBreak, text, code, inlineHtml, softBreak, hardBreak, emphasis, strong,
    strikethrough, link, image, linkRef, imageRef]

/-- The name of a tag in outlines and change lists. -/
def name : Tag → String
  | document => "document"
  | paragraph => "paragraph"
  | heading => "heading"
  | blockQuote => "block_quote"
  | alert => "alert"
  | list => "list"
  | item => "item"
  | codeBlock => "code_block"
  | htmlBlock => "html_block"
  | thematicBreak => "thematic_break"
  | text => "text"
  | code => "code"
  | inlineHtml => "inline_html"
  | softBreak => "soft_break"
  | hardBreak => "hard_break"
  | emphasis => "emphasis"
  | strong => "strong"
  | strikethrough => "strikethrough"
  | link => "link"
  | image => "image"
  | linkRef => "link_ref"
  | imageRef => "image_ref"

/-- The tag of a name. -/
def ofName? (name : String) : Option Tag :=
  all.find? fun tag => tag.name == name

end Tag

namespace Kind

/-- The tag of a kind. -/
def tag : Kind → Tag
  | document => .document
  | paragraph => .paragraph
  | heading _ => .heading
  | blockQuote => .blockQuote
  | alert _ => .alert
  | list _ => .list
  | item => .item
  | codeBlock _ _ => .codeBlock
  | htmlBlock _ => .htmlBlock
  | thematicBreak => .thematicBreak
  | text _ => .text
  | code _ => .code
  | inlineHtml _ => .inlineHtml
  | softBreak => .softBreak
  | hardBreak => .hardBreak
  | emphasis => .emphasis
  | strong => .strong
  | strikethrough => .strikethrough
  | link _ => .link
  | image _ => .image
  | linkRef _ _ => .linkRef
  | imageRef _ _ => .imageRef

/-- The literal of a text node. -/
def text? : Kind → Option String
  | text literal => some literal
  | _ => none

/-- Whether a node of this kind is a line break, soft or hard. -/
def isLineBreak : Kind → Bool
  | softBreak | hardBreak => true
  | _ => false

/-- What a node adds to the plain text around it; a line break counts as a space. -/
def plainText : Kind → String
  | text literal | code literal => literal
  | softBreak | hardBreak => " "
  | _ => ""

end Kind

end MarkdownTree
