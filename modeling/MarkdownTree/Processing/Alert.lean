import MarkdownTree.Processing.Processor

/-! Alerts: top-level block quotes that start with a marker such as `[!NOTE]` become alert nodes. -/

namespace MarkdownTree

namespace AlertKind

/-- The marker of an alert as it is written. -/
def marker (alert : AlertKind) : List Char :=
  '[' :: '!' :: (alert.name.toList ++ [']'])

/-- The alert whose marker starts a text. -/
def atStart? (chars : List Char) : Option AlertKind :=
  all.find? fun alert => alert.marker.isPrefixOf chars

/-- The alert of the leftmost marker in a text. -/
def firstIn? : List Char → Option AlertKind
  | [] => none
  | c :: chars =>
    match atStart? (c :: chars) with
    | some alert => some alert
    | none => firstIn? chars

end AlertKind

namespace Alert

/-- The largest column at which a marker may start; it leaves room for the quote's own mark. -/
def maxColumn : Nat := 5

/-- Whether anything but line breaks follows a node among its siblings. -/
def hasContentAfter (doc : Document) (id : NodeId) : Bool :=
  (doc.following id).any fun sibling => !(doc.kind sibling).isLineBreak

/-- Whether anything but line breaks follows the first child of a paragraph. -/
def hasInlineContent (doc : Document) (paragraph : NodeId) : Bool :=
  (doc.firstChild paragraph).any (hasContentAfter doc)

/-- The paragraph that a block quote starts with. -/
def paragraph? (doc : Document) (quote : NodeId) : Option NodeId :=
  (doc.firstChild quote).filter fun child => doc.kind child == .paragraph

/-- The alert that a quote with this first paragraph is marked as; a marker with nothing after it
does not count. -/
def marked? (doc : Document) (quote paragraph : NodeId) : Option AlertKind := do
  guard (doc.parent quote == some Document.root)
  guard (hasContentAfter doc paragraph || hasInlineContent doc paragraph)
  let marker ← doc.firstChild paragraph
  guard ((doc.startPosition marker).column ≤ maxColumn)
  -- The source is searched and not the literal, so a marker inside other markup counts too.
  AlertKind.firstIn? (← doc.sourceSlice? marker).toList

/-- The nodes up to and including the first line break. -/
def markerLine (doc : Document) : List NodeId → List NodeId
  | [] => []
  | id :: rest => if (doc.kind id).isLineBreak then [id] else id :: markerLine doc rest

/-- The patch for a marked quote: its content, less the marker line, goes to an alert there. -/
def patch (doc : Document) (quote paragraph : NodeId) (alert : AlertKind) : Patch :=
  let blocks := if hasContentAfter doc paragraph then
      (doc.following paragraph).map fun sibling => .append (.created 0) (.existing sibling)
    else []
  let inlines := if hasInlineContent doc paragraph then
      (markerLine doc (doc.children paragraph)).map (fun id => .detach (.existing id))
        ++ [.prepend (.created 0) (.existing paragraph)]
    else []
  { created := [(.alert alert, doc.span quote)]
    edits := blocks ++ inlines
      ++ [.insertBefore (.existing quote) (.created 0), .detach (.existing quote)]
    notices := [⟨.removedWithChildren, .existing quote⟩, ⟨.addedWithChildren, .created 0⟩] }

/-- The patch for a node, if it is a marked quote. -/
def process (doc : Document) (quote : NodeId) : Option Patch := do
  guard (doc.kind quote == .blockQuote)
  let paragraph ← paragraph? doc quote
  let alert ← marked? doc quote paragraph
  return patch doc quote paragraph alert

/-- The processor that turns marked quotes into alerts. -/
def processor : Processor :=
  { name := "alerts", tags := [.blockQuote], process }

end Alert

end MarkdownTree
