import MarkdownTree.Processing.Processor

/-! Image links: an image in brackets before a link, left as four siblings, goes into the link. -/

namespace MarkdownTree.ImageLink

/-- Whether a node is a text of exactly this literal. -/
def isText (doc : Document) (literal : String) (id : NodeId) : Bool :=
  (doc.kind id).text? == some literal

/-- The brackets around an image and the link after them, if they stand there. -/
def around? (doc : Document) (image : NodeId) : Option (NodeId × NodeId × NodeId) := do
  let left ← (doc.prev image).filter (isText doc "[")
  let right ← (doc.next image).filter (isText doc "]")
  let link ← (doc.next right).filter fun id => (doc.kind id).tag == .linkRef
  return (left, right, link)

/-- The patch for a bracketed image: it becomes the link's only child, and the brackets go. -/
def patch (image left right link : NodeId) : Patch :=
  { edits := [.removeChildren (.existing link), .append (.existing link) (.existing image),
      .detach (.existing right), .detach (.existing left)]
    notices := [⟨.added, .existing image⟩, ⟨.removed, .existing right⟩,
      ⟨.removed, .existing left⟩] }

/-- The patch for a node, if it is an image in brackets before a link. -/
def process (doc : Document) (image : NodeId) : Option Patch := do
  guard ((doc.kind image).tag == .imageRef)
  let (left, right, link) ← around? doc image
  return patch image left right link

/-- The processor that puts bracketed images into the links after them. -/
def processor : Processor :=
  { name := "image-ref-links", tags := [.imageRef], process }

end MarkdownTree.ImageLink
