import MarkdownTree.Processing.Patch

/-! Processors: who answers a node with a patch, and the walk that offers every node to them. -/

namespace MarkdownTree

/-- Looks at a node of one of its tags in a document, and answers with a patch or leaves it alone.
-/
structure Processor where
  name : String
  /-- The tags it is offered; one listed twice is offered twice. -/
  tags : List Tag
  process : Document → NodeId → Option Patch

/-- A document on the way through a set of processors. -/
structure Progress where
  doc : Document
  journal : Journal
  /-- How often a processor was asked. -/
  visited : Nat := 0
  /-- How often one answered with a patch. -/
  patched : Nat := 0
  /-- The refusal that ended the walk, if one did. -/
  refusal : Option Refusal := none
  deriving DecidableEq, Repr

/-- Asks one processor about one node, and applies its patch. -/
def Progress.offer (progress : Progress) (processor : Processor) (node : NodeId) : Progress :=
  let progress := { progress with visited := progress.visited + 1 }
  match processor.process progress.doc node with
  | none => progress
  | some patch =>
    let applied := patch.apply progress.doc progress.journal
    { progress with
      doc := applied.doc
      journal := applied.journal
      refusal := applied.refusal
      -- A patch that is refused does not count.
      patched := if applied.refusal.isNone then progress.patched + 1 else progress.patched }

/-- Processors in the order in which they are asked. -/
abbrev ProcessorSet := List Processor

namespace ProcessorSet

/-- The processors asked about nodes of a tag, once for each time they list it. -/
def forTag (set : ProcessorSet) (tag : Tag) : List Processor :=
  List.flatMap (fun processor => (processor.tags.filter (· == tag)).map fun _ => processor) set

/-- Whether any processor is asked about nodes of a tag. -/
def handles (set : ProcessorSet) (tag : Tag) : Bool :=
  set.any fun processor => processor.tags.contains tag

/-- Asks processors about one node as long as it is in the tree with the tag it had. -/
def offerAll (tag : Tag) (node : NodeId) (progress : Progress) (processors : List Processor) :
    Progress :=
  processors.foldl (fun progress processor =>
    -- An earlier patch may have taken the node out of the tree.
    if progress.refusal.isNone && progress.doc.isAttached node
        && (progress.doc.kind node).tag == tag then
      progress.offer processor node
    else
      progress) progress

/-- Offers one node to the processors of its tag. -/
def visit (set : ProcessorSet) (progress : Progress) (node : NodeId) : Progress :=
  let tag := (progress.doc.kind node).tag
  offerAll tag node progress (set.forTag tag)

/-- Walks a document once, over the nodes that are in its tree at the start. -/
def run (set : ProcessorSet) (doc : Document) (journal : Journal) : Progress :=
  let candidates := (doc.descendants Document.root).filter fun id => set.handles (doc.kind id).tag
  candidates.foldl set.visit { doc, journal }

end ProcessorSet

end MarkdownTree
