import MarkdownTree.Tree.Kind
import MarkdownTree.Tree.Span
import MarkdownTree.Text.Slice
import MarkdownTree.Text.Position

/-! A document: the source and a store of linked nodes, of which number 0 is the root. -/

namespace MarkdownTree

/-- Nodes are named by their place in the store, in order of creation. The limit that ids of 32 bits
set, at most `2 ^ 32` nodes in a store, is left out. -/
abbrev NodeId := Nat

/-- A stored node with the five links that place it in the tree. -/
@[ext]
structure Node where
  kind : Kind
  span : Span
  parent : Option NodeId := none
  firstChild : Option NodeId := none
  lastChild : Option NodeId := none
  prev : Option NodeId := none
  next : Option NodeId := none
  deriving DecidableEq, Repr

/-- A tree of nodes over its source; nodes taken out of the tree stay in the store. -/
@[ext]
structure Document where
  source : String
  nodes : Array Node
  deriving DecidableEq, Repr

namespace Document

/-- The first node of the store, which the document hangs from. -/
def root : NodeId := 0

/-- A document that holds its root alone, which covers the whole source. -/
def ofSource (source : String) : Document :=
  { source, nodes := #[{ kind := .document, span := ⟨0, source.utf8ByteSize⟩ }] }

/-- Number of nodes in the store, in the tree or not. -/
def size (doc : Document) : Nat :=
  doc.nodes.size

/-- The node of an id; an id that was never handed out names an unlinked node. -/
def node (doc : Document) (id : NodeId) : Node :=
  doc.nodes.getD id { kind := .document, span := {} }

/-- Changes the node of an id and no other. -/
def update (doc : Document) (id : NodeId) (change : Node → Node) : Document :=
  { doc with nodes := doc.nodes.modify id change }

/-- A new node, in no tree yet, and its id. There is always one: whether the ids of 32 bits are all
taken is not asked. -/
def create (doc : Document) (kind : Kind) (span : Span) : Document × NodeId :=
  ({ doc with nodes := doc.nodes.push { kind, span } }, doc.size)

def kind (doc : Document) (id : NodeId) : Kind :=
  (doc.node id).kind

/-- Gives a node another kind and leaves its place and span. -/
def setKind (doc : Document) (id : NodeId) (kind : Kind) : Document :=
  doc.update id fun node => { node with kind }

def span (doc : Document) (id : NodeId) : Span :=
  (doc.node id).span

/-- Moves the end of a node's span. -/
def setStop (doc : Document) (id : NodeId) (stop : Nat) : Document :=
  doc.update id fun node => { node with span := { node.span with stop } }

def parent (doc : Document) (id : NodeId) : Option NodeId :=
  (doc.node id).parent

def firstChild (doc : Document) (id : NodeId) : Option NodeId :=
  (doc.node id).firstChild

def lastChild (doc : Document) (id : NodeId) : Option NodeId :=
  (doc.node id).lastChild

def prev (doc : Document) (id : NodeId) : Option NodeId :=
  (doc.node id).prev

def next (doc : Document) (id : NodeId) : Option NodeId :=
  (doc.node id).next

/-- The source under a node's span, markup included; none when the span is no range of it. -/
def sourceSlice? (doc : Document) (id : NodeId) : Option String :=
  slice? doc.source (doc.span id).start (doc.span id).stop

/-- Where a node starts. -/
def startPosition (doc : Document) (id : NodeId) : Position :=
  Position.ofOffset doc.source (doc.span id).start

end Document

end MarkdownTree
