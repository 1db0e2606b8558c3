import MarkdownTree.Tree.Change
import MarkdownTree.Tree.Move

/-! Patches: edits of a tree listed first and made later, with the changes to report once they are
made. -/

namespace MarkdownTree

/-- A node as a patch names it. -/
inductive PatchNode where
  | existing (id : NodeId)
  /-- One of the nodes that the patch creates, counted from zero. -/
  | created (index : Nat)
  deriving DecidableEq, Repr

/-- One move of a patch. -/
abbrev Edit := Move PatchNode

/-- A change to report, of a node that may not exist yet. -/
structure Notice where
  kind : ChangeKind
  node : PatchNode
  deriving DecidableEq, Repr

/-- Nodes to create, moves to make in order, and changes to report after them. -/
structure Patch where
  created : List (Kind × Span) := []
  edits : List Edit := []
  notices : List Notice := []
  deriving DecidableEq, Repr

/-- The id of a node of a patch, when `ids` were given to the nodes it creates. -/
def PatchNode.resolve (ids : List NodeId) : PatchNode → Except Refusal NodeId
  | .existing id => .ok id
  | .created index =>
    match ids[index]? with
    | some id => .ok id
    | none => .error (.notCreated ids.length index)

/-- Makes one move. -/
def Edit.apply (ids : List NodeId) (doc : Document) (edit : Edit) : Except Refusal Document := do
  doc.move (← edit.rename fun node => node.resolve ids)

/-- What applying a patch leaves behind; a refusal keeps what was done before it. -/
structure Applied where
  doc : Document
  journal : Journal
  /-- The ids of the nodes created, in order. -/
  created : List NodeId
  refusal : Option Refusal := none
  deriving DecidableEq, Repr

namespace Patch

/-- Creates nodes in order, and gives their ids. -/
def createAll (doc : Document) : List (Kind × Span) → Document × List NodeId
  | [] => (doc, [])
  | (kind, span) :: rest =>
    let (doc, id) := doc.create kind span
    let (doc, ids) := createAll doc rest
    (doc, id :: ids)

/-- Makes moves in order, up to the first that is refused. -/
def editAll (ids : List NodeId) (doc : Document) : List Edit → Document × Option Refusal
  | [] => (doc, none)
  | edit :: rest =>
    match edit.apply ids doc with
    | .ok doc => editAll ids doc rest
    | .error refusal => (doc, some refusal)

/-- Reports changes in order, up to the first of an unknown node. -/
def noteAll (ids : List NodeId) (journal : Journal) : List Notice → Journal × Option Refusal
  | [] => (journal, none)
  | notice :: rest =>
    match notice.node.resolve ids with
    | .ok node => noteAll ids (journal ++ [⟨notice.kind, node⟩]) rest
    | .error refusal => (journal, some refusal)

/-- Creates the nodes, makes the moves, then reports the changes at the end of the journal. -/
def apply (patch : Patch) (doc : Document) (journal : Journal) : Applied :=
  let (doc, ids) := createAll doc patch.created
  match editAll ids doc patch.edits with
  | (doc, some refusal) => { doc, journal, created := ids, refusal := some refusal }
  | (doc, none) =>
    let (journal, refusal) := noteAll ids journal patch.notices
    { doc, journal, created := ids, refusal }

end Patch

end MarkdownTree
