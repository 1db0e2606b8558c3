import MarkdownTree.Main
import MarkdownTree.Proofs.Tree.Follow
import MarkdownTree.Proofs.Tree.Row
import MarkdownTree.Proofs.Tree.WellFormed
import MarkdownTree.Proofs.Tree.Links
import MarkdownTree.Proofs.Tree.Move
import MarkdownTree.Proofs.Tree.Create
import MarkdownTree.Proofs.Processing.Patch
import MarkdownTree.Proofs.Processing.Reachable
import MarkdownTree.Proofs.Tree.Order
import MarkdownTree.Proofs.Processing.MarkedQuote
import MarkdownTree.Proofs.Processing.AlertPatch
import MarkdownTree.Proofs.Processing.AlertRun
import MarkdownTree.Proofs.Processing.Turn
import MarkdownTree.Proofs.Processing.BracketedImage
import MarkdownTree.Proofs.Processing.Commute
import MarkdownTree.Proofs.Processing.AlertOrder
import MarkdownTree.Proofs.Processing.OneWalk
import MarkdownTree.Proofs.Tree.Shape
import MarkdownTree.Proofs.Tree.Traversal
import MarkdownTree.Proofs.Tree.Refused
import MarkdownTree.Proofs.Tree.InPlace
import MarkdownTree.Proofs.Processing.Repair
import MarkdownTree.Proofs.Processing.Mended
import MarkdownTree.Proofs.Processing.MendedTree
import MarkdownTree.Proofs.Processing.ImageRun
import MarkdownTree.Proofs.Processing.MarkerLine
import MarkdownTree.Proofs.Processing.Asked
import MarkdownTree.Proofs.Processing.Report
import MarkdownTree.Proofs.Processing.Idle
import MarkdownTree.Proofs.Processing.AlertLinks
import MarkdownTree.Proofs.Processing.QueuedImage
import MarkdownTree.Proofs.Processing.LateMarker
import MarkdownTree.Proofs.Processing.Unmarked
import MarkdownTree.Proofs.Processing.SecondWalk
import MarkdownTree.Proofs.Processing.Record
import MarkdownTree.Proofs.Processing.Builtin
import MarkdownTree.Proofs.Processing.Settling
import MarkdownTree.Proofs.Processing.AlertsOnTop
import MarkdownTree.Proofs.Tree.Added
import MarkdownTree.Proofs.Text.Offset
import MarkdownTree.Proofs.Processing.Marker
import MarkdownTree.Proofs.Processing.Eligible
import MarkdownTree.Proofs.Build.Order
import MarkdownTree.Proofs.Build.BlockLiteral
import MarkdownTree.Proofs.Tree.Sketch
import MarkdownTree.Proofs.Build.Told
import MarkdownTree.Proofs.Html.Escape
import MarkdownTree.Proofs.Html.Compose
import MarkdownTree.Proofs.Html.Markup
import MarkdownTree.Proofs.Html.Reader
import MarkdownTree.Proofs.Html.ReadBack
import MarkdownTree.Proofs.Build.Unmodelled
import MarkdownTree.Proofs.Build.TextPieces
import MarkdownTree.Proofs.Tree.Content
import MarkdownTree.Proofs.Build.Unjoined
import MarkdownTree.Proofs.Tree.Labels
import MarkdownTree.Proofs.Tree.Outline
import MarkdownTree.Proofs.Processing.Unchanged
import MarkdownTree.Proofs.Text.LineTable
import MarkdownTree.Proofs.Text.Position
import MarkdownTree.Proofs.Text.Quoted
import MarkdownTree.Proofs.Tree.Faithful
import MarkdownTree.Proofs.Html.Subtree
import MarkdownTree.Proofs.Build.TextSource
import MarkdownTree.Proofs.Config.Lookup
