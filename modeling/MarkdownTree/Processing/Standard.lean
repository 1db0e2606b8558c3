import MarkdownTree.Processing.Alert
import MarkdownTree.Processing.ImageLink

/-! The built-in processors. -/

namespace MarkdownTree

/-- Every built-in processor, alerts first. -/
def ProcessorSet.standard : ProcessorSet :=
  [Alert.processor, ImageLink.processor]

end MarkdownTree
