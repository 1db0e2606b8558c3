import MarkdownTree.Build.Event
import MarkdownTree.Markdown.Window

/-! Autolinks: addresses in angle brackets. -/

namespace MarkdownTree.Markdown

namespace Window

/-- The offset after the `>` that ends an address with a scheme. -/
def uriEnd? (w : Window) (start : Nat) : Option Nat := do
  guard (isAlphaByte (w.get start))
  let colon := w.skipWhile (fun b => isAlnumByte b
    || b == '.'.toUInt8 || b == '-'.toUInt8 || b == '+'.toUInt8) (start + 1)
  guard (w.has colon ':' && 2 ≤ colon - start && colon - start ≤ 32)
  let stop := w.skipWhile (fun b => 0x20 < b && b != '<'.toUInt8 && b != '>'.toUInt8) colon
  guard (w.has stop '>')
  return stop + 1

/-- Whether a byte may stand before the at sign of a mail address. -/
def isMailByte (b : UInt8) : Bool :=
  isAlnumByte b || ".!#$%&'*+/=?^_\x60\x7b|\x7d~-".toList.any fun c => c.toUInt8 == b

/-- The end of the labels, parted by periods, that a domain consists of. -/
def domainEnd? (w : Window) : (limit i : Nat) → Option Nat
  | 0, _ => none
  | limit + 1, i => do
    let stop := w.skipWhile (fun b => isAlnumByte b || b == '-'.toUInt8) i
    guard (i < stop && stop - i ≤ 63 && !w.has i '-' && !w.has (stop - 1) '-')
    if w.has stop '.' then w.domainEnd? limit (stop + 1) else return stop

/-- The offset after the `>` that ends a mail address. -/
def emailEnd? (w : Window) (start : Nat) : Option Nat := do
  let sign := w.skipWhile isMailByte start
  guard (start < sign && w.has sign '@')
  let stop ← w.domainEnd? w.stop (sign + 1)
  guard (w.has stop '>')
  return stop + 1

/-- The address that starts at an offset, after its `<`: the offset after it and its form. -/
def autolink? (w : Window) (start : Nat) : Option (Nat × LinkForm) :=
  match w.uriEnd? start with
  | some stop => some (stop, .autolink)
  | none => (w.emailEnd? start).map fun stop => (stop, .email)

end Window

end MarkdownTree.Markdown
