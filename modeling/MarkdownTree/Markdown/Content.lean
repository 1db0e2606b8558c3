import MarkdownTree.Markdown.Autolink
import MarkdownTree.Markdown.Bracket
import MarkdownTree.Markdown.HtmlTag
import MarkdownTree.Markdown.Passage

/-! Content: the tokens of a block read from left to right, where code, raw HTML and links win over
emphasis. -/

namespace MarkdownTree.Markdown

namespace Token

/-- The tokens left after an offset; one that reaches beyond it loses its start. -/
def after (stop : Nat) (tokens : List Token) : List Token :=
  match tokens.dropWhile fun token => token.stop ≤ stop with
  | next :: rest => { next with start := max next.start stop } :: rest
  | [] => []

/-- Whether a token is a closing bracket. -/
def isLinkClose (token : Token) : Bool :=
  match token.mark with
  | .linkClose _ => true
  | _ => false

/-- Whether a token is a dollar sign. -/
def isDollar (token : Token) : Bool :=
  match token.mark with
  | .dollar _ _ _ => true
  | _ => false

/-- Whether the first of these tokens is in a class. -/
def startsWith (p : Token → Bool) (tokens : List Token) : Bool :=
  tokens.head?.any p

/-- Splits tokens at the closing bracket of a label that ends at `stop`; the bracket cannot be a
reference again. -/
def splitLabel? (stop : Nat) (tokens : List Token) : Option (List Token × List Token) :=
  let inside (token : Token) : Bool := token.stop < stop
  match tokens.dropWhile inside with
  | closing :: rest =>
    some (tokens.takeWhile inside ++ { closing with mark := .linkClose false } :: rest, rest)
  | [] => none

end Token

namespace Passage

/-- The result of reading a token: the content so far and the tokens that are left. -/
abbrev Reading := Brackets × List Token

/-- Takes a token as text. -/
def readText (passage : Passage) (brackets : Brackets) (token : Token) (rest : List Token) :
    Reading :=
  (brackets.add (passage.window.inlineText token.start token.stop), rest)

/-- Reads an opening angle bracket: an autolink, raw HTML, or text. -/
def readAngle (passage : Passage) (brackets : Brackets) (token : Token) (rest : List Token) :
    Reading :=
  let w := passage.window
  match rest with
  | [] => passage.readText brackets token rest
  | next :: _ =>
    match w.autolink? next.start with
    | some (stop, form) =>
      let link := Inline.inside (.link form ⟨w.text next.start (stop - 1), ""⟩ "")
        ⟨token.start, stop⟩ [w.inlineText (token.start + 1) (stop - 1)]
      (brackets.add link, Token.after stop rest)
    | none =>
      match w.inlineHtml? (w.afterMarks passage.containers) (next.start - 1) with
      | some tag =>
        let literal := w.textWithout token.start tag.pos tag.cuts
        (brackets.add (.html ⟨token.start, tag.pos⟩ literal), Token.after tag.pos rest)
      | none => passage.readText brackets token rest

/-- Whether a token is a run of this many backticks. -/
def isTicks (count : Nat) (token : Token) : Bool :=
  match token.mark with
  | .ticks found _ => found = count
  | _ => false

/-- Reads a run of backticks: code up to a run of the same length, or text. -/
def readTicks (passage : Passage) (brackets : Brackets) (token : Token) (count : Nat)
    (escaped : Bool) (rest : List Token) : Reading :=
  let length := if escaped then count - 1 else count
  match rest.dropWhile fun next => !isTicks length next with
  | closing :: after =>
    if length = 0 then passage.readText brackets token rest
    else
      let start := if escaped then token.start + 1 else token.start
      -- Of an escaped run only the first backtick is text.
      let brackets := if escaped then brackets.add (passage.window.inlineText token.start start)
        else brackets
      let code := passage.codeText token.stop closing.start
      (brackets.add (.code ⟨start, closing.stop⟩ code), after)
  | [] => passage.readText brackets token rest

/-- The tokens from the end of a formula on: the dollar signs within the same braces as the first
one. -/
def closingDollar? (braces : Nat) : List Token → Option (Token × Bool × List Token)
  | [] => none
  | token :: rest =>
    match token.mark with
    | .dollar _ canClose own =>
      if own = braces then some (token, canClose, rest) else closingDollar? braces rest
    | _ => closingDollar? braces rest

/-- Reads a dollar sign: a formula within a line or on display, or text. -/
def readDollar (passage : Passage) (brackets : Brackets) (token : Token) (braces : Nat)
    (rest : List Token) : Reading :=
  let display := Token.startsWith Token.isDollar rest
  match closingDollar? braces (if display then rest.tail else rest) with
  | none => passage.readText brackets token rest
  | some (closing, canClose, after) =>
    let doubled := Token.startsWith Token.isDollar after
    if display && doubled then
      let stop := (after.head?.map Token.stop).getD closing.stop
      (brackets.add (.unmodelled ⟨token.start, stop⟩), after.tail)
    else if !display && canClose && token.stop < closing.start then
      (brackets.add (.unmodelled ⟨token.start, closing.stop⟩), after)
    else
      passage.readText brackets token rest

/-- Reads an opening bracket. -/
def readOpening (passage : Passage) (brackets : Brackets) (token : Token) (form : BracketForm)
    (rest : List Token) : Reading :=
  let doubled := passage.options.wikilinks && Token.startsWith (·.mark = .linkOpen) rest
  let brackets := if doubled then
      { brackets with doubles := ⟨token.start, form⟩ :: brackets.doubles }
    else brackets
  (brackets.enter token.start token.stop form, rest)

/-- The container of a link or an image. -/
def linkContainer (form : BracketForm) : LinkForm → Target → String → Container :=
  if form = .image then .image else .link

/-- The page that a link in double brackets leads to, and its text. -/
def wikilink? (passage : Passage) (body : List Inline) (closing : Token) :
    Option (String × List Inline) := do
  let w := passage.window
  let start ← body.head?.map fun inline => inline.span.start
  let bar := (w.upTo closing.start).skipWhile (· != '|'.toUInt8) start
  guard (start < bar)
  let page := w.text start bar
  if bar < closing.start then
    match body.dropWhile fun inline => inline.span.stop ≤ bar + 1 with
    | first :: rest =>
      return (page, emphasize w passage.options (first.startingAt w (bar + 1) :: rest))
    -- Without a text after the bar, the closing brackets are the text.
    | [] => return (page, [w.inlineText closing.start (closing.stop + 1)])
  else
    return (page, [w.inlineText start closing.start])

/-- Reads the first of two closing brackets, if they end a link in double brackets. -/
def readDouble? (passage : Passage) (brackets : Brackets) (token : Token) (rest : List Token) :
    Option Reading := do
  let double ← brackets.doubles.head?
  guard (double.form != .disabled)
  let brackets := { brackets with doubles := brackets.doubles.tail }
  let (outer, taken) := brackets.takeFrom passage.window double.start
  let (page, text) ← passage.wikilink? (taken.reverse.drop 2) token
  let link := Inline.inside (linkContainer double.form .wikilink ⟨page, ""⟩ "")
    ⟨double.start, token.start + 2⟩ text
  return (outer.disableLinks.add link, rest.tail)

/-- Adds a link or an image whose text is the content of a bracket. -/
def addLink (passage : Passage) (brackets : Brackets) (bracket : Bracket) (form : LinkForm)
    (target : Target) (label : String) (stop : Nat) : Brackets :=
  let brackets := if bracket.form = .link then brackets.disableLinks else brackets
  let text := emphasize passage.window passage.options bracket.inside.reverse
  brackets.add (.inside (linkContainer bracket.form form target label) ⟨bracket.start, stop⟩ text)

/-- Adds the link that a label leads to, if it has a definition and the allowance is not used up. -/
def addReference? (passage : Passage) (brackets : Brackets) (bracket : Bracket) (form : LinkForm)
    (label : String) (stop : Nat) : Option Brackets := do
  guard (brackets.allowance ≠ 0)
  let target ← passage.definitions[foldCase label]?
  let brackets := { brackets with
    allowance := brackets.allowance - (target.url.utf8ByteSize + target.title.utf8ByteSize) }
  return passage.addLink brackets bracket form target label stop

/-- Adds a reference to a footnote, before which no bracket can start a link any more. -/
def addFootnote (passage : Passage) (brackets : Brackets) (bracket : Bracket) (stop : Nat) :
    Brackets :=
  let w := passage.window
  if bracket.form = .image then
    let sign := w.inlineText bracket.start (bracket.start + 1)
    ((brackets.add sign).add (.unmodelled ⟨bracket.start + 1, stop⟩)).close w
  else
    (brackets.add (.unmodelled ⟨bracket.start, stop⟩)).close w

/-- Adds the reference whose label is the text of the bracket itself. -/
def addOwnReference? (passage : Passage) (brackets : Brackets) (bracket : Bracket) (token : Token)
    (form : LinkForm) (rest after : List Token) : Option Reading := do
  let (stop, use) ← passage.labelUse? token.stop (bracket.stop - 1)
  guard (stop = token.stop)
  match use with
  | .footnote label =>
    guard (passage.footnotes.contains (foldCase label))
    return (passage.addFootnote brackets bracket stop, rest)
  | .link label => return (← passage.addReference? brackets bracket form label stop, after)

/-- Reads a closing bracket: the end of a link or an image, or text. -/
def readClosing (passage : Passage) (brackets : Brackets) (token : Token) (mayRefer : Bool)
    (rest : List Token) : Reading :=
  match brackets.opened with
  | [] => passage.readText brackets token rest
  | bracket :: outer =>
    let outer := { brackets with opened := outer }
    let failed := outer.addAll (Brackets.asText passage.window bracket)
    let asText (rest : List Token) : Reading := passage.readText failed token rest
    if bracket.form = .disabled || bracket.form = .spent then asText rest
    else match passage.inlineTarget? rest token.stop with
    | some (stop, target) =>
      (passage.addLink outer bracket .inline target "" stop, Token.after stop rest)
    | none =>
      match passage.reference rest with
      | .full stop label =>
        match Token.splitLabel? stop rest with
        | none => asText rest
        | some (marked, after) =>
          match passage.addReference? outer bracket .reference label stop with
          | some brackets => (brackets, after)
          | none => asText marked
      | .collapsed =>
        let found := if mayRefer then
            passage.addOwnReference? outer bracket token .collapsed rest (rest.drop 2)
          else none
        found.getD (asText rest)
      | .shortcut =>
        let found := if mayRefer then
            passage.addOwnReference? outer bracket token .shortcut rest rest
          else none
        found.getD (asText rest)

/-- Reads a closing bracket that may be the first of two. -/
def readClose (passage : Passage) (brackets : Brackets) (token : Token) (mayRefer : Bool)
    (rest : List Token) : Reading :=
  if passage.options.wikilinks && Token.startsWith Token.isLinkClose rest then
    let popped := match brackets.opened with
      | [] => brackets
      | bracket :: outer =>
        { brackets with opened := outer }.addAll (Brackets.asText passage.window bracket)
    match passage.readDouble? popped token rest with
    | some reading => reading
    | none =>
      passage.readClosing { brackets with doubles := brackets.doubles.tail } token mayRefer rest
  else
    passage.readClosing brackets token mayRefer rest

/-- Reads a token. -/
def readToken (passage : Passage) (brackets : Brackets) (token : Token) (rest : List Token) :
    Reading :=
  let span : Span := ⟨token.start, token.stop⟩
  match token.mark with
  | .text => passage.readText brackets token rest
  | .replaced value => (brackets.add (.text span value), rest)
  | .softBreak => (brackets.add (.softBreak span), rest)
  | .hardBreak backslash => (brackets.add (.hardBreak span backslash), rest)
  | .delimiter c canOpen canClose => (brackets.add (.delimiter span c canOpen canClose), rest)
  | .ticks count escaped => passage.readTicks brackets token count escaped rest
  | .dollar canOpen _ braces =>
    if canOpen then passage.readDollar brackets token braces rest
    else passage.readText brackets token rest
  | .angle => passage.readAngle brackets token rest
  | .linkOpen => passage.readOpening brackets token .link rest
  | .imageOpen => passage.readOpening brackets token .image rest
  | .linkClose mayRefer => passage.readClose brackets token mayRefer rest
  | .task => (brackets.add (.unmodelled span), rest)

/-- Reads all tokens; every step leaves at least one less. -/
def readTokens (passage : Passage) : (limit : Nat) → Brackets → List Token → Brackets
  | 0, brackets, _ => brackets
  | _ + 1, brackets, [] => brackets
  | limit + 1, brackets, token :: rest =>
    let (brackets, rest) := passage.readToken brackets token rest
    passage.readTokens limit brackets rest

/-- The content that tokens stand for, and the allowance that is left. -/
def content (passage : Passage) (allowance : Nat) (tokens : List Token) : List Inline × Nat :=
  let read := passage.readTokens tokens.length { allowance } tokens
  (emphasize passage.window passage.options (read.close passage.window).before.reverse,
    read.allowance)

end Passage

end MarkdownTree.Markdown
