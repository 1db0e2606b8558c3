import MarkdownTree.Toml.Quoted

/-! Statements: the headers and the assignments that the tokens of a text form. -/

namespace MarkdownTree.Toml

/-- A value as it is written. -/
inductive Written where
  | scalar (token : Token)
  | array (start : Nat) (items : List Written)
  /-- Assignments in braces, each with its keys from the outermost on. -/
  | table (start : Nat) (pairs : List (List Token × Written))
  deriving Repr

/-- A line of a text that says something. -/
inductive Statement where
  /-- A header in one or, for a table in an array, two pairs of brackets. -/
  | header (start : Nat) (inArray : Bool) (keys : List Token)
  | assignment (keys : List Token) (value : Written)
  deriving Repr

namespace Statement

/-- The place of the first token. -/
def place (tokens : List Token) : Nat :=
  (tokens.head?.map Token.start).getD 0

/-- Whether the first token is of a kind. -/
def startsWith (kind : TokenKind) (tokens : List Token) : Bool :=
  tokens.head?.any fun token => token.kind = kind

/-- The tokens after blanks. -/
def skipBlanks (tokens : List Token) : List Token :=
  tokens.dropWhile fun token => token.kind = .blank

/-- A carriage return needs a line feed after it, and comments may not hold control characters. -/
def checkSpace (token : Token) : Checked Unit :=
  match token.kind with
  | .newline => demand (token.chars ≠ ['\r']) token.after
  | .comment =>
    let plain := Token.runLength isPlain token.chars
    demand (plain = token.chars.length) (token.start + plain)
  | _ => .ok ()

/-- Reads keys parted by dots and the blanks around them; an empty atom stands for each missing key.
-/
def keys : (limit : Nat) → List Token → List Token × List Token
  | 0, tokens => ([], tokens)
  | limit + 1, tokens =>
    match skipBlanks tokens with
    | [] => ([], [])
    | token :: rest =>
      if token.kind = .dot then
        let (more, rest) := keys limit rest
        (.missing token.start :: more, rest)
      else if token.kind = .atom || token.isString then
        match skipBlanks rest with
        | next :: after =>
          if next.kind = .dot then
            let (more, rest) := keys limit after
            (token :: more, rest)
          else ([token], next :: after)
        | [] => ([token], [])
      else ([.missing token.start], token :: rest)

/-- A scalar without quotes goes on over dots, and over blanks to a further atom. -/
def joined (scalar : Token) : List Token → Token × List Token
  | [] => (scalar, [])
  | next :: rest =>
    let more : Token := { scalar with kind := .atom, chars := scalar.chars ++ next.chars }
    if next.kind = .dot || next.kind = .atom then joined more rest
    else if next.kind = .blank && startsWith .atom rest then joined more rest
    else (scalar, next :: rest)

/-- How deep arrays and tables in braces may nest. -/
def deepest : Nat := 80

mutual

/-- Reads a value within `depth` others; an empty atom stands for a missing value. -/
def value : (limit depth : Nat) → List Token → Checked (Written × List Token)
  | 0, _, tokens => faultAt (place tokens)
  | _, _, [] => faultAt 0
  | limit + 1, depth, token :: rest =>
    match token.kind with
    | .equals | .closeBracket | .closeBrace => faultAt token.start
    | .openBracket => do
      demand (depth < deepest) token.start
      items limit (depth + 1) token.start false [] rest
    | .openBrace => do
      demand (depth < deepest) token.start
      pairs limit (depth + 1) token.start false [] rest
    | .dot | .atom =>
      let (scalar, rest) := joined token rest
      .ok (.scalar scalar, rest)
    | .literal | .basic | .longLiteral | .longBasic => .ok (.scalar token, rest)
    | .comma | .blank | .comment | .newline | .stop =>
      .ok (.scalar (.missing token.start), token :: rest)

/-- Reads the items of an array up to its end; `full` if a comma has to come before the next one. -/
def items : (limit depth start : Nat) → (full : Bool) → List Written → List Token →
    Checked (Written × List Token)
  | 0, _, _, _, _, tokens => faultAt (place tokens)
  | _, _, _, _, _, [] => faultAt 0
  | limit + 1, depth, start, full, sofar, token :: rest =>
    match token.kind with
    | .blank | .comment | .newline => do
      checkSpace token
      items limit depth start full sofar rest
    | .comma => do
      demand full token.start
      items limit depth start false sofar rest
    | .closeBracket => .ok (.array start sofar.reverse, rest)
    | .stop | .equals | .closeBrace => faultAt token.start
    | _ => do
      demand (!full) token.start
      let (item, rest) ← value limit depth (token :: rest)
      items limit depth start true (item :: sofar) rest

/-- Reads the assignments in braces up to their end; `full` if a comma has to come before the next
one. -/
def pairs : (limit depth start : Nat) → (full : Bool) → List (List Token × Written) →
    List Token → Checked (Written × List Token)
  | 0, _, _, _, _, tokens => faultAt (place tokens)
  | _, _, _, _, _, [] => faultAt 0
  | limit + 1, depth, start, full, sofar, token :: rest =>
    match token.kind with
    | .blank | .comment | .newline => do
      checkSpace token
      pairs limit depth start full sofar rest
    | .comma => do
      demand full token.start
      pairs limit depth start false sofar rest
    | .closeBrace => .ok (.table start sofar.reverse, rest)
    | .stop | .openBracket | .closeBracket | .openBrace => faultAt token.start
    | _ => do
      demand (!full) token.start
      let (keys, rest) := keys limit (token :: rest)
      demand (startsWith .equals rest) (place rest)
      let (value, rest) ← value limit depth (skipBlanks rest.tail)
      pairs limit depth start true ((keys, value) :: sofar) rest

end

/-- Reads the rest of a line, on which only a comment may stand. -/
def lineEnd (tokens : List Token) : Checked (List Token) :=
  match skipBlanks tokens with
  | [] => .ok []
  | token :: rest =>
    match token.kind with
    | .comment => do
      checkSpace token
      match rest with
      | newline :: after =>
        checkSpace newline
        return if newline.kind = .stop then rest else after
      | [] => return []
    | .newline => do
      checkSpace token
      return rest
    | .stop => .ok (token :: rest)
    | _ => faultAt token.start

/-- Reads a header after its first bracket. -/
def readHeader (limit start : Nat) (tokens : List Token) : Checked (Statement × List Token) := do
  let inArray := startsWith .openBracket tokens
  let (keys, rest) := keys limit (if inArray then tokens.tail else tokens)
  demand (startsWith .closeBracket rest) (place rest)
  let rest := rest.tail
  if inArray then
    demand (startsWith .closeBracket rest) (place rest)
    return (.header start true keys, ← lineEnd rest.tail)
  else
    return (.header start false keys, ← lineEnd rest)

/-- Reads an assignment. -/
def readAssignment (limit : Nat) (tokens : List Token) : Checked (Statement × List Token) := do
  let (keys, rest) := keys limit tokens
  demand (startsWith .equals rest) (place rest)
  let (value, rest) ← value limit 0 (skipBlanks rest.tail)
  return (.assignment keys value, ← lineEnd rest)

/-- Reads statements up to the end of the tokens. -/
def readAll : (limit : Nat) → List Token → Checked (List Statement)
  | 0, _ => .ok []
  | _, [] => .ok []
  | limit + 1, token :: rest =>
    match token.kind with
    | .stop => .ok []
    | .blank | .comment | .newline => do
      checkSpace token
      readAll limit rest
    | .openBracket => do
      let (statement, rest) ← readHeader limit token.start rest
      return statement :: (← readAll limit rest)
    | .closeBracket | .comma | .openBrace | .closeBrace => faultAt token.start
    | _ => do
      let (statement, rest) ← readAssignment limit (token :: rest)
      return statement :: (← readAll limit rest)

/-- The statements of a text. -/
def ofText (text : String) : Checked (List Statement) :=
  let tokens := Token.ofText text
  -- A nested value takes at most one step per token, and one more where it starts.
  readAll (2 * tokens.length + 1) tokens

end Statement

end MarkdownTree.Toml
