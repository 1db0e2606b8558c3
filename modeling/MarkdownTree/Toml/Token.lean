/-! Tokens of a TOML text: marks, strings with their quotes, and everything between. -/

namespace MarkdownTree.Toml

/-- What a token is, as its first characters tell. -/
inductive TokenKind where
  | dot
  | equals
  | comma
  | openBracket
  | closeBracket
  | openBrace
  | closeBrace
  /-- Spaces and tabs. -/
  | blank
  | comment
  | newline
  /-- A string in single quotes. -/
  | literal
  /-- A string in double quotes. -/
  | basic
  | longLiteral
  | longBasic
  /-- A run of other characters. -/
  | atom
  /-- The end of the text. -/
  | stop
  deriving DecidableEq, Repr

/-- A token, and how many characters stand before it. -/
structure Token where
  kind : TokenKind
  start : Nat
  chars : List Char
  deriving Repr

namespace Token

/-- The place after a token. -/
def after (token : Token) : Nat :=
  token.start + token.chars.length

/-- The empty atom at a place, in place of something missing. -/
def missing (start : Nat) : Token :=
  ⟨.atom, start, []⟩

/-- Whether a token is a string. -/
def isString (token : Token) : Bool :=
  match token.kind with
  | .literal | .basic | .longLiteral | .longBasic => true
  | _ => false

/-! How far a token reaches -/

/-- The length of the rest of a string in double quotes; without a closing quote the line ends it.
-/
def basicLength : List Char → Nat
  | [] => 0
  | '"' :: _ => 1
  | '\n' :: _ => 0
  | '\\' :: '"' :: rest => basicLength rest + 2
  | '\\' :: '\\' :: rest => basicLength rest + 2
  | _ :: rest => basicLength rest + 1

/-- The length of the rest of a string in single quotes. -/
def literalLength : List Char → Nat
  | [] => 0
  | '\'' :: _ => 1
  | '\n' :: _ => 0
  | _ :: rest => literalLength rest + 1

/-- Up to two quotes may stand directly before the three that close a string. -/
def closingLength (quote : Char) (chars : List Char) : Nat :=
  3 + ((chars.take 2).takeWhile (· = quote)).length

/-- The length of the rest of a string in three double quotes. -/
def longBasicLength : List Char → Nat
  | [] => 0
  | '"' :: '"' :: '"' :: rest => closingLength '"' rest
  | '\\' :: '"' :: rest => longBasicLength rest + 2
  | '\\' :: '\\' :: rest => longBasicLength rest + 2
  | _ :: rest => longBasicLength rest + 1

/-- The length of the rest of a string in three single quotes. -/
def longLiteralLength : List Char → Nat
  | [] => 0
  | '\'' :: '\'' :: '\'' :: rest => closingLength '\'' rest
  | _ :: rest => longLiteralLength rest + 1

/-- Whether a character ends a run of other characters. -/
def endsAtom (c : Char) : Bool :=
  ".=,[]\x7b\x7d \t#\r\n".toList.contains c

/-- The length of the run of characters of a class at the front. -/
def runLength (p : Char → Bool) (chars : List Char) : Nat :=
  (chars.takeWhile p).length

/-- The kind and the length of the first token. -/
def first : List Char → TokenKind × Nat
  | [] => (.stop, 0)
  | '.' :: _ => (.dot, 1)
  | '=' :: _ => (.equals, 1)
  | ',' :: _ => (.comma, 1)
  | '[' :: _ => (.openBracket, 1)
  | ']' :: _ => (.closeBracket, 1)
  | '{' :: _ => (.openBrace, 1)
  | '}' :: _ => (.closeBrace, 1)
  | '\n' :: _ => (.newline, 1)
  | '\r' :: '\n' :: _ => (.newline, 2)
  | '\r' :: _ => (.newline, 1)
  | '"' :: '"' :: '"' :: rest => (.longBasic, longBasicLength rest + 3)
  | '"' :: rest => (.basic, basicLength rest + 1)
  | '\'' :: '\'' :: '\'' :: rest => (.longLiteral, longLiteralLength rest + 3)
  | '\'' :: rest => (.literal, literalLength rest + 1)
  | c :: rest =>
    if c = ' ' || c = '\t' then (.blank, runLength (fun c => c = ' ' || c = '\t') rest + 1)
    else if c = '#' then (.comment, runLength (fun c => c ≠ '\r' && c ≠ '\n') rest + 1)
    else (.atom, runLength (fun c => !endsAtom c) rest + 1)

/-- The tokens of characters before which `start` others stand; the last one is the end. -/
def split : (limit start : Nat) → List Char → List Token
  | 0, start, _ => [⟨.stop, start, []⟩]
  | limit + 1, start, chars =>
    match first chars with
    | (.stop, _) => [⟨.stop, start, []⟩]
    | (kind, length) =>
      ⟨kind, start, chars.take length⟩ :: split limit (start + length) (chars.drop length)

/-- The tokens of a text; a byte order mark at its start is passed over. -/
def ofText (text : String) : List Token :=
  match text.toList with
  | '\uFEFF' :: chars => split chars.length 1 chars
  | chars => split chars.length 0 chars

end Token

end MarkdownTree.Toml
