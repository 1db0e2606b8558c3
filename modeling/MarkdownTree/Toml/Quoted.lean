import MarkdownTree.Toml.Fault
import MarkdownTree.Toml.Token

/-! The text that a string in quotes stands for. -/

namespace MarkdownTree.Toml

/-- Whether comments and strings may hold a character; line ends are looked at apart. -/
def isPlain (c : Char) : Bool :=
  c = '\t' || (' ' ≤ c && c ≠ '\x7f')

def isHexDigit (c : Char) : Bool :=
  ('0' ≤ c && c ≤ '9') || ('a' ≤ c && c ≤ 'f') || ('A' ≤ c && c ≤ 'F')

/-- The value of a digit, in any base up to sixteen. -/
def digitValue (c : Char) : Nat :=
  if '0' ≤ c && c ≤ '9' then c.toNat - '0'.toNat else c.toLower.toNat - 'a'.toNat + 10

/-- The number that digits of a base write. -/
def numberOf (base : Nat) (digits : List Char) : Nat :=
  digits.foldl (fun n c => n * base + digitValue c) 0

/-- The character whose number is written with `count` digits, at the front of what follows. -/
def codePoint (place count : Nat) (chars : List Char) : Checked Char := do
  let digits := (chars.take count).takeWhile isHexDigit
  demand (digits.length = count) (place + digits.length)
  let code := numberOf 16 digits
  demand (decide code.isValidChar) place
  return Char.ofNat code

/-- The character that a backslash and what follows it stand for, and how much of that is used. -/
def escape (place : Nat) : List Char → Checked (Char × Nat)
  | 'b' :: _ => .ok ('\x08', 1)
  | 't' :: _ => .ok ('\t', 1)
  | 'n' :: _ => .ok ('\n', 1)
  | 'f' :: _ => .ok ('\x0c', 1)
  | 'r' :: _ => .ok ('\r', 1)
  | 'e' :: _ => .ok ('\x1b', 1)
  | '"' :: _ => .ok ('"', 1)
  | '\\' :: _ => .ok ('\\', 1)
  | 'x' :: rest => (codePoint (place + 1) 2 rest).map fun c => (c, 3)
  | 'u' :: rest => (codePoint (place + 1) 4 rest).map fun c => (c, 5)
  | 'U' :: rest => (codePoint (place + 1) 8 rest).map fun c => (c, 9)
  | _ => faultAt place

/-- The length of a line end at the front. -/
def lineEndLength : List Char → Nat
  | '\n' :: _ => 1
  | '\r' :: '\n' :: _ => 2
  | _ => 0

/-- How many characters a backslash at the end of a line hides: all white space up to the next text.
-/
def hiddenLength (place : Nat) (chars : List Char) : Checked Nat := do
  let blanks := Token.runLength (fun c => c = ' ' || c = '\t') chars
  demand (lineEndLength (chars.drop blanks) ≠ 0) (place + blanks)
  return Token.runLength (fun c => c = ' ' || c = '\t' || c = '\n' || c = '\r') chars

/-- The text between double quotes. -/
def basicText (long : Bool) : (limit place : Nat) → List Char → Checked (List Char)
  | 0, _, _ => .ok []
  | _ + 1, _, [] => .ok []
  | limit + 1, place, c :: rest =>
    if c = '\\' then
      if long && rest.head?.any (fun c => c = ' ' || c = '\t' || c = '\n' || c = '\r') then do
        let hidden ← hiddenLength (place + 1) rest
        basicText long limit (place + 1 + hidden) (rest.drop hidden)
      else do
        let (value, used) ← escape (place + 1) rest
        return value :: (← basicText long limit (place + 1 + used) (rest.drop used))
    else if isPlain c || (long && lineEndLength (c :: rest) ≠ 0) then do
      return c :: (← basicText long limit (place + 1) rest)
    else faultAt place

/-- The text between single quotes, in which nothing is escaped. -/
def literalText (long : Bool) : (place : Nat) → List Char → Checked (List Char)
  | _, [] => .ok []
  | place, c :: rest =>
    if isPlain c || (long && lineEndLength (c :: rest) ≠ 0) then do
      return c :: (← literalText long (place + 1) rest)
    else faultAt place

/-- What stands between the quotes of a token; a string without closing quotes is at fault at its
end. -/
def between (token : Token) (quotes : List Char) : Checked (List Char) := do
  let inside := token.chars.drop quotes.length
  demand (quotes.isSuffixOf inside) token.after
  return inside.take (inside.length - quotes.length)

/-- The text of a string in three quotes starts after a line end directly behind them. -/
def withoutFirstLineEnd (place : Nat) (inside : List Char) : Nat × List Char :=
  let length := lineEndLength inside
  (place + length, inside.drop length)

/-- The text that a string stands for. -/
def Token.text (token : Token) : Checked String := do
  match token.kind with
  | .basic =>
    let inside ← between token ['"']
    return String.ofList (← basicText false inside.length (token.start + 1) inside)
  | .literal =>
    let inside ← between token ['\'']
    return String.ofList (← literalText false (token.start + 1) inside)
  | .longBasic =>
    let (place, inside) := withoutFirstLineEnd (token.start + 3) (← between token ['"', '"', '"'])
    return String.ofList (← basicText true inside.length place inside)
  | .longLiteral =>
    let (place, inside) :=
      withoutFirstLineEnd (token.start + 3) (← between token ['\'', '\'', '\''])
    return String.ofList (← literalText true place inside)
  | _ => return String.ofList token.chars

/-- The text of a key: a string on one line, or letters, digits, hyphens and underscores of ASCII.
-/
def Token.keyText (token : Token) : Checked String := do
  match token.kind with
  | .basic | .literal => token.text
  | .longBasic | .longLiteral => faultAt token.start
  | _ =>
    let allowed := Token.runLength (fun c => c.isAlphanum || c = '-' || c = '_') token.chars
    demand (0 < allowed && allowed = token.chars.length) (token.start + allowed)
    return String.ofList token.chars

end MarkdownTree.Toml
