import MarkdownTree.Toml.Date

/-! Values without parts: strings, truth values, numbers and dates. -/

namespace MarkdownTree.Toml

/-- A value without parts. -/
inductive Scalar where
  | text (value : String)
  | boolean (value : Bool)
  /-- A number, and whether a machine number can hold it. -/
  | number (fits : Bool)
  | date
  deriving DecidableEq, Repr

namespace Scalar

/-- Whether a character is a digit or parts digits. -/
def isDigitOrScore (c : Char) : Bool :=
  Date.isDigit c || c = '_'

/-- Each underscore has to stand between two digits; `length` characters since the last one are
passed. -/
def checkScores (digit : Char → Bool) :
    (place length : Nat) → (last : Char) → List Char → Checked Unit
  | _, _, _, [] => .ok ()
  | place, length, last, '_' :: rest => do
    demand (length ≤ 1 || digit last) place
    match rest with
    | '_' :: _ => faultAt (place + 1)
    | next :: _ => demand (digit next) place
    | [] => .ok ()
    checkScores digit (place + 1) 0 '_' rest
  | place, length, _, c :: rest => checkScores digit (place + 1) (length + 1) c rest

/-- Checks the underscores of a number. -/
def scores (digit : Char → Bool) (start : Nat) (chars : List Char) : Checked Unit := do
  demand (chars.head? ≠ some '_') start
  demand (chars.length ≤ 1 || chars.getLast? ≠ some '_') (start + chars.length - 1)
  checkScores digit start 0 '0' chars

/-- Passes decimal digits; there is at least one, and a zero comes first only if that is allowed. -/
def digits (leadingZero : Bool) (place : Nat) (chars : List Char) : Checked (List Char × Nat) := do
  let length := Token.runLength isDigitOrScore chars
  let count := ((chars.take length).filter Date.isDigit).length
  demand (0 < count && (leadingZero || count = 1 || chars.head? ≠ some '0')) place
  return (chars.drop length, place + length)

/-- Passes the fraction and the exponent of a number; nothing may follow them. -/
def checkFraction (place : Nat) (chars : List Char) : Checked Unit := do
  let (rest, place) ← match chars with
    | '.' :: rest => digits true (place + 1) rest
    | _ => pure (chars, place)
  let (rest, place) ← match rest with
    | c :: rest' =>
      if c = 'e' || c = 'E' then
        match rest' with
        | '+' :: rest | '-' :: rest => digits true (place + 2) rest
        | _ => digits true (place + 1) rest'
      else pure (rest, place)
    | [] => pure (rest, place)
  demand rest.isEmpty place

/-- Whether a whole number fits into 128 bits. -/
def wholeFits (negative : Bool) (value : Nat) : Bool :=
  if negative then value ≤ Nat.pow 2 127 else value < Nat.pow 2 128

/-- Whether a decimal number is less than all that a binary64 number rounds to infinity. -/
def decimalFits (chars : List Char) : Bool :=
  let chars := chars.filter (· ≠ '_')
  let whole := chars.takeWhile Date.isDigit
  let rest := chars.dropWhile Date.isDigit
  let fraction := match rest with
    | '.' :: more => more.takeWhile Date.isDigit
    | _ => []
  let power := (rest.dropWhile fun c => c ≠ 'e' && c ≠ 'E').drop 1
  let shift : Int := match power with
    | '-' :: more => -(numberOf 10 more : Int)
    | '+' :: more => numberOf 10 more
    | _ => numberOf 10 power
  let value := numberOf 10 (whole ++ fraction)
  let shift := shift - fraction.length
  let size := (Nat.toDigits 10 value).length + shift
  let limit := Nat.pow 2 1024 - Nat.pow 2 970
  if value = 0 || size < 300 then true
  else if 400 < size then false
  else if 0 ≤ shift then value * Nat.pow 10 shift.toNat < limit
  else value < limit * Nat.pow 10 (-shift).toNat

/-- A number without sign in a base that its first two characters name. -/
def based (start base : Nat) (digit : Char → Bool) (chars : List Char) : Checked Scalar := do
  let valid := Token.runLength (fun c => digit c || c = '_') chars
  demand (valid = chars.length) (start + 2 + valid)
  scores digit (start + 2) chars
  let value := chars.filter (· ≠ '_')
  return .number (value ≠ [] && wholeFits false (numberOf base value))

/-- A date or a decimal number; the scalar starts at `start` and what follows its sign at `place`.
-/
def decimal (start place : Nat) (negative : Bool) (signed chars : List Char) : Checked Scalar := do
  let rest := chars.dropWhile isDigitOrScore
  match rest with
  | [] =>
    let _ ← digits false place chars
    scores Date.isDigit start signed
    return .number (wholeFits negative (numberOf 10 (chars.filter Date.isDigit)))
  | first :: _ =>
    if first = '-' || first = ':' then
      demand (Date.isValid signed) start
      return .date
    else if rest.contains ' ' then faultAt start
    else if rest.any fun c => c = '.' || c = 'e' || c = 'E' then
      let (rest, place) ← digits false place chars
      checkFraction place rest
      scores Date.isDigit start signed
      return .number (decimalFits chars)
    else faultAt start

/-- A scalar that starts with a zero, after its sign if it has one. -/
def zero (start place : Nat) (isSigned negative : Bool) (signed : List Char) :
    List Char → Checked Scalar
  | '0' :: 'x' :: rest => do
    demand (!isSigned) start
    based start 16 isHexDigit rest
  | '0' :: 'o' :: rest => do
    demand (!isSigned) start
    based start 8 (fun c => '0' ≤ c && c ≤ '7') rest
  | '0' :: 'b' :: rest => do
    demand (!isSigned) start
    based start 2 (fun c => c = '0' || c = '1') rest
  | '0' :: 'X' :: _ | '0' :: 'O' :: _ | '0' :: 'B' :: _ | '0' :: 'd' :: _ | '0' :: 'D' :: _ =>
    faultAt (if isSigned then start else place)
  | chars => decimal start place negative signed chars

/-- The scalar that a run of characters without quotes writes. -/
def ofChars (start : Nat) (chars : List Char) : Checked Scalar :=
  match chars with
  | ['t', 'r', 'u', 'e'] => .ok (.boolean true)
  | ['f', 'a', 'l', 's', 'e'] => .ok (.boolean false)
  | ['i', 'n', 'f'] | ['n', 'a', 'n'] => .ok (.number true)
  | sign :: rest =>
    if sign = '+' || sign = '-' then
      match rest with
      | ['i', 'n', 'f'] | ['n', 'a', 'n'] => .ok (.number true)
      | first :: _ =>
        if first = '0' then zero start (start + 1) true (sign = '-') chars rest
        else if isDigitOrScore first then decimal start (start + 1) (sign = '-') chars rest
        else if "+-iInN".toList.contains first then faultAt (start + 1)
        else faultAt start
      | [] => faultAt start
    else if sign = '0' then zero start start false false chars chars
    else if isDigitOrScore sign then decimal start start false chars chars
    else faultAt start
  | [] => faultAt start

/-- The scalar that a token writes. -/
def ofToken (token : Token) : Checked Scalar :=
  if token.isString then token.text.map .text else ofChars token.start token.chars

end Scalar

end MarkdownTree.Toml
