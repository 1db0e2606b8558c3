import MarkdownTree.Text.Blank
import MarkdownTree.Text.Punctuation

/-! Source text seen byte by byte, up to an end that may lie before the end of the text. -/

namespace MarkdownTree.Markdown

/-! Classes of bytes -/

/-- White space within a line. -/
def isBlankByte (b : UInt8) : Bool :=
  b == 0x20 || b == 0x09 || b == 0x0b || b == 0x0c

/-- White space, line ends included. -/
def isSpaceByte (b : UInt8) : Bool :=
  b == 0x20 || (0x09 ≤ b && b ≤ 0x0d)

def isDigitByte (b : UInt8) : Bool :=
  0x30 ≤ b && b ≤ 0x39

def isAlphaByte (b : UInt8) : Bool :=
  (0x61 ≤ b && b ≤ 0x7a) || (0x41 ≤ b && b ≤ 0x5a)

def isAlnumByte (b : UInt8) : Bool :=
  isAlphaByte b || isDigitByte b

def isHexByte (b : UInt8) : Bool :=
  isDigitByte b || (0x61 ≤ b && b ≤ 0x66) || (0x41 ≤ b && b ≤ 0x46)

/-- The visible characters of ASCII that are neither letters nor digits. -/
def isPunctByte (b : UInt8) : Bool :=
  0x21 ≤ b && b ≤ 0x7e && !isAlnumByte b

/-- A small letter in place of a capital one. -/
def lowerByte (b : UInt8) : UInt8 :=
  if 0x41 ≤ b && b ≤ 0x5a then b + 0x20 else b

/-- The value of a digit, in any base up to sixteen. -/
def digitValue (b : UInt8) : Nat :=
  if isDigitByte b then b.toNat - 0x30 else (lowerByte b).toNat - 0x57

/-- A source text, of which only the bytes before `stop` are seen. -/
structure Window where
  bytes : ByteArray
  stop : Nat

namespace Window

/-- The whole of a text. -/
def ofText (text : String) : Window :=
  let bytes := text.toUTF8
  { bytes, stop := bytes.size }

/-- The same text with an end at `stop`. -/
def upTo (w : Window) (stop : Nat) : Window :=
  { w with stop := min stop w.bytes.size }

/-- The byte at an offset; past the end there are only zeros. -/
def get (w : Window) (i : Nat) : UInt8 :=
  if i < w.stop then
    if h : i < w.bytes.size then w.bytes[i] else 0
  else
    0

/-- Whether an ASCII character stands at an offset. -/
def has (w : Window) (i : Nat) (c : Char) : Bool :=
  i < w.stop && w.get i == c.toUInt8

/-- Whether a run of ASCII characters starts at an offset. -/
def hasAll (w : Window) (i : Nat) : List Char → Bool
  | [] => true
  | c :: rest => w.has i c && w.hasAll (i + 1) rest

/-- The text between two offsets. -/
def text (w : Window) (start stop : Nat) : String :=
  (String.fromUTF8? (w.bytes.extract start (min stop w.bytes.size))).getD ""

/-- The first offset from `i` on whose byte is not in a class. -/
@[specialize] def skipWhile (w : Window) (p : UInt8 → Bool) (i : Nat) : Nat :=
  if i < w.stop then
    if p (w.get i) then w.skipWhile p (i + 1) else i
  else
    i
termination_by w.stop - i

/-- How many bytes directly before `i`, and not before `low`, are in a class. -/
@[specialize] def countBack (w : Window) (p : UInt8 → Bool) (low : Nat) : (i : Nat) → Nat
  | 0 => 0
  | i + 1 => if low ≤ i && p (w.get i) then w.countBack p low i + 1 else 0

/-- How often a character is repeated from an offset on. -/
def runLength (w : Window) (i : Nat) (c : Char) : Nat :=
  w.skipWhile (· == c.toUInt8) i - i

/-- The first offset that is not white space within a line. -/
def skipBlanks (w : Window) (i : Nat) : Nat :=
  w.skipWhile isBlankByte i

/-- The offset after the line end at `i`; the end of the text counts as one. -/
def lineEnd? (w : Window) (i : Nat) : Option Nat :=
  if w.stop ≤ i then some i
  else if w.has i '\n' then some (i + 1)
  else if w.has i '\r' then some (if w.has (i + 1) '\n' then i + 2 else i + 1)
  else none

/-- The offset after the rest of a line, if the rest is white space. -/
def blankLine? (w : Window) (i : Nat) : Option Nat :=
  w.lineEnd? (w.skipBlanks i)

/-- The offset after a blank rest of a line, else the offset itself. -/
def afterBlankLine (w : Window) (i : Nat) : Nat :=
  (w.blankLine? i).getD i

/-- The offset after the next line feed. -/
def nextLine (w : Window) (i : Nat) : Nat :=
  let feed := w.skipWhile (· != 0x0a) i
  if feed < w.stop then feed + 1 else feed

/-- The number written by digits of a base between two offsets. -/
def number (w : Window) (base start stop : Nat) : Nat :=
  (List.range (stop - start)).foldl (fun n k => n * base + digitValue (w.get (start + k))) 0

/-- The character that starts at an offset, as its bytes tell. -/
def charAt? (w : Window) (i : Nat) : Option Char :=
  if i < w.stop then
    let b := (w.get i).toNat
    let tail (k : Nat) : Nat := (w.get (i + k)).toNat % 64
    some <| Char.ofNat <|
      if b < 0x80 then b
      else if b < 0xe0 then b % 32 * 64 + tail 1
      else if b < 0xf0 then (b % 16 * 64 + tail 1) * 64 + tail 2
      else ((b % 8 * 64 + tail 1) * 64 + tail 2) * 64 + tail 3
  else
    none

/-- The character that ends at an offset. -/
def charBefore? (w : Window) (i : Nat) : Option Char :=
  if i = 0 then none
  -- At most three bytes of a character follow its first one.
  else w.charAt? (i - 1 - w.countBack (fun b => b &&& 0xc0 == 0x80) (i - 4) i)

end Window

/-- Whether a character is punctuation or a symbol. -/
def isPunctuation (c : Char) : Bool :=
  if c.toNat < 128 then isPunctByte c.toUInt8 else punctuation.contains c

end MarkdownTree.Markdown
