import Playground.Text.Hex
import Playground.Yaml.Meaning

namespace Playground.Yaml

/-- The column beyond which a line is broken. -/
def lineWidth : Nat := 80

/-- Whether a character ends a line in written text, where the next-line character does so too. -/
def endsLine (c : Char) : Bool := c == '\n' || c == '\u0085' || isBreak c

def separates (c : Char) : Bool := c == '\x00' || c == ' ' || c == '\t' || c == '\r' || endsLine c

def atSeparator : Text → Bool
  | [] => true
  | c :: _ => separates c

def needsEscape (c : Char) : Bool :=
  let n := c.toNat
  !(c == '\n' || (0x20 ≤ n && n ≤ 0x7E) || n == 0x85 || (0xA0 ≤ n && n ≤ 0xD7FF) ||
    (0xE000 ≤ n && n ≤ 0xFFFD && n != 0xFEFF) || (0x10000 ≤ n && n < 0x10FFFF))

/-- Whether a colon or a comment sign after the first character would end a plain scalar. `afterBlank` tells
whether the character before is a separator. -/
def hasInnerIndicator (afterBlank : Bool) : Text → Bool
  | [] => false
  | c :: rest =>
    (c == ':' && atSeparator rest) || (c == '#' && afterBlank) || hasInnerIndicator (separates c) rest

/-- Whether a text has a character in front that means something else at the start of a scalar, or one
inside that would end it. -/
def hasIndicator (t : Text) : Bool :=
  match t with
  | [] => false
  | c :: rest =>
    t.startsWith startMarker || t.startsWith endMarker || "#,[]\x7b\x7d&*!|>'\"%@`".toList.contains c ||
      ((c == '?' || c == ':' || c == '-') && atSeparator rest) || hasInnerIndicator (separates c) rest

/-- Whether a space stands directly before or after a line break. -/
def hasSpaceAtBreak : Text → Bool
  | c :: d :: rest => (c == ' ' && endsLine d) || (endsLine c && d == ' ') || hasSpaceAtBreak (d :: rest)
  | _ => false

inductive ScalarStyle where
  | plain
  | singleQuoted
  | doubleQuoted
deriving Repr, DecidableEq

/-- The way in which a text is written: plain if it is plainly a text, else in single quotes, and in double quotes if
it has characters or blanks that single quotes cannot keep. -/
def ScalarStyle.ofText (t : Text) : ScalarStyle :=
  let escapes := t.any needsEscape
  if Meaning.ofText t == .text && !t.isEmpty && !t.any endsLine && !escapes && !hasIndicator t &&
      t.head? != some ' ' && t.getLast? != some ' ' then .plain
  else if !escapes && !hasSpaceAtBreak t then .singleQuoted
  else .doubleQuoted

def newLine (indent : Nat) : Text := '\n' :: List.replicate indent ' '

/-- The rest of a plain scalar after a character, at a column. A lone space beyond the line width becomes a
line break. -/
def plainFrom (indent : Nat) (afterSpace : Bool) (column : Nat) : Text → Text
  | [] => []
  | c :: rest =>
    if c == ' ' && !afterSpace && rest.head? != some ' ' && lineWidth < column then
      newLine indent ++ plainFrom indent true indent rest
    else c :: plainFrom indent (c == ' ') (column + 1) rest

/-- What the character before was, as far as single quotes care. -/
inductive Before where
  | start
  | space
  | lineEnd
  | other
deriving Repr, DecidableEq

/-- The rest of a single-quoted scalar up to its closing quote. A quote is doubled. A run of line ends is
written as it is, with one more line feed in front if it starts with one, and then the indentation. -/
def singleFrom (indent : Nat) (before : Before) (column : Nat) : Text → Text
  | [] => ['\'']
  | c :: rest =>
    if c == ' ' then
      if before == .other && rest.head? != some ' ' && !rest.isEmpty && lineWidth < column then
        newLine indent ++ singleFrom indent .space indent rest
      else c :: singleFrom indent .space (column + 1) rest
    else if endsLine c then
      let extra := if before != .lineEnd && c == '\n' then ['\n'] else []
      let ending := match rest with
        | [] => List.replicate indent ' '
        | d :: _ => if endsLine d then [] else List.replicate indent ' '
      extra ++ c :: ending ++ singleFrom indent .lineEnd indent rest
    else if c == '\'' then '\'' :: '\'' :: singleFrom indent .other (column + 2) rest
    else c :: singleFrom indent .other (column + 1) rest

def escapeOf (c : Char) : Text :=
  match c with
  | '\x00' => "\\0".toList
  | '\x07' => "\\a".toList
  | '\x08' => "\\b".toList
  | '\t' => "\\t".toList
  | '\n' => "\\n".toList
  | '\x0B' => "\\v".toList
  | '\x0C' => "\\f".toList
  | '\r' => "\\r".toList
  | '\x1B' => "\\e".toList
  | '"' => "\\\"".toList
  | '\\' => "\\\\".toList
  | '\u0085' => "\\N".toList
  | '\u00A0' => "\\_".toList
  | '\u2028' => "\\L".toList
  | '\u2029' => "\\P".toList
  | c =>
    let n := c.toNat
    if n ≤ 0xFF then '\\' :: 'x' :: Text.upperHex 2 n
    else if n ≤ 0xFFFF then '\\' :: 'u' :: Text.upperHex 4 n
    else '\\' :: 'U' :: Text.upperHex 8 n

def isVerbatim (c : Char) : Bool :=
  let n := c.toNat
  ((0x20 ≤ n && n ≤ 0x7E) || (0xA0 ≤ n && n ≤ 0xD7FF) || (0xE000 ≤ n && n ≤ 0xFFFD)) &&
    !(c == '"' || c == '\\' || c == '\u2028' || c == '\u2029' || c == '\uFEFF')

/-- A break inside double quotes: an escaped line break, and a backslash if a space comes first on the new
line. Also gives the column reached. -/
def escapedBreak (indent : Nat) (next : Text) : Text × Nat :=
  if next.head? == some ' ' then ('\\' :: newLine indent ++ ['\\'], indent + 1)
  else ('\\' :: newLine indent, indent)

/-- The rest of a double-quoted scalar up to its closing quote. A line may be broken before a space or
before a character that follows an escape, and after an escape, but not at either end of the text. -/
def doubleFrom (indent : Nat) (first afterEscape : Bool) (column : Nat) : Text → Text
  | [] => ['"']
  | c :: rest =>
    let inner := !first && !rest.isEmpty
    if isVerbatim c then
      if inner && (c == ' ' || afterEscape) && lineWidth < column then
        let (lead, column) := escapedBreak indent (c :: rest)
        lead ++ c :: doubleFrom indent false false (column + 1) rest
      else c :: doubleFrom indent false false (column + 1) rest
    else
      let escape := escapeOf c
      let column := column + escape.length
      if inner && lineWidth + 1 < column then
        let (lead, column) := escapedBreak indent rest
        escape ++ lead ++ doubleFrom indent false true column rest
      else escape ++ doubleFrom indent false true column rest

/-- A text as a scalar that starts at a column, its further lines indented by `indent`. -/
def renderScalar (indent column : Nat) (t : Text) : Text :=
  match ScalarStyle.ofText t with
  | .plain => plainFrom indent false column t
  | .singleQuoted => '\'' :: singleFrom indent .start (column + 1) t
  | .doubleQuoted => '"' :: doubleFrom indent true false (column + 1) t

end Playground.Yaml
