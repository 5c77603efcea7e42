import Playground.Yaml.Basic

namespace Playground.Yaml

/-- What happens to the line breaks at the end of a block scalar: one is kept, none, or all. -/
inductive Chomping where
  | clip
  | strip
  | keep
deriving Repr, DecidableEq

def chomping? (t : Text) : Option Chomping :=
  match t with
  | '+' :: _ => some .keep
  | '-' :: _ => some .strip
  | _ => none

def increment? (t : Text) : Option Nat :=
  match t with
  | c :: _ => if c.isDigit then some (c.toNat - '0'.toNat) else none
  | [] => none

/-- The header of a block scalar after its sign: chomping and indentation in either order, then nothing but
spaces and a comment up to the end of the line. Also gives the text from that end on. -/
def readHeader (t : Text) : Except Error (Chomping × Option Nat × Text) :=
  let (chomping, increment, rest) :=
    match chomping? t with
    | some chomping => match increment? (t.drop 1) with
      | some n => (chomping, some n, t.drop 2)
      | none => (chomping, none, t.drop 1)
    | none => match increment? t with
      | some n => match chomping? (t.drop 1) with
        | some chomping => (chomping, some n, t.drop 2)
        | none => (.clip, some n, t.drop 1)
      | none => (.clip, none, t)
  let afterSpaces := rest.dropWhile (· == ' ')
  let lineEnd := if afterSpaces.head? == some '#' then afterSpaces.dropWhile (!isBreak ·) else afterSpaces
  let atLineEnd (t : Text) := match t with
    | [] => true
    | c :: _ => isBreak c
  if increment == some 0 || !(rest.head? == some ' ' || atLineEnd rest) || !atLineEnd lineEnd then
    .error .badHeader
  else .ok (chomping, increment, lineEnd)

/-- Passes over blank lines and up to `indent` columns of the line that follows: the line breaks, the column
reached and the rest. -/
def passIndent (indent column : Nat) : Text → Text × Nat × Text
  | [] => ([], column, [])
  | c :: rest =>
    if c == ' ' && column < indent then passIndent indent (column + 1) rest
    else if isBreak c then
      let (breaks, reached, rest) := passIndent indent 0 rest
      (c :: breaks, reached, rest)
    else ([], column, c :: rest)

/-- Passes over blank lines and all indentation of the line that follows: the line breaks, the widest
indentation met, the column reached and the rest. -/
def measureIndent (widest column : Nat) : Text → Text × Nat × Nat × Text
  | [] => ([], widest, column, [])
  | c :: rest =>
    if c == ' ' then measureIndent (max widest (column + 1)) (column + 1) rest
    else if isBreak c then
      let (breaks, widest, reached, rest) := measureIndent widest 0 rest
      (c :: breaks, widest, reached, rest)
    else ([], widest, column, c :: rest)

structure BlockLines where
  content : Text
  /-- The line break after the last line, if it has one. -/
  lastBreak : Text
  /-- The line breaks of the blank lines after it. -/
  trailing : Text
  rest : Text

def startsBlank : Text → Bool
  | [] => false
  | c :: _ => isSpaceOrTab c

/-- Reads the lines of a block scalar from the content of a line on. A single break between two lines that
start with no blank is folded if asked for. The fuel bounds the number of lines. -/
def readBlockLines (folded : Bool) (indent : Nat) : Nat → Text → BlockLines
  | 0, t => ⟨[], [], [], t⟩
  | fuel + 1, t =>
    let line := t.takeWhile (!isBreak ·)
    match t.dropWhile (!isBreak ·) with
    | [] => ⟨line, [], [], []⟩
    | lineBreak :: afterBreak =>
      let (breaks, column, rest) := passIndent indent 0 afterBreak
      if column == indent && !rest.isEmpty then
        let joint :=
          if folded && lineBreak == '\n' && !startsBlank t && !startsBlank rest then
            if breaks.isEmpty then [' '] else []
          else [lineBreak]
        let more := readBlockLines folded indent fuel rest
        { more with content := line ++ joint ++ breaks ++ more.content }
      else ⟨line, [lineBreak], breaks, rest⟩

/-- Reads a block scalar after its sign, inside a block of the given indentation: its content and the rest.
The fuel bounds the number of lines. -/
def readBlock (fuel : Nat) (folded : Bool) (parentIndent : Int) (t : Text) : Except Error (Text × Text) := do
  let (chomping, increment, lineEnd) ← readHeader t
  let least := max (parentIndent + 1).toNat 1
  let start := lineEnd.drop 1
  let (indent, breaks, column, rest) :=
    match increment with
    | some n =>
      let indent := least + n - 1
      let (breaks, column, rest) := passIndent indent 0 start
      (indent, breaks, column, rest)
    | none =>
      let (breaks, widest, column, rest) := measureIndent 0 0 start
      (max least widest, breaks, column, rest)
  let lines : BlockLines :=
    if column == indent && !rest.isEmpty then
      let lines := readBlockLines folded indent fuel rest
      { lines with content := breaks ++ lines.content }
    else ⟨[], [], breaks, rest⟩
  let ending := match chomping with
    | .strip => []
    | .clip => lines.lastBreak
    | .keep => lines.lastBreak ++ lines.trailing
  return (lines.content ++ ending, lines.rest)

end Playground.Yaml
