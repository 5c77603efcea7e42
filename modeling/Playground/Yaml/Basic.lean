import Playground.Value.Fault

namespace Playground.Yaml

/-- Why a text holds no value. -/
inductive Error where
  | forbiddenCharacter
  | strayCharacter
  | misplaced
  | missingColon
  | unclosedQuote
  | markerInQuote
  | badEscape
  | badHeader
  | unexpectedToken
  | severalDocuments
  | containerKey
  /-- A plain scalar is a sign without a meaning as a value. -/
  | noMeaning
  | badMerge
  /-- A scalar has the form of a number or a date but writes none. -/
  | badContent (fault : Fault)

def isAllowed (c : Char) : Bool :=
  let n := c.toNat
  n == 0x09 || n == 0x0A || n == 0x0D || (0x20 ≤ n && n ≤ 0x7E) || n == 0x85 ||
    (0xA0 ≤ n && n ≤ 0xD7FF) || (0xE000 ≤ n && n ≤ 0xFFFD) || 0x10000 ≤ n

/-- A text with each of the four ways to end a line reduced to a line feed. The line and paragraph
separators end a line too, but stay what they are. -/
def unifyBreaks : Text → Text
  | [] => []
  | '\r' :: '\n' :: rest => '\n' :: unifyBreaks rest
  | c :: rest => (if c == '\r' || c == '\u0085' then '\n' else c) :: unifyBreaks rest

/-- Whether a character ends a line, once breaks are unified. -/
def isBreak (c : Char) : Bool := c == '\n' || c == '\u2028' || c == '\u2029'

def isSpaceOrTab (c : Char) : Bool := c == ' ' || c == '\t'

/-- Whether a text is at its end, at a space or tab, or at the end of a line. -/
def atGap : Text → Bool
  | [] => true
  | c :: _ => isSpaceOrTab c || isBreak c

/-- Whether the given three-character marker of a document stands in front of a text, which starts a line. -/
def atMarker (marker t : Text) : Bool := t.startsWith marker && atGap (t.drop 3)

def startMarker : Text := "---".toList

def endMarker : Text := "...".toList

def atAnyMarker (t : Text) : Bool := atMarker startMarker t || atMarker endMarker t

/-- What is passed over after a line break inside a flow scalar. -/
structure Passage where
  breaks : Text
  marker : Bool
  column : Nat
  rest : Text

/-- Passes over blank lines and the indentation of the line that follows, where tabs count as blank only if
asked to. A document marker is looked for at the start of each line. -/
def passBlankLines (tabs : Bool) (column : Nat) : Text → Passage
  | [] => ⟨[], false, column, []⟩
  | c :: rest =>
    if column == 0 && atAnyMarker (c :: rest) then ⟨[], true, column, c :: rest⟩
    else if c == ' ' || (tabs && c == '\t') then passBlankLines tabs (column + 1) rest
    else if isBreak c then
      let more := passBlankLines tabs 0 rest
      { more with breaks := c :: more.breaks }
    else ⟨[], false, column, c :: rest⟩

/-- What a line break and the further breaks after it fold to: a single line feed becomes a space, and of
several line feeds the first is dropped. -/
def fold (first : Char) (breaks : Text) : Text :=
  if first != '\n' then first :: breaks
  else if breaks.isEmpty then [' ']
  else breaks

end Playground.Yaml
