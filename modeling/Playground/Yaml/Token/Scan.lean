import Playground.Yaml.Token.Basic
import Playground.Yaml.Token.Block
import Playground.Yaml.Token.Plain
import Playground.Yaml.Token.Quoted

namespace Playground.Yaml

/-- What may turn out to be a key: its place among the tokens and in the text. A required one stands where
a block mapping needs a key. -/
structure PendingKey where
  tokensBefore : Nat
  required : Bool
  index : Nat
  line : Nat
  column : Nat
deriving Repr, DecidableEq

/-- The state between two tokens. Whether a scalar or a flow collection is a key shows only at the colon after it, so
its place among the tokens is remembered, and the key token is put there when the colon comes. -/
structure Scan where
  rest : Text
  index : Nat := 0
  line : Nat := 0
  column : Nat := 0
  /-- The column of the block that is open, -1 outside all blocks, and those of the blocks around it. -/
  indent : Int := -1
  outerIndents : List Int := []
  /-- The possible key in the collection that is open, and those in the flow collections around it. -/
  pending : Option PendingKey := none
  outerPending : List (Option PendingKey) := []
  keyAllowed : Bool := true
  tokens : List Token := []

/-- The longest distance between the start of a key and its colon. -/
def maxKeyLength : Nat := 1024

namespace Scan

def inFlow (s : Scan) : Bool := !s.outerPending.isEmpty

def advance : Nat → Scan → Scan
  | 0, s => s
  | n + 1, s => match s.rest with
    | [] => s
    | c :: rest =>
      let (line, column) :=
        if isBreak c then (s.line + 1, 0)
        else if c == '\uFEFF' then (s.line, s.column)
        else (s.line, s.column + 1)
      advance n { s with rest, line, column, index := s.index + 1 }

def advanceTo (rest : Text) (s : Scan) : Scan := s.advance (s.rest.length - rest.length)

def emit (ts : List Token) (s : Scan) : Scan := { s with tokens := s.tokens ++ ts }

/-- How many characters lie before the next token, and whether a line ends among them. Comments run to the
end of their line. -/
def gap (inComment : Bool) : Text → Nat × Bool
  | [] => (0, false)
  | c :: rest =>
    if isBreak c then ((gap false rest).1 + 1, true)
    else if inComment || c == ' ' || c == '#' then
      let (n, ends) := gap (inComment || c == '#') rest
      (n + 1, ends)
    else (0, false)

def passGap (s : Scan) : Scan :=
  let (n, endsLine) := gap false s.rest
  let s := s.advance n
  if endsLine && !s.inFlow then { s with keyAllowed := true } else s

/-- Gives up a possible key. One that is required cannot be given up. -/
def give (key : Option PendingKey) : Except Error Unit :=
  match key with
  | some k => if k.required then .error .missingColon else .ok ()
  | none => .ok ()

/-- Whether a possible key can no longer be one: it is on an earlier line, or too long. -/
def isStale (s : Scan) (key : PendingKey) : Bool :=
  key.line != s.line || s.index - key.index > maxKeyLength

def fresh (s : Scan) (key : Option PendingKey) : Except Error (Option PendingKey) :=
  match key with
  | some k =>
    if s.isStale k then do
      give key
      return none
    else .ok key
  | none => .ok none

def dropStale (s : Scan) : Except Error Scan := do
  let outerPending ← s.outerPending.mapM s.fresh
  let pending ← s.fresh s.pending
  return { s with pending, outerPending }

/-- Closes blocks that are indented more than `column`; the list of outer blocks bounds their number. -/
def closeBlocks (column : Int) (indent : Int) : List Int → Int × List Int × List Token
  | [] => (indent, [], [])
  | outer :: more =>
    if indent > column then
      let (indent, outers, ts) := closeBlocks column outer more
      (indent, outers, .blockEnd :: ts)
    else (indent, outer :: more, [])

/-- Closes the blocks that a token at the given column ends. Inside a flow collection indentation is free. -/
def unwind (column : Int) (s : Scan) : Scan :=
  if s.inFlow then s
  else
    let (indent, outerIndents, ts) := closeBlocks column s.indent s.outerIndents
    { s with indent, outerIndents }.emit ts

/-- Opens a block at a column if it is indented more than the one that is open; also tells whether. -/
def openBlock (column : Nat) (s : Scan) : Bool × Scan :=
  if s.indent < column then
    (true, { s with indent := column, outerIndents := s.indent :: s.outerIndents })
  else (false, s)

/-- Remembers that the next token may start a key, if it may. -/
def saveKey (s : Scan) : Except Error Scan := do
  if s.keyAllowed then
    give s.pending
    let required := !s.inFlow && s.indent == s.column
    return { s with pending := some ⟨s.tokens.length, required, s.index, s.line, s.column⟩ }
  else return s

def removeKey (s : Scan) : Except Error Scan := do
  give s.pending
  return { s with pending := none }

def splice (place : Nat) (ts : List Token) (s : Scan) : Scan :=
  { s with tokens := s.tokens.take place ++ ts ++ s.tokens.drop place }

def marker (token : Token) (s : Scan) : Except Error Scan := do
  let s ← (s.unwind (-1)).removeKey
  return { (s.advance 3).emit [token] with keyAllowed := false }

def flowStart (token : Token) (s : Scan) : Except Error Scan := do
  let s ← s.saveKey
  return { (s.advance 1).emit [token] with
    keyAllowed := true, pending := none, outerPending := s.pending :: s.outerPending }

def flowEnd (token : Token) (s : Scan) : Except Error Scan := do
  let s ← s.removeKey
  match s.outerPending with
  | [] => throw .unexpectedToken
  | pending :: outerPending =>
    return { (s.advance 1).emit [token] with keyAllowed := false, pending, outerPending }

def flowEntry (s : Scan) : Except Error Scan := do
  let s ← s.removeKey
  return { (s.advance 1).emit [.flowEntry] with keyAllowed := true }

def blockEntry (s : Scan) : Except Error Scan := do
  if !s.inFlow && !s.keyAllowed then throw .misplaced
  let (opened, s') := if s.inFlow then (false, s) else s.openBlock s.column
  let s' ← (if opened then s'.emit [.blockSequenceStart] else s').removeKey
  return { (s'.advance 1).emit [.blockEntry] with keyAllowed := true }

def explicitKey (s : Scan) : Except Error Scan := do
  if !s.inFlow && !s.keyAllowed then throw .misplaced
  let (opened, s') := if s.inFlow then (false, s) else s.openBlock s.column
  let s' ← (if opened then s'.emit [.blockMappingStart] else s').removeKey
  return { (s'.advance 1).emit [.key] with keyAllowed := !s.inFlow }

/-- The colon of a value. If a key is pending, it is one now, and in a block it may start a mapping. -/
def value (s : Scan) : Except Error Scan := do
  match s.pending with
  | some k =>
    let (opened, s') := if s.inFlow then (false, s) else s.openBlock k.column
    let s' := s'.splice k.tokensBefore (if opened then [.blockMappingStart, .key] else [.key])
    return { (s'.advance 1).emit [.value] with keyAllowed := false, pending := none }
  | none =>
    if !s.inFlow && !s.keyAllowed then throw .misplaced
    let (opened, s') := if s.inFlow then (false, s) else s.openBlock s.column
    let s' := if opened then s'.emit [.blockMappingStart] else s'
    return { (s'.advance 1).emit [.value] with keyAllowed := !s.inFlow }

/-- A quoted scalar, which may be a key. Here and below, the fuel bounds the number of characters. -/
def quoted (fuel : Nat) (double : Bool) (s : Scan) : Except Error Scan := do
  let s ← s.saveKey
  let (content, rest) ← readQuoted double fuel (s.rest.drop 1)
  return { (s.advanceTo rest).emit [.scalar content false] with keyAllowed := false }

def plain (fuel : Nat) (s : Scan) : Except Error Scan := do
  let s ← s.saveKey
  let found := readPlain s.inFlow (s.indent + 1) fuel s.rest
  return { (s.advanceTo found.rest).emit [.scalar found.content true] with keyAllowed := found.endsLine }

def block (fuel : Nat) (folded : Bool) (s : Scan) : Except Error Scan := do
  let s ← s.removeKey
  let (content, rest) ← readBlock fuel folded s.indent (s.rest.drop 1)
  return { (s.advanceTo rest).emit [.scalar content false] with keyAllowed := true }

def startsPlain (inFlow : Bool) (c : Char) (rest : Text) : Bool :=
  !(isSpaceOrTab c || isBreak c || "-?:,[]\x7b\x7d#&*!|>'\"%@`".toList.contains c) ||
    (!atGap rest && (c == '-' || (!inFlow && (c == '?' || c == ':'))))

def token (fuel : Nat) (c : Char) (rest : Text) (s : Scan) : Except Error Scan :=
  if s.column == 0 && atMarker startMarker (c :: rest) then s.marker .documentStart
  else if s.column == 0 && atMarker endMarker (c :: rest) then s.marker .documentEnd
  else if c == '[' then s.flowStart .flowSequenceStart
  else if c == '\x7b' then s.flowStart .flowMappingStart
  else if c == ']' then s.flowEnd .flowSequenceEnd
  else if c == '\x7d' then s.flowEnd .flowMappingEnd
  else if c == ',' then s.flowEntry
  else if c == '-' && atGap rest then s.blockEntry
  else if c == '?' && (s.inFlow || atGap rest) then s.explicitKey
  else if c == ':' && (s.inFlow || atGap rest) then s.value
  else if c == '|' && !s.inFlow then s.block fuel false
  else if c == '>' && !s.inFlow then s.block fuel true
  else if c == '\'' then s.quoted fuel false
  else if c == '"' then s.quoted fuel true
  else if startsPlain s.inFlow c rest then s.plain fuel
  else .error .strayCharacter

/-- Reads tokens up to the end of the text. Each takes at least a character, so fuel that bounds the number
of characters bounds that of the tokens, too. -/
def run : Nat → Scan → Except Error (List Token)
  | 0, _ => .error .strayCharacter
  | fuel + 1, s => do
    let s ← s.passGap.dropStale
    match s.rest with
    | [] =>
      let s ← (s.unwind (-1)).removeKey
      return s.tokens
    | c :: rest =>
      let s ← (s.unwind s.column).token (fuel + 1) c rest
      run fuel s

end Scan

/-- The tokens of a text whose line breaks are unified. -/
def Token.ofText (t : Text) : Except Error (List Token) :=
  let rest := if t.head? == some '\uFEFF' then t.drop 1 else t
  Scan.run (t.length + 1) { rest }

end Playground.Yaml
