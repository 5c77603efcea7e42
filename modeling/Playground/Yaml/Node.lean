import Playground.Yaml.Basic
import Playground.Yaml.Token.Basic

namespace Playground.Yaml

inductive Node where
  | scalar (content : Text) (plain : Bool)
  | sequence (items : List Node)
  | mapping (entries : List (Node × Node))
deriving Inhabited

namespace Node

/-- What stands where nothing is written, such as the value of a key without a colon. -/
def absent : Node := .scalar [] true

def next (ts : List Token) : List Token → Bool
  | t :: _ => ts.contains t
  | [] => false

/-- Reads a node by `read`, unless one of the given tokens shows that it is left out. -/
def orAbsent (ends : List Token) (read : List Token → Except Error (Node × List Token))
    (ts : List Token) : Except Error (Node × List Token) :=
  if next ends ts then .ok (absent, ts) else read ts

/-- Reads the value of an entry, if a value token says that there is one. -/
def valueOrAbsent (ends : List Token) (read : List Token → Except Error (Node × List Token)) :
    List Token → Except Error (Node × List Token)
  | .value :: rest => orAbsent ends read rest
  | ts => .ok (absent, ts)

def afterComma : List Token → Except Error (List Token)
  | .flowEntry :: rest => .ok rest
  | _ => .error .unexpectedToken

mutual

/-- A node of a block, or of a flow collection if `inFlow` is set. With `bare` set, entries may follow
without the start of a sequence. The fuel bounds the number of parts, here and below. -/
def read (inFlow bare : Bool) : Nat → List Token → Except Error (Node × List Token)
  | 0, _ => .error .unexpectedToken
  | fuel + 1, ts => match ts with
    | .scalar content plain :: rest => .ok (.scalar content plain, rest)
    | .flowSequenceStart :: rest => do
      let (items, rest) ← flowItems true fuel rest
      return (.sequence items, rest)
    | .flowMappingStart :: rest => do
      let (entries, rest) ← flowEntries true fuel rest
      return (.mapping entries, rest)
    | .blockEntry :: _ =>
      if bare then do
        let (items, rest) ← bareItems fuel ts
        return (.sequence items, rest)
      else .error .unexpectedToken
    | .blockSequenceStart :: rest =>
      if inFlow then .error .unexpectedToken
      else do
        let (items, rest) ← blockItems fuel rest
        return (.sequence items, rest)
    | .blockMappingStart :: rest =>
      if inFlow then .error .unexpectedToken
      else do
        let (entries, rest) ← blockEntries fuel rest
        return (.mapping entries, rest)
    | _ => .error .unexpectedToken

def blockItems : Nat → List Token → Except Error (List Node × List Token)
  | 0, _ => .error .unexpectedToken
  | fuel + 1, .blockEntry :: rest => do
    let (item, rest) ← orAbsent [.blockEntry, .blockEnd] (read false false fuel) rest
    let (items, rest) ← blockItems fuel rest
    return (item :: items, rest)
  | _ + 1, .blockEnd :: rest => .ok ([], rest)
  | _ + 1, _ => .error .unexpectedToken

/-- The entries of a sequence that has no block of its own. -/
def bareItems : Nat → List Token → Except Error (List Node × List Token)
  | 0, _ => .error .unexpectedToken
  | fuel + 1, .blockEntry :: rest => do
    let (item, rest) ← orAbsent [.blockEntry, .key, .value, .blockEnd] (read false false fuel) rest
    let (items, rest) ← bareItems fuel rest
    return (item :: items, rest)
  | _ + 1, ts => .ok ([], ts)

def blockEntries : Nat → List Token → Except Error (List (Node × Node) × List Token)
  | 0, _ => .error .unexpectedToken
  | fuel + 1, .key :: rest => do
    let ends := [.key, .value, .blockEnd]
    let (key, rest) ← orAbsent ends (read false true fuel) rest
    let (value, rest) ← valueOrAbsent ends (read false true fuel) rest
    let (entries, rest) ← blockEntries fuel rest
    return ((key, value) :: entries, rest)
  | _ + 1, .blockEnd :: rest => .ok ([], rest)
  | _ + 1, _ => .error .unexpectedToken

/-- The items of a flow sequence up to its end. An item may be a mapping of one entry without braces. -/
def flowItems (first : Bool) : Nat → List Token → Except Error (List Node × List Token)
  | 0, _ => .error .unexpectedToken
  | _ + 1, .flowSequenceEnd :: rest => .ok ([], rest)
  | fuel + 1, ts => do
    let ts ← if first then pure ts else afterComma ts
    match ts with
    | .flowSequenceEnd :: rest => return ([], rest)
    | .key :: rest =>
      let (key, rest) ← orAbsent [.value, .flowEntry, .flowSequenceEnd] (read true false fuel) rest
      let (value, rest) ← valueOrAbsent [.flowEntry, .flowSequenceEnd] (read true false fuel) rest
      let (items, rest) ← flowItems false fuel rest
      return (.mapping [(key, value)] :: items, rest)
    | _ =>
      let (item, rest) ← read true false fuel ts
      let (items, rest) ← flowItems false fuel rest
      return (item :: items, rest)

/-- The entries of a flow mapping up to its end. A node without a key token is a key without a value. -/
def flowEntries (first : Bool) : Nat → List Token → Except Error (List (Node × Node) × List Token)
  | 0, _ => .error .unexpectedToken
  | _ + 1, .flowMappingEnd :: rest => .ok ([], rest)
  | fuel + 1, ts => do
    let ts ← if first then pure ts else afterComma ts
    match ts with
    | .flowMappingEnd :: rest => return ([], rest)
    | .key :: rest =>
      let (key, rest) ← orAbsent [.value, .flowEntry, .flowMappingEnd] (read true false fuel) rest
      let (value, rest) ← valueOrAbsent [.flowEntry, .flowMappingEnd] (read true false fuel) rest
      let (entries, rest) ← flowEntries false fuel rest
      return ((key, value) :: entries, rest)
    | _ =>
      let (key, rest) ← read true false fuel ts
      let (entries, rest) ← flowEntries false fuel rest
      return ((key, absent) :: entries, rest)

end

def dropEnds (ts : List Token) : List Token := ts.dropWhile (· == .documentEnd)

/-- The root of the one document that some tokens hold, if they hold any. -/
def ofTokens (ts : List Token) : Except Error (Option Node) := do
  match ts with
  | [] => return none
  | _ =>
    let start := match ts with
      | .documentStart :: rest => rest
      | _ => ts
    let explicit := next [.documentStart] ts
    let (root, rest) ←
      if explicit && (start.isEmpty || next [.documentStart, .documentEnd] start) then pure (absent, start)
      else read false false (2 * ts.length + 2) start
    match dropEnds rest with
    | [] => return some root
    | _ => throw .severalDocuments

end Node

end Playground.Yaml
