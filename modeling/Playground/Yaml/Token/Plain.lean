import Playground.Yaml.Basic

namespace Playground.Yaml

/-- Whether a colon in front of the given text ends a plain scalar. -/
def colonEndsPlain (inFlow : Bool) (t : Text) : Bool :=
  atGap t || (inFlow && match t with
    | [] => false
    | c :: _ => ",[]\x7b\x7d".toList.contains c)

/-- The part of a plain scalar up to the next blank or to its end, and the rest. -/
def plainChunk (inFlow : Bool) : Text → Text × Text
  | [] => ([], [])
  | c :: rest =>
    if isSpaceOrTab c || isBreak c || (c == ':' && colonEndsPlain inFlow rest) ||
        (inFlow && ",?[]\x7b\x7d".toList.contains c) then ([], c :: rest)
    else
      let (chunk, rest) := plainChunk inFlow rest
      (c :: chunk, rest)

structure Plain where
  content : Text
  rest : Text
  endsLine : Bool

/-- Reads a plain scalar. Lines after the first must be indented by `indent` unless inside a flow collection.
The fuel bounds the number of chunks. -/
def readPlain (inFlow : Bool) (indent : Int) : Nat → Text → Plain
  | 0, t => ⟨[], t, false⟩
  | fuel + 1, t =>
    let (chunk, afterChunk) := plainChunk inFlow t
    if t.head? == some '#' || chunk.isEmpty then ⟨[], t, false⟩
    else
      let spaces := afterChunk.takeWhile (· == ' ')
      match afterChunk.dropWhile (· == ' ') with
      | [] => ⟨chunk, [], false⟩
      | c :: rest =>
        if isBreak c then
          let passage := passBlankLines false 0 rest
          if passage.marker || passage.rest.head? == some '#' ||
              (!inFlow && (passage.column : Int) < indent) then ⟨chunk, passage.rest, true⟩
          else
            let more := readPlain inFlow indent fuel passage.rest
            if more.content.isEmpty then ⟨chunk, passage.rest, true⟩
            else { more with content := chunk ++ fold c passage.breaks ++ more.content }
        else if spaces.isEmpty || c == '#' then ⟨chunk, c :: rest, false⟩
        else
          let more := readPlain inFlow indent fuel (c :: rest)
          if more.content.isEmpty then ⟨chunk, c :: rest, false⟩
          else { more with content := chunk ++ spaces ++ more.content }

end Playground.Yaml
