import Playground.Text.Hex
import Playground.Yaml.Basic

namespace Playground.Yaml

def escapeMeaning? : Char → Option Char
  | '0' => some '\x00'
  | 'a' => some '\x07'
  | 'b' => some '\x08'
  | 't' | '\t' => some '\t'
  | 'n' => some '\n'
  | 'v' => some '\x0B'
  | 'f' => some '\x0C'
  | 'r' => some '\r'
  | 'e' => some '\x1B'
  | ' ' => some ' '
  | '"' => some '"'
  | '\\' => some '\\'
  | '/' => some '/'
  | 'N' => some '\u0085'
  | '_' => some '\u00A0'
  | 'L' => some '\u2028'
  | 'P' => some '\u2029'
  | _ => none

def hexEscapeWidth? : Char → Option Nat
  | 'x' => some 2
  | 'u' => some 4
  | 'U' => some 8
  | _ => none

/-- The character with the given number, if there is one. Half a surrogate pair, which no text holds, becomes the
replacement character. -/
def characterOf (n : Nat) : Except Error Char :=
  if n < 0x110000 then .ok (if 0xD800 ≤ n && n < 0xE000 then '\uFFFD' else Char.ofNat n)
  else .error (.badContent (if n < 0x80000000 then .noSuchCharacter else .characterTooLarge))

/-- What an escape stands for, given the text after the backslash, and the rest. An escaped line break
stands for the further breaks after it. -/
def readEscape : Text → Except Error (Text × Text)
  | [] => .error .badEscape
  | c :: rest =>
    match escapeMeaning? c, hexEscapeWidth? c with
    | some meaning, _ => .ok ([meaning], rest)
    | none, some width =>
      let digits := rest.take width
      match if digits.length == width then Text.ofHex? digits else none with
      | some n => do return ([← characterOf n], rest.drop width)
      | none => .error .badEscape
    | none, none =>
      if isBreak c then
        let passage := passBlankLines true 0 rest
        if passage.marker then .error .markerInQuote else .ok (passage.breaks, passage.rest)
      else .error .badEscape

/-- The content of a quoted scalar after its opening quote, and the rest after the closing one. The fuel
bounds the number of steps. -/
def readQuoted (double : Bool) : Nat → Text → Except Error (Text × Text)
  | 0, _ => .error .unclosedQuote
  | _, [] => .error .unclosedQuote
  | fuel + 1, c :: rest =>
    let quote := if double then '"' else '\''
    if c == quote then
      if !double && rest.head? == some '\'' then do
        let (content, rest) ← readQuoted double fuel (rest.drop 1)
        return ('\'' :: content, rest)
      else .ok ([], rest)
    else if double && c == '\\' then do
      let (meaning, rest) ← readEscape rest
      let (content, rest) ← readQuoted double fuel rest
      return (meaning ++ content, rest)
    else if isSpaceOrTab c || isBreak c then
      let blanks := (c :: rest).takeWhile isSpaceOrTab
      match (c :: rest).dropWhile isSpaceOrTab with
      | [] => .error .unclosedQuote
      | d :: rest =>
        if isBreak d then
          let passage := passBlankLines true 0 rest
          if passage.marker then .error .markerInQuote
          else do
            let (content, rest) ← readQuoted double fuel passage.rest
            return (fold d passage.breaks ++ content, rest)
        else do
          let (content, rest) ← readQuoted double fuel (d :: rest)
          return (blanks ++ content, rest)
    else do
      let (content, rest) ← readQuoted double fuel rest
      return (c :: content, rest)

end Playground.Yaml
