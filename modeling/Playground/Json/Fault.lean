import Playground.Text.Basic

namespace Playground.Json

inductive Cause where
  | byteOrderMark
  | expectedValue
  | expectedName
  | expectedColon
  | expectedComma
  | unterminatedString
  | controlCharacter
  | badEscape
  | badUnicodeEscape
  | extraData
deriving Repr, DecidableEq

/-- A fault found while `left` characters remained, or an integer with too many digits. -/
inductive Fault where
  | malformed (cause : Cause) (left : Nat)
  | tooManyDigits (count : Nat)
deriving Repr, DecidableEq

def Cause.message : Cause → String
  | .byteOrderMark => "Unexpected UTF-8 BOM (decode using utf-8-sig)"
  | .expectedValue => "Expecting value"
  | .expectedName => "Expecting property name enclosed in double quotes"
  | .expectedColon => "Expecting ':' delimiter"
  | .expectedComma => "Expecting ',' delimiter"
  | .unterminatedString => "Unterminated string starting at"
  | .controlCharacter => "Invalid control character at"
  | .badEscape => "Invalid \\escape"
  | .badUnicodeEscape => "Invalid \\uXXXX escape"
  | .extraData => "Extra data"

/-- A cause with its line, column and position in the text; lines and columns count from one. -/
def Cause.locate (cause : Cause) (text : Text) (position : Nat) : Text :=
  let before := text.take position
  let line := before.count '\n' + 1
  let column := (before.reverse.takeWhile (· != '\n')).length + 1
  cause.message.toList ++ ": line ".toList ++ Text.ofNat line ++ " column ".toList ++ Text.ofNat column ++
    " (char ".toList ++ Text.ofNat position ++ [')']

end Playground.Json
