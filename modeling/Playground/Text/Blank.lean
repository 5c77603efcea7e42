import Playground.Text.Basic

namespace Playground.Text

/-- The blank characters: the ASCII controls for tabs, line ends and separators, the space, the next-line
and no-break characters, and the Unicode spaces and line and paragraph separators. -/
def isBlank (c : Char) : Bool :=
  let n := c.toNat
  (9 ≤ n && n ≤ 13) || (0x1C ≤ n && n ≤ 0x20) || n == 0x85 || n == 0xA0 || n == 0x1680 ||
    (0x2000 ≤ n && n ≤ 0x200A) || n == 0x2028 || n == 0x2029 || n == 0x202F || n == 0x205F || n == 0x3000

def trimStart (t : Text) : Text := t.dropWhile isBlank

def trimEnd (t : Text) : Text := dropEndWhile isBlank t

def trim (t : Text) : Text := trimEnd (trimStart t)

def allBlank (t : Text) : Bool := t.all isBlank

/-- The words of a text: its maximal runs of characters that are not blank. -/
def words (t : Text) : List Text := (splitBy isBlank t).filter (!·.isEmpty)

end Playground.Text
