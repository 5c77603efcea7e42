import Playground.Text.WordChar
import Playground.Text.Basic

namespace Playground.Text

def startsWithWord (word t : Text) : Bool :=
  t.startsWith word &&
    match t.drop word.length with
    | [] => true
    | next :: _ => !isWordChar next

/-- Replaces a word in what follows some text. `skip` counts the characters of a replaced word that are
still to be passed over, and `inWord` tells whether the character before is a word character. -/
def replaceWordFrom (word new : Text) : (skip : Nat) → (inWord : Bool) → Text → Text
  | _, _, [] => []
  | skip + 1, _, _ :: rest => replaceWordFrom word new skip true rest
  | 0, inWord, c :: rest =>
    if !inWord && startsWithWord word (c :: rest) then
      new ++ replaceWordFrom word new (word.length - 1) true rest
    else c :: replaceWordFrom word new 0 (isWordChar c) rest

/-- Replaces a word wherever it stands with no word character on either side. -/
def replaceWord (word new t : Text) : Text := replaceWordFrom word new 0 false t

def substituteTruth (t : Text) : Text :=
  replaceWord "nah".toList "False".toList (replaceWord "yeah".toList "True".toList t)

end Playground.Text
