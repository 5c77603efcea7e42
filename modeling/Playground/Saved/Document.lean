import Playground.Run
import Playground.Yaml.Scalar

namespace Playground.Saved

/-- A key, a colon and a space behind an indentation, and then a text as a scalar. -/
def textEntry (indentation key : Text) (t : Text) : Text :=
  let lead := indentation ++ key ++ ": ".toList
  lead ++ Yaml.renderScalar (indentation.length + 2) lead.length t ++ ['\n']

def wordEntry (indentation key word : Text) : Text :=
  indentation ++ key ++ ": ".toList ++ word ++ ['\n']

/-- The entries of a line of pseudocode; the first one carries the dash. -/
def lineEntries (l : Pseudocode.Line) : Text :=
  wordEntry "  - ".toList "category".toList l.category.name.toList ++
    wordEntry "    ".toList "depth".toList (Text.ofNat l.depth) ++
    match l.text with
    | some t => textEntry "    ".toList "text".toList t
    | none => wordEntry "    ".toList "text".toList "null".toList

def recordEntries (r : Playground.Record) : Text :=
  wordEntry "  - ".toList "style".toList r.style.name.toList ++ textEntry "    ".toList "text".toList r.text

/-- The document of a run. -/
def document (r : Playground.Run) : Text :=
  textEntry [] "source".toList r.source ++
    "transpiled:\n  lines:\n".toList ++ r.program.lines.flatMap lineEntries ++
    wordEntry "  ".toList "final_depth".toList (Text.ofNat r.program.finalDepth) ++
    textEntry "  ".toList "text".toList r.program.text ++
    "simulation:\n  records:\n".toList ++ r.records.flatMap recordEntries

end Playground.Saved
