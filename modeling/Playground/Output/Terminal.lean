import Playground.Markup.Reference
import Playground.Output.Record

namespace Playground.Terminal

def decorate (style : Style) (raw : Text) : Text :=
  match style with
  | .glow => "✨ ".toList ++ raw ++ " ✨".toList
  | .emphasis => "**".toList ++ raw ++ "**".toList
  | .sentinel => '[' :: raw ++ [']']
  | .plain | .error => raw

/-- The raw text of a record. An escaped text can always be decoded. -/
def rawText (r : Record) : Text :=
  match Markup.unescape r.text with
  | .ok raw => raw
  | .error _ => r.text

def ofRecord (r : Record) : Text := decorate r.style (rawText r)

def ofRecords (rs : List Record) : Text := Text.unlines (rs.map ofRecord)

end Playground.Terminal
