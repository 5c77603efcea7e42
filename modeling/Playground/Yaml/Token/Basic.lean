import Playground.Text.Basic

namespace Playground.Yaml

/-- A token. Blocks, which the text shows by indentation only, have tokens for where they start and end. -/
inductive Token where
  | documentStart
  | documentEnd
  | blockSequenceStart
  | blockMappingStart
  | blockEnd
  | flowSequenceStart
  | flowSequenceEnd
  | flowMappingStart
  | flowMappingEnd
  | blockEntry
  | flowEntry
  | key
  | value
  /-- A scalar with its content; `plain` tells that it was written without quotes or block header. -/
  | scalar (content : Text) (plain : Bool)
deriving Repr, DecidableEq

end Playground.Yaml
