import Playground.Settings.Basic
import Playground.Yaml.Reader

namespace Playground.Settings

def ofText (t : Text) : Except Error Settings :=
  match Yaml.parse t with
  | .ok .null => .ok standard
  | .ok v => ofValue v
  | .error (.badContent fault) => .error (.unchecked fault)
  | .error _ => .error .unreadable

end Playground.Settings
