import Playground.Text.Basic

namespace Playground.Example

def greeting : Text := Text.unlines [
  "braincell name = \"VIBE\"".toList,
  "skibidi spill \"Welcome to \" + name + \"! 💙\"".toList,
  [],
  "braincell vibes = 100".toList,
  "sus check vibes > 50".toList,
  "    spill \"The vibes are immaculate! ✨\"".toList,
  "plot twist".toList,
  "    spill \"Need more vibes...\"".toList,
  "end sus".toList]

def loop : Text := Text.unlines [
  "braincell count = 0".toList,
  "vibe until count >= 3".toList,
  "    spill \"Vibing... \" + str(count)".toList,
  "    sum count 1".toList,
  "end vibe".toList,
  "spill \"Loop complete! 🎵\"".toList]

def truth : Text := Text.unlines [
  "braincell is_cool = yeah".toList,
  "braincell is_boring = nah".toList,
  [],
  "sus check is_cool".toList,
  "    skibidi spill \"This language is fire! 🔥\"".toList,
  "end sus".toList]

/-- The examples in the order in which they are loaded. -/
def all : List Text := [greeting, loop, truth]

theorem all_ne_nil : all ≠ [] := List.cons_ne_nil _ _

end Playground.Example
