import Playground.Markup.Escape

namespace Playground

inductive Style where
  | plain
  | glow
  | emphasis
  | sentinel
  | error
deriving Repr, DecidableEq

namespace Style

def all : List Style := [plain, glow, emphasis, sentinel, error]

def name : Style → String
  | plain => "plain"
  | glow => "glow"
  | emphasis => "emphasis"
  | sentinel => "sentinel"
  | error => "error"

def ofName? (t : Text) : Option Style := all.find? fun s => s.name.toList == t

/-- Whether nothing but notices is shown. -/
def onlySentinels (styles : List Style) : Bool := styles.all (· == sentinel)

theorem ofName?_name (s : Style) : ofName? s.name.toList = some s := by cases s <;> decide

theorem ofName?_eq_some_iff {t : Text} {s : Style} : ofName? t = some s ↔ t = s.name.toList := by
  constructor
  · intro named
    rw [ofName?] at named
    have same := List.find?_some named
    exact (beq_iff_eq.mp same).symm
  · rintro rfl
    exact ofName?_name s

end Style

/-- A line of output with an escaped text. -/
structure Record where
  style : Style
  text : Text
deriving Repr, DecidableEq

/-- The fixed texts that stand where a program has printed nothing. -/
inductive Notice where
  | noCode
  | noOutput
  | running
  | cleared
deriving Repr, DecidableEq

def Notice.text : Notice → Text
  | .noCode => "No code to run!".toList
  | .noOutput => "Code executed successfully! No output statements found.".toList
  | .running => "Running your vibes...".toList
  | .cleared => "Output cleared. Ready for new vibes!".toList

namespace Record

/-- A record of a raw text. -/
def ofText (style : Style) (raw : Text) : Record := ⟨style, Markup.escape raw⟩

def sentinel (raw : Text) : Record := ofText .sentinel raw

def ofNotice (n : Notice) : Record := sentinel n.text

def failure (message : Text) : Record := ofText .error ("Error: ".toList ++ message)

end Record

end Playground
