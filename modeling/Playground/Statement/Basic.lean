import Playground.Statement.Keyword
import Playground.Statement.TruthWord
import Playground.Text.Blank

namespace Playground

/-- A source line with its category. The residual is what the keyword leaves of the trimmed line; for a
blank line or a comment it is the line itself, for a fallback the trimmed line with truth words replaced. -/
structure Statement where
  raw : Text
  trimmed : Text
  category : Category
  residual : Text
deriving Repr, DecidableEq

namespace Statement

def ofLine (raw : Text) : Statement :=
  let trimmed := raw.trim
  if trimmed.isEmpty || trimmed.startsWith ['#'] then ⟨raw, trimmed, .blankOrComment, raw⟩
  else
    match Keyword.find? trimmed with
    | some k => ⟨raw, trimmed, k.category, k.residual trimmed⟩
    | none => ⟨raw, trimmed, .fallback, trimmed.substituteTruth⟩

def ofSource (source : Text) : List Statement := source.lines.map ofLine

theorem length_ofSource (source : Text) : (ofSource source).length = source.lines.length := by
  simp [ofSource]

end Statement

end Playground
