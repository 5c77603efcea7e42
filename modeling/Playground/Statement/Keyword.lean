import Playground.Statement.Category
import Playground.Text.Basic

namespace Playground

/-- A row of the keyword table: the phrase a trimmed line starts with, or equals if `exact` is set. -/
structure Keyword where
  category : Category
  phrase : Text
  exact : Bool
deriving Repr, DecidableEq

namespace Keyword

def accepts (k : Keyword) (trimmed : Text) : Bool :=
  if k.exact then trimmed == k.phrase else trimmed.startsWith k.phrase

/-- What is left of a trimmed line after as many characters as the phrase has. -/
def residual (k : Keyword) (trimmed : Text) : Text := trimmed.drop k.phrase.length

/-- The rows in order. Phrases that end with a space ask for an argument. -/
def table : List Keyword :=
  [⟨.blockEnd, "end sus".toList, false⟩,
   ⟨.blockEnd, "end vibe".toList, false⟩,
   ⟨.elseBranch, "plot twist".toList, true⟩,
   ⟨.glowPrint, "skibidi spill ".toList, false⟩,
   ⟨.emphasisPrint, "rizzmode spill ".toList, false⟩,
   ⟨.plainPrint, "spill ".toList, false⟩,
   ⟨.variableDecl, "braincell ".toList, false⟩,
   ⟨.conditionalOpen, "sus check ".toList, false⟩,
   ⟨.loopOpen, "vibe until ".toList, false⟩,
   ⟨.compoundAdd, "sum ".toList, false⟩,
   ⟨.compoundSub, "sub ".toList, false⟩,
   ⟨.compoundMul, "mul ".toList, false⟩,
   ⟨.compoundDiv, "div ".toList, false⟩]

def find? (trimmed : Text) : Option Keyword := table.find? (·.accepts trimmed)

end Keyword

end Playground
