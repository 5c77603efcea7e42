import Playground.Output.Literal
import Playground.Output.Record
import Playground.Statement.Basic

namespace Playground

/-- The style in which a print statement shows its literal. -/
def Category.printStyle? : Category → Option Style
  | .plainPrint => some .plain
  | .glowPrint => some .glow
  | .emphasisPrint => some .emphasis
  | _ => none

namespace Simulation

def printed? (s : Statement) : Option Record := do
  let style ← s.category.printStyle?
  let literal ← Literal.first? s.residual
  return Record.ofText style literal

/-- The argument of a print statement that holds no literal. -/
def unprinted? (s : Statement) : Option Text :=
  if s.category.printStyle?.isSome && (Literal.first? s.residual).isNone then some s.residual else none

def printed (source : Text) : List Record := (Statement.ofSource source).filterMap printed?

/-- The output of a program: a notice for a blank one, what it prints, or else a notice that it is nothing. -/
def output (source : Text) : List Record :=
  if source.allBlank then [.ofNotice .noCode]
  else match printed source with
    | [] => [.ofNotice .noOutput]
    | records => records

def unprinted (source : Text) : List Text :=
  if source.allBlank then [] else (Statement.ofSource source).filterMap unprinted?

end Simulation

end Playground
