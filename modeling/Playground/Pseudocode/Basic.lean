import Playground.Nesting
import Playground.Statement.Basic

namespace Playground

/-- What is reported about a statement without refusing it. -/
inductive Warning where
  | extraTokens (trimmed : Text) (ignored : List Text)
deriving Repr, DecidableEq

def Warning.message : Warning → Text
  | .extraTokens trimmed ignored =>
    "Ignoring extra tokens in '".toList ++ trimmed ++ "': ".toList ++ Text.joinWith [' '] ignored

namespace Statement

/-- A compound assignment of the first two words of the residual. With fewer words the line is copied as a
fallback would be. -/
def compound (s : Statement) (sign : Char) : Text :=
  match s.residual.words with
  | target :: value :: _ => target ++ [' ', sign, '=', ' '] ++ value
  | _ => s.trimmed.substituteTruth

def body (s : Statement) : Text :=
  match s.category with
  | .plainPrint => "print(".toList ++ s.residual ++ [')']
  | .glowPrint => "print(\"✨\", ".toList ++ s.residual ++ ", \"✨\")".toList
  | .emphasisPrint => "print(\"**\", ".toList ++ s.residual ++ ", \"**\")".toList
  | .conditionalOpen => "if ".toList ++ s.residual ++ [':']
  | .elseBranch => "else:".toList
  | .loopOpen => "while ".toList ++ s.residual ++ [':']
  | c => match c.compoundSign? with
    | some sign => s.compound sign
    | none => s.residual

def pseudocode (indentUnit : Text) (depth : Nat) (s : Statement) : Option Text :=
  match s.category with
  | .blockEnd => none
  | .blankOrComment => some s.raw
  | _ => some (indentUnit.repeated depth ++ s.body)

/-- The warning that a statement gives: a compound assignment whose residual has more than two words. -/
def warning? (s : Statement) : Option Warning :=
  match s.category.compoundSign?, s.residual.words with
  | some _, _ :: _ :: extra :: more => some (.extraTokens s.trimmed (extra :: more))
  | _, _ => none

end Statement

namespace Pseudocode

/-- A line of pseudocode; a block end has no text. -/
structure Line where
  category : Category
  depth : Nat
  text : Option Text
deriving Repr, DecidableEq

/-- Pseudocode of a whole program, and the depth that its blocks leave open. -/
structure Program where
  lines : List Line
  finalDepth : Nat
deriving Repr, DecidableEq

def defaultIndentUnit : Text := "    ".toList

/-- The lines of statements that start at the given depth. -/
def linesFrom (indentUnit : Text) (depth : Nat) : List Statement → List Line
  | [] => []
  | s :: rest =>
    let here := Nesting.enter s.category depth
    ⟨s.category, here, s.pseudocode indentUnit here⟩ ::
      linesFrom indentUnit (Nesting.leave s.category here) rest

namespace Program

def ofSource (indentUnit source : Text) : Program :=
  let statements := Statement.ofSource source
  { lines := linesFrom indentUnit 0 statements
    finalDepth := Nesting.after 0 (statements.map (·.category)) }

/-- The display text: the lines that have a text, joined with line feeds. -/
def text (p : Program) : Text := Text.unlines (p.lines.filterMap (·.text))

end Program

def warnings (source : Text) : List Warning := (Statement.ofSource source).filterMap Statement.warning?

end Pseudocode

end Playground
