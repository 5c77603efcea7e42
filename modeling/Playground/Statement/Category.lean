import Playground.Text.Basic

namespace Playground

inductive Category where
  | blankOrComment
  | blockEnd
  | elseBranch
  | glowPrint
  | emphasisPrint
  | plainPrint
  | variableDecl
  | conditionalOpen
  | loopOpen
  | compoundAdd
  | compoundSub
  | compoundMul
  | compoundDiv
  | fallback
deriving Repr, DecidableEq

namespace Category

def all : List Category :=
  [blankOrComment, blockEnd, elseBranch, glowPrint, emphasisPrint, plainPrint, variableDecl, conditionalOpen,
   loopOpen, compoundAdd, compoundSub, compoundMul, compoundDiv, fallback]

def name : Category → String
  | blankOrComment => "blank_or_comment"
  | blockEnd => "block_end"
  | elseBranch => "else_branch"
  | glowPrint => "glow_print"
  | emphasisPrint => "emphasis_print"
  | plainPrint => "plain_print"
  | variableDecl => "variable_decl"
  | conditionalOpen => "conditional_open"
  | loopOpen => "loop_open"
  | compoundAdd => "compound_add"
  | compoundSub => "compound_sub"
  | compoundMul => "compound_mul"
  | compoundDiv => "compound_div"
  | fallback => "fallback"

def ofName? (t : Text) : Option Category := all.find? fun c => c.name.toList == t

def compoundSign? : Category → Option Char
  | compoundAdd => some '+'
  | compoundSub => some '-'
  | compoundMul => some '*'
  | compoundDiv => some '/'
  | _ => none

theorem ofName?_name (c : Category) : ofName? c.name.toList = some c := by cases c <;> decide

theorem ofName?_eq_some_iff {t : Text} {c : Category} : ofName? t = some c ↔ t = c.name.toList := by
  constructor
  · intro named
    rw [ofName?] at named
    have same := List.find?_some named
    exact (beq_iff_eq.mp same).symm
  · rintro rfl
    exact ofName?_name c

end Category

end Playground
