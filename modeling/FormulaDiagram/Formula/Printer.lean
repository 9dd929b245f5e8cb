import FormulaDiagram.Formula.Basic

/-!
The text of a formula. Operands that are joined or quantified formulas stand in parentheses, except that a chain
of one connective that groups to the left is written without them; the body of a quantifier never has any.
Texts are written in front of what follows them, so a chain is written from its end, operand by operand.
-/

namespace FormulaDiagram

namespace Term

mutual

def writeOnto : Term → List Char → List Char
  | .variable name _, rest => name.toList ++ rest
  | .function name arguments _, rest => name.toList ++ '(' :: writeAll arguments (')' :: rest)

/-- Terms with a comma between them. -/
def writeAll : List Term → List Char → List Char
  | [], rest => rest
  | t :: ts, rest => writeOnto t (writeMore ts rest)

/-- Terms with a comma before each. -/
def writeMore : List Term → List Char → List Char
  | [], rest => rest
  | t :: ts, rest => ',' :: ' ' :: writeOnto t (writeMore ts rest)

end

end Term

namespace Atom

def writeOnto : Atom → List Char → List Char
  | .proposition name, rest => name.toList ++ rest
  | .predicate name arguments, rest => name.toList ++ '(' :: Term.writeAll arguments (')' :: rest)
  | .equality left right negated, rest =>
    left.writeOnto (' ' :: (if negated then '≠' else '=') :: ' ' :: right.writeOnto rest)

def text (a : Atom) : String := String.ofList (a.writeOnto [])

end Atom

namespace Formula

/-- The formula needs parentheses as an operand. -/
def isCompound : Formula → Bool
  | .atom _ _ => false
  | .negation _ _ => false
  | .binary _ _ _ _ => true
  | .quantified _ _ _ _ => true

/-- The first operand of a chain of the connective, and the others, the last one first. A chain nests to the left, so
the right operands are kept on the way down. -/
def operands (connective : Connective) (first : Formula) (others : Array Formula) : Formula × Array Formula :=
  match first with
  | .binary facts connective' left right =>
    if connective' = connective then left.operands connective (others.push right)
    else (.binary facts connective' left right, others)
  | first => (first, others)

/-- The operands of two formulas that are joined by the connective. -/
def joinedOperands (connective : Connective) (left right : Formula) : Formula × Array Formula :=
  if connective.isLeftAssociative then left.operands connective #[right] else (left, #[right])

theorem size_operands (connective : Connective) (first : Formula) (others : Array Formula) :
    (first.operands connective others).1.size + sizeAll (first.operands connective others).2.toList ≤
      first.size + sizeAll others.toList := by
  induction first generalizing others with
  | binary facts connective' left right ihl _ =>
      rw [operands]
      split
      · refine Nat.le_trans (ihl _) ?_
        rw [Array.toList_push, sizeAll_append, sizeAll_cons, size]
        show _ + (_ + (_ + 0)) ≤ _
        omega
      · exact Nat.le_refl _
  | _ => exact Nat.le_refl _

theorem size_joinedOperands (connective : Connective) (left right : Formula) :
    (joinedOperands connective left right).1.size + sizeAll (joinedOperands connective left right).2.toList ≤
      left.size + right.size := by
  rw [joinedOperands]
  split
  · exact size_operands connective left #[right]
  · exact Nat.le_refl _

mutual

/-- Writes a formula in front of a text. -/
def write (f : Formula) (rest : List Char) : List Char :=
  match f with
  | .atom _ a => a.writeOnto rest
  | .negation _ operand => '¬' :: operand.writeOperand rest
  | .binary _ connective left right =>
    let chain := joinedOperands connective left right
    chain.1.writeOperand (writeOthers connective chain.2.toList rest)
  | .quantified _ quantifier bound body =>
    quantifier.glyph.toList ++ bound.name.toList ++ '.' :: body.write rest
termination_by 2 * f.size
decreasing_by
  all_goals simp only [size]
  · omega
  · have := size_joinedOperands connective left right
    have := (joinedOperands connective left right).1.size_pos
    omega
  · have := size_joinedOperands connective left right
    omega
  · omega

/-- Writes a formula as an operand, in parentheses if it needs them. -/
def writeOperand (f : Formula) (rest : List Char) : List Char :=
  if f.isCompound then '(' :: f.write (')' :: rest) else f.write rest
termination_by 2 * f.size + 1
decreasing_by all_goals exact Nat.lt_succ_self _

/-- Writes operands of a chain, the last one first, each with the connective in front of it. -/
def writeOthers (connective : Connective) (others : List Formula) (rest : List Char) : List Char :=
  match others with
  | [] => rest
  | operand :: before =>
    writeOthers connective before (' ' :: connective.glyph.toList ++ ' ' :: operand.writeOperand rest)
termination_by 2 * sizeAll others + 2
decreasing_by
  all_goals
    have := operand.size_pos
    simp only [sizeAll_cons]
    omega

end

variable (f : Formula)

/-- The text of a formula. -/
def text : String := String.ofList (f.write [])

/-- The text of the root alone: the whole of an atom, the sign of an operator, the head of a quantifier. -/
def label : Formula → String
  | .atom _ a => a.text
  | .negation _ _ => "¬"
  | .binary _ connective _ _ => connective.glyph
  | .quantified _ quantifier bound _ => quantifier.glyph ++ bound.name

end Formula

end FormulaDiagram
