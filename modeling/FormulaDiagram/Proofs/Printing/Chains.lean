import FormulaDiagram.Formula.Printer

/-!
The text of a formula by recursion. The operands of a chain are found by going down its left side and are written from
the last one to the first. A recursion over the formula gives the same text, if it writes a left operand that begins a
longer chain without parentheses: what is left of a chain after its last operand is again a chain. So the text is put
together from those of the parts.
-/

namespace FormulaDiagram.Formula

/-- The formula is the beginning of a longer chain of the connective. -/
def beginsChain (connective : Connective) : Formula → Bool
  | .binary _ connective' _ _ => connective' = connective && connective.isLeftAssociative
  | _ => false

/-- Parentheses are opened, to be closed behind what is written in between. -/
def writeOpening (enclosed : Bool) (rest : List Char) : List Char := if enclosed then '(' :: rest else rest

/-- Parentheses that were opened are closed. -/
def writeClosing (enclosed : Bool) (rest : List Char) : List Char := if enclosed then ')' :: rest else rest

/-- Writes a formula, in parentheses or without, in front of a text. -/
def writeOnto : Formula → Bool → List Char → List Char
  | .atom _ a, enclosed, rest => writeOpening enclosed (a.writeOnto (writeClosing enclosed rest))
  | .negation _ operand, enclosed, rest =>
    writeOpening enclosed ('¬' :: operand.writeOnto operand.isCompound (writeClosing enclosed rest))
  | .binary _ connective left right, enclosed, rest =>
    let written := right.writeOnto right.isCompound (writeClosing enclosed rest)
    writeOpening enclosed
      (left.writeOnto (left.isCompound && !left.beginsChain connective)
        (' ' :: connective.glyph.toList ++ ' ' :: written))
  | .quantified _ quantifier bound body, enclosed, rest =>
    writeOpening enclosed
      (quantifier.glyph.toList ++ bound.name.toList ++ '.' :: body.writeOnto false (writeClosing enclosed rest))

theorem writeOnto_true (f : Formula) (rest : List Char) :
    f.writeOnto true rest = '(' :: f.writeOnto false (')' :: rest) := by
  cases f <;> rfl

/-! ### Operands of a chain -/

variable {connective : Connective}

/-- The operand of a chain behind the connective. -/
def operandOnto (connective : Connective) (rest : List Char) (operand : Formula) : List Char :=
  ' ' :: connective.glyph.toList ++ ' ' :: operand.writeOnto operand.isCompound rest

/-- Going down a chain changes nothing of its text: what begins the chain is its first operand in the end, and the right
operands on the way stand behind it. -/
theorem writeOnto_operands (hc : connective.isLeftAssociative) (first : Formula) (others : Array Formula)
    (rest : List Char) :
    (first.operands connective others).1.writeOnto (first.operands connective others).1.isCompound
        ((first.operands connective others).2.toList.foldl (operandOnto connective) rest) =
      first.writeOnto (first.isCompound && !first.beginsChain connective)
        (others.toList.foldl (operandOnto connective) rest) := by
  induction first generalizing others with
  | binary facts connective' left right ihl _ =>
      rw [operands]
      by_cases h : connective' = connective
      · have hbegins : (binary facts connective' left right).beginsChain connective = true := by
          simp [beginsChain, h, hc]
        rw [if_pos h, ihl, Array.toList_push, List.foldl_append, hbegins, h]
        rfl
      · have hbegins : (binary facts connective' left right).beginsChain connective = false := by
          rw [beginsChain, decide_eq_false h, Bool.false_and]
        rw [if_neg h, hbegins, Bool.not_false, Bool.and_true]
  | _ => rfl

theorem writeOnto_joinedOperands (facts : NodeFacts) (left right : Formula) (rest : List Char) :
    (joinedOperands connective left right).1.writeOnto (joinedOperands connective left right).1.isCompound
        ((joinedOperands connective left right).2.toList.foldl (operandOnto connective) rest) =
      (binary facts connective left right).writeOnto false rest := by
  rw [joinedOperands]
  by_cases hc : connective.isLeftAssociative
  · rw [if_pos hc, writeOnto_operands hc]
    rfl
  · have hbegins : left.beginsChain connective = false := by
      unfold beginsChain
      split
      · rw [Bool.eq_false_iff.2 hc, Bool.and_false]
      · rfl
    rw [if_neg hc, writeOnto, hbegins, Bool.not_false, Bool.and_true]
    rfl

theorem size_le_sizeAll {fs : List Formula} {f : Formula} (h : f ∈ fs) : f.size ≤ sizeAll fs := by
  induction fs with
  | nil => cases h
  | cons g fs ih =>
      rw [sizeAll_cons]
      rcases List.mem_cons.1 h with rfl | h
      · exact Nat.le_add_right _ _
      · exact Nat.le_trans (ih h) (Nat.le_add_left _ _)

/-! ### The text -/

theorem writeOperand_eq {f : Formula} (h : ∀ rest, f.write rest = f.writeOnto false rest) (rest : List Char) :
    f.writeOperand rest = f.writeOnto f.isCompound rest := by
  rw [writeOperand, h, h]
  cases f.isCompound with
  | false => rfl
  | true => exact (f.writeOnto_true rest).symm

theorem writeOthers_eq {others : List Formula} (h : ∀ f ∈ others, ∀ rest, f.write rest = f.writeOnto false rest)
    (rest : List Char) : writeOthers connective others rest = others.foldl (operandOnto connective) rest := by
  induction others generalizing rest with
  | nil => rw [writeOthers, List.foldl_nil]
  | cons operand before ih =>
      obtain ⟨hoperand, hbefore⟩ := List.forall_mem_cons.1 h
      rw [writeOthers, writeOperand_eq hoperand, ih hbefore, List.foldl_cons, operandOnto]

/-- A formula is written as by recursion. -/
theorem write_eq (f : Formula) (rest : List Char) : f.write rest = f.writeOnto false rest := by
  have ih : ∀ g : Formula, g.size < f.size → ∀ rest, g.write rest = g.writeOnto false rest :=
    fun g _ rest => write_eq g rest
  cases f with
  | atom facts a =>
      rw [write]
      rfl
  | negation facts operand =>
      rw [write, writeOperand_eq (ih operand (Nat.lt_succ_self _))]
      rfl
  | binary facts connective left right =>
      have hsize := size_joinedOperands connective left right
      have hfirst : (joinedOperands connective left right).1.size < left.size + right.size + 1 := by omega
      have hothers : ∀ g ∈ (joinedOperands connective left right).2.toList, g.size < left.size + right.size + 1 := by
        intro g hg
        have := size_le_sizeAll hg
        omega
      rw [write, writeOperand_eq (ih _ hfirst), writeOthers_eq fun g hg => ih g (hothers g hg)]
      exact writeOnto_joinedOperands facts left right rest
  | quantified facts quantifier bound body =>
      rw [write, ih body (Nat.lt_succ_self _)]
      rfl
termination_by f.size

theorem text_eq (f : Formula) : f.text = String.ofList (f.writeOnto false []) := by
  rw [text, write_eq]

theorem text_ofAtom (a : Atom) (span : Span) : (ofAtom a span).text = a.text := by
  rw [text, ofAtom, write]
  rfl

end FormulaDiagram.Formula

namespace FormulaDiagram

/-! ### Texts that are put together from those of parts -/

namespace Term

mutual

/-- The text of a term. -/
def printed : Term → String
  | .variable name _ => name
  | .function name arguments _ => name ++ "(" ++ ", ".intercalate (printedAll arguments) ++ ")"

def printedAll : List Term → List String
  | [] => []
  | t :: ts => printed t :: printedAll ts

end

mutual

theorem writeOnto_eq (t : Term) (rest : List Char) : t.writeOnto rest = t.printed.toList ++ rest := by
  cases t with
  | «variable» name span => rfl
  | function name arguments span =>
      rw [writeOnto, writeAll_eq arguments, printed]
      simp

theorem writeAll_eq (ts : List Term) (rest : List Char) :
    writeAll ts rest = (", ".intercalate (printedAll ts)).toList ++ rest := by
  cases ts with
  | nil => rfl
  | cons t ts =>
      cases ts with
      | nil => rw [writeAll, writeMore, writeOnto_eq t, printedAll, printedAll, String.intercalate_singleton]
      | cons u us =>
          have hmore : writeMore (u :: us) rest = ',' :: ' ' :: writeAll (u :: us) rest := rfl
          rw [writeAll, hmore, writeOnto_eq t, writeAll_eq (u :: us)]
          simp [printedAll]

end

end Term

namespace Atom

/-- The text of an atom. -/
def printed : Atom → String
  | .proposition name => name
  | .predicate name arguments => name ++ "(" ++ ", ".intercalate (Term.printedAll arguments) ++ ")"
  | .equality left right negated => left.printed ++ (if negated then " ≠ " else " = ") ++ right.printed

theorem writeOnto_eq (a : Atom) (rest : List Char) : a.writeOnto rest = a.printed.toList ++ rest := by
  cases a with
  | proposition name => rfl
  | predicate name arguments =>
      rw [writeOnto, Term.writeAll_eq, printed]
      simp
  | equality left right negated =>
      rw [writeOnto, left.writeOnto_eq, right.writeOnto_eq, printed]
      cases negated <;> simp

end Atom

namespace Formula

/-- A text as it stands in another one, in parentheses or without. -/
def parenthesised (enclosed : Bool) (text : String) : String := if enclosed then "(" ++ text ++ ")" else text

/-- The formula stands without parentheses as the left operand of the connective: it is an atom, a negation, or a
formula of the same connective, if that groups to the left. -/
def isBareLeft (connective : Connective) : Formula → Bool
  | .atom _ _ => true
  | .negation _ _ => true
  | .binary _ connective' _ _ => connective' = connective && connective.isLeftAssociative
  | .quantified _ _ _ _ => false

/-- The text of a formula by recursion. -/
def printed : Formula → String
  | .atom _ a => a.printed
  | .negation _ operand => "¬" ++ parenthesised operand.isCompound operand.printed
  | .binary _ connective left right =>
    parenthesised (!left.isBareLeft connective) left.printed ++ " " ++ connective.glyph ++ " " ++
      parenthesised right.isCompound right.printed
  | .quantified _ quantifier bound body => quantifier.glyph ++ bound.name ++ "." ++ body.printed

theorem not_isBareLeft (connective : Connective) (f : Formula) :
    (!f.isBareLeft connective) = (f.isCompound && !f.beginsChain connective) := by
  cases f <;> rfl

theorem toList_parenthesised (enclosed : Bool) (text : String) (rest : List Char) :
    (parenthesised enclosed text).toList ++ rest =
      writeOpening enclosed (text.toList ++ writeClosing enclosed rest) := by
  cases enclosed <;> simp [parenthesised, writeOpening, writeClosing]

theorem writeOnto_eq (f : Formula) (enclosed : Bool) (rest : List Char) :
    f.writeOnto enclosed rest = (parenthesised enclosed f.printed).toList ++ rest := by
  induction f generalizing enclosed rest with
  | atom facts a => rw [writeOnto, a.writeOnto_eq, toList_parenthesised, printed]
  | negation facts operand ih =>
      rw [writeOnto, ih, toList_parenthesised enclosed, printed]
      simp
  | binary facts connective left right ihl ihr =>
      rw [writeOnto, ihl, ihr, toList_parenthesised enclosed, printed, not_isBareLeft]
      simp
  | quantified facts quantifier bound body ih =>
      rw [writeOnto, ih, toList_parenthesised enclosed, printed]
      simp [parenthesised]

/-- The text of a formula is put together from those of its parts. -/
theorem text_eq_printed (f : Formula) : f.text = f.printed := by
  rw [text_eq, writeOnto_eq, List.append_nil, String.ofList_toList]
  rfl

end Formula

end FormulaDiagram
