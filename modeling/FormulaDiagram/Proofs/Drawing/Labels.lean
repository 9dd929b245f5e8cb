import Mathlib.Data.List.Basic
import FormulaDiagram.Proofs.Drawing.Lines
import FormulaDiagram.Proofs.Nodes.Basic
import FormulaDiagram.Proofs.Printing.RoundTrip

/-!
What labels say about a formula. The label of an atom is its text, which is read in one way only, and it begins with an
identifier character, unlike the signs that the other labels begin with. So a label determines the root, with the number
of its children, and the labels of all nodes in pre-order determine the whole formula, places apart.
-/

namespace FormulaDiagram

/-! ### Texts are read in one way -/

theorem Formula.erased_eq_of_text {f g : Formula} (hf : ∀ name ∈ f.names, Text.IsName name)
    (hg : ∀ name ∈ g.names, Text.IsName name) (h : f.text = g.text) : f.erased = g.erased := by
  obtain ⟨tokens, hl, ht⟩ := tokenize_text hf
  obtain ⟨tokens', hl', ht'⟩ := tokenize_text hg
  obtain rfl : tokens = tokens' := by
    rw [h, hl'] at hl
    exact (Except.ok.inj hl).symm
  obtain ⟨f', hf', hs⟩ := (Grammar.printed f tokens ht).whole [] Grammar.stops_nil
  obtain ⟨g', hg', hs'⟩ := (Grammar.printed g tokens ht').whole [] Grammar.stops_nil
  have hunique : f' = g' := (hs.unique hs' rfl).1
  rw [← hf', ← hg', hunique]

theorem Atom.erased_eq_of_text {a b : Atom} (ha : ∀ name ∈ a.names, Text.IsName name)
    (hb : ∀ name ∈ b.names, Text.IsName name) (h : a.text = b.text) : a.erased = b.erased := by
  have herased : (Formula.ofAtom a (.point 0)).erased = (Formula.ofAtom b (.point 0)).erased :=
    Formula.erased_eq_of_text ha hb (by rw [Formula.text_ofAtom, Formula.text_ofAtom, h])
  injection herased

/-! ### The characters of labels -/

open SvgNode (Plain)

theorem Text.ne_of_isIdentifier {c d : Char} (h : Text.isIdentifier c) (hd : Text.isIdentifier d = false) : c ≠ d := by
  rintro rfl
  rw [hd] at h
  cases h

theorem Text.IsName.plain {s : String} (h : Text.IsName s) : Plain s.toList := by
  intro c hc
  have hne : ∀ d : Char, Text.isIdentifier d = false → c ≠ d := fun d => Text.ne_of_isIdentifier (h.2 c hc)
  refine ⟨hne '\n' (by decide +kernel), ?_⟩
  unfold SvgNode.escapeChar
  split
  · exact absurd rfl (hne '&' (by decide +kernel))
  · exact absurd rfl (hne '<' (by decide +kernel))
  · exact absurd rfl (hne '>' (by decide +kernel))
  · rfl

namespace Term

mutual

theorem plain_writeOnto (t : Term) (hn : ∀ name ∈ t.names, Text.IsName name) {rest : List Char} (hr : Plain rest) :
    Plain (t.writeOnto rest) := by
  cases t with
  | «variable» name => exact (hn name List.mem_cons_self).plain.append hr
  | function name arguments =>
      obtain ⟨hname, hall⟩ := List.forall_mem_cons.1 hn
      have harguments := plain_writeAll arguments hall (hr.cons (c := ')') (by decide))
      exact hname.plain.append (harguments.cons (by decide))

theorem plain_writeAll (ts : List Term) (hn : ∀ name ∈ namesAll ts, Text.IsName name) {rest : List Char}
    (hr : Plain rest) : Plain (writeAll ts rest) := by
  cases ts with
  | nil => exact hr
  | cons t ts =>
      obtain ⟨ht, hts⟩ := List.forall_mem_append.1 hn
      exact plain_writeOnto t ht (plain_writeMore ts hts hr)

theorem plain_writeMore (ts : List Term) (hn : ∀ name ∈ namesAll ts, Text.IsName name) {rest : List Char}
    (hr : Plain rest) : Plain (writeMore ts rest) := by
  cases ts with
  | nil => exact hr
  | cons t ts =>
      obtain ⟨ht, hts⟩ := List.forall_mem_append.1 hn
      have hmore := plain_writeOnto t ht (plain_writeMore ts hts hr)
      exact (hmore.cons (by decide)).cons (by decide)

end

theorem exists_writeOnto (t : Term) (hn : ∀ name ∈ t.names, Text.IsName name) (rest : List Char) :
    ∃ c cs, t.writeOnto rest = c :: cs ∧ Text.isIdentifier c := by
  have hname : Text.IsName t.name := by
    cases t with
    | «variable» name => exact hn name List.mem_cons_self
    | function name arguments => exact hn name List.mem_cons_self
  obtain ⟨hne, hall⟩ := hname
  obtain ⟨c, cs, hcs⟩ := List.exists_cons_of_ne_nil hne
  have hc : Text.isIdentifier c := hall c (hcs ▸ List.mem_cons_self)
  cases t with
  | «variable» name =>
      refine ⟨c, cs ++ rest, ?_, hc⟩
      show name.toList ++ rest = _
      rw [show name.toList = c :: cs from hcs, List.cons_append]
  | function name arguments =>
      refine ⟨c, cs ++ '(' :: writeAll arguments (')' :: rest), ?_, hc⟩
      show name.toList ++ '(' :: writeAll arguments (')' :: rest) = _
      rw [show name.toList = c :: cs from hcs, List.cons_append]

end Term

namespace Atom

variable {a : Atom} (hn : ∀ name ∈ a.names, Text.IsName name)

include hn in
theorem plain_text : Plain a.text.toList := by
  rw [text, String.toList_ofList]
  cases a with
  | proposition name => exact (Term.variable name (.point 0)).plain_writeOnto hn nofun
  | predicate name arguments => exact (Term.function name arguments (.point 0)).plain_writeOnto hn nofun
  | equality left right negated =>
      obtain ⟨hl, hr⟩ := List.forall_mem_append.1 hn
      have hright : Plain (right.writeOnto []) := right.plain_writeOnto hr nofun
      have hsign : (if negated then '≠' else '=') ≠ '\n' ∧
          SvgNode.escapeChar (if negated then '≠' else '=') = [if negated then '≠' else '='] := by
        cases negated <;> decide
      exact left.plain_writeOnto hl (((hright.cons (by decide)).cons hsign).cons (by decide))

include hn in
theorem exists_text : ∃ c cs, a.text.toList = c :: cs ∧ Text.isIdentifier c := by
  rw [text, String.toList_ofList]
  cases a with
  | proposition name => exact (Term.variable name (.point 0)).exists_writeOnto hn []
  | predicate name arguments => exact (Term.function name arguments (.point 0)).exists_writeOnto hn []
  | equality left right negated =>
      obtain ⟨hl, -⟩ := List.forall_mem_append.1 hn
      exact left.exists_writeOnto hl _

end Atom

/-! ### Labels and roots -/

/-- The root of a formula, places apart. -/
inductive Root where
  | atom (a : Atom)
  | negation
  | binary (connective : Connective)
  | quantified (quantifier : Quantifier) (name : String)

/-- The signs of operators and quantifiers. -/
inductive Sign where
  | negation
  | connective (connective : Connective)
  | quantifier (quantifier : Quantifier)
deriving DecidableEq

def Sign.ofChar? : Char → Option Sign
  | '¬' => some .negation
  | '∧' => some (.connective .and)
  | '∨' => some (.connective .or)
  | '→' => some (.connective .implies)
  | '↔' => some (.connective .iff)
  | '∀' => some (.quantifier .forAll)
  | '∃' => some (.quantifier .forSome)
  | _ => none

theorem Sign.ofChar?_of_isIdentifier {c : Char} (h : Text.isIdentifier c) : ofChar? c = none := by
  have hne : ∀ d : Char, Text.isIdentifier d = false → c ≠ d := fun d => Text.ne_of_isIdentifier h
  unfold ofChar?
  split
  · exact absurd rfl (hne '¬' (by decide +kernel))
  · exact absurd rfl (hne '∧' (by decide +kernel))
  · exact absurd rfl (hne '∨' (by decide +kernel))
  · exact absurd rfl (hne '→' (by decide +kernel))
  · exact absurd rfl (hne '↔' (by decide +kernel))
  · exact absurd rfl (hne '∀' (by decide +kernel))
  · exact absurd rfl (hne '∃' (by decide +kernel))
  · rfl

namespace Formula

def root : Formula → Root
  | .atom _ a => .atom a.erased
  | .negation _ _ => .negation
  | .binary _ connective _ _ => .binary connective
  | .quantified _ quantifier bound _ => .quantified quantifier bound.name

/-- The sign that the label begins with, if it does not begin with a name. -/
def sign? : Formula → Option Sign
  | .atom _ _ => none
  | .negation _ _ => some .negation
  | .binary _ connective _ _ => some (.connective connective)
  | .quantified _ quantifier _ _ => some (.quantifier quantifier)

variable {f g : Formula}

theorem plain_label (hf : ∀ name ∈ f.names, Text.IsName name) : Plain f.label.toList := by
  cases f with
  | atom facts a => exact Atom.plain_text hf
  | negation facts operand =>
      have hglyph : Plain "¬".toList := by decide
      exact hglyph
  | binary facts connective left right =>
      have hglyph : Plain connective.glyph.toList := by cases connective <;> decide
      exact hglyph
  | quantified facts quantifier bound body =>
      have hglyph : Plain quantifier.glyph.toList := by cases quantifier <;> decide
      have hname : Plain bound.name.toList := (hf bound.name List.mem_cons_self).plain
      rw [label, String.toList_append]
      exact hglyph.append hname

/-- A sign is no identifier character, so the label tells whether it begins with one. -/
theorem sign?_eq (hf : ∀ name ∈ f.names, Text.IsName name) : f.sign? = f.label.toList.head?.bind Sign.ofChar? := by
  cases f with
  | atom facts a =>
      obtain ⟨c, cs, hcs, hc⟩ := Atom.exists_text hf
      rw [sign?, label, hcs, List.head?_cons, Option.bind_some, Sign.ofChar?_of_isIdentifier hc]
  | negation facts operand =>
      have hglyph : "¬".toList.head?.bind Sign.ofChar? = some .negation := by decide
      exact hglyph.symm
  | binary facts connective left right =>
      have hglyph : connective.glyph.toList.head?.bind Sign.ofChar? = some (.connective connective) := by
        cases connective <;> decide
      exact hglyph.symm
  | quantified facts quantifier bound body =>
      have hglyph : quantifier.glyph.toList.head?.bind Sign.ofChar? = some (.quantifier quantifier) := by
        cases quantifier <;> decide
      have hhead : (quantifier.glyph ++ bound.name).toList.head? = quantifier.glyph.toList.head? := by
        cases quantifier <;> simp [Quantifier.glyph]
      rw [sign?, label, hhead, hglyph]

theorem root_eq_of_label (hf : ∀ name ∈ f.names, Text.IsName name) (hg : ∀ name ∈ g.names, Text.IsName name)
    (h : f.label = g.label) : f.root = g.root := by
  have hsign : f.sign? = g.sign? := by rw [sign?_eq hf, sign?_eq hg, h]
  cases f with
  | atom facts a =>
      cases g with
      | atom facts' b =>
          have hatoms : a.erased = b.erased := Atom.erased_eq_of_text hf hg h
          rw [root, root, hatoms]
      | _ => cases hsign
  | negation facts operand =>
      cases g with
      | negation => rfl
      | _ => cases hsign
  | binary facts connective left right =>
      cases g with
      | binary => cases hsign; rfl
      | _ => cases hsign
  | quantified facts quantifier bound body =>
      cases g with
      | quantified facts' quantifier' bound' body' =>
          cases hsign
          have hchars := congrArg String.toList h
          rw [label, label, String.toList_append, String.toList_append] at hchars
          have hname : bound.name = bound'.name := String.toList_inj.1 (List.append_cancel_left hchars)
          rw [root, root, hname]
      | _ => cases hsign

/-- The roots of all nodes in pre-order determine the formula, because a root tells how many children there are. -/
theorem erased_eq_of_roots {rest rest' : List Root} (h : f.preorder.map root ++ rest = g.preorder.map root ++ rest') :
    f.erased = g.erased ∧ rest = rest' := by
  -- What is left over is part of the statement, since the roots of a right operand are left over by the left one.
  induction f generalizing g rest rest' with
  | atom facts a =>
      cases g with
      | atom facts' b =>
          obtain ⟨hroot, hrest⟩ := List.cons.inj h
          injection hroot with hatoms
          exact ⟨by rw [erased, erased, hatoms], hrest⟩
      | _ => cases (List.cons.inj h).1
  | negation facts operand ih =>
      cases g with
      | negation facts' operand' =>
          obtain ⟨hoperand, hrest⟩ := ih (List.cons.inj h).2
          exact ⟨by rw [erased, erased, hoperand], hrest⟩
      | _ => cases (List.cons.inj h).1
  | binary facts connective left right ihl ihr =>
      cases g with
      | binary facts' connective' left' right' =>
          simp only [preorder_binary, List.map_cons, List.map_append, List.cons_append, List.append_assoc] at h
          obtain ⟨hroot, h⟩ := List.cons.inj h
          injection hroot with hconnective
          obtain ⟨hleft, h⟩ := ihl h
          obtain ⟨hright, hrest⟩ := ihr h
          exact ⟨by rw [erased, erased, hconnective, hleft, hright], hrest⟩
      | _ =>
          simp only [preorder_binary, List.map_cons, List.cons_append] at h
          cases (List.cons.inj h).1
  | quantified facts quantifier bound body ih =>
      cases g with
      | quantified facts' quantifier' bound' body' =>
          obtain ⟨hroot, h⟩ := List.cons.inj h
          injection hroot with hquantifier hname
          obtain ⟨hbody, hrest⟩ := ih h
          exact ⟨by rw [erased, erased, hquantifier, hname, hbody], hrest⟩
      | _ => cases (List.cons.inj h).1

theorem names_of_mem_children {name : String} (hg : g ∈ f.children) (h : name ∈ g.names) : name ∈ f.names := by
  cases f with
  | atom => cases hg
  | negation facts operand =>
      obtain rfl := List.mem_singleton.1 hg
      exact h
  | binary facts connective left right =>
      rcases List.mem_pair.1 hg with rfl | rfl
      · exact List.mem_append_left _ h
      · exact List.mem_append_right _ h
  | quantified facts quantifier bound body =>
      obtain rfl := List.mem_singleton.1 hg
      exact List.mem_cons_of_mem _ h

theorem names_of_mem_preorder {name : String} (hg : g ∈ f.preorder) (h : name ∈ g.names) : name ∈ f.names := by
  induction f using induction_children with
  | h f ih =>
    rcases mem_preorder_iff.1 hg with rfl | ⟨k, hk, hg⟩
    · exact h
    · exact names_of_mem_children hk (ih k hk hg)

theorem roots_eq_of_labels {fs gs : List Formula} (hfs : ∀ k ∈ fs, ∀ name ∈ k.names, Text.IsName name)
    (hgs : ∀ k ∈ gs, ∀ name ∈ k.names, Text.IsName name) (h : fs.map label = gs.map label) :
    fs.map root = gs.map root := by
  induction fs generalizing gs with
  | nil => rw [List.map_eq_nil_iff.1 h.symm]
  | cons k fs ih =>
      obtain ⟨k', gs, rfl, hlabel, hlabels⟩ := List.map_eq_cons_iff.1 h.symm
      obtain ⟨hk, hfs⟩ := List.forall_mem_cons.1 hfs
      obtain ⟨hk', hgs⟩ := List.forall_mem_cons.1 hgs
      rw [List.map_cons, List.map_cons, root_eq_of_label hk hk' hlabel.symm, ih hfs hgs hlabels.symm]

/-- The labels of all nodes in pre-order determine the formula. -/
theorem erased_eq_of_labels (hf : ∀ name ∈ f.names, Text.IsName name) (hg : ∀ name ∈ g.names, Text.IsName name)
    (h : f.preorder.map label = g.preorder.map label) : f.erased = g.erased := by
  have hroots : f.preorder.map root = g.preorder.map root :=
    roots_eq_of_labels (fun k hk name hname => hf name (names_of_mem_preorder hk hname))
      (fun k hk name hname => hg name (names_of_mem_preorder hk hname)) h
  rw [← List.append_nil (f.preorder.map root), ← List.append_nil (g.preorder.map root)] at hroots
  exact (erased_eq_of_roots hroots).1

end Formula

end FormulaDiagram
