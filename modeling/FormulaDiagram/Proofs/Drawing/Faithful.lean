import FormulaDiagram.Drawing.Render
import FormulaDiagram.Proofs.Drawing.Document
import FormulaDiagram.Proofs.Drawing.Labels
import FormulaDiagram.Proofs.Layout.Preorder
import FormulaDiagram.Proofs.Places.Alike

/-!
A drawing shows the structure of a formula and nothing else. Annotations do not depend on places and labels do not
either, so formulas that are the same apart from places have the same nodes and are laid out and drawn in the same way.
The text of a drawing has the labels of all nodes in pre-order in it, which determine the formula.
-/

namespace FormulaDiagram

/-! ### Formulas without places -/

namespace Term

mutual

theorem mapSpans_erased (t : Term) : t.mapSpans .erased = t.erased := by
  cases t with
  | «variable» => rfl
  | function name arguments =>
      rw [mapSpans, erased, mapSpansAll_erased arguments]
      rfl

theorem mapSpansAll_erased (ts : List Term) : mapSpansAll .erased ts = erasedAll ts := by
  cases ts with
  | nil => rfl
  | cons t ts => rw [mapSpansAll, erasedAll, mapSpans_erased t, mapSpansAll_erased ts]

end

end Term

theorem Atom.mapSpans_erased (a : Atom) : a.mapSpans .erased = a.erased := by
  cases a with
  | proposition name => rfl
  | predicate name arguments => rw [mapSpans, erased, Term.mapSpansAll_erased]
  | equality left right negated => rw [mapSpans, erased, Term.mapSpans_erased, Term.mapSpans_erased]

namespace Formula

theorem mapSpans_joinAt (φ : Span → Span) (connective : Connective) (f g : Formula) (span : Span) :
    (joinAt connective f g span).mapSpans φ = joinAt connective (f.mapSpans φ) (g.mapSpans φ) (φ span) := by
  simp [joinAt, mapSpans, NodeFacts.mapSpan]

/-- Where nothing is annotated, erasing places is building the formula again. -/
theorem Built.mapSpans_erased {f : Formula} (h : f.Built) : f.mapSpans .erased = f.erased := by
  induction h with
  | ofAtom a span =>
      show Formula.ofAtom (a.mapSpans .erased) (.point 0) = Formula.ofAtom a.erased (.point 0)
      rw [Atom.mapSpans_erased]
  | not span _ ih =>
      rw [mapSpans_not, ih]
      rfl
  | joinAt connective span _ _ ihf ihg =>
      rw [mapSpans_joinAt, ihf, ihg]
      rfl
  | quantify quantifier bound span _ ih =>
      rw [mapSpans_quantify, ih]
      rfl

theorem label_mapSpans (f : Formula) : (f.mapSpans .erased).label = f.label := by
  cases f with
  | atom facts a =>
      show (a.mapSpans .erased).text = a.text
      rw [Atom.mapSpans_erased, Atom.text, Atom.text, Atom.writeOnto_erased]
  | negation => rfl
  | binary => rfl
  | quantified => rfl

@[simp] theorem size_mapSpans (φ : Span → Span) (f : Formula) : (f.mapSpans φ).size = f.size := by
  induction f with
  | atom => rfl
  | negation facts operand ih => rw [mapSpans, size, size, ih]
  | binary facts connective left right ihl ihr => rw [mapSpans, size, size, ihl, ihr]
  | quantified facts quantifier bound body ih => rw [mapSpans, size, size, ih]

theorem treeNode_mapSpans (f : Formula) (position : Nat) (parent : Option Nat) :
    (f.mapSpans .erased).treeNode position parent = f.treeNode position parent := by
  have hlabel := f.label_mapSpans
  have hchildren :
      ((f.mapSpans .erased).placedChildren position).map (·.2) = (f.placedChildren position).map (·.2) := by
    cases f <;> simp [mapSpans, placedChildren]
  unfold treeNode
  rw [hchildren]
  cases f <;> simp_all [TreeNode.ofFormula, mapSpans, NodeKind.ofFormula, annotation, facts, NodeFacts.mapSpan]

theorem treeNodes_mapSpans (f : Formula) (position : Nat) (parent : Option Nat) :
    (f.mapSpans .erased).treeNodes position parent = f.treeNodes position parent := by
  induction f generalizing position parent with
  | atom facts a => exact congrArg (· :: []) (treeNode_mapSpans (.atom facts a) position parent)
  | negation facts operand ih =>
      have hroot := treeNode_mapSpans (.negation facts operand) position parent
      rw [mapSpans] at hroot ⊢
      rw [treeNodes, treeNodes, hroot, ih]
  | binary facts connective left right ihl ihr =>
      have hroot := treeNode_mapSpans (.binary facts connective left right) position parent
      rw [mapSpans] at hroot ⊢
      rw [treeNodes, treeNodes, hroot, ihl, ihr, size_mapSpans]
  | quantified facts quantifier bound body ih =>
      have hroot := treeNode_mapSpans (.quantified facts quantifier bound body) position parent
      rw [mapSpans] at hroot ⊢
      rw [treeNodes, treeNodes, hroot, ih]

theorem labels_treeNodes (f : Formula) (position : Nat) (parent : Option Nat) :
    (f.treeNodes position parent).map (·.label) = f.preorder.map label := by
  induction f generalizing position parent with
  | atom => rfl
  | negation facts operand ih =>
      rw [treeNodes, preorder_negation, List.map_cons, List.map_cons, ih]
      rfl
  | binary facts connective left right ihl ihr =>
      rw [treeNodes, preorder_binary, List.map_cons, List.map_cons, List.map_append, List.map_append, ihl, ihr]
      rfl
  | quantified facts quantifier bound body ih =>
      rw [treeNodes, preorder_quantified, List.map_cons, List.map_cons, ih]
      rfl

end Formula

/-- What is parsed is the annotated formula without places, apart from places. -/
theorem mapSpans_of_parse {source : String} {a : AnnotatedFormula} (h : parse source = .ok a) :
    a.formula.mapSpans .erased = a.formula.erased.annotate 0 [] := by
  obtain ⟨tokens, f, -, hf, ha⟩ := exists_of_parse h
  obtain ⟨n, -, hs⟩ := (Grammar.ofTokens_iff tokens source.utf8ByteSize f).1 hf
  have hbuilt : f.Built := hs.built
  have hannotate := Formula.annotate_mapSpans .erased f 0 []
  rw [ha, ← hannotate, hbuilt.mapSpans_erased, Formula.erased_annotate]
  rfl

theorem arena_of_parse {source source' : String} {a a' : AnnotatedFormula} (h : parse source = .ok a)
    (h' : parse source' = .ok a') (heq : a.formula.erased = a'.formula.erased) :
    a.formula.arena = a'.formula.arena := by
  have hplaces : a.formula.mapSpans .erased = a'.formula.mapSpans .erased := by
    rw [mapSpans_of_parse h, mapSpans_of_parse h', heq]
  rw [Formula.arena_eq, Formula.arena_eq, ← Formula.treeNodes_mapSpans a.formula, hplaces, Formula.treeNodes_mapSpans]

/-! ### Drawings -/

theorem LayoutTree.nodes_diagram (tree : LayoutTree Single) (config : Config Single) :
    (tree.diagram config).nodes = tree.nodes.toList.map fun node => node.element config.fontSize := by
  rw [LayoutTree.diagram, Diagram.ofPrimitives, Diagram.nodes, List.filterMap_append]
  simp [List.filterMap_map, List.filterMap_filterMap]

theorem LayoutTree.lines_diagram (tree : LayoutTree Single) (config : Config Single) :
    (tree.diagram config).lines = tree.edges.filterMap tree.line? := by
  rw [LayoutTree.diagram, Diagram.ofPrimitives, Diagram.lines, List.filterMap_append, List.filterMap_map,
    List.filterMap_filterMap]
  refine (congrArg (· ++ _) (List.filterMap_eq_nil_iff.2 fun _ _ => rfl)).trans ?_
  apply List.filterMap_congr
  intro edge _
  cases tree.line? edge <;> rfl

/-- The labels of a drawing are those of the nodes of the formula in pre-order. -/
theorem Formula.labels_diagram (f : Formula) (config : Config Single) :
    ((f.layout config).diagram config).nodes.map NodeElement.label = f.preorder.map label := by
  have hskeleton := congrArg (List.map (·.label)) (f.skeleton_layout config)
  rw [labels_treeNodes, LayoutTree.skeleton, List.map_map] at hskeleton
  rw [LayoutTree.nodes_diagram, List.map_map, ← hskeleton]
  rfl

/-- What is drawn is the layout of what is parsed, if the measures can be laid out by. -/
theorem render_eq_ok_iff {source : String} {config : Config Single} {svg : String} :
    render source config = .ok svg ↔ ∃ a, parse source = .ok a ∧ config.validate = .ok () ∧
      ((a.formula.layout config).diagram config).document.render = svg := by
  simp only [render, parseSource, AnnotatedFormula.render, AnnotatedFormula.layout, LayoutTree.svg, Parser.bind_eq_ok,
    Parser.mapError_eq_ok]
  constructor
  · rintro ⟨a, ha, tree, ⟨⟨⟩, hconfig, htree⟩, hsvg⟩
    cases htree
    exact ⟨a, ha, hconfig, Except.ok.inj hsvg⟩
  · rintro ⟨a, ha, hconfig, rfl⟩
    exact ⟨a, ha, _, ⟨(), hconfig, rfl⟩, rfl⟩

theorem plain_labels_diagram {f : Formula} (hf : ∀ name ∈ f.names, Text.IsName name) (config : Config Single) :
    ∀ n ∈ ((f.layout config).diagram config).nodes, SvgNode.Plain n.label.toList := by
  intro n hn
  have hlabel := List.mem_map_of_mem (f := NodeElement.label) hn
  rw [f.labels_diagram] at hlabel
  obtain ⟨g, hg, heq⟩ := List.mem_map.1 hlabel
  rw [← heq]
  exact g.plain_label fun name hname => hf name (Formula.names_of_mem_preorder hg hname)

/-- Two texts have the same drawing exactly if they are the same formula, places apart. -/
theorem render_eq_iff {source source' : String} {config : Config Single} {svg svg' : String}
    (h : render source config = .ok svg) (h' : render source' config = .ok svg') :
    ∃ a a', parse source = .ok a ∧ parse source' = .ok a' ∧ (svg = svg' ↔ a.formula.erased = a'.formula.erased) := by
  obtain ⟨a, ha, -, hsvg⟩ := render_eq_ok_iff.1 h
  obtain ⟨a', ha', -, hsvg'⟩ := render_eq_ok_iff.1 h'
  have hn := isName_of_parse ha
  have hn' := isName_of_parse ha'
  refine ⟨a, a', ha, ha', ?_, ?_⟩
  · intro heq
    rw [← hsvg, ← hsvg'] at heq
    have hlabels := Diagram.labels_of_render (plain_labels_diagram hn config) (plain_labels_diagram hn' config) heq
    rw [Formula.labels_diagram, Formula.labels_diagram] at hlabels
    exact Formula.erased_eq_of_labels hn hn' hlabels
  · intro heq
    have harena := arena_of_parse ha ha' heq
    rw [← hsvg, ← hsvg', Formula.layout, Formula.layout, harena]

/-- Parentheses that are not needed do not show in a drawing, and the order of operands does. -/
theorem render_eq_iff_of_conjunctions : ∃ svg svg' svg'', render "p ∧ q" default = .ok svg ∧
    render "(p)∧q" default = .ok svg' ∧ render "q ∧ p" default = .ok svg'' ∧ svg = svg' ∧ svg ≠ svg'' := by
  have htext : (parse "p ∧ q").toOption.map (·.formula.text) = some "p ∧ q" := by decide +kernel
  have htext' : (parse "(p)∧q").toOption.map (·.formula.text) = some "p ∧ q" := by decide +kernel
  have htext'' : (parse "q ∧ p").toOption.map (·.formula.text) = some "q ∧ p" := by decide +kernel
  have hconfig : (default : Config Single).validate = .ok () := by decide +kernel
  obtain ⟨a, ha, -, htext⟩ := exists_parse_of_map htext
  obtain ⟨a', ha', -, htext'⟩ := exists_parse_of_map htext'
  obtain ⟨a'', ha'', -, htext''⟩ := exists_parse_of_map htext''
  have hsvg := render_eq_ok_iff.2 ⟨a, ha, hconfig, rfl⟩
  have hsvg' := render_eq_ok_iff.2 ⟨a', ha', hconfig, rfl⟩
  have hsvg'' := render_eq_ok_iff.2 ⟨a'', ha'', hconfig, rfl⟩
  refine ⟨_, _, _, hsvg, hsvg', hsvg'', ?_, ?_⟩
  · obtain ⟨b, b', hb, hb', hiff⟩ := render_eq_iff hsvg hsvg'
    rw [ha] at hb
    rw [ha'] at hb'
    cases hb
    cases hb'
    have hsame := Formula.erased_eq_of_text (isName_of_parse ha) (isName_of_parse ha') (htext.trans htext'.symm)
    exact hiff.2 hsame
  · obtain ⟨b, b'', hb, hb'', hiff⟩ := render_eq_iff hsvg hsvg''
    rw [ha] at hb
    rw [ha''] at hb''
    cases hb
    cases hb''
    intro heq
    have hsame : a.formula.text = a''.formula.text := by
      rw [← Formula.text_erased, hiff.1 heq, Formula.text_erased]
    rw [htext, htext''] at hsame
    revert hsame
    decide

end FormulaDiagram
