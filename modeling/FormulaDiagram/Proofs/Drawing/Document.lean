import FormulaDiagram.Drawing.TreeDrawing
import FormulaDiagram.Proofs.Drawing.Layers
import FormulaDiagram.Proofs.Drawing.Lines

/-!
The texts of a document. Sorting what is drawn by layers keeps the order in each layer, and only the layer of texts has
texts on it, so the texts of a document are the labels of its nodes, in their order. Numbers and colours are written
without a newline, so labels without one are all that it takes to tell the lines.
-/

namespace FormulaDiagram

/-! ### Numbers and colours -/

/-- Decimal text consists of digits and a point. -/
theorem Decimal.mem_text {d : Decimal} {c : Char} (h : c ∈ d.text.toList) : c.isDigit ∨ c = '.' := by
  have hdigits : ∀ c ∈ (toString d.digits).toList, c.isDigit := by
    intro c hc
    rw [Nat.toString_eq_ofList_toDigits, String.toList_ofList] at hc
    exact Nat.isDigit_of_mem_toDigits (by decide) (by decide) hc
  have hzeros : ∀ (count : Nat), ∀ c ∈ List.replicate count '0', c.isDigit := by
    intro count c hc
    rw [List.eq_of_mem_replicate hc]
    decide
  unfold Decimal.text at h
  dsimp only at h
  split at h
  · rw [String.toList_append, String.toList_ofList] at h
    rcases List.mem_append.1 h with h | h
    · exact .inl (hdigits c h)
    · exact .inl (hzeros _ c h)
  · rw [String.toList_ofList] at h
    have hpadded := List.forall_mem_append.2 ⟨hzeros ((-d.exponent).toNat + 1 - (toString d.digits).length), hdigits⟩
    rcases List.mem_append.1 h with h | h
    · exact .inl (hpadded c (List.mem_of_mem_take h))
    · rcases List.mem_cons.1 h with h | h
      · exact .inr h
      · exact .inl (hpadded c (List.mem_of_mem_drop h))

/-- The text of a finite value consists of digits, a point and a sign. -/
theorem Binary.mem_text {format : BinaryFormat} {x : Binary format} (hx : x.isFinite) {c : Char}
    (h : c ∈ x.text.toList) : c.isDigit ∨ c = '.' ∨ c = '-' := by
  cases x with
  | nan => cases hx
  | infinite => cases hx
  | finite negative quanta hquanta =>
      rw [text, String.toList_append] at h
      rcases List.mem_append.1 h with h | h
      · cases negative with
        | false => cases h
        | true => exact .inr (.inr (List.mem_singleton.1 h))
      · split at h
        · exact .inl (List.mem_singleton.1 h ▸ by decide)
        · exact (Decimal.mem_text h).imp_right .inl

@[simp] theorem Binary.newline_not_mem_text {format : BinaryFormat} (x : Binary format) : '\n' ∉ x.text.toList := by
  cases x with
  | nan => simp [text]
  | infinite negative => cases negative <;> simp [text]
  | finite negative quanta h =>
      intro hmem
      rcases mem_text (x := .finite negative quanta h) rfl hmem with hdigit | hpoint | hsign
      · exact absurd hdigit (by decide)
      · exact absurd hpoint (by decide)
      · exact absurd hsign (by decide)

@[simp] theorem Color.newline_not_mem_text (color : Color) : '\n' ∉ color.text.toList := by
  cases color with
  | named name => cases name <;> decide
  | components red green blue alpha =>
      unfold Color.text
      dsimp only
      split <;> simp

theorem Stroke.oneLine_attributes (stroke : Stroke) :
    ∀ p ∈ stroke.attributes, Text.OneLine p.1 ∧ Text.OneLine p.2 := by
  unfold Stroke.attributes StrokeStyle.dashes?
  cases stroke.style <;> simp

/-! ### What is drawn -/

namespace NodeElement

theorem oneLine_outline (node : NodeElement) : node.outline.OneLine := by
  have hpaint : ∀ p ∈ node.fillAttributes ++ node.style.stroke.attributes, Text.OneLine p.1 ∧ Text.OneLine p.2 := by
    have hfill : ∀ p ∈ node.fillAttributes, Text.OneLine p.1 ∧ Text.OneLine p.2 := by simp [fillAttributes]
    exact List.forall_mem_append.2 ⟨hfill, node.style.stroke.oneLine_attributes⟩
  unfold outline
  cases node.shape with
  | circle => exact SvgNode.oneLine_tag (by simp) (List.forall_mem_append.2 ⟨by simp, hpaint⟩) nofun
  | rectangle => exact SvgNode.oneLine_tag (by simp) (List.forall_mem_append.2 ⟨by simp, hpaint⟩) nofun
  | roundedRectangle radius =>
      refine SvgNode.oneLine_tag (by simp) (List.forall_mem_append.2 ⟨by simp, ?_⟩) nofun
      exact List.forall_mem_cons.2 ⟨by simp, hpaint⟩

theorem oneLine_labelText {node : NodeElement} (h : Text.OneLine node.label) : node.labelText.OneLine := by
  refine SvgNode.oneLine_tag (by simp) (by simp) (List.forall_mem_cons.2 ⟨?_, List.forall_mem_singleton.2 h⟩)
  exact (Text.oneLine_iff "").2 (by simp)

theorem texts_outline (node : NodeElement) : node.outline.texts = [] := by
  unfold outline
  cases node.shape <;> simp

theorem texts_labelText (node : NodeElement) : node.labelText.texts = ["", node.label] := by
  simp [labelText, SvgNode.texts]

end NodeElement

theorem Connector.oneLine_element (line : Connector) : line.element.OneLine :=
  SvgNode.oneLine_tag (by simp) (List.forall_mem_append.2 ⟨by simp, line.stroke.oneLine_attributes⟩) nofun

theorem Connector.texts_element (line : Connector) : line.element.texts = [] := by
  simp [element]

/-! ### Layers -/

namespace LayeredOutput

theorem flatMap_filter {β γ : Type} {p : β → Bool} {f : β → List γ} {xs : List β}
    (h : ∀ x ∈ xs, p x = false → f x = []) : (xs.filter p).flatMap f = xs.flatMap f := by
  induction xs with
  | nil => rfl
  | cons x xs ih =>
      obtain ⟨hx, hxs⟩ := List.forall_mem_cons.1 h
      cases hp : p x with
      | false => rw [List.filter_cons_of_neg (by simp [hp]), List.flatMap_cons, hx hp, ih hxs, List.nil_append]
      | true => rw [List.filter_cons_of_pos hp, List.flatMap_cons, List.flatMap_cons, ih hxs]

/-- If only the layer of texts has texts, they come out in the order in which they were added. -/
theorem texts_render {output : LayeredOutput} (h : ∀ part ∈ output.items.toList, part.1 ≠ .text → part.2.texts = []) :
    output.render.flatMap SvgNode.texts = output.items.toList.flatMap (·.2.texts) := by
  have hparts : ∀ part ∈ output.items.toList, decide (part.1 = .text) = false → part.2.texts = [] := by
    intro part hpart hlayer
    exact h part hpart (of_decide_eq_false hlayer)
  have hempty : ∀ layer, layer ≠ .text → (nodesOn layer output.items.toList).flatMap SvgNode.texts = [] := by
    intro layer hlayer
    refine List.flatMap_eq_nil_iff.2 (List.forall_mem_map.2 fun part hpart => ?_)
    obtain ⟨hpart, heq⟩ := List.mem_filter.1 hpart
    exact h part hpart (of_decide_eq_true heq ▸ hlayer)
  have hfilter : ∀ layer ∈ Layer.all, (!(nodesOn layer output.items.toList).isEmpty) = false →
      (nodesOn layer output.items.toList).flatMap SvgNode.texts = [] := by
    intro layer _ hlayer
    rw [Bool.not_eq_false', List.isEmpty_iff] at hlayer
    rw [hlayer, List.flatMap_nil]
  rw [render_eq (layersOf_filter _), List.flatMap_map]
  calc (Layer.all.filter fun layer => !(nodesOn layer output.items.toList).isEmpty).flatMap
        (fun layer => (layer.group (nodesOn layer output.items.toList)).texts)
      = Layer.all.flatMap fun layer => (nodesOn layer output.items.toList).flatMap SvgNode.texts := by
        simp only [Layer.group, SvgNode.texts_tag]
        exact flatMap_filter hfilter
    _ = (nodesOn .text output.items.toList).flatMap SvgNode.texts := by
        simp [Layer.all, hempty]
    _ = output.items.toList.flatMap (·.2.texts) := by
        rw [nodesOn, List.flatMap_map]
        exact flatMap_filter hparts

/-- What comes out is the group of a layer. -/
theorem exists_of_mem_render {output : LayeredOutput} {node : SvgNode} (h : node ∈ output.render) :
    ∃ layer : Layer, node = layer.group (nodesOn layer output.items.toList) := by
  obtain ⟨layers, -, hrender⟩ := output.exists_layers
  rw [hrender] at h
  obtain ⟨layer, -, rfl⟩ := List.mem_map.1 h
  exact ⟨layer, rfl⟩

theorem oneLine_render {output : LayeredOutput} (h : ∀ part ∈ output.items.toList, part.2.OneLine) :
    ∀ node ∈ output.render, node.OneLine := by
  intro node hnode
  obtain ⟨layer, rfl⟩ := exists_of_mem_render hnode
  refine SvgNode.oneLine_tag (by simp) ?_ (forall_mem_nodesOn h)
  cases layer <;> simp [Layer.name]

end LayeredOutput

namespace Diagram

theorem items_foldl (primitives : List Primitive) (output : LayeredOutput) :
    (primitives.foldl (fun output primitive => output.merge primitive.layers) output).items.toList =
      output.items.toList ++ primitives.flatMap (·.layers.items.toList) := by
  induction primitives generalizing output with
  | nil => simp
  | cons primitive primitives ih =>
      rw [List.foldl_cons, ih, List.flatMap_cons, ← List.append_assoc]
      simp [LayeredOutput.merge]

theorem items_layers (diagram : Diagram) : diagram.layers.items.toList =
    (.background, diagram.backgroundElement) :: diagram.primitives.flatMap (·.layers.items.toList) := by
  rw [layers, items_foldl]
  rfl

variable {diagram : Diagram}

theorem mem_layers {part : Layer × SvgNode} (h : part ∈ diagram.layers.items.toList) :
    part = (.background, diagram.backgroundElement) ∨
      (∃ n ∈ diagram.nodes, part = (.node, n.outline) ∨ part = (.text, n.labelText)) ∨
        ∃ l ∈ diagram.lines, part = (.connector, l.element) := by
  rw [items_layers] at h
  rcases List.mem_cons.1 h with h | h
  · exact .inl h
  · obtain ⟨primitive, hprimitive, h⟩ := List.mem_flatMap.1 h
    cases primitive with
    | node n =>
        refine .inr (.inl ⟨n, List.mem_filterMap.2 ⟨_, hprimitive, rfl⟩, ?_⟩)
        exact List.mem_pair.1 h
    | line l =>
        refine .inr (.inr ⟨l, List.mem_filterMap.2 ⟨_, hprimitive, rfl⟩, ?_⟩)
        exact List.mem_singleton.1 h

/-- The texts of a document are the labels of its nodes, each behind an empty one. -/
theorem texts_document (diagram : Diagram) :
    diagram.document.texts = diagram.nodes.flatMap fun n => ["", n.label] := by
  have hlayers : ∀ part ∈ diagram.layers.items.toList, part.1 ≠ .text → part.2.texts = [] := by
    intro part hpart hlayer
    rcases mem_layers hpart with rfl | ⟨n, -, rfl | rfl⟩ | ⟨l, -, rfl⟩
    · simp [backgroundElement]
    · exact n.texts_outline
    · exact absurd rfl hlayer
    · exact l.texts_element
  rw [document, SvgNode.texts_tag, LayeredOutput.texts_render hlayers, items_layers, List.flatMap_cons, nodes]
  have hbackground : diagram.backgroundElement.texts = [] := by simp [backgroundElement]
  rw [hbackground, List.nil_append]
  induction diagram.primitives with
  | nil => rfl
  | cons primitive primitives ih =>
      rw [List.flatMap_cons, List.flatMap_append, ih]
      cases primitive with
      | node n =>
          have hparts : (Primitive.node n).layers.items.toList = [(.node, n.outline), (.text, n.labelText)] := rfl
          simp [hparts, n.texts_outline, n.texts_labelText]
      | line l =>
          have hparts : (Primitive.line l).layers.items.toList = [(.connector, l.element)] := rfl
          simp [hparts, l.texts_element]

theorem oneLine_document (h : ∀ n ∈ diagram.nodes, SvgNode.Plain n.label.toList) : diagram.document.OneLine := by
  refine SvgNode.oneLine_tag (by simp) (by simp) (LayeredOutput.oneLine_render ?_)
  intro part hpart
  rcases mem_layers hpart with rfl | ⟨n, hn, rfl | rfl⟩ | ⟨l, -, rfl⟩
  · exact SvgNode.oneLine_tag (by simp) (by simp) nofun
  · exact n.oneLine_outline
  · exact NodeElement.oneLine_labelText (h n hn).oneLine
  · exact l.oneLine_element

/-- The labels of a drawing can be told from the texts of its document. -/
theorem labels_of_texts {nodes nodes' : List NodeElement} (h : ∀ n ∈ nodes, SvgNode.Plain n.label.toList)
    (h' : ∀ n ∈ nodes', SvgNode.Plain n.label.toList)
    (heq : (nodes.flatMap fun n => ["", n.label]).map SvgNode.escape =
      (nodes'.flatMap fun n => ["", n.label]).map SvgNode.escape) :
    nodes.map NodeElement.label = nodes'.map NodeElement.label := by
  induction nodes generalizing nodes' with
  | nil =>
      cases nodes' with
      | nil => rfl
      | cons n' nodes' => cases heq
  | cons n nodes ih =>
      cases nodes' with
      | nil => cases heq
      | cons n' nodes' =>
          obtain ⟨hn, hnodes⟩ := List.forall_mem_cons.1 h
          obtain ⟨hn', hnodes'⟩ := List.forall_mem_cons.1 h'
          obtain ⟨-, heq⟩ := List.cons.inj heq
          obtain ⟨hlabel, heq⟩ := List.cons.inj heq
          rw [hn.escape_eq, hn'.escape_eq] at hlabel
          rw [List.map_cons, List.map_cons, hlabel, ih hnodes hnodes' heq]

/-- Drawings with plain labels that are written alike have the same labels. -/
theorem labels_of_render {diagram' : Diagram} (h : ∀ n ∈ diagram.nodes, SvgNode.Plain n.label.toList)
    (h' : ∀ n ∈ diagram'.nodes, SvgNode.Plain n.label.toList)
    (heq : diagram.document.render = diagram'.document.render) :
    diagram.nodes.map NodeElement.label = diagram'.nodes.map NodeElement.label := by
  have htexts := SvgNode.texts_of_render (oneLine_document h) (oneLine_document h') heq
  rw [texts_document, texts_document] at htexts
  exact labels_of_texts h h' htexts

end Diagram

end FormulaDiagram
