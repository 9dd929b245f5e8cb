import Mathlib.Data.List.Basic
import FormulaDiagram.Drawing.Layer

/-!
The groups that come out of a layered output. Parts that are sorted by their layers are put into groups one after the
other, so the open group is always that of the last layer so far, the closed ones are those of the layers before, and no
part of a closed group is still to come. Sorting keeps the order of the parts of one layer, so every group has the parts
of its layer in the order in which they were added, and those of an output that is merged come where it is merged.
-/

namespace FormulaDiagram

theorem Layer.eq_of_rank {a b : Layer} (h : a.rank = b.rank) : a = b := by
  cases a <;> cases b <;> first | rfl | cases h

theorem Layer.mem_all (layer : Layer) : layer ∈ all := by
  cases layer <;> decide

theorem Layer.increasing_all : all.Pairwise fun a b => a.rank < b.rank := by
  decide

namespace LayeredOutput

/-! ### The layers of parts -/

/-- The nodes of the parts on a layer, in their order. -/
def nodesOn (layer : Layer) (parts : List (Layer × SvgNode)) : List SvgNode :=
  (parts.filter (·.1 = layer)).map (·.2)

/-- The layers that there are parts on, from the back to the front. -/
structure LayersOf (parts : List (Layer × SvgNode)) (layers : List Layer) : Prop where
  increasing : layers.Pairwise fun a b => a.rank < b.rank
  mem_iff : ∀ layer, layer ∈ layers ↔ ∃ node, (layer, node) ∈ parts

variable {parts : List (Layer × SvgNode)} {part : Layer × SvgNode} {layers layers' : List Layer} {layer : Layer}

theorem nodesOn_snoc (layer : Layer) (parts : List (Layer × SvgNode)) (part : Layer × SvgNode) :
    nodesOn layer (parts ++ [part]) = nodesOn layer parts ++ if part.1 = layer then [part.2] else [] := by
  rw [nodesOn, List.filter_append, List.map_append]
  by_cases h : part.1 = layer <;> simp [h, nodesOn]

theorem nodesOn_eq_nil_iff : nodesOn layer parts = [] ↔ ¬∃ node, (layer, node) ∈ parts := by
  rw [nodesOn, List.map_eq_nil_iff, List.filter_eq_nil_iff]
  constructor
  · rintro h ⟨node, hnode⟩
    exact h _ hnode (decide_eq_true rfl)
  · rintro h ⟨layer', node⟩ hnode hlayer
    cases of_decide_eq_true hlayer
    exact h ⟨node, hnode⟩

theorem forall_mem_nodesOn {P : SvgNode → Prop} (h : ∀ part ∈ parts, P part.2) :
    ∀ node ∈ nodesOn layer parts, P node :=
  List.forall_mem_map.2 fun part hpart => h part (List.mem_filter.1 hpart).1

theorem exists_mem_snoc :
    (∃ node, (layer, node) ∈ parts ++ [part]) ↔ (∃ node, (layer, node) ∈ parts) ∨ layer = part.1 := by
  obtain ⟨layer', node'⟩ := part
  simp only [List.mem_append, List.mem_singleton, Prod.mk.injEq, exists_or, exists_and_left, exists_eq, and_true]

theorem LayersOf.nodup (h : LayersOf parts layers) : layers.Nodup := by
  refine h.increasing.imp ?_
  rintro a b hlt rfl
  exact Nat.lt_irrefl _ hlt

/-- There is only one such list of layers. -/
theorem LayersOf.unique (h : LayersOf parts layers) (h' : LayersOf parts layers') : layers = layers' := by
  have hperm : layers.Perm layers' := by
    refine (List.perm_ext_iff_of_nodup h.nodup h'.nodup).2 fun layer => ?_
    rw [h.mem_iff, h'.mem_iff]
  refine hperm.eq_of_pairwise ?_ h.increasing h'.increasing
  intro a b _ _ hab hba
  exact absurd hab (Nat.lt_asymm hba)

/-- All layers, without those that there are no parts on. -/
theorem layersOf_filter (parts : List (Layer × SvgNode)) :
    LayersOf parts (Layer.all.filter fun layer => !(nodesOn layer parts).isEmpty) := by
  refine ⟨Layer.increasing_all.filter _, fun layer => ?_⟩
  rw [List.mem_filter, Bool.not_eq_true', Bool.eq_false_iff, Ne, List.isEmpty_iff, nodesOn_eq_nil_iff,
    Classical.not_not]
  exact and_iff_right layer.mem_all

theorem map_nodesOn (layer : Layer) (parts : List (Layer × SvgNode)) :
    (nodesOn layer parts).map (layer, ·) = parts.filter (·.1 = layer) := by
  rw [nodesOn, List.map_map]
  refine (List.map_congr_left fun part hpart => ?_).trans (List.map_id _)
  obtain ⟨layer', node⟩ := part
  cases of_decide_eq_true (List.mem_filter.1 hpart).2
  rfl

theorem flatMap_filter_perm (hlayers : layers.Nodup) (hmem : ∀ part ∈ parts, part.1 ∈ layers) :
    (layers.flatMap fun layer => parts.filter (·.1 = layer)).Perm parts := by
  induction layers generalizing parts with
  | nil =>
      rw [List.eq_nil_iff_forall_not_mem.2 fun part hpart => List.not_mem_nil (hmem part hpart)]
      rfl
  | cons layer layers ih =>
      obtain ⟨hnew, hlayers⟩ := List.nodup_cons.1 hlayers
      -- Without the parts of the first layer, those of the other layers are the same.
      have hkept : ∀ other ∈ layers, (parts.filter fun part => !decide (part.1 = layer)).filter (·.1 = other) =
          parts.filter (·.1 = other) := by
        intro other hother
        have hne : other ≠ layer := by
          rintro rfl
          exact hnew hother
        rw [List.filter_filter]
        refine List.filter_congr fun part _ => ?_
        by_cases hpart : part.1 = other <;> simp [hpart, hne]
      have hothers : ∀ part ∈ parts.filter fun part => !decide (part.1 = layer), part.1 ∈ layers := by
        intro part hpart
        obtain ⟨hpart, hne⟩ := List.mem_filter.1 hpart
        exact (List.mem_cons.1 (hmem part hpart)).resolve_left (by simpa using hne)
      have hrest := ih hlayers hothers
      rw [List.flatMap_congr hkept] at hrest
      exact (hrest.append_left _).trans (List.filter_append_perm _ _)

/-- The parts of all layers are all parts, each of them once. -/
theorem LayersOf.perm (h : LayersOf parts layers) :
    (layers.flatMap fun layer => (nodesOn layer parts).map (layer, ·)).Perm parts := by
  simp only [map_nodesOn]
  exact flatMap_filter_perm h.nodup fun part hpart => (h.mem_iff part.1).2 ⟨part.2, hpart⟩

end LayeredOutput

open LayeredOutput

namespace Grouping

/-! ### Putting sorted parts into groups -/

variable {g : Grouping} {parts rest : List (Layer × SvgNode)} {part : Layer × SvgNode} {earlier : List Layer}

/-- The groups hold the parts: the open one those of the last layer, and the closed ones those of the earlier layers. -/
structure Holds (g : Grouping) (parts : List (Layer × SvgNode)) (earlier : List Layer) : Prop where
  layers : LayersOf parts (earlier ++ [g.layer])
  closed : g.closed.toList = earlier.map fun layer => layer.group (nodesOn layer parts)
  opened : g.parts.toList = nodesOn g.layer parts

theorem Holds.groups (h : Holds g parts earlier) :
    g.groups.toList = (earlier ++ [g.layer]).map fun layer => layer.group (nodesOn layer parts) := by
  rw [Grouping.groups, Array.toList_push, h.closed, h.opened, List.map_append]
  rfl

theorem Holds.rank_lt (h : Holds g parts earlier) : ∀ layer ∈ earlier, layer.rank < g.layer.rank := by
  intro layer hlayer
  exact (List.pairwise_append.1 h.layers.increasing).2.2 layer hlayer g.layer (List.mem_singleton.2 rfl)

/-- Groups of other layers than that of a further part are not concerned by it. -/
theorem map_group_snoc {layers : List Layer} (h : part.1 ∉ layers) :
    (layers.map fun layer => layer.group (nodesOn layer (parts ++ [part]))) =
      layers.map fun layer => layer.group (nodesOn layer parts) := by
  refine List.map_congr_left fun layer hlayer => ?_
  have hne : part.1 ≠ layer := by
    rintro rfl
    exact h hlayer
  rw [nodesOn_snoc, if_neg hne, List.append_nil]

/-- A further part of the last layer goes to the open group. -/
theorem Holds.add_same (h : Holds g parts earlier) (hlayer : part.1 = g.layer) :
    Holds (g.add part) (parts ++ [part]) earlier := by
  have hadd : g.add part = { g with parts := g.parts.push part.2 } := by
    rw [add, turnTo, if_pos hlayer]
  have hnew : part.1 ∉ earlier := fun hmem => Nat.lt_irrefl _ (hlayer ▸ h.rank_lt _ hmem)
  rw [hadd]
  refine ⟨⟨h.layers.increasing, fun layer => ?_⟩, ?_, ?_⟩
  · rw [exists_mem_snoc, ← h.layers.mem_iff]
    refine (or_iff_left_of_imp ?_).symm
    rintro rfl
    exact hlayer ▸ List.mem_append_right _ (List.mem_singleton.2 rfl)
  · rw [h.closed, map_group_snoc hnew]
  · rw [Array.toList_push, h.opened, nodesOn_snoc, if_pos hlayer]

/-- With a part of a later layer the open group is closed, and the part is the first one of a new group. -/
theorem Holds.add_later (h : Holds g parts earlier) (hlayer : g.layer.rank < part.1.rank) :
    Holds (g.add part) (parts ++ [part]) (earlier ++ [g.layer]) := by
  have hadd : g.add part = ⟨g.groups, part.1, #[part.2]⟩ := by
    have hne : part.1 ≠ g.layer := by
      intro heq
      exact Nat.lt_irrefl _ (heq ▸ hlayer)
    rw [add, turnTo, if_neg hne]
    rfl
  have hlater : ∀ layer ∈ earlier ++ [g.layer], layer.rank < part.1.rank := by
    refine List.forall_mem_append.2 ⟨fun layer hmem => ?_, List.forall_mem_singleton.2 hlayer⟩
    exact Nat.lt_trans (h.rank_lt layer hmem) hlayer
  have hnew : part.1 ∉ earlier ++ [g.layer] := fun hmem => Nat.lt_irrefl _ (hlater _ hmem)
  rw [hadd]
  refine ⟨⟨?_, fun layer => ?_⟩, ?_, ?_⟩
  · refine List.pairwise_append.2 ⟨h.layers.increasing, List.pairwise_singleton _ _, fun layer hmem => ?_⟩
    exact List.forall_mem_singleton.2 (hlater layer hmem)
  · rw [exists_mem_snoc, ← h.layers.mem_iff, List.mem_append, List.mem_singleton]
  · rw [h.groups, map_group_snoc hnew]
  · have hnone : nodesOn part.1 parts = [] := nodesOn_eq_nil_iff.2 fun hmem => hnew ((h.layers.mem_iff _).2 hmem)
    rw [nodesOn_snoc, hnone, if_pos rfl]
    rfl

/-- What a step keeps: a further part that is on no earlier layer than the parts before. -/
theorem Holds.add (h : Holds g parts earlier) (hle : ∀ p ∈ parts, p.1.rank ≤ part.1.rank) :
    ∃ earlier', Holds (g.add part) (parts ++ [part]) earlier' := by
  obtain ⟨node, hnode⟩ := (h.layers.mem_iff g.layer).1 (List.mem_append_right _ (List.mem_singleton.2 rfl))
  rcases Nat.eq_or_lt_of_le (hle _ hnode) with heq | hlt
  · exact ⟨earlier, h.add_same (Layer.eq_of_rank heq).symm⟩
  · exact ⟨earlier ++ [g.layer], h.add_later hlt⟩

/-- What all steps keep: the parts that are put in hold with those before. -/
theorem Holds.foldl (h : Holds g parts earlier) (hsorted : (parts ++ rest).Pairwise fun a b => a.1.rank ≤ b.1.rank) :
    ∃ earlier', Holds (rest.foldl Grouping.add g) (parts ++ rest) earlier' := by
  induction rest generalizing g parts earlier with
  | nil => exact ⟨earlier, (List.append_nil parts).symm ▸ h⟩
  | cons part rest ih =>
      have hle : ∀ p ∈ parts, p.1.rank ≤ part.1.rank := fun p hp =>
        (List.pairwise_append.1 hsorted).2.2 p hp part List.mem_cons_self
      obtain ⟨earlier', h'⟩ := h.add hle
      rw [List.append_cons] at hsorted ⊢
      exact ih h' hsorted

/-- The group that is open at first gets the first part. -/
theorem holds_first (first : Layer × SvgNode) : Holds (Grouping.add ⟨#[], first.1, #[]⟩ first) [first] [] := by
  have hadd : Grouping.add ⟨#[], first.1, #[]⟩ first = ⟨#[], first.1, #[first.2]⟩ := by
    rw [Grouping.add, turnTo, if_pos rfl]
    rfl
  rw [hadd]
  refine ⟨⟨List.pairwise_singleton _ _, fun layer => ?_⟩, rfl, ?_⟩
  · rw [List.nil_append, List.mem_singleton]
    refine ⟨fun h => ⟨first.2, h ▸ List.mem_singleton.2 rfl⟩, ?_⟩
    rintro ⟨node, hnode⟩
    exact congrArg Prod.fst (List.mem_singleton.1 hnode)
  · exact ((nodesOn_snoc first.1 [] first).trans (if_pos rfl)).symm

end Grouping

namespace LayeredOutput

/-! ### The groups of an output -/

/-- The order that parts are sorted by is transitive. -/
theorem rank_trans (a b c : Layer × SvgNode) (hab : decide (a.1.rank ≤ b.1.rank)) (hbc : decide (b.1.rank ≤ c.1.rank)) :
    decide (a.1.rank ≤ c.1.rank) :=
  decide_eq_true (Nat.le_trans (of_decide_eq_true hab) (of_decide_eq_true hbc))

/-- The order that parts are sorted by is total. -/
theorem rank_total (a b : Layer × SvgNode) : decide (a.1.rank ≤ b.1.rank) || decide (b.1.rank ≤ a.1.rank) := by
  simpa using Nat.le_total a.1.rank b.1.rank

/-- Sorting keeps the order in every layer. -/
theorem nodesOn_mergeSort (layer : Layer) (items : List (Layer × SvgNode)) :
    nodesOn layer (items.mergeSort fun a b => a.1.rank ≤ b.1.rank) = nodesOn layer items := by
  -- What is on one layer is in order already, so sorting keeps it as a sublist, and it adds nothing to a layer.
  have hranks : (items.filter (·.1 = layer)).Pairwise fun a b => decide (a.1.rank ≤ b.1.rank) = true := by
    apply List.pairwise_of_forall_mem_list
    intro a ha b hb
    have hlayer : a.1 = layer := by simpa using (List.mem_filter.1 ha).2
    have hlayer' : b.1 = layer := by simpa using (List.mem_filter.1 hb).2
    simp [hlayer, hlayer']
  have hsublist : (items.filter (·.1 = layer)).Sublist (items.mergeSort fun a b => a.1.rank ≤ b.1.rank) :=
    List.sublist_mergeSort rank_trans rank_total hranks List.filter_sublist
  have hfiltered := hsublist.filter (·.1 = layer)
  simp only [List.filter_filter, Bool.and_self] at hfiltered
  have hlength := ((List.mergeSort_perm items fun a b => a.1.rank ≤ b.1.rank).filter (·.1 = layer)).length_eq
  rw [nodesOn, nodesOn, hfiltered.eq_of_length hlength.symm]

/-- One group comes out for each layer that there are parts on, from the back to the front. -/
theorem exists_layers (output : LayeredOutput) : ∃ layers, LayersOf output.items.toList layers ∧
    output.render = layers.map fun layer => layer.group (nodesOn layer output.items.toList) := by
  have hsorted := (List.pairwise_mergeSort rank_trans rank_total output.items.toList).imp of_decide_eq_true
  have hmem : ∀ layer, (∃ node, (layer, node) ∈ output.items.toList.mergeSort fun a b => a.1.rank ≤ b.1.rank) ↔
      ∃ node, (layer, node) ∈ output.items.toList := by
    simp only [List.mem_mergeSort, implies_true]
  have hnodes : ∀ layer, nodesOn layer (output.items.toList.mergeSort fun a b => a.1.rank ≤ b.1.rank) =
      nodesOn layer output.items.toList := fun layer => nodesOn_mergeSort layer _
  unfold render
  generalize output.items.toList.mergeSort (fun a b => a.1.rank ≤ b.1.rank) = sorted at hsorted hmem hnodes ⊢
  cases sorted with
  | nil => exact ⟨[], ⟨.nil, fun layer => by rw [← hmem]; simp⟩, rfl⟩
  | cons first rest =>
      obtain ⟨earlier, h⟩ := (Grouping.holds_first first).foldl hsorted
      refine ⟨_, ⟨h.layers.increasing, fun layer => (h.layers.mem_iff layer).trans (hmem layer)⟩, ?_⟩
      refine h.groups.trans ?_
      exact List.map_congr_left fun layer _ => by rw [← hnodes layer]; rfl

theorem render_eq {output : LayeredOutput} {layers : List Layer} (h : LayersOf output.items.toList layers) :
    output.render = layers.map fun layer => layer.group (nodesOn layer output.items.toList) := by
  obtain ⟨layers', h', hrender⟩ := output.exists_layers
  rw [hrender, h'.unique h]

/-! ### Outputs that are made by calls -/

/-- A call on an output: a part is added to it, or another output is merged into it, which was made by calls itself. -/
inductive Call where
  | add (layer : Layer) (node : SvgNode)
  | merge (calls : List Call)

mutual

/-- The output after a call. -/
def afterCall (output : LayeredOutput) : Call → LayeredOutput
  | .add layer node => output.add layer node
  | .merge calls => output.merge (afterCalls empty calls)

/-- The output after calls, one after the other. -/
def afterCalls (output : LayeredOutput) : List Call → LayeredOutput
  | [] => output
  | call :: calls => afterCalls (afterCall output call) calls

end

/-- The output that calls make out of an empty one. -/
def ofCalls (calls : List Call) : LayeredOutput := afterCalls empty calls

mutual

/-- The parts that come in with a call. -/
def Call.parts : Call → List (Layer × SvgNode)
  | .add layer node => [(layer, node)]
  | .merge calls => Call.allParts calls

/-- The parts that come in with calls. Those of a merged output stand where it is merged. -/
def Call.allParts : List Call → List (Layer × SvgNode)
  | [] => []
  | call :: calls => call.parts ++ Call.allParts calls

end

mutual

/-- A call keeps the parts that are there and puts its own behind them. -/
theorem items_afterCall (output : LayeredOutput) (call : Call) :
    (output.afterCall call).items.toList = output.items.toList ++ call.parts := by
  cases call with
  | add layer node => rw [afterCall, add, Array.toList_push, Call.parts]
  | merge calls =>
      rw [afterCall, merge, Array.toList_append, items_afterCalls empty calls, Call.parts]
      rfl

theorem items_afterCalls (output : LayeredOutput) (calls : List Call) :
    (output.afterCalls calls).items.toList = output.items.toList ++ Call.allParts calls := by
  cases calls with
  | nil => rw [afterCalls, Call.allParts, List.append_nil]
  | cons call calls =>
      rw [afterCalls, items_afterCalls _ calls, items_afterCall output call, Call.allParts, List.append_assoc]

end

/-- There is a group for each layer that a part was added to, and for no other, from the back to the front. A group has
the parts of its layer in the order of the calls, and together the groups have all parts, each of them once. -/
theorem render_ofCalls (calls : List Call) : ∃ layers : List Layer,
    (ofCalls calls).render = layers.map (fun layer =>
      SvgNode.element "g" [("data-layer", layer.name)] (nodesOn layer (Call.allParts calls))) ∧
    layers.Pairwise (fun a b => a.rank < b.rank) ∧
    (∀ layer, layer ∈ layers ↔ ∃ node, (layer, node) ∈ Call.allParts calls) ∧
    (layers.flatMap fun layer => (nodesOn layer (Call.allParts calls)).map (layer, ·)).Perm (Call.allParts calls) := by
  have hitems : (ofCalls calls).items.toList = Call.allParts calls := items_afterCalls empty calls
  obtain ⟨layers, hlayers, hrender⟩ := (ofCalls calls).exists_layers
  rw [hitems] at hlayers hrender
  exact ⟨layers, hrender, hlayers.increasing, hlayers.mem_iff, hlayers.perm⟩

end LayeredOutput

end FormulaDiagram
