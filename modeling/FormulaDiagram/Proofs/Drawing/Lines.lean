import FormulaDiagram.Drawing.Svg

/-!
The lines of a document. Where no name, value or text has a newline in it, the lines can be told from the text of the
document, and among them the texts from the tags: tags begin with `<`, which is written otherwise in a text.
-/

namespace FormulaDiagram

/-- There is no newline in the text. -/
def Text.OneLine (s : String) : Prop := '\n' ∉ s.toList

@[simp] theorem Text.oneLine_iff (s : String) : Text.OneLine s ↔ '\n' ∉ s.toList := Iff.rfl

namespace SvgNode

mutual

/-- The texts in a node, from the first to the last. -/
def texts : SvgNode → List String
  | .text content => [content]
  | .element _ _ children => textsAll children

def textsAll : List SvgNode → List String
  | [] => []
  | node :: nodes => texts node ++ textsAll nodes

end

mutual

/-- There is no newline in any name, value or text of a node. -/
def OneLine : SvgNode → Prop
  | .text content => Text.OneLine content
  | .element name attributes children =>
    Text.OneLine name ∧ (∀ p ∈ attributes, Text.OneLine p.1 ∧ Text.OneLine p.2) ∧ AllOneLine children

def AllOneLine : List SvgNode → Prop
  | [] => True
  | node :: nodes => OneLine node ∧ AllOneLine nodes

end

theorem textsAll_eq (nodes : List SvgNode) : textsAll nodes = nodes.flatMap texts := by
  induction nodes with
  | nil => rfl
  | cons node nodes ih => rw [textsAll, ih, List.flatMap_cons]

theorem allOneLine_iff (nodes : List SvgNode) : AllOneLine nodes ↔ ∀ node ∈ nodes, OneLine node := by
  induction nodes with
  | nil => simp [AllOneLine]
  | cons node nodes ih => rw [AllOneLine, ih, List.forall_mem_cons]

/-! ### Attributes -/

theorem mem_insertAttribute {name value : String} {p : String × String} {attributes : List (String × String)}
    (h : p ∈ insertAttribute name value attributes) : p = (name, value) ∨ p ∈ attributes := by
  induction attributes with
  | nil => exact .inl (List.mem_singleton.1 h)
  | cons first rest ih =>
      obtain ⟨name', value'⟩ := first
      rw [insertAttribute] at h
      split at h
      · exact List.mem_cons.1 h
      · split at h
        · rcases List.mem_cons.1 h with h | h
          · exact .inl h
          · exact .inr (List.mem_cons_of_mem _ h)
        · rcases List.mem_cons.1 h with h | h
          · exact .inr (h ▸ List.mem_cons_self)
          · rcases ih h with h | h
            · exact .inl h
            · exact .inr (List.mem_cons_of_mem _ h)

/-- Putting attributes in order adds none. -/
theorem mem_sorted {p : String × String} {attributes sorted : List (String × String)}
    (h : p ∈ attributes.foldl (fun sorted (key, value) => insertAttribute key value sorted) sorted) :
    p ∈ attributes ∨ p ∈ sorted := by
  induction attributes generalizing sorted with
  | nil => exact .inr h
  | cons first rest ih =>
      rcases ih h with h | h
      · exact .inl (List.mem_cons_of_mem _ h)
      · rcases mem_insertAttribute h with h | h
        · exact .inl (h ▸ List.mem_cons_self)
        · exact .inr h

theorem oneLine_tag {name : String} {attributes : List (String × String)} {children : List SvgNode}
    (hname : Text.OneLine name) (hattributes : ∀ p ∈ attributes, Text.OneLine p.1 ∧ Text.OneLine p.2)
    (hchildren : ∀ node ∈ children, OneLine node) : OneLine (tag name attributes children) := by
  refine ⟨hname, ?_, (allOneLine_iff children).2 hchildren⟩
  intro p hp
  rcases mem_sorted hp with hp | hp
  · exact hattributes p hp
  · cases hp

@[simp] theorem texts_tag (name : String) (attributes : List (String × String)) (children : List SvgNode) :
    (tag name attributes children).texts = children.flatMap texts := by
  rw [tag, texts, textsAll_eq]

/-! ### Lines -/

theorem escapeChar_cases (c : Char) : (escapeChar c = [c] ∧ c ≠ '<') ∨ ∃ cs, escapeChar c = '&' :: cs ∧ '\n' ∉ cs := by
  unfold escapeChar
  split
  · exact .inr ⟨_, rfl, by decide⟩
  · exact .inr ⟨_, rfl, by decide⟩
  · exact .inr ⟨_, rfl, by decide⟩
  · exact .inl ⟨rfl, ‹_›⟩

theorem oneLine_escape {s : String} (h : Text.OneLine s) : Text.OneLine (escape s) := by
  intro hmem
  rw [escape, String.toList_ofList] at hmem
  obtain ⟨c, hc, hmem⟩ := List.mem_flatMap.1 hmem
  rcases escapeChar_cases c with ⟨heq, -⟩ | ⟨cs, heq, hcs⟩
  · rw [heq, List.mem_singleton] at hmem
    exact h (hmem ▸ hc)
  · rw [heq] at hmem
    rcases List.mem_cons.1 hmem with hmem | hmem
    · cases hmem
    · exact hcs hmem

theorem oneLine_headText {name : String} {attributes : List (String × String)} (hname : Text.OneLine name)
    (h : ∀ p ∈ attributes, Text.OneLine p.1 ∧ Text.OneLine p.2) : Text.OneLine (headText name attributes) := by
  have hattributes : Text.OneLine (String.join (attributes.map attributeText)) := by
    intro hmem
    rw [String.toList_join] at hmem
    obtain ⟨s, hs, hmem⟩ := List.mem_flatMap.1 hmem
    obtain ⟨p, hp, rfl⟩ := List.mem_map.1 hs
    obtain ⟨hkey, hvalue⟩ := h p hp
    have hescape := oneLine_escape hvalue
    simp only [Text.oneLine_iff] at hkey hescape
    simp [attributeText, hkey, hescape] at hmem
  have hopening : Text.OneLine ("<" ++ name) := by simpa using hname
  rw [Text.oneLine_iff, headText, String.toList_append]
  exact List.not_mem_append hopening hattributes

mutual

theorem oneLine_linesOnto (node : SvgNode) (h : OneLine node) {rest : List String} (hr : ∀ s ∈ rest, Text.OneLine s) :
    ∀ s ∈ linesOnto node rest, Text.OneLine s := by
  cases node with
  | text content => exact List.forall_mem_cons.2 ⟨oneLine_escape h, hr⟩
  | element name attributes children =>
      obtain ⟨hname, hattributes, hchildren⟩ := h
      have hhead := oneLine_headText hname hattributes
      simp only [Text.oneLine_iff] at hname hhead
      cases children with
      | nil => exact List.forall_mem_cons.2 ⟨by simp [hhead], hr⟩
      | cons child children =>
          have hclosing : Text.OneLine ("</" ++ name ++ ">") := by simp [hname]
          have hall := oneLine_linesOntoAll (child :: children) hchildren (List.forall_mem_cons.2 ⟨hclosing, hr⟩)
          exact List.forall_mem_cons.2 ⟨by simp [hhead], hall⟩

theorem oneLine_linesOntoAll (nodes : List SvgNode) (h : AllOneLine nodes) {rest : List String}
    (hr : ∀ s ∈ rest, Text.OneLine s) : ∀ s ∈ linesOntoAll nodes rest, Text.OneLine s := by
  cases nodes with
  | nil => exact hr
  | cons node nodes => exact oneLine_linesOnto node h.1 (oneLine_linesOntoAll nodes h.2 hr)

end

/-- The line is no tag. -/
def isContent (line : String) : Bool := line.toList.head? ≠ some '<'

theorem isContent_escape (s : String) : isContent (escape s) = true := by
  rw [isContent, escape, String.toList_ofList]
  cases s.toList with
  | nil => rfl
  | cons c cs =>
      rcases escapeChar_cases c with ⟨heq, hc⟩ | ⟨ds, heq, -⟩
      · simp [heq, hc]
      · simp [heq]

theorem isContent_headText (name : String) (attributes : List (String × String)) (suffix : String) :
    isContent (headText name attributes ++ suffix) = false := by
  simp [isContent, headText]

theorem isContent_closing (name : String) : isContent ("</" ++ name ++ ">") = false := by
  simp [isContent]

mutual

/-- The lines that are no tags are the texts. -/
theorem filter_linesOnto (node : SvgNode) (rest : List String) :
    (linesOnto node rest).filter isContent = node.texts.map escape ++ rest.filter isContent := by
  cases node with
  | text content => rw [linesOnto, List.filter_cons_of_pos (isContent_escape content)]; rfl
  | element name attributes children =>
      cases children with
      | nil => rw [linesOnto, List.filter_cons_of_neg (by simp [isContent_headText])]; rfl
      | cons child children =>
          have hall := filter_linesOntoAll (child :: children) (("</" ++ name ++ ">") :: rest)
          rw [List.filter_cons_of_neg (by simp [isContent_closing])] at hall
          rw [linesOnto, List.filter_cons_of_neg (by simp [isContent_headText])]
          exact hall

theorem filter_linesOntoAll (nodes : List SvgNode) (rest : List String) :
    (linesOntoAll nodes rest).filter isContent = (textsAll nodes).map escape ++ rest.filter isContent := by
  cases nodes with
  | nil => rfl
  | cons node nodes =>
      rw [linesOntoAll, filter_linesOnto node, filter_linesOntoAll nodes, textsAll, List.map_append, List.append_assoc]

end

theorem linesOnto_ne_nil (node : SvgNode) (rest : List String) : linesOnto node rest ≠ [] := by
  cases node with
  | text => exact List.cons_ne_nil _ _
  | element name attributes children => cases children <;> exact List.cons_ne_nil _ _

theorem splitOn_intercalate {lines : List String} (hne : lines ≠ []) (h : ∀ s ∈ lines, Text.OneLine s) :
    (String.intercalate "\n" lines).toList.splitOn '\n' = lines.map String.toList := by
  rw [String.toList_intercalate]
  refine List.splitOn_intercalate '\n' ?_ (by simpa using hne)
  intro l hl
  obtain ⟨s, hs, rfl⟩ := List.mem_map.1 hl
  exact h s hs

/-- The characters are written as they are, in one line. -/
def Plain (cs : List Char) : Prop := ∀ c ∈ cs, c ≠ '\n' ∧ escapeChar c = [c]

instance (cs : List Char) : Decidable (Plain cs) :=
  decidable_of_iff (cs.all fun c => c ≠ '\n' && escapeChar c = [c]) (by simp [Plain])

theorem Plain.append {cs ds : List Char} (h : Plain cs) (h' : Plain ds) : Plain (cs ++ ds) :=
  List.forall_mem_append.2 ⟨h, h'⟩

theorem Plain.cons {c : Char} {cs : List Char} (hc : c ≠ '\n' ∧ escapeChar c = [c]) (h : Plain cs) : Plain (c :: cs) :=
  List.forall_mem_cons.2 ⟨hc, h⟩

theorem Plain.oneLine {s : String} (h : Plain s.toList) : Text.OneLine s := by
  intro hmem
  exact (h '\n' hmem).1 rfl

theorem Plain.escape_eq {s : String} (h : Plain s.toList) : escape s = s := by
  have hchars : s.toList.flatMap escapeChar = s.toList := by
    calc s.toList.flatMap escapeChar
        = s.toList.flatMap fun c => [c] := by
          rw [List.flatMap_def, List.flatMap_def, List.map_congr_left fun c hc => (h c hc).2]
      _ = s.toList := List.flatMap_singleton' s.toList
  rw [escape, hchars, String.ofList_toList]

theorem texts_of_render {node node' : SvgNode} (h : OneLine node) (h' : OneLine node')
    (heq : node.render = node'.render) : node.texts.map escape = node'.texts.map escape := by
  -- No line has a newline in it, so cutting at newlines gives the lines back.
  have hlines : node.linesOnto [] = node'.linesOnto [] := by
    have hchars := congrArg (fun s => s.toList.splitOn '\n') heq
    simp only [render] at hchars
    rw [splitOn_intercalate (linesOnto_ne_nil node []) (oneLine_linesOnto node h nofun),
      splitOn_intercalate (linesOnto_ne_nil node' []) (oneLine_linesOnto node' h' nofun)] at hchars
    exact (List.map_inj_right fun _ _ => String.toList_inj.1).1 hchars
  have hcontents := congrArg (List.filter isContent) hlines
  rw [filter_linesOnto, filter_linesOnto] at hcontents
  simpa using hcontents

end SvgNode

end FormulaDiagram
