import Mathlib.Data.List.Nodup
import FormulaDiagram.ConfigFile

/-!
What the document of a configuration file comes to, measure by measure. The item `layout` gives something for a
measure by its key or by its place; what it gives has to be a number, and where it gives nothing the default holds.
Reading a configuration goes over the measures one after the other and sets each that is given. Each is set once at
most, so what is read for one of them does not depend on the others.
-/

namespace FormulaDiagram

namespace ConfigField

/-- The place of a measure among those that are given in their order. -/
def position : ConfigField → Nat
  | .unitWidth => 0
  | .siblingGap => 1
  | .rowHeight => 2
  | .nodeHeight => 3
  | .nodePadding => 4
  | .fontSize => 5
  | .margin => 6

theorem mem_all (field : ConfigField) : field ∈ all := by
  cases field <;> decide

theorem nodup_all : all.Nodup := by
  decide

theorem all_getElem? (field : ConfigField) : all[field.position]? = some field := by
  cases field <;> rfl

end ConfigField

namespace Config

variable {α : Type}

theorem ext_get {config config' : Config α} (h : ∀ field, config.get field = config'.get field) :
    config = config' := by
  obtain ⟨unitWidth, siblingGap, rowHeight, nodeHeight, nodePadding, fontSize, margin⟩ := config
  obtain rfl : unitWidth = config'.unitWidth := h .unitWidth
  obtain rfl : siblingGap = config'.siblingGap := h .siblingGap
  obtain rfl : rowHeight = config'.rowHeight := h .rowHeight
  obtain rfl : nodeHeight = config'.nodeHeight := h .nodeHeight
  obtain rfl : nodePadding = config'.nodePadding := h .nodePadding
  obtain rfl : fontSize = config'.fontSize := h .fontSize
  obtain rfl : margin = config'.margin := h .margin
  rfl

theorem get_set_self (config : Config α) (field : ConfigField) (x : α) : (config.set field x).get field = x := by
  cases field <;> rfl

theorem get_set_of_ne (config : Config α) {field field' : ConfigField} (h : field' ≠ field) (x : α) :
    (config.set field x).get field' = config.get field' := by
  cases field <;> cases field' <;> first | rfl | exact absurd rfl h

/-- The configuration whose measures are found one by one. -/
def ofMeasures? (measure? : ConfigField → Option α) : Option (Config α) := do
  let unitWidth ← measure? .unitWidth
  let siblingGap ← measure? .siblingGap
  let rowHeight ← measure? .rowHeight
  let nodeHeight ← measure? .nodeHeight
  let nodePadding ← measure? .nodePadding
  let fontSize ← measure? .fontSize
  let margin ← measure? .margin
  return { unitWidth, siblingGap, rowHeight, nodeHeight, nodePadding, fontSize, margin }

theorem ofMeasures?_eq_some_iff {measure? : ConfigField → Option α} {config : Config α} :
    ofMeasures? measure? = some config ↔ ∀ field, measure? field = some (config.get field) := by
  simp only [ofMeasures?, Option.bind_eq_bind, Option.bind_eq_some_iff, Option.pure_def, Option.some.injEq]
  constructor
  · rintro ⟨_, h₀, _, h₁, _, h₂, _, h₃, _, h₄, _, h₅, _, h₆, rfl⟩ field
    cases field <;> assumption
  · intro h
    exact ⟨_, h .unitWidth, _, h .siblingGap, _, h .rowHeight, _, h .nodeHeight, _, h .nodePadding, _, h .fontSize,
      _, h .margin, rfl⟩

end Config

namespace ConfigFile

/-- What the item `layout` gives for a measure, by its key or by its place. -/
def given? (layout : Option Toml.Item) (field : ConfigField) : Option Toml.Item :=
  match layout with
  | some (.table _ entries) => Toml.Entries.find? entries field.key
  | some (.array items) => items[field.position]?
  | _ => none

/-- The measure is the number that is given for it, or the default one where nothing is given. -/
def measure? (layout : Option Toml.Item) (field : ConfigField) : Option Single :=
  match given? layout field with
  | some item => number? item
  | none => some (Config.default.get field)

/-- The item `layout` is of a kind that measures may be read from: it is missing, a date or a time, a table in which
everything can be read, or an array. -/
def isLayout : Option Toml.Item → Bool
  | none => true
  | some .dateTime => true
  | some (.table _ entries) => Toml.Entries.areReadable entries
  | some (.array _) => true
  | some _ => false

/-- The configuration that the table of a document gives. Everything beside `layout` has to be readable. -/
def measures? (document : Toml.Entries) : Option (Config Single) :=
  if Toml.Entries.areReadable (document.filter (·.1 ≠ "layout")) && isLayout (document.find? "layout") then
    Config.ofMeasures? (measure? (document.find? "layout"))
  else none

/-! ### Measures that are set one after the other -/

/-- Sets the measures that are given, one after the other. -/
def setAll (given : List (ConfigField × Toml.Item)) (config : Config Single) : Option (Config Single) :=
  given.foldlM (fun config (field, item) => (number? item).map (config.set field)) config

/-- Each measure is the number that is given for it, or the one from before. -/
theorem setAll_eq_some_iff {given : List (ConfigField × Toml.Item)} (hn : (given.map Prod.fst).Nodup)
    {config config' : Config Single} :
    setAll given config = some config' ↔ ∀ field, ((given.lookup field).elim (some (config.get field)) number?) =
      some (config'.get field) := by
  induction given generalizing config with
  | nil =>
      constructor
      · intro h
        cases h
        exact fun field => rfl
      · intro h
        exact congrArg some (Config.ext_get fun field => Option.some.inj (h field))
  | cons p given ih =>
      obtain ⟨field, item⟩ := p
      obtain ⟨hfield, hn⟩ := List.nodup_cons.1 hn
      have hlookup : given.lookup field = none := by
        rw [List.lookup_eq_none_iff]
        intro q hq
        exact bne_iff_ne.2 fun heq => hfield (List.mem_map.2 ⟨q, hq, heq.symm⟩)
      have hcons : setAll ((field, item) :: given) config =
          (number? item).bind fun x => setAll given (config.set field x) := by
        show ((number? item).map (config.set field)).bind (setAll given) = _
        rw [Option.bind_map]
        rfl
      have hother {field' : ConfigField} (hne : field' ≠ field) :
          ((field, item) :: given).lookup field' = given.lookup field' := by
        rw [List.lookup_cons, beq_eq_false_iff_ne.2 hne]
      have hself : ((field, item) :: given).lookup field = some item := by
        rw [List.lookup_cons, beq_self_eq_true]
      rw [hcons, Option.bind_eq_some_iff]
      constructor
      · rintro ⟨x, hx, h⟩ field'
        have hrest := (ih hn).1 h
        by_cases hne : field' = field
        · subst hne
          have hset := hrest field'
          rw [hlookup, Config.get_set_self] at hset
          rw [hself, ← hset]
          exact hx
        · rw [hother hne, ← hrest field', Config.get_set_of_ne config hne]
      · intro h
        have hx := h field
        rw [hself] at hx
        refine ⟨config'.get field, hx, (ih hn).2 fun field' => ?_⟩
        by_cases hne : field' = field
        · subst hne
          rw [hlookup, Config.get_set_self]
          rfl
        · rw [Config.get_set_of_ne config hne, ← h field', hother hne]

theorem setAll_filterMap (fields : List ConfigField) (entries : Toml.Entries) (config : Config Single) :
    setAll (fields.filterMap fun field => (entries.find? field.key).map (field, ·)) config =
      fields.foldlM (fun config field =>
        match entries.find? field.key with
        | none => some config
        | some item => (number? item).map (config.set field)) config := by
  induction fields generalizing config with
  | nil => rfl
  | cons field fields ih =>
      cases hitem : entries.find? field.key with
      | none =>
          rw [List.filterMap_cons_none (by rw [hitem]; rfl), ih, List.foldlM_cons, hitem]
          rfl
      | some item =>
          rw [List.filterMap_cons_some (by rw [hitem]; rfl), List.foldlM_cons, hitem]
          show ((number? item).map (config.set field)).bind (setAll _) = ((number? item).map (config.set field)).bind _
          exact congrArg _ (funext ih)

/-! ### Measures by their keys and by their places -/

section

variable {κ ν : Type}

theorem nodup_filterMap {keys : List κ} (hn : keys.Nodup) (find? : κ → Option ν) :
    ((keys.filterMap fun k => (find? k).map (k, ·)).map Prod.fst).Nodup := by
  rw [List.map_filterMap]
  refine hn.filterMap fun a a' b hb hb' => ?_
  simp only [Option.mem_def, Option.map_map, Option.map_eq_some_iff, Function.comp_apply] at hb hb'
  obtain ⟨-, -, rfl⟩ := hb
  obtain ⟨-, -, rfl⟩ := hb'
  rfl

theorem nodup_zip {keys : List κ} (hn : keys.Nodup) (items : List ν) : ((keys.zip items).map Prod.fst).Nodup := by
  refine hn.sublist ?_
  clear hn
  induction keys generalizing items with
  | nil => exact List.Sublist.refl []
  | cons k keys ih =>
      cases items with
      | nil => exact List.nil_sublist _
      | cons item items => exact (ih items).cons_cons k

variable [DecidableEq κ]

/-- What is found under a key among the pairs of keys with what they stand for. -/
theorem lookup_filterMap (keys : List κ) (find? : κ → Option ν) (key : κ) :
    (keys.filterMap fun k => (find? k).map (k, ·)).lookup key = if key ∈ keys then find? key else none := by
  induction keys with
  | nil => rfl
  | cons k keys ih =>
      by_cases hk : key = k
      · subst hk
        cases hfind : find? key with
        | none => rw [List.filterMap_cons_none (by rw [hfind]; rfl), ih, hfind, ite_self, ite_self]
        | some x => rw [List.filterMap_cons_some (by rw [hfind]; rfl), List.lookup_cons_self, if_pos List.mem_cons_self]
      · have hmem : key ∈ k :: keys ↔ key ∈ keys := by rw [List.mem_cons, or_iff_right hk]
        cases hfind : find? k with
        | none => rw [List.filterMap_cons_none (by rw [hfind]; rfl), ih, if_congr hmem rfl rfl]
        | some x =>
            rw [List.filterMap_cons_some (by rw [hfind]; rfl), List.lookup_cons, beq_eq_false_iff_ne.2 hk, ih,
              if_congr hmem rfl rfl]

/-- What is found under a key is what stands at its place. -/
theorem lookup_zip {keys : List κ} (hn : keys.Nodup) {place : Nat} {key : κ} (hplace : keys[place]? = some key)
    (items : List ν) : (keys.zip items).lookup key = items[place]? := by
  induction keys generalizing place items with
  | nil => cases hplace
  | cons k keys ih =>
      obtain ⟨hk, hn⟩ := List.nodup_cons.1 hn
      cases items with
      | nil => rfl
      | cons item items =>
          rw [List.zip_cons_cons]
          cases place with
          | zero =>
              cases hplace
              rw [List.lookup_cons_self]
              rfl
          | succ place =>
              have hmem : key ∈ keys := List.mem_of_getElem? hplace
              have hne : key ≠ k := fun heq => hk (heq ▸ hmem)
              rw [List.lookup_cons, beq_eq_false_iff_ne.2 hne]
              exact ih hn hplace items

end

/-- Setting what is given finds the measures one by one. -/
theorem setAll_default {given : List (ConfigField × Toml.Item)} (hn : (given.map Prod.fst).Nodup)
    {layout : Option Toml.Item} (hgiven : ∀ field, given.lookup field = given? layout field) :
    setAll given Config.default = Config.ofMeasures? (measure? layout) := by
  refine Option.ext fun config => ?_
  rw [setAll_eq_some_iff hn, Config.ofMeasures?_eq_some_iff]
  refine forall_congr' fun field => ?_
  rw [measure?, hgiven]
  cases given? layout field <;> rfl

/-- Where nothing is given all measures are the default ones. -/
theorem ofMeasures?_of_none {layout : Option Toml.Item} (h : ∀ field, given? layout field = none) :
    Config.ofMeasures? (measure? layout) = some Config.default :=
  Config.ofMeasures?_eq_some_iff.2 fun field => by rw [measure?, h]

theorem ofEntries?_eq (state : Toml.TableState) (entries : Toml.Entries) : ofEntries? entries =
    if Toml.Entries.areReadable entries then Config.ofMeasures? (measure? (some (.table state entries))) else none := by
  have hn := nodup_filterMap ConfigField.nodup_all fun field => entries.find? field.key
  have hgiven (field : ConfigField) :
      (ConfigField.all.filterMap fun f => (entries.find? f.key).map (f, ·)).lookup field =
        given? (some (.table state entries)) field := by
    rw [lookup_filterMap, if_pos field.mem_all]
    rfl
  have hall := setAll_filterMap ConfigField.all entries Config.default
  rw [setAll_default hn hgiven] at hall
  exact congrArg (fun config => if Toml.Entries.areReadable entries then config else none) hall.symm

theorem ofItems?_eq (items : List Toml.Item) :
    ofItems? items = Config.ofMeasures? (measure? (some (.array items))) :=
  setAll_default (nodup_zip ConfigField.nodup_all items) fun field =>
    lookup_zip ConfigField.nodup_all field.all_getElem? items

/-- Each measure is read on its own. -/
theorem ofLayout?_eq (layout : Option Toml.Item) :
    ofLayout? layout = if isLayout layout then Config.ofMeasures? (measure? layout) else none := by
  match layout with
  | none => exact (ofMeasures?_of_none fun _ => rfl).symm
  | some .dateTime => exact (ofMeasures?_of_none fun _ => rfl).symm
  | some (.table state entries) => exact ofEntries?_eq state entries
  | some (.array items) => exact ofItems?_eq items
  | some (.string _) | some (.integer _) | some (.float _) | some (.boolean _) | some .unreadable
  | some (.tables _ _) => rfl

/-- A document is parsed first, and then the measures are read. -/
theorem ofDocument?_eq (document : String) : ofDocument? document = (Toml.parse? document).bind measures? := by
  rw [ofDocument?]
  refine congrArg (Option.bind (Toml.parse? document)) (funext fun entries => ?_)
  rw [measures?, ofLayout?_eq]
  cases Toml.Entries.areReadable (entries.filter (·.1 ≠ "layout")) <;> rfl

end ConfigFile

end FormulaDiagram
