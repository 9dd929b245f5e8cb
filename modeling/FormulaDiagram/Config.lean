import FormulaDiagram.Numeric.Scalar

/-!
The measures that a drawing is laid out by. Lengths that things are divided into have to be positive, distances
must not be negative, and all of them have to be finite.
-/

namespace FormulaDiagram

/-- The measures of a layout. -/
structure Config (α : Type) where
  /-- The least width given to an atom. -/
  unitWidth : α
  /-- The least distance between neighbours. -/
  siblingGap : α
  /-- The least distance between the middles of two rows. -/
  rowHeight : α
  /-- The least height of a node. -/
  nodeHeight : α
  /-- The space between a label and the outline of its node. -/
  nodePadding : α
  fontSize : α
  /-- The space around the whole drawing. -/
  margin : α
deriving BEq, DecidableEq

/-- One of the measures. -/
inductive ConfigField where
  | unitWidth
  | siblingGap
  | rowHeight
  | nodeHeight
  | nodePadding
  | fontSize
  | margin
deriving DecidableEq

namespace ConfigField

/-- The measures in the order in which they are declared. -/
def all : List ConfigField :=
  [.unitWidth, .siblingGap, .rowHeight, .nodeHeight, .nodePadding, .fontSize, .margin]

/-- The key under which a configuration gives the measure. -/
def key : ConfigField → String
  | .unitWidth => "unit_width"
  | .siblingGap => "sibling_gap"
  | .rowHeight => "row_height"
  | .nodeHeight => "node_height"
  | .nodePadding => "node_padding"
  | .fontSize => "font_size"
  | .margin => "margin"

end ConfigField

/-- Why a configuration is refused: a measure has a value that it must not have. -/
inductive ConfigFault (α : Type) where
  | notPositive (field : ConfigField) (value : α)
  | negative (field : ConfigField) (value : α)
deriving DecidableEq

def ConfigFault.message {α : Type} [ToString α] : ConfigFault α → String
  | .notPositive field value => "`" ++ field.key ++ "` must be a positive number, got " ++ toString value
  | .negative field value => "`" ++ field.key ++ "` must not be negative, got " ++ toString value

namespace Config

variable {α : Type}

def get (config : Config α) : ConfigField → α
  | .unitWidth => config.unitWidth
  | .siblingGap => config.siblingGap
  | .rowHeight => config.rowHeight
  | .nodeHeight => config.nodeHeight
  | .nodePadding => config.nodePadding
  | .fontSize => config.fontSize
  | .margin => config.margin

def set (config : Config α) (field : ConfigField) (value : α) : Config α :=
  match field with
  | .unitWidth => { config with unitWidth := value }
  | .siblingGap => { config with siblingGap := value }
  | .rowHeight => { config with rowHeight := value }
  | .nodeHeight => { config with nodeHeight := value }
  | .nodePadding => { config with nodePadding := value }
  | .fontSize => { config with fontSize := value }
  | .margin => { config with margin := value }

variable [Scalar α]

/-- The measures that hold where nothing else is said. -/
def default : Config α where
  unitWidth := Scalar.ofNat 48
  siblingGap := Scalar.ofNat 16
  rowHeight := Scalar.ofNat 72
  nodeHeight := Scalar.ofNat 32
  nodePadding := Scalar.ofNat 12
  fontSize := Scalar.ofNat 16
  margin := Scalar.ofNat 20

instance : Inhabited (Config α) := ⟨default⟩

/-- The fault of one measure that has to be positive. -/
def checkPositive (config : Config α) (field : ConfigField) : Except (ConfigFault α) Unit :=
  let value := config.get field
  if !Scalar.isFinite value || value ≤ Scalar.zero then .error (.notPositive field value) else .ok ()

/-- The fault of one measure that must not be negative. -/
def checkNotNegative (config : Config α) (field : ConfigField) : Except (ConfigFault α) Unit :=
  let value := config.get field
  if !Scalar.isFinite value || value < Scalar.zero then .error (.negative field value) else .ok ()

/-- The first fault, those of the measures that have to be positive before the others. -/
def validate (config : Config α) : Except (ConfigFault α) Unit := do
  config.checkPositive .unitWidth
  config.checkPositive .rowHeight
  config.checkPositive .nodeHeight
  config.checkPositive .fontSize
  config.checkNotNegative .siblingGap
  config.checkNotNegative .nodePadding
  config.checkNotNegative .margin

end Config

end FormulaDiagram
