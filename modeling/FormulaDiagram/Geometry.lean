import FormulaDiagram.Numeric.Scalar

/-!
Points, sizes and rectangles with sides along the axes, in a plane whose second coordinate grows downwards. All
of it is written over any scalars.
-/

namespace FormulaDiagram

structure Point (α : Type) where
  x : α
  y : α
deriving BEq, DecidableEq

structure Size (α : Type) where
  width : α
  height : α
deriving BEq, DecidableEq

/-- Distances inwards from the four sides of a rectangle, or outwards to a larger one. -/
structure Insets (α : Type) where
  top : α
  right : α
  bottom : α
  left : α
deriving BEq, DecidableEq

/-- A rectangle, by its least and its greatest coordinates. -/
structure Bounds (α : Type) where
  minX : α
  minY : α
  maxX : α
  maxY : α
deriving BEq, DecidableEq

/-- The same inset on every side. -/
def Insets.uniform {α : Type} (inset : α) : Insets α := ⟨inset, inset, inset, inset⟩

namespace Size

variable {α : Type} [Scalar α]

def zero : Size α := ⟨Scalar.zero, Scalar.zero⟩

/-- Both measures are zero, of either sign. -/
def isZero [BEq α] (size : Size α) : Bool := size.width == Scalar.zero && size.height == Scalar.zero

end Size

namespace Bounds

variable {α : Type} [Scalar α]

/-- The rectangle of no size at the origin. -/
def origin : Bounds α := ⟨Scalar.zero, Scalar.zero, Scalar.zero, Scalar.zero⟩

/-- The rectangle of a size around a centre. -/
def around (center : Point α) (size : Size α) : Bounds α where
  minX := center.x - Scalar.half size.width
  minY := center.y - Scalar.half size.height
  maxX := center.x + Scalar.half size.width
  maxY := center.y + Scalar.half size.height

/-- The rectangle of a size whose least coordinates are those of a point. -/
def fromCorner (corner : Point α) (size : Size α) : Bounds α where
  minX := corner.x
  minY := corner.y
  maxX := corner.x + size.width
  maxY := corner.y + size.height

/-- The smallest rectangle with two points in it. -/
def ofPoints (a b : Point α) : Bounds α where
  minX := min a.x b.x
  minY := min a.y b.y
  maxX := max a.x b.x
  maxY := max a.y b.y

variable (b other : Bounds α)

def width : α := b.maxX - b.minX

def height : α := b.maxY - b.minY

def size : Size α := ⟨b.width, b.height⟩

def middleX : α := Scalar.half (b.minX + b.maxX)

def center : Point α := ⟨b.middleX, Scalar.half (b.minY + b.maxY)⟩

/-- The corner of the least coordinates. -/
def corner : Point α := ⟨b.minX, b.minY⟩

def topCenter : Point α := ⟨b.middleX, b.minY⟩

def bottomCenter : Point α := ⟨b.middleX, b.maxY⟩

/-- The smallest rectangle that holds both. -/
def merge : Bounds α where
  minX := min b.minX other.minX
  minY := min b.minY other.minY
  maxX := max b.maxX other.maxX
  maxY := max b.maxY other.maxY

/-- The other rectangle lies inside. -/
def contains : Bool :=
  b.minX ≤ other.minX && b.minY ≤ other.minY && other.maxX ≤ b.maxX && other.maxY ≤ b.maxY

/-- The rectangle grown outwards. -/
def pad (insets : Insets α) : Bounds α where
  minX := b.minX - insets.left
  minY := b.minY - insets.top
  maxX := b.maxX + insets.right
  maxY := b.maxY + insets.bottom

/-- The smallest rectangle that holds all of a list, merged from the first on; that of no size if there is
none. -/
def hull : List (Bounds α) → Bounds α
  | [] => origin
  | first :: rest => rest.foldl merge first

end Bounds

end FormulaDiagram
