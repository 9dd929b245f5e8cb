import FormulaDiagram.Text.Character

/-!
Ranges of bytes in a source text, from a start up to but not including a stop.
-/

namespace FormulaDiagram

/-- A range of byte offsets. -/
structure Span where
  start : Nat
  stop : Nat
  start_le_stop : start ≤ stop := by omega
deriving DecidableEq

namespace Span

/-- The range between two offsets, empty if the second one is not behind the first. -/
def between (start stop : Nat) : Span := ⟨start, max start stop, Nat.le_max_left _ _⟩

/-- The empty range at an offset. -/
def point (offset : Nat) : Span := ⟨offset, offset, Nat.le_refl _⟩

instance : Inhabited Span := ⟨point 0⟩

variable (s t : Span)

/-- The number of bytes in the range. -/
def length : Nat := s.stop - s.start

def isEmpty : Bool := s.start = s.stop

/-- The smallest range that holds both. -/
def union : Span where
  start := min s.start t.start
  stop := max s.stop t.stop
  start_le_stop :=
    Nat.le_trans (Nat.min_le_left _ _) (Nat.le_trans s.start_le_stop (Nat.le_max_left _ _))

/-- The range lies inside the other one. -/
def Within : Prop := t.start ≤ s.start ∧ s.stop ≤ t.stop

instance : Decidable (s.Within t) := inferInstanceAs (Decidable (_ ∧ _))

/-- The part of a text at the range, if both ends stand between characters. -/
def slice? (source : String) (s : Span) : Option String := do
  let (_, behind) ← Text.splitAt? s.start source.toList
  let (part, _) ← Text.splitAt? s.length behind
  return String.ofList part

end Span

end FormulaDiagram
