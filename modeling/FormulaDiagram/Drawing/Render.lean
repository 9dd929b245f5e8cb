import FormulaDiagram.Drawing.Error
import FormulaDiagram.Drawing.TreeDrawing

/-!
From a source text to the text of its drawing, and drawings written one after the other into a buffer that may
be too small for them.
-/

namespace FormulaDiagram

/-- The annotated formula of a source text. -/
def parseSource (source : String) : Except DrawingError AnnotatedFormula :=
  (parse source).mapError (.source · source)

/-- The layout of a formula by measures that were found to be right. -/
def AnnotatedFormula.layout (annotated : AnnotatedFormula) (config : Config Single) :
    Except DrawingError (LayoutTree Single) := do
  config.validate.mapError .layout
  return annotated.formula.layout config

/-- The text of the drawing of a layout. -/
def LayoutTree.svg (tree : LayoutTree Single) (config : Config Single) : String :=
  (tree.diagram config).document.render

/-- The text of the drawing of a formula. -/
def AnnotatedFormula.render (annotated : AnnotatedFormula) (config : Config Single) :
    Except DrawingError String := do
  let tree ← annotated.layout config
  return tree.svg config

/-- The text of the drawing of a source text. -/
def render (source : String) (config : Config Single) : Except DrawingError String := do
  let annotated ← parseSource source
  annotated.render config

/-- A buffer for drawings, with the number of bytes that still fit into it if there is a limit. -/
structure Buffer where
  texts : List String
  free : Option Nat

namespace Buffer

def empty (limit : Option Nat) : Buffer := ⟨[], limit⟩

/-- All that was written. -/
def contents (buffer : Buffer) : String := String.join buffer.texts.reverse

/-- Writes a drawing. One that does not fit is not counted as written, but the room that was left is gone. -/
def write (buffer : Buffer) (text : String) : Except DrawingError Unit × Buffer :=
  match buffer.free with
  | none => (.ok (), { buffer with texts := text :: buffer.texts })
  | some free =>
    if text.utf8ByteSize ≤ free then (.ok (), ⟨text :: buffer.texts, some (free - text.utf8ByteSize)⟩)
    else (.error (.exporting .bufferFull), { buffer with free := some 0 })

/-- Draws several layouts into a buffer, one after the other, whether the ones before fitted or not. -/
def writeAll (buffer : Buffer) (config : Config Single) (trees : List (LayoutTree Single)) :
    List (Except DrawingError Unit) × Buffer :=
  match trees with
  | [] => ([], buffer)
  | tree :: rest =>
    let (result, buffer) := buffer.write (tree.svg config)
    let (results, buffer) := writeAll buffer config rest
    (result :: results, buffer)

end Buffer

end FormulaDiagram
