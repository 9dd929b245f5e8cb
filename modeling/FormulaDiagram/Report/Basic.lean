import FormulaDiagram.Drawing.Error

/-!
Reports for the user: one for each diagnostic about a source text, and one for any other error.
-/

namespace FormulaDiagram

/-- A stretch of a source text by the offset where it begins and the number of its bytes. -/
structure SourceSpan where
  start : Nat
  length : Nat
deriving DecidableEq

namespace SourceSpan

def ofSpan (s : Span) : SourceSpan := ⟨s.start, s.length⟩

variable (s : SourceSpan)

/-- The offset behind it. -/
def stop : Nat := s.start + s.length

def isEmpty : Bool := s.length = 0

end SourceSpan

/-- A stretch of the source text of a report and what is to be said of it. -/
structure ReportLabel where
  isPrimary : Bool
  span : SourceSpan
  message : String

namespace ReportLabel

def primary (message : String) (span : SourceSpan) : ReportLabel := ⟨true, span, message⟩

def secondary (message : String) (span : SourceSpan) : ReportLabel := ⟨false, span, message⟩

/-- The label of a report for one of a diagnostic. -/
def ofLabel (l : Label) : ReportLabel :=
  if l.isPrimary then primary l.message (.ofSpan l.span) else secondary l.message (.ofSpan l.span)

end ReportLabel

/-- A message for the user, with places in a source text if it is about one. -/
structure Report where
  message : String
  code : Option String
  severity : Severity
  help : Option String
  labels : List ReportLabel
  source : Option String

namespace Report

/-- The report of a diagnostic about a source text. -/
def ofDiagnostic (source : String) (d : Diagnostic) : Report where
  message := d.message
  code := d.topic.map Topic.code
  severity := d.severity
  help := d.help
  labels := d.labels.map .ofLabel
  source := some source

end Report

namespace DrawingError

/-- The code under which errors of a kind are reported. -/
def code : DrawingError → String
  | .system _ => "predviz::io"
  | .configFile _ => "predviz::io"
  | .source _ _ => "predviz::parse"
  | .layout _ => "predviz::layout"
  | .exporting _ => "predviz::export"

/-- The reports of an error: those of its diagnostics if it is about a source text. -/
def reports (e : DrawingError) : List Report :=
  match e with
  | .source inner text => inner.diagnostics.map (Report.ofDiagnostic text)
  | _ => [⟨e.message, some e.code, .error, none, [], none⟩]

end DrawingError

end FormulaDiagram
