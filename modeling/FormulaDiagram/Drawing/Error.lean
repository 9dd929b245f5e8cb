import FormulaDiagram.ConfigFile
import FormulaDiagram.Formula.Source

/-!
Why a drawing was not made: the system refused to read or write, the configuration file is no good, the text is
not a formula, the measures cannot be laid out by, or there was no room for the drawing.
-/

namespace FormulaDiagram

/-- What the system says when it cannot read or write. -/
inductive SystemError where
  | noSuchFile
  | notDirectory
  | isDirectory
  | nameTooLong
  | nulInName
  | notUtf8
  | bufferFull
  | other (text : String)
deriving DecidableEq

def SystemError.text : SystemError → String
  | .noSuchFile => "No such file or directory (os error 2)"
  | .notDirectory => "Not a directory (os error 20)"
  | .isDirectory => "Is a directory (os error 21)"
  | .nameTooLong => "File name too long (os error 36)"
  | .nulInName => "file name contained an unexpected NUL byte"
  | .notUtf8 => "stream did not contain valid UTF-8"
  | .bufferFull => "failed to write whole buffer"
  | .other text => text

/-- Why a drawing was not made. -/
inductive DrawingError where
  | system (e : SystemError)
  | configFile (e : ConfigFileError)
  | source (e : SourceError) (text : String)
  | layout (fault : ConfigFault Single)
  | exporting (e : SystemError)

namespace DrawingError

def message : DrawingError → String
  | .system e => "I/O error: " ++ e.text
  | .configFile e => "I/O error: " ++ e.text
  | .source e _ => e.message
  | .layout fault => "Layout error: " ++ fault.message
  | .exporting e => "Export error: I/O error: " ++ e.text

/-- Where in the source text the error stands, if it stands there. -/
def offset? : DrawingError → Option Nat
  | .source e _ => e.offset?
  | _ => none

end DrawingError

end FormulaDiagram
