import FormulaDiagram.Command.Arguments
import FormulaDiagram.Command.Interaction
import FormulaDiagram.Command.Log
import FormulaDiagram.ConfigFile
import FormulaDiagram.Drawing.Render
import FormulaDiagram.Report.Text

/-!
A run of the command: it finds a configuration, reads a formula, draws it, and last of all writes the drawing. Each
of these may fail, and nothing is written unless all before succeeded.
-/

namespace FormulaDiagram

/-- What holds for a whole run: where the system keeps its configuration, and which records are shown. -/
structure Session where
  systemConfig : Option String
  filter : LogFilter

/-- How a configuration file was found. -/
inductive ConfigOrigin where
  | explicit
  | workingFolder
  | system
deriving DecidableEq

namespace ConfigOrigin

def text : ConfigOrigin → String
  | .explicit => "explicit path"
  | .workingFolder => "local path"
  | .system => "system path"

end ConfigOrigin

/-- The configuration file of the working folder. -/
def workingConfig : String := "predviz/config.toml"

/-- The arguments' output that stands for standard output. -/
def standardOutputName : String := "-"

/-- A number among the values of a record, which is written as one of 64 bits. -/
def numberText (x : Single) : String := (x.convert .double).text

/-- The arguments with their names, as a record shows them. -/
def Arguments.listed (args : Arguments) : String :=
  "Args \x7b input: " ++ quotedOption args.input ++ ", formula: " ++ quotedOption args.formula ++ ", output: " ++
    quoted args.output ++ ", config: " ++ quotedOption args.config ++ ", log_level: " ++ quoted args.logLevel ++ " \x7d"

namespace Session

variable (session : Session)

def log (level : LogLevel) (target message : String) (fields : List (String × String)) : Attempt Unit :=
  let record : LogRecord := ⟨level, target, message, fields⟩
  if session.filter.shows level then Attempt.note record.text else Attempt.ofResult (.ok ())

/-- The configuration file of the system, if it keeps one and there is one. -/
def findSystemConfig : Attempt (Option (ConfigOrigin × String)) :=
  match session.systemConfig with
  | none => do
    session.log .debug "predviz_cli::config" "Could not determine platform-specific config directory" []
    return none
  | some path => do
    if ← Attempt.probe path then
      return some (.system, path)
    else
      session.log .debug "predviz_cli::config" "System configuration file not found" [("path", path)]
      return none

/-- The configuration file to read: the one that was asked for, that of the working folder if there is one, or
that of the system if there is one. -/
def findConfig (explicit : Option String) : Attempt (Option (ConfigOrigin × String)) :=
  match explicit with
  | some path => return some (.explicit, path)
  | none => do
    if ← Attempt.probe workingConfig then
      return some (.workingFolder, workingConfig)
    else
      match ← session.findSystemConfig with
      | some file => return some file
      | none =>
        session.log .debug "predviz_cli::config" "No configuration file found, using default configuration" []
        return none

/-- The configuration of a file. -/
def readConfig (path : String) (explain : String → String) : Attempt (Config Single) := do
  if ← Attempt.probe path then
    Attempt.ofResult ((ConfigFile.check (← Attempt.read (.file path)) explain).mapError .configFile)
  else
    Attempt.ofResult (.error (.configFile (.missing path)))

/-- The configuration of a run. -/
def loadConfig (explicit : Option String) (explain : String → String) : Attempt (Config Single) := do
  match ← session.findConfig explicit with
  | none => return Config.default
  | some (origin, path) =>
    session.log .info "predviz_cli::config" ("Loading configuration from " ++ origin.text) [("path", path)]
    readConfig path explain

/-- The formula as it was given among the arguments, or else what a file or the standard input holds, without
white space at the end. -/
def readSource (args : Arguments) : Attempt String :=
  match args.formula, args.input with
  | some formula, _ => return formula
  | none, some path => Text.trimEnd <$> Attempt.read (.file path)
  | none, none => Text.trimEnd <$> Attempt.read .standardInput

/-- Reports a warning about a source. -/
def warn (source : String) (warning : Diagnostic) : Attempt Unit :=
  session.log .warn "predviz_cli" (Report.ofDiagnostic source warning).render []

/-- Parses a source as `parseSource` does, and reports the tokens and what each stage came to. -/
def annotate (source : String) : Attempt AnnotatedFormula := do
  session.log .info "predviz" "Parsing formula" [("length", toString source.utf8ByteSize)]
  (lex source).tokens.forM fun t => session.log .trace "predviz_parser::lexer" "Lexed token"
    [("token", t.display), ("start", toString t.span.start), ("end", toString t.span.stop)]
  let tokens ← Attempt.ofResult ((tokenize source).mapError fun e => .source (.lexical e) source)
  session.log .trace "predviz_parser::lexer" "Tokenized formula" [("count", toString tokens.length)]
  let f ← Attempt.ofResult
    ((Formula.ofTokens tokens source.utf8ByteSize).mapError fun e => .source (.grammatical e) source)
  session.log .debug "predviz_parser::parser" "Parsed formula"
    [("nodes", toString f.nodeCount), ("height", toString f.height)]
  let annotated ← Attempt.ofResult (f.validate.mapError fun e => .source (.invalid e) source)
  let warnings := ("warnings", toString annotated.warnings.length)
  session.log .debug "predviz_parser::validate" "Validated formula"
    [("leaf_count", toString annotated.formula.annotation.leafCount), warnings]
  session.log .debug "predviz" "Formula parsed successfully"
    [("nodes", toString annotated.formula.nodeCount), warnings]
  session.log .trace "predviz" "Parsed formula" [("formula", annotated.formula.text)]
  return annotated

/-- Lays a formula out, and reports where its nodes stand. -/
def layOut (config : Config Single) (annotated : AnnotatedFormula) : Attempt (LayoutTree Single) := do
  let tree ← Attempt.ofResult (annotated.layout config)
  let nodes := ("nodes", toString tree.nodes.size)
  tree.nodes.toList.zipIdx.forM fun (node, index) => session.log .trace "predviz::layout" "Placed node"
    [("index", toString index), ("label", node.label), ("x", numberText node.center.x),
      ("y", numberText node.center.y)]
  session.log .debug "predviz::layout" "Layout calculated" [nodes, ("unit", numberText tree.unit)]
  session.log .info "predviz" "Layout calculated" [nodes]
  return tree

/-- Draws the formula of a source. -/
def draw (config : Config Single) (source : String) : Attempt String := do
  let annotated ← session.annotate source
  annotated.warnings.forM (session.warn source)
  let tree ← session.layOut config annotated
  let diagram := tree.diagram config
  session.log .debug "predviz::export::svg" "Diagram primitives built"
    [("primitives", toString diagram.primitives.length)]
  session.log .debug "predviz::export::svg" "SVG document rendered" []
  session.log .info "predviz::export::svg" "SVG exported"
    [("width", numberText diagram.bounds.width), ("height", numberText diagram.bounds.height)]
  let svg := tree.svg config
  session.log .info "predviz" "SVG rendered successfully" [("bytes", toString svg.utf8ByteSize)]
  return svg

/-- Writes a drawing to where the arguments say. -/
def deliver (output svg : String) : Attempt Unit := do
  if output == standardOutputName then
    Attempt.write .standardOutput (svg ++ "\n")
  else
    Attempt.write (.file output) svg
    session.log .info "predviz_cli" "SVG exported successfully" [("output_file", output)]

/-- A run with some arguments, in which `explain` says what is wrong with a document that gives no configuration. -/
def run (args : Arguments) (explain : String → String := fun _ => "") : Attempt Unit := do
  session.log .info "predviz_cli" "Processing formula"
    [("input_path", quotedOption args.input), ("output_path", args.output)]
  let config ← session.loadConfig args.config explain
  let source ← readSource args
  let svg ← session.draw config source
  session.deliver args.output svg

end Session

namespace Command

/-- What is printed or noted when there is nothing to run. -/
def stop (reason : UsageStop) : Interaction Nat :=
  match reason.printed? with
  | some text => .write .standardOutput text fun _ => .done reason.exitCode
  | none => .note ("error: " ++ reason.message) (.done reason.exitCode)

/-- The filter of a name. If there is none of that name, a note says so and warnings are shown. -/
def chooseFilter (name : String) : Interaction LogFilter :=
  match LogFilter.ofName? name with
  | some filter => .done filter
  | none => .note ("Invalid log level: " ++ name ++ ". Using 'warn' instead.") (.done (.upTo .warn))

/-- Reports all that an error has to say. -/
def reportAll (session : Session) (e : DrawingError) : Attempt Unit :=
  e.reports.forM fun report => session.log .error "predviz" report.render []

/-- The command with the words of its command line. The result is its exit status. -/
def program (systemConfig : Option String) (words : List String) (explain : String → String := fun _ => "") :
    Interaction Nat :=
  match Arguments.parse words with
  | .error reason => stop reason
  | .ok args => do
    let filter ← chooseFilter args.logLevel
    let session : Session := ⟨systemConfig, filter⟩
    let outcome ← ExceptT.run do
      session.log .info "predviz" "Starting Predviz" [("log_level", filter.name)]
      session.log .debug "predviz" "Parsed arguments" [("args", args.listed)]
      session.run args explain
    match outcome with
    | .error e => do
      let _ ← (reportAll session e).run
      return 1
    | .ok () => do
      let _ ← (session.log .info "predviz" "Completed successfully" []).run
      return 0

end Command

end FormulaDiagram
