import FormulaDiagram.Command.Run
import FormulaDiagram.Proofs.Command.Configuration
import FormulaDiagram.Proofs.Command.Surroundings

/-!
What a run of the command comes to. A file for the configuration is looked for and read, its text is parsed, the
measures are read and checked; the source is read and parsed, and laid out, and the drawing is written. Each of these
stages has an error of its own, and nothing is written while they go on. So a run that fails before it has the drawing
fails with the first error there is and leaves everything as it was; any other writes the drawing, once, and last of
all.
-/

namespace FormulaDiagram

namespace Session

variable {σ : Type} (w : Surroundings σ) (s : σ) (session : Session) (args : Arguments) (explain : String → String)

/-! ### What a run is to find -/

/-- The path of the configuration: the one that was asked for, or else the first there is of those of the working folder
and of the system. -/
def configPath? : Option String :=
  args.config <|> (workingConfig :: session.systemConfig.toList).find? (w.holds s)

/-- The configuration of a file. The file has to be there and to be readable, its text has to be a document, what the
document gives for the measures has to be numbers, and these have to be measures to lay out by. -/
def configAt (path : String) : Except DrawingError (Config Single) :=
  if w.holds s path then
    match w.read s (.file path) with
    | .error e => .error (.system e)
    | .ok text =>
      match Toml.parse? text with
      | none => .error (.configFile (.unreadable (explain text)))
      | some document =>
        match ConfigFile.measures? document with
        | none => .error (.configFile (.unreadable (explain text)))
        | some config =>
          match config.validate with
          | .error fault => .error (.configFile (.invalid fault))
          | .ok () => .ok config
  else .error (.configFile (.missing path))

/-- The configuration of a run, which is the default one where there is no file for it. -/
def configuration : Except DrawingError (Config Single) :=
  match session.configPath? w s args with
  | none => .ok Config.default
  | some path => configAt w s explain path

/-- The text of the formula: the one among the arguments, or else that of the input file or of the standard input,
without white space at the end. -/
def sourceText : Except DrawingError String :=
  match args.formula with
  | some formula => .ok formula
  | none => ((w.read s ((args.input.map TextSource.file).getD .standardInput)).mapError .system).map Text.trimEnd

/-- The text of the drawing, or the error of the first stage that fails. -/
def drawing : Except DrawingError String := do
  let config ← session.configuration w s args explain
  let source ← sourceText w s args
  let annotated ← (parse source).mapError (.source · source)
  config.validate.mapError .layout
  return ((annotated.formula.layout config).diagram config).document.render

end Session

/-- Where the output goes. -/
def Arguments.target (args : Arguments) : TextTarget :=
  if args.output = standardOutputName then .standardOutput else .file args.output

/-- A drawing as it is written, behind which a newline is printed. -/
def TextTarget.written : TextTarget → String → String
  | .standardOutput, svg => svg ++ "\n"
  | .file _, svg => svg

namespace Session

variable {σ : Type} {w : Surroundings σ} {s : σ} (session : Session) {explain : String → String}

open Attempt

/-! ### The stages and the functions that go through them -/

theorem configAt_eq (w : Surroundings σ) (s : σ) (explain : String → String) (path : String) :
    configAt w s explain path =
      if w.holds s path then do
        let text ← (w.read s (.file path)).mapError .system
        (ConfigFile.check text explain).mapError .configFile
      else .error (.configFile (.missing path)) := by
  unfold configAt
  split
  · cases w.read s (.file path) with
    | error e => rfl
    | ok text =>
        show _ = (ConfigFile.check text explain).mapError DrawingError.configFile
        rw [ConfigFile.check, ConfigFile.ofDocument?_eq]
        dsimp only
        cases Toml.parse? text with
        | none => rfl
        | some document =>
            dsimp only [Option.bind_some]
            cases ConfigFile.measures? document with
            | none => rfl
            | some config =>
                dsimp only
                cases config.validate <;> rfl
  · rfl

theorem render_eq (source : String) (config : Config Single) :
    FormulaDiagram.render source config =
      ((parse source).mapError (DrawingError.source · source)).bind fun annotated =>
        (config.validate.mapError DrawingError.layout).bind fun _ =>
          .ok ((annotated.formula.layout config).diagram config).document.render := by
  rw [FormulaDiagram.render, parseSource]
  cases parse source with
  | error e => rfl
  | ok annotated =>
      show annotated.render config = (config.validate.mapError DrawingError.layout).bind _
      rw [AnnotatedFormula.render, AnnotatedFormula.layout]
      cases config.validate <;> rfl

theorem drawing_eq (w : Surroundings σ) (s : σ) (args : Arguments) (explain : String → String) :
    session.drawing w s args explain =
      (session.configuration w s args explain).bind fun config =>
        (sourceText w s args).bind fun source => FormulaDiagram.render source config := by
  simp only [drawing, render_eq]
  rfl

/-! ### What the parts of a run find -/

/-- A record is at most a note. -/
theorem runIn_log (w : Surroundings σ) (s : σ) (session : Session) (level : LogLevel) (target message : String)
    (fields : List (String × String)) : ∃ notes : List String,
      (session.log level target message fields).run.runIn w s = ⟨.ok (), s, notes.map .note⟩ := by
  unfold log
  dsimp only
  split
  · exact ⟨[_], rfl⟩
  · exact ⟨[], rfl⟩

theorem finds_log (level : LogLevel) (target message : String) (fields : List (String × String)) :
    Finds w s (session.log level target message fields) (.ok ()) := by
  obtain ⟨notes, hnotes⟩ := runIn_log w s session level target message fields
  constructor
  · rw [hnotes]
  · rw [hnotes]
  · rw [hnotes]
    exact List.forall_mem_map.2 fun _ _ => nofun

theorem finds_findSystemConfig : ∃ found : Option (ConfigOrigin × String),
    Finds w s session.findSystemConfig (.ok found) ∧
      found.map Prod.snd = session.systemConfig.toList.find? (w.holds s) := by
  unfold findSystemConfig
  cases session.systemConfig with
  | none => exact ⟨none, (session.finds_log _ _ _ _).andThen (Finds.pure _), rfl⟩
  | some path =>
      cases hpath : w.holds s path with
      | true =>
          refine ⟨some (.system, path), (Finds.probe path).andThen ?_, by simp [hpath]⟩
          rw [if_pos hpath]
          exact Finds.pure _
      | false =>
          refine ⟨none, (Finds.probe path).andThen ?_, by simp [hpath]⟩
          rw [if_neg (by simp [hpath])]
          exact (session.finds_log _ _ _ _).andThen (Finds.pure _)

theorem finds_findConfig (args : Arguments) : ∃ found : Option (ConfigOrigin × String),
    Finds w s (session.findConfig args.config) (.ok found) ∧
      found.map Prod.snd = session.configPath? w s args := by
  unfold findConfig configPath?
  cases args.config with
  | some path => exact ⟨_, Finds.pure _, rfl⟩
  | none =>
      cases hworking : w.holds s workingConfig with
      | true =>
          refine ⟨some (.workingFolder, workingConfig), (Finds.probe workingConfig).andThen ?_, by simp [hworking]⟩
          rw [if_pos hworking]
          exact Finds.pure _
      | false =>
          obtain ⟨found, hfound, hpath⟩ := session.finds_findSystemConfig (w := w) (s := s)
          refine ⟨found, (Finds.probe workingConfig).andThen ?_, by simp [hworking, hpath]⟩
          rw [if_neg (by simp [hworking])]
          refine hfound.andThen ?_
          cases found with
          | none => exact (session.finds_log _ _ _ _).andThen (Finds.pure _)
          | some file => exact Finds.pure _

theorem finds_readConfig (path : String) : Finds w s (readConfig path explain) (configAt w s explain path) := by
  rw [configAt_eq]
  unfold readConfig
  refine (Finds.probe path).andThen ?_
  split
  · exact (Finds.read _).bind fun document _ => Finds.ofResult _
  · exact Finds.ofResult _

theorem finds_loadConfig (args : Arguments) :
    Finds w s (session.loadConfig args.config explain) (session.configuration w s args explain) := by
  obtain ⟨found, hfound, hpath⟩ := session.finds_findConfig (w := w) (s := s) args
  refine hfound.andThen ?_
  rw [configuration, ← hpath]
  cases found with
  | none => exact Finds.pure _
  | some file => exact (session.finds_log _ _ _ _).andThen (finds_readConfig _)

theorem finds_readSource (args : Arguments) : Finds w s (readSource args) (sourceText w s args) := by
  unfold readSource sourceText
  cases args.formula with
  | some formula => exact Finds.pure _
  | none => cases args.input <;> exact (Finds.read _).map _

theorem parseSource_eq (source : String) :
    parseSource source =
      ((tokenize source).mapError fun e => .source (.lexical e) source) >>= fun tokens =>
        ((Formula.ofTokens tokens source.utf8ByteSize).mapError fun e => .source (.grammatical e) source) >>=
          fun f => f.validate.mapError fun e => .source (.invalid e) source := by
  rw [parseSource, FormulaDiagram.parse, readFormula]
  cases tokenize source with
  | error e => rfl
  | ok tokens =>
      show (((Formula.ofTokens tokens source.utf8ByteSize).mapError SourceError.grammatical).bind _).mapError _ =
        ((Formula.ofTokens tokens source.utf8ByteSize).mapError _).bind _
      cases Formula.ofTokens tokens source.utf8ByteSize with
      | error e => rfl
      | ok f =>
          show (f.validate.mapError SourceError.invalid).mapError _ = f.validate.mapError _
          cases f.validate <;> rfl

theorem finds_annotate (source : String) : Finds w s (session.annotate source) (parseSource source) := by
  rw [parseSource_eq]
  refine (session.finds_log _ _ _ _).andThen ((Finds.forM fun t _ => session.finds_log _ _ _ _).andThen ?_)
  refine (Finds.ofResult _).bind fun tokens _ => (session.finds_log _ _ _ _).andThen ?_
  refine (Finds.ofResult _).bind fun f _ => (session.finds_log _ _ _ _).andThen ?_
  refine (Finds.ofResult _).handOn fun annotated => (session.finds_log _ _ _ _).andThen ?_
  exact (session.finds_log _ _ _ _).andThen ((session.finds_log _ _ _ _).andThen (Finds.pure _))

theorem finds_layOut (config : Config Single) (annotated : AnnotatedFormula) :
    Finds w s (session.layOut config annotated) (annotated.layout config) := by
  refine (Finds.ofResult _).handOn fun tree => (Finds.forM fun node _ => session.finds_log _ _ _ _).andThen ?_
  exact (session.finds_log _ _ _ _).andThen ((session.finds_log _ _ _ _).andThen (Finds.pure _))

theorem finds_draw (config : Config Single) (source : String) :
    Finds w s (session.draw config source) (FormulaDiagram.render source config) := by
  refine (session.finds_annotate source).bind fun annotated _ => ?_
  refine (Finds.forM fun warning _ => session.finds_log _ _ _ _).andThen ?_
  refine (session.finds_layOut config annotated).bind fun tree _ => ?_
  refine (session.finds_log _ _ _ _).andThen ((session.finds_log _ _ _ _).andThen ?_)
  exact (session.finds_log _ _ _ _).andThen ((session.finds_log _ _ _ _).andThen (Finds.pure _))

theorem delivers_deliver (args : Arguments) (svg : String) :
    Delivers w s (session.deliver args.output svg) args.target (args.target.written svg) := by
  unfold deliver Arguments.target
  by_cases houtput : args.output = standardOutputName
  · rw [if_pos houtput, if_pos (beq_iff_eq.2 houtput)]
    exact ⟨rfl, rfl, [], [], nofun, rfl⟩
  · rw [if_neg houtput, if_neg (mt beq_iff_eq.1 houtput)]
    exact .write fun s => runIn_log w s session _ _ _ _

theorem run_of_error {args : Arguments} {e : DrawingError} (h : session.drawing w s args explain = .error e) :
    Finds w s (session.run args explain) (.error e) := by
  rw [drawing_eq] at h
  refine (session.finds_log _ _ _ _).andThen ?_
  have hconfig : Finds w s _ (session.configuration w s args explain) := session.finds_loadConfig args
  cases hc : session.configuration w s args explain with
  | error e' =>
      rw [hc] at h
      cases h
      exact (hc ▸ hconfig).error
  | ok config =>
      refine (hc ▸ hconfig).andThen ?_
      have hsource := finds_readSource (w := w) (s := s) args
      cases hs : sourceText w s args with
      | error e' =>
          rw [hc, hs] at h
          cases h
          exact (hs ▸ hsource).error
      | ok source =>
          rw [hc, hs] at h
          have hdraw := session.finds_draw (w := w) (s := s) config source
          have hrender : FormulaDiagram.render source config = .error e := h
          exact (hs ▸ hsource).andThen (hrender ▸ hdraw).error

theorem run_of_drawing {args : Arguments} {svg : String} (h : session.drawing w s args explain = .ok svg) :
    Delivers w s (session.run args explain) args.target (args.target.written svg) := by
  rw [drawing_eq] at h
  obtain ⟨config, hconfig, h⟩ := Parser.bind_eq_ok.1 h
  obtain ⟨source, hsource, hrender⟩ := Parser.bind_eq_ok.1 h
  exact .after (session.finds_log _ _ _ _) (.after (hconfig ▸ session.finds_loadConfig args)
    (.after (hsource ▸ finds_readSource args) (.after (hrender ▸ session.finds_draw config source)
      (session.delivers_deliver args svg))))

/-- A run that fails before it has its drawing fails with the first error, and writes nothing. Any other delivers its
drawing, and fails only if writing does. -/
theorem run_delivers (w : Surroundings σ) (s : σ) (session : Session) (args : Arguments) (explain : String → String) :
    match session.drawing w s args explain with
    | .error e => Finds w s (session.run args explain) (.error e)
    | .ok svg => Delivers w s (session.run args explain) args.target (args.target.written svg) := by
  cases h : session.drawing w s args explain with
  | error e => exact session.run_of_error h
  | ok svg => exact session.run_of_drawing h

/-! ### Files that compete and files that are no good -/

theorem eq_ok_of_toOption {ε α : Type} {result : Except ε α} {a : α} (h : result.toOption = some a) :
    result = .ok a := by
  cases result with
  | error e => cases h
  | ok b =>
      cases h
      rfl

/-- The error of a configuration file, if that is what a drawing fails with. -/
def configFileError? : Except DrawingError String → Option ConfigFileError
  | .error (.configFile e) => some e
  | _ => none

theorem eq_error_of_configFileError? {result : Except DrawingError String} {e : ConfigFileError}
    (h : configFileError? result = some e) : result = .error (.configFile e) := by
  unfold configFileError? at h
  split at h
  · cases h
    rfl
  · cases h

/-- A machine with a configuration in the working folder, another one in a folder of the system that nothing can be laid
out by, and a file that is no document. -/
def configuredMachine : Machine where
  files := ⟨[(["predviz", "config.toml"], "[layout]\nmargin = 4".toUTF8),
    (["etc", "config.toml"], "[layout]\nmargin = -1".toUTF8), (["notes"], "[layout".toUTF8)], []⟩
  input := "p\n".toUTF8

def configuredSession : Session := ⟨some "etc/config.toml", .off⟩

/-- The arguments to print a drawing of what stands on the standard input. -/
def printing (config : Option String) : Arguments := ⟨none, none, "-", config, "off"⟩

/-- What is said of the file that is no document. -/
def bracketMissing (_ : String) : String := "no closing bracket"

/-- Of two files for the configuration the one of the working folder is taken, and the drawing is printed. The other
one is refused when its measures are checked, if it is asked for, and what is no document when it is parsed; files and
output are then left as they were. -/
theorem run_delivers_of_configuredMachine :
    configuredMachine.files.holds "predviz/config.toml" ∧ configuredMachine.files.holds "etc/config.toml" ∧
      (∃ svg notes, FormulaDiagram.render "p" { Config.default with margin := Scalar.ofNat 4 } = .ok svg ∧
        (configuredSession.run (printing none) bracketMissing).run.runOn configuredMachine =
          (.ok (), { configuredMachine with output := svg ++ "\n" }.noted notes)) ∧
      (∃ notes, (configuredSession.run (printing (some "etc/config.toml")) bracketMissing).run.runOn
          configuredMachine = (.error (.configFile (.invalid (.negative .margin (Binary.ofInt (-1))))),
            configuredMachine.noted notes)) ∧
      ∃ notes, (configuredSession.run (printing (some "notes")) bracketMissing).run.runOn configuredMachine =
        (.error (.configFile (.unreadable "no closing bracket")), configuredMachine.noted notes) := by
  have hruns (config : Option String) := run_delivers Machine.surroundings configuredMachine configuredSession
    (printing config) bracketMissing
  refine ⟨by decide +kernel, by decide +kernel, ?_, ?_, ?_⟩
  · have hconfig : (configuredSession.configuration Machine.surroundings configuredMachine (printing none)
        bracketMissing).toOption = some { Config.default with margin := Scalar.ofNat 4 } := by decide +kernel
    have hsource : (sourceText Machine.surroundings configuredMachine (printing none)).toOption = some "p" := by
      decide +kernel
    have hsome : (FormulaDiagram.render "p" { Config.default with margin := Scalar.ofNat 4 }).toOption.isSome := by
      decide +kernel
    have hrun := hruns none
    rw [drawing_eq, eq_ok_of_toOption hconfig, eq_ok_of_toOption hsource] at hrun
    dsimp only [Except.bind] at hrun
    cases hrender : FormulaDiagram.render "p" { Config.default with margin := Scalar.ofNat 4 } with
    | error e =>
        rw [hrender] at hsome
        cases hsome
    | ok svg =>
        rw [hrender] at hrun
        obtain ⟨notes, hnotes⟩ := Delivers.runOn hrun
        have hprinted : "" ++ (svg ++ "\n") = svg ++ "\n" := String.empty_append
        refine ⟨svg, notes, rfl, hnotes.trans ?_⟩
        rw [← hprinted]
        rfl
  · have hfault : configFileError? (configuredSession.drawing Machine.surroundings configuredMachine
        (printing (some "etc/config.toml")) bracketMissing) =
          some (.invalid (.negative .margin (Binary.ofInt (-1)))) := by decide +kernel
    have hrun := hruns (some "etc/config.toml")
    rw [eq_error_of_configFileError? hfault] at hrun
    exact Finds.runOn hrun
  · have hfault : configFileError? (configuredSession.drawing Machine.surroundings configuredMachine
        (printing (some "notes")) bracketMissing) = some (.unreadable "no closing bracket") := by decide +kernel
    have hrun := hruns (some "notes")
    rw [eq_error_of_configFileError? hfault] at hrun
    exact Finds.runOn hrun

end Session

end FormulaDiagram
