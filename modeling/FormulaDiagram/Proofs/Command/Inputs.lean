import FormulaDiagram.Proofs.Command.Delivery
import FormulaDiagram.Proofs.Lexing.Trimming
import FormulaDiagram.Proofs.Places.Alike

/-!
A formula given among the arguments, and the same text given by a file or by the standard input. The former is taken as
it is, the latter without the white space at its end, which is all that the texts differ in. Their tokens are therefore
the same, and only one thing is not found in the tokens: where the text ends, which is where a syntax error stands that
is found at the end of the input.
-/

namespace FormulaDiagram

/-- The same error in another text with the same tokens: what was found at the end of the input is found at the end of
that text. -/
def ParseError.placedIn (text : String) (e : ParseError) : ParseError :=
  if e.found = .endOfInput then { e with offset := text.utf8ByteSize, span := .point text.utf8ByteSize } else e

def SourceError.placedIn (text : String) : SourceError → SourceError
  | .grammatical e => .grammatical (e.placedIn text)
  | e => e

/-- An error of another kind has nothing to do with the text. -/
def DrawingError.placedIn (text : String) : DrawingError → DrawingError
  | .source e _ => .source (e.placedIn text) text
  | e => e

/-! ### Texts with the same tokens -/

section

variable {text text' : String}

theorem Parser.Failure.error_placedIn (e : Parser.Failure) :
    (e.error text.utf8ByteSize).placedIn text' = e.error text'.utf8ByteSize := by
  unfold error
  cases e.rest with
  | nil => rfl
  | cons t rest => exact if_neg nofun

/-- Texts with the same tokens are parsed as the same formula with the same warnings, or have the same error. -/
theorem parse_of_lex_eq (h : lex text' = lex text) : parse text' = (parse text).mapError (.placedIn text') := by
  rcases parse_cases text with ⟨e, hfailure, hparse⟩ | ⟨tokens, ht, hparse⟩
  · rw [hparse, parse_of_failure_of_lex (h ▸ hfailure)]
    rfl
  · have ht' : tokenize text' = .ok tokens := by
      rw [Lexer.tokenize_eq, h, ← Lexer.tokenize_eq, ht]
    rcases hparse with ⟨e, he, hparse⟩ | ⟨f, hf, hparse⟩
    · rw [hparse, parse_of_failure ht' he, ← e.error_placedIn]
      rfl
    · rw [hparse, parse_of_whole ht' hf]
      rfl

/-- Texts with the same tokens are drawn as the same drawing, or have the same error. -/
theorem render_of_lex_eq (h : lex text' = lex text) (config : Config Single) :
    render text' config = (render text config).mapError (.placedIn text') := by
  rw [render, render, parseSource, parseSource, parse_of_lex_eq h]
  cases parse text with
  | error e => rfl
  | ok annotated =>
      show annotated.render config = (annotated.render config).mapError _
      rw [AnnotatedFormula.render, AnnotatedFormula.layout]
      cases config.validate <;> rfl

end

/-! ### Texts and where they are given -/

/-- The bytes of a text are read as the text. -/
theorem decodeText_toUTF8 (text : String) : decodeText text.toUTF8 = .ok text := by
  rw [decodeText, String.fromUTF8?, String.toUTF8_eq_toByteArray, dif_pos text.isValidUTF8]
  rfl

namespace Arguments

/-- Where the text of the formula is read if it is not among the arguments. -/
def source (args : Arguments) : TextSource := (args.input.map TextSource.file).getD .standardInput

/-- The same arguments with a text for the formula among them. -/
def inline (args : Arguments) (text : String) : Arguments := { args with input := none, formula := some text }

end Arguments

namespace Session

variable {σ : Type} {w : Surroundings σ} {s : σ} {args : Arguments} {text : String} {explain : String → String}

/-- No error of a configuration is about the text of the formula. -/
theorem configuration_placedIn (w : Surroundings σ) (s : σ) (session : Session) (args : Arguments)
    (explain : String → String) (text : String) :
    (session.configuration w s args explain).mapError (.placedIn text) = session.configuration w s args explain := by
  unfold configuration
  cases session.configPath? w s args with
  | none => rfl
  | some path =>
      show (configAt w s explain path).mapError _ = configAt w s explain path
      rw [configAt_eq]
      split
      · cases w.read s (.file path) with
        | error e => rfl
        | ok document =>
            show ((ConfigFile.check document explain).mapError _).mapError _ =
              (ConfigFile.check document explain).mapError _
            cases ConfigFile.check document explain <;> rfl
      · rfl

theorem sourceText_of_read (hargs : args.formula = none) (hread : w.read s args.source = .ok text) :
    sourceText w s args = .ok (Text.trimEnd text) := by
  have hmap : sourceText w s args = ((w.read s args.source).mapError DrawingError.system).map Text.trimEnd := by
    rw [sourceText, hargs]
    rfl
  rw [hmap, hread]
  rfl

/-- Runs with the same configuration whose texts have the same tokens come to the same drawing or the same error. -/
theorem drawing_of_lex_eq (session : Session) {args' : Arguments} {text' : String}
    (hconfig : args'.config = args.config) (hsource : sourceText w s args = .ok text)
    (hsource' : sourceText w s args' = .ok text') (h : lex text' = lex text) :
    session.drawing w s args' explain = (session.drawing w s args explain).mapError (.placedIn text') := by
  have hsame : session.configuration w s args' explain = session.configuration w s args explain := by
    rw [configuration, configuration, configPath?, configPath?, hconfig]
  rw [drawing_eq, drawing_eq, hsame, hsource, hsource']
  have hplaced := session.configuration_placedIn w s args explain text'
  cases hc : session.configuration w s args explain with
  | error e =>
      rw [hc] at hplaced
      exact congrArg Except.error (Except.error.inj hplaced).symm
  | ok config => exact render_of_lex_eq h config

open Attempt

/-- A text that is read from a file or from the standard input and the same text among the arguments come to the same
result. The latter is taken as it is, and the former without the white space at its end. Both are parsed as one
annotated formula with the same warnings, or have one error, which stands at the end of either text if it is a syntax
error at the end of the input and at the same place otherwise. So both runs deliver one drawing to one target, or they
fail with one error, placed in either text. -/
theorem run_of_read (session : Session) (explain : String → String) (hargs : args.formula = none)
    (hread : w.read s args.source = .ok text) :
    sourceText w s (args.inline text) = .ok text ∧ sourceText w s args = .ok (Text.trimEnd text) ∧
      (∃ outcome : Except SourceError AnnotatedFormula, parse text = outcome.mapError (.placedIn text) ∧
        parse (Text.trimEnd text) = outcome.mapError (.placedIn (Text.trimEnd text))) ∧
      ((∃ svg, Delivers w s (session.run (args.inline text) explain) args.target (args.target.written svg) ∧
          Delivers w s (session.run args explain) args.target (args.target.written svg)) ∨
        ∃ e : DrawingError, Finds w s (session.run (args.inline text) explain) (.error (e.placedIn text)) ∧
          Finds w s (session.run args explain) (.error (e.placedIn (Text.trimEnd text)))) := by
  have hinline : sourceText w s (args.inline text) = .ok text := rfl
  have hsource : sourceText w s args = .ok (Text.trimEnd text) := sourceText_of_read hargs hread
  refine ⟨hinline, hsource, ⟨_, parse_of_lex_eq rfl, parse_of_lex_eq (Lexer.lex_trimEnd text)⟩, ?_⟩
  have hsame : session.drawing w s (args.inline text) explain = _ :=
    session.drawing_of_lex_eq rfl hinline hinline rfl
  have hread' : session.drawing w s args explain =
      (session.drawing w s (args.inline text) explain).mapError (.placedIn (Text.trimEnd text)) :=
    session.drawing_of_lex_eq rfl hinline hsource (Lexer.lex_trimEnd text)
  cases hdrawing : session.drawing w s (args.inline text) explain with
  | ok svg =>
      rw [hdrawing] at hread'
      exact .inl ⟨svg, session.run_of_drawing hdrawing, session.run_of_drawing hread'⟩
  | error e =>
      rw [hdrawing] at hread' hsame
      exact .inr ⟨e, session.run_of_error (hdrawing.trans hsame), session.run_of_error hread'⟩

/-- On the standard input `p ∧` with a space and a newline behind it ends behind the sign, and among the arguments it
ends behind the newline. Both runs fail there. -/
theorem run_of_read_of_unfinished :
    ∃ (session : Session) (machine : Machine) (args : Arguments) (e : DrawingError), args.formula = none ∧
      machine.read args.source = .ok "p ∧ \n" ∧
      Finds Machine.surroundings machine (session.run (args.inline "p ∧ \n")) (.error (e.placedIn "p ∧ \n")) ∧
      Finds Machine.surroundings machine (session.run args) (.error (e.placedIn "p ∧")) := by
  let session : Session := ⟨none, .off⟩
  let machine : Machine := { files := ⟨[], []⟩, input := "p ∧ \n".toUTF8 }
  let args : Arguments := ⟨none, none, "-", none, "off"⟩
  have hargs : args.formula = none := rfl
  have hread : machine.read args.source = .ok "p ∧ \n" := decodeText_toUTF8 "p ∧ \n"
  have htrim : Text.trimEnd "p ∧ \n" = "p ∧" := by decide +kernel
  have hfails :
      ((session.run (args.inline "p ∧ \n")).run.runIn Machine.surroundings machine).result.toOption.isNone := by
    decide +kernel
  obtain ⟨-, -, -, ⟨svg, hdelivers, -⟩ | ⟨e, hinline, hrun⟩⟩ :=
    session.run_of_read (w := Machine.surroundings) (fun _ => "") hargs hread
  · rw [hdelivers.result] at hfails
    cases hfails
  · exact ⟨session, machine, args, e, hargs, hread, hinline, htrim ▸ hrun⟩

end Session

end FormulaDiagram
