/-!
The arguments of the command. Options take their value from the next word, behind an equals sign, or in the
short form right behind their letter; a word that begins with a hyphen is no value, a single hyphen apart. Two
hyphens end the options. A value counts only when the next argument is looked at, so an argument that is unknown
is refused before an option that was given twice.
-/

namespace FormulaDiagram

/-- The arguments of a run. -/
structure Arguments where
  input : Option String
  formula : Option String
  output : String
  config : Option String
  logLevel : String
deriving DecidableEq

/-- Why there is nothing to run: help or the version is wanted, or the arguments are refused. -/
inductive UsageStop where
  | help
  | version
  | unknownArgument
  | argumentConflict
  | missingValue
  | tooManyValues
deriving DecidableEq

namespace UsageStop

/-- The exit status: asking for help or the version is no error. -/
def exitCode : UsageStop → Nat
  | .help => 0
  | .version => 0
  | _ => 2

/-- What was wrong with the arguments. -/
def message : UsageStop → String
  | .help => "help was asked for"
  | .version => "the version was asked for"
  | .unknownArgument => "unexpected argument"
  | .argumentConflict => "an argument cannot be used with another one or a second time"
  | .missingValue => "a value is required for an option"
  | .tooManyValues => "unexpected value for an option"

/-- The lines that `--help` prints. -/
def helpLines : List String :=
  ["Command-line interface for the Predviz formula diagram compiler",
    "",
    "Usage: predviz [OPTIONS] [INPUT]",
    "",
    "Arguments:",
    "  [INPUT]  Path to the input file",
    "",
    "Options:",
    "  -e, --formula <FORMULA>      Formula text given inline",
    "  -o, --output <OUTPUT>        Path to the output SVG file, `-` for stdout [default: out.svg]",
    "  -c, --config <CONFIG>        Path to configuration file (TOML)",
    "      --log-level <LOG_LEVEL>  Log level (off, error, warn, info, debug, trace) [default: info]",
    "  -h, --help                   Print help",
    "  -V, --version                Print version"]

def helpText : String := String.join (helpLines.map (· ++ "\n"))

/-- The text that `--version` prints. -/
def versionText : String := "predviz-cli 0.1.0\n"

/-- What is printed if nothing was wrong with the arguments. -/
def printed? : UsageStop → Option String
  | .help => some helpText
  | .version => some versionText
  | _ => none

end UsageStop

namespace Arguments

/-- The arguments that have values. -/
inductive Slot where
  | input
  | formula
  | output
  | config
  | logLevel
deriving DecidableEq

/-- The values given so far. -/
structure Given where
  input : Option String := none
  formula : Option String := none
  output : Option String := none
  config : Option String := none
  logLevel : Option String := none

namespace Given

def get (given : Given) : Slot → Option String
  | .input => given.input
  | .formula => given.formula
  | .output => given.output
  | .config => given.config
  | .logLevel => given.logLevel

/-- Gives an argument its value, which it must not have yet. -/
def set (given : Given) (slot : Slot) (value : String) : Except UsageStop Given :=
  if (given.get slot).isSome then .error .argumentConflict
  else
    .ok (match slot with
      | .input => { given with input := some value }
      | .formula => { given with formula := some value }
      | .output => { given with output := some value }
      | .config => { given with config := some value }
      | .logLevel => { given with logLevel := some value })

end Given

/-- What was read so far. The argument that was begun last is pending, with its value if that was read. -/
structure Progress where
  given : Given := {}
  pending : Option (Slot × Option String) := none
  hasInput : Bool := false

namespace Progress

/-- Completes the pending argument. -/
def resolve (p : Progress) : Except UsageStop Progress :=
  match p.pending with
  | none => .ok p
  | some (_, none) => .error .missingValue
  | some (slot, some value) => do
    let given ← p.given.set slot value
    .ok { p with given, pending := none }

/-- Begins an option whose value is still to come. -/
def await (p : Progress) (slot : Slot) : Except UsageStop Progress := do
  let p ← p.resolve
  .ok { p with pending := some (slot, none) }

/-- An option with its value in the same word. -/
def attach (p : Progress) (slot : Slot) (value : String) : Except UsageStop Progress := do
  let p ← p.resolve
  let given ← p.given.set slot value
  .ok { p with given }

/-- Stops for help or the version. -/
def stop (p : Progress) (reason : UsageStop) : Except UsageStop Progress := do
  let _ ← p.resolve
  .error reason

/-- A word that is no option and no value of one. Only one such word is known. -/
def positional (p : Progress) (word : String) : Except UsageStop Progress := do
  if p.hasInput then
    .error .unknownArgument
  else
    let p ← p.resolve
    .ok { p with pending := some (.input, some word), hasInput := true }

/-- A word that does not begin like an option: the value that is awaited, or the input. -/
def plain (p : Progress) (word : String) : Except UsageStop Progress :=
  match p.pending with
  | some (slot, none) => .ok { p with pending := some (slot, some word) }
  | _ => p.positional word

end Progress

/-- What an option asks for: a value for an argument, or something else than a run. -/
inductive Meaning where
  | slot (slot : Slot)
  | stop (reason : UsageStop)

def ofLongName? : String → Option Meaning
  | "formula" => some (.slot .formula)
  | "output" => some (.slot .output)
  | "config" => some (.slot .config)
  | "log-level" => some (.slot .logLevel)
  | "help" => some (.stop .help)
  | "version" => some (.stop .version)
  | _ => none

def ofLetter? : Char → Option Meaning
  | 'e' => some (.slot .formula)
  | 'o' => some (.slot .output)
  | 'c' => some (.slot .config)
  | 'h' => some (.stop .help)
  | 'V' => some (.stop .version)
  | _ => none

/-- The characters before the first equals sign and, if there is one, those behind it. -/
def splitAtEquals (cs : List Char) : List Char × Option (List Char) :=
  match cs.span (· ≠ '=') with
  | (before, _ :: behind) => (before, some behind)
  | (before, []) => (before, none)

/-- An option by its long name, without the hyphens. -/
def long (p : Progress) (cs : List Char) : Except UsageStop Progress :=
  let (name, value) := splitAtEquals cs
  match ofLongName? (String.ofList name), value with
  | none, _ => .error .unknownArgument
  | some (.slot slot), some value => p.attach slot (String.ofList value)
  | some (.slot slot), none => p.await slot
  | some (.stop _), some _ => .error .tooManyValues
  | some (.stop reason), none => p.stop reason

/-- An option by its letter, with the characters behind it. -/
def short (p : Progress) (letter : Char) (behind : List Char) : Except UsageStop Progress :=
  match ofLetter? letter, behind with
  | none, _ => .error .unknownArgument
  | some (.slot slot), [] => p.await slot
  | some (.slot slot), '=' :: value => p.attach slot (String.ofList value)
  | some (.slot slot), value => p.attach slot (String.ofList value)
  | some (.stop reason), _ => p.stop reason

/-- Reads the words behind two hyphens, which are no options. -/
def readPlain (p : Progress) : List String → Except UsageStop Progress
  | [] => .ok p
  | word :: rest => do readPlain (← p.positional word) rest

/-- Reads words. -/
def read (p : Progress) : List String → Except UsageStop Progress
  | [] => .ok p
  | word :: rest =>
    match word.toList with
    | ['-', '-'] => readPlain p rest
    | '-' :: '-' :: name => do read (← long p name) rest
    | '-' :: letter :: behind => do read (← short p letter behind) rest
    | _ => do read (← p.plain word) rest

/-- The arguments that the words of a command line give. The formula is given in one way only. -/
def parse (words : List String) : Except UsageStop Arguments := do
  let p ← read {} words
  let p ← p.resolve
  let given := p.given
  if given.input.isSome && given.formula.isSome then
    .error .argumentConflict
  else
    .ok {
      input := given.input
      formula := given.formula
      output := given.output.getD "out.svg"
      config := given.config
      logLevel := given.logLevel.getD "info" }

end Arguments

end FormulaDiagram
