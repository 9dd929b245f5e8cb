import FormulaDiagram.Report.Basic
import FormulaDiagram.Text.Wrap

/-!
Reports as plain text. The source is shown with the places of the labels underlined and the labels hanging from
their middles, the last one on top. It is taken to be one line in which every character is as wide as any other. The
message and the help are put on lines of a limited width.
-/

namespace FormulaDiagram

namespace Report

/-- The number of characters that end at a byte offset or before it. -/
def columnsBefore (offset : Nat) : List Char → Nat
  | [] => 0
  | c :: rest => if c.utf8Size ≤ offset then columnsBefore (offset - c.utf8Size) rest + 1 else 0

/-- The number of characters that begin before a byte offset. -/
def columnsUpTo (offset : Nat) : List Char → Nat
  | [] => 0
  | c :: rest => if 0 < offset then columnsUpTo (offset - c.utf8Size) rest + 1 else 0

/-- The columns that are underlined for a label, from `start` up to `stop`, and the one it hangs from. -/
structure Mark where
  label : ReportLabel
  start : Nat
  stop : Nat

namespace Mark

def middle (m : Mark) : Nat := (m.start + m.stop) / 2

/-- The underline alone. Its middle is a point for a label of some length. -/
def underline (m : Mark) : List Char :=
  List.replicate (m.middle - m.start) '^' ++
    (if m.label.span.isEmpty then '^' else '|') :: List.replicate (m.stop - m.middle - 1) '^'

end Mark

/-- The marks of labels that are ordered by where they start, none before the column `free`. -/
def marks (source : List Char) (free : Nat) : List ReportLabel → List Mark
  | [] => []
  | label :: rest =>
    let start := max (columnsBefore label.span.start source) free
    let stop :=
      if label.span.isEmpty then start + 1 else max (columnsUpTo label.span.stop source) (start + 1)
    ⟨label, start, stop⟩ :: marks source (max free stop) rest

def blanks (n : Nat) : List Char := List.replicate n ' '

/-- The underlines of marks, from the column `column` on. -/
def underlines (column : Nat) : List Mark → List Char
  | [] => []
  | m :: rest => blanks (m.start - column) ++ m.underline ++ underlines (max column m.stop) rest

/-- The lines down to the labels of marks, from the column `column` up to `stop`. -/
def stems (column stop : Nat) : List Mark → List Char
  | [] => blanks (stop - column)
  | m :: rest => blanks (m.middle - column) ++ '|' :: stems (max column m.middle + 1) stop rest

/-- The text of a label as it hangs from its mark, line by line. -/
def hangingLines (label : ReportLabel) : List String :=
  match Text.linesOf label.message with
  | first :: second :: rest => ("`-| " ++ first) :: (second :: rest).map ("  | " ++ ·)
  | lines => lines.map ("`-- " ++ ·)

/-- The lines with the text of a label, which hangs from the first of the marks that has its place and its text. -/
def hanging (drawn : List Mark) (label : ReportLabel) : List String :=
  let isOther := fun (m : Mark) => m.label.span ≠ label.span || m.label.message ≠ label.message
  match drawn.dropWhile isOther with
  | [] => []
  | m :: _ =>
    let stem := String.ofList (stems 0 m.middle (drawn.takeWhile isOther))
    (hangingLines label).map (stem ++ ·)

/-- The lines that show a source text with labels, which are ordered by where they start. Labels that start at the end
of the source are not drawn. A label that reaches one byte beyond the end counts as one of several lines: an arrow
points to the source where it starts, and it goes on beside the lines below. -/
def drawing (source : String) (labels : List ReportLabel) : List String :=
  let size := source.utf8ByteSize
  let (inner, reaching) := (labels.filter (·.span.start < size)).partition (·.span.stop ≤ size)
  let arrow := if reaching.isEmpty then "" else "," ++ String.ofList (List.replicate reaching.length '-') ++ "> "
  let beside := if reaching.isEmpty then "" else String.ofList (List.replicate reaching.length '|') ++ "   "
  let drawn := marks source.toList 0 inner
  let pointers :=
    if drawn.isEmpty then []
    else String.ofList (underlines 0 drawn) :: (drawn.reverse.flatMap fun m => hanging drawn m.label)
  (if source.isEmpty then [] else [" 1 | " ++ arrow ++ source]) ++ pointers.map ("   : " ++ beside ++ ·)

/-- The lines that show a source text with labels. A label that reaches further beyond the end of the source than one
byte is named in place of them. -/
def snippet (source : String) (labels : List ReportLabel) : List String :=
  let sorted := labels.mergeSort fun a b => a.span.start ≤ b.span.start
  match sorted.find? (source.utf8ByteSize + 1 < ·.span.stop) with
  | some label =>
    ["  [Failed to read contents for label `" ++ label.message ++ "` (offset: " ++ toString label.span.start ++
      ", length: " ++ toString label.span.length ++ "): OutOfBounds]"]
  | none => ["   ,----"] ++ drawing source sorted ++ ["   `----"]

/-- The sign of a severity. -/
def sign : Severity → String
  | .error => "x"
  | .warning => "!"

/-- The width of the lines of messages and of help, with what they are set in by. -/
def lineWidth : Nat := 198

/-- A text on lines that begin with `first` and then with `later`, two texts of the same width. -/
def setIn (first later text : String) : List String :=
  match Text.wrap (lineWidth - first.length) text with
  | [] => []
  | line :: lines => (first ++ line) :: lines.map (later ++ ·)

/-- The lines of a report. -/
def lines (r : Report) : List String :=
  let code := match r.code with
    | some code => [code, ""]
    | none => []
  let message := setIn ("  " ++ sign r.severity ++ " ") "  | " r.message
  let shown := match r.source with
    | some source => if r.labels.isEmpty then [] else snippet source r.labels
    | none => []
  let help := match r.help with
    | some help => setIn "  help: " "        " help
    | none => []
  code ++ message ++ shown ++ help

/-- The text of a report, every line of it ended. -/
def render (r : Report) : String := String.join (r.lines.map (· ++ "\n"))

end Report

end FormulaDiagram
