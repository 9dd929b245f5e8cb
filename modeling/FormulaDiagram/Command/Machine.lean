import FormulaDiagram.Command.FileTree
import FormulaDiagram.Command.Interaction

/-!
A machine to run programs on: its files, what waits on its standard input, and what programs printed and noted. Only
writing changes the files and what was printed.
-/

namespace FormulaDiagram

/-- The text of bytes. -/
def decodeText (bytes : ByteArray) : Except SystemError String :=
  match String.fromUTF8? bytes with
  | some text => .ok text
  | none => .error .notUtf8

/-- The state of a machine. Notes stand in the order in which they were made. -/
structure Machine where
  files : FileTree
  input : ByteArray
  output : String := ""
  notes : List String := []

namespace Machine

variable (machine : Machine)

/-- The text of a source. -/
def read : TextSource → Except SystemError String
  | .file path => machine.files.contents path >>= decodeText
  | .standardInput => decodeText machine.input

/-- Writes a text. The machine stays as it is if that fails. -/
def write (target : TextTarget) (text : String) : Except SystemError Unit × Machine :=
  match target with
  | .standardOutput => (.ok (), { machine with output := machine.output ++ text })
  | .file path =>
    match machine.files.write path text with
    | .ok files => (.ok (), { machine with files })
    | .error e => (.error e, machine)

end Machine

/-- The result of a program on a machine, and the state that it leaves behind. -/
def Interaction.runOn {α : Type} (program : Interaction α) (machine : Machine) : α × Machine :=
  match program with
  | .done result => (result, machine)
  | .probe path next => (next (machine.files.holds path)).runOn machine
  | .read source next => (next (machine.read source)).runOn machine
  | .write target text next =>
    let (answer, machine) := machine.write target text
    (next answer).runOn machine
  | .note line next => next.runOn { machine with notes := machine.notes ++ [line] }

end FormulaDiagram
