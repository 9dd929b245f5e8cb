import FormulaDiagram.Command.Machine
import FormulaDiagram.Command.Run

/-!
The command on the machine it is started on.
-/

namespace FormulaDiagram

/-- What the system says in an error. The number of an error may stand for it with either sign. -/
def SystemError.ofIO : IO.Error → SystemError
  | .noFileOrDirectory _ _ _ => .noSuchFile
  | .inappropriateType _ code _ => if code = 21 ∨ code = -21 then .isDirectory else .notDirectory
  | e => .other (toString e)

/-- The result of an action, or what the system says about it. -/
def attempt {α : Type} (action : IO α) : IO (Except SystemError α) := do
  try
    return .ok (← action)
  catch e =>
    return .error (SystemError.ofIO e)

/-- The text of a source of the machine. -/
def readSystem : TextSource → IO (Except SystemError String)
  | .file path => do
    let bytes ← attempt (IO.FS.readBinFile path)
    return bytes >>= decodeText
  | .standardInput => do
    let bytes ← attempt do (← IO.getStdin).readBinToEnd
    return bytes >>= decodeText

/-- Writes a text on the machine. -/
def writeSystem (target : TextTarget) (text : String) : IO (Except SystemError Unit) :=
  match target with
  | .file path => attempt (IO.FS.writeFile path text)
  | .standardOutput => attempt do
    let output ← IO.getStdout
    output.putStr text
    output.flush

/-- Runs a program on the machine. -/
def Interaction.perform {α : Type} : Interaction α → IO α
  | .done result => return result
  | .probe path next => do
    let answer ← attempt (IO.FS.realPath path)
    (next answer.toBool).perform
  | .read source next => do (next (← readSystem source)).perform
  | .write target text next => do (next (← writeSystem target text)).perform
  | .note line next => do
    IO.eprintln line
    next.perform

/-- Where the system keeps the configuration of the command. -/
def systemConfig : IO (Option String) := do
  let home ← IO.getEnv "HOME"
  let folder ← IO.getEnv "XDG_CONFIG_HOME"
  return home.map fun home =>
    match folder with
    | some folder => (if folder.startsWith "/" then folder else home ++ "/.config") ++ "/" ++ workingConfig
    | none => home ++ "/.config/" ++ workingConfig

end FormulaDiagram

def main (words : List String) : IO UInt32 := do
  let status ← (FormulaDiagram.Command.program (← FormulaDiagram.systemConfig) words).perform
  return status.toUInt32
