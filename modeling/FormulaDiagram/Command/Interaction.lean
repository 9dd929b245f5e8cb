import FormulaDiagram.Drawing.Error

/-!
What a program does with its surroundings, as a tree of requests. Each request but a note waits for an answer, and
what comes next depends on it, so a program can be run in any surroundings that answer: those of the system, or a
value that stands for them.
-/

namespace FormulaDiagram

/-- Where text is read from. -/
inductive TextSource where
  | file (path : String)
  | standardInput
deriving DecidableEq

/-- Where text is written to. -/
inductive TextTarget where
  | file (path : String)
  | standardOutput
deriving DecidableEq

/-- A program that asks for what is there, reads, writes and leaves notes until it is done. -/
inductive Interaction (α : Type) where
  | done (result : α)
  /-- Is there anything at the path? -/
  | probe (path : String) (next : Bool → Interaction α)
  /-- All text of a source. -/
  | read (source : TextSource) (next : Except SystemError String → Interaction α)
  /-- Prints a text, or makes it all that a file holds. -/
  | write (target : TextTarget) (text : String) (next : Except SystemError Unit → Interaction α)
  /-- Leaves a line for whoever watches the program. -/
  | note (line : String) (next : Interaction α)

namespace Interaction

/-- Goes on with the result of a program. -/
def andThen {α β : Type} (program : Interaction α) (rest : α → Interaction β) : Interaction β :=
  match program with
  | .done result => rest result
  | .probe path next => .probe path fun answer => (next answer).andThen rest
  | .read source next => .read source fun answer => (next answer).andThen rest
  | .write target text next => .write target text fun answer => (next answer).andThen rest
  | .note line next => .note line (next.andThen rest)

instance : Monad Interaction where
  pure := done
  bind := andThen

end Interaction

/-- A program that may fail to make its drawing. -/
abbrev Attempt := ExceptT DrawingError Interaction

namespace Attempt

/-- What was found without asking anyone. -/
def ofResult {α : Type} (result : Except DrawingError α) : Attempt α := ExceptT.mk (.done result)

def probe (path : String) : Attempt Bool := ExceptT.mk (.probe path fun answer => .done (.ok answer))

def read (source : TextSource) : Attempt String :=
  ExceptT.mk (.read source fun answer => .done (answer.mapError .system))

def write (target : TextTarget) (text : String) : Attempt Unit :=
  ExceptT.mk (.write target text fun answer => .done (answer.mapError .system))

def note (line : String) : Attempt Unit := ExceptT.mk (.note line (.done (.ok ())))

end Attempt

end FormulaDiagram
