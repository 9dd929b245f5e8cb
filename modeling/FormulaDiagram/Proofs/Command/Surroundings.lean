import FormulaDiagram.Command.Machine

/-!
Programs in any surroundings. Whatever answers its requests, a program has a result, leaves a state behind and has made
its requests in some order. What it finds out without writing leaves the state as it was, and one such program after
another does too, so a longer program is followed step by step, each step with its result alone.
-/

namespace FormulaDiagram

/-- What answers the requests of a program. Only writing changes the state. -/
structure Surroundings (σ : Type) where
  holds : σ → String → Bool
  read : σ → TextSource → Except SystemError String
  write : σ → TextTarget → String → Except SystemError Unit × σ

/-- What a program asks for. -/
inductive Request where
  | probe (path : String)
  | read (source : TextSource)
  | write (target : TextTarget) (text : String)
  | note (line : String)

def Request.isWrite : Request → Bool
  | .write _ _ => true
  | _ => false

/-- How a program ended, with its requests from the first to the last. -/
structure Ending (σ α : Type) where
  result : α
  state : σ
  requests : List Request

variable {σ α β : Type}

/-- The ending of a program that made further requests before. -/
def Ending.behind (ending : Ending σ α) (requests : List Request) : Ending σ α :=
  { ending with requests := requests ++ ending.requests }

namespace Interaction

/-- The ending of a program that begins in a state. -/
def runIn (w : Surroundings σ) : Interaction α → σ → Ending σ α
  | .done result, s => ⟨result, s, []⟩
  | .probe path next, s => ((next (w.holds s path)).runIn w s).behind [.probe path]
  | .read source next, s => ((next (w.read s source)).runIn w s).behind [.read source]
  | .write target text next, s =>
    ((next (w.write s target text).1).runIn w (w.write s target text).2).behind [.write target text]
  | .note line next, s => (next.runIn w s).behind [.note line]

/-- A program that goes on with another one begins it with its result, in the state that it left. -/
theorem runIn_andThen (w : Surroundings σ) (program : Interaction α) (rest : α → Interaction β) (s : σ) :
    (program.andThen rest).runIn w s =
      ((rest (program.runIn w s).result).runIn w (program.runIn w s).state).behind
        (program.runIn w s).requests := by
  induction program generalizing s with
  | done result => rfl
  | probe path next ih => rw [andThen, runIn, ih]; rfl
  | read source next ih => rw [andThen, runIn, ih]; rfl
  | write target text next ih => rw [andThen, runIn, ih]; rfl
  | note line next ih => rw [andThen, runIn, ih]; rfl

/-- The program has the result and writes nothing. -/
structure Finds (w : Surroundings σ) (s : σ) (program : Interaction α) (result : α) : Prop where
  result : (program.runIn w s).result = result
  state : (program.runIn w s).state = s
  quiet : ∀ request ∈ (program.runIn w s).requests, ¬request.isWrite

theorem Finds.andThen {w : Surroundings σ} {s : σ} {program : Interaction α} {a : α} (h : program.Finds w s a)
    {rest : α → Interaction β} {b : β} (hrest : (rest a).Finds w s b) : (program.andThen rest).Finds w s b := by
  obtain ⟨hresult, hstate, hquiet⟩ := h
  have hrun := runIn_andThen w program rest s
  rw [hresult, hstate] at hrun
  constructor
  · rw [hrun]
    exact hrest.result
  · rw [hrun]
    exact hrest.state
  · rw [hrun]
    exact List.forall_mem_append.2 ⟨hquiet, hrest.quiet⟩

end Interaction

namespace Attempt

/-- The attempt has the result and writes nothing. -/
def Finds (w : Surroundings σ) (s : σ) (attempt : Attempt α) (result : Except DrawingError α) : Prop :=
  Interaction.Finds w s attempt.run result

/-- The attempt writes once: it puts the text where it belongs, and it succeeds if that does. Everything else it asks
for comes before, notes apart. -/
structure Delivers (w : Surroundings σ) (s : σ) (attempt : Attempt Unit) (target : TextTarget) (text : String) :
    Prop where
  result : (attempt.run.runIn w s).result = (w.write s target text).1.mapError .system
  state : (attempt.run.runIn w s).state = (w.write s target text).2
  requests : ∃ (before : List Request) (notes : List String), (∀ request ∈ before, ¬request.isWrite) ∧
    (attempt.run.runIn w s).requests = before ++ .write target text :: notes.map .note

variable {w : Surroundings σ} {s : σ}

namespace Finds

theorem ofResult (result : Except DrawingError α) : Finds w s (Attempt.ofResult result) result := ⟨rfl, rfl, nofun⟩

theorem pure (a : α) : Finds w s (Pure.pure a) (.ok a) := ⟨rfl, rfl, nofun⟩

theorem probe (path : String) : Finds w s (Attempt.probe path) (.ok (w.holds s path)) :=
  ⟨rfl, rfl, List.forall_mem_singleton.2 nofun⟩

theorem read (source : TextSource) : Finds w s (Attempt.read source) ((w.read s source).mapError .system) :=
  ⟨rfl, rfl, List.forall_mem_singleton.2 nofun⟩

/-- One attempt after the other finds what their results give one after the other. -/
theorem bind {attempt : Attempt α} {result : Except DrawingError α} (h : Finds w s attempt result)
    {rest : α → Attempt β} {results : α → Except DrawingError β}
    (hrest : ∀ a, result = .ok a → Finds w s (rest a) (results a)) :
    Finds w s (attempt >>= rest) (result >>= results) := by
  apply Interaction.Finds.andThen h
  cases result with
  | error e => exact ⟨rfl, rfl, nofun⟩
  | ok a => exact hrest a rfl

/-- What only looks at a result and hands it on does not change what is found. -/
theorem handOn {attempt : Attempt α} {result : Except DrawingError α} (h : Finds w s attempt result)
    {rest : α → Attempt α} (hrest : ∀ a, Finds w s (rest a) (.ok a)) : Finds w s (attempt >>= rest) result := by
  have hbind := h.bind fun a _ => hrest a
  have hsame : (result >>= fun a => Except.ok a) = result := by cases result <;> rfl
  rwa [hsame] at hbind

theorem andThen {attempt : Attempt α} {a : α} (h : Finds w s attempt (.ok a)) {rest : α → Attempt β}
    {result : Except DrawingError β} (hrest : Finds w s (rest a) result) : Finds w s (attempt >>= rest) result :=
  Interaction.Finds.andThen h hrest

theorem error {attempt : Attempt α} {e : DrawingError} (h : Finds w s attempt (.error e)) {rest : α → Attempt β} :
    Finds w s (attempt >>= rest) (.error e) :=
  Interaction.Finds.andThen h ⟨rfl, rfl, nofun⟩

theorem map {attempt : Attempt α} {result : Except DrawingError α} (h : Finds w s attempt result) (f : α → β) :
    Finds w s (f <$> attempt) (result.map f) := by
  apply Interaction.Finds.andThen h
  cases result <;> exact ⟨rfl, rfl, nofun⟩

theorem forM {items : List α} {each : α → Attempt Unit} (h : ∀ item ∈ items, Finds w s (each item) (.ok ())) :
    Finds w s (items.forM each) (.ok ()) := by
  induction items with
  | nil => exact pure ()
  | cons item items ih =>
      obtain ⟨hitem, hitems⟩ := List.forall_mem_cons.1 h
      exact hitem.andThen (ih hitems)

end Finds

/-- What is found out before belongs to what comes before the text is written. -/
theorem Delivers.after {attempt : Attempt α} {a : α} (h : Finds w s attempt (.ok a)) {rest : α → Attempt Unit}
    {target : TextTarget} {text : String} (hrest : Delivers w s (rest a) target text) :
    Delivers w s (attempt >>= rest) target text := by
  obtain ⟨hresult, hstate, hquiet⟩ := h
  obtain ⟨before, notes, hbefore, hrequests⟩ := hrest.requests
  have hrun : (attempt >>= rest).run.runIn w s =
      ((rest a).run.runIn w s).behind (attempt.run.runIn w s).requests := by
    have hthen := Interaction.runIn_andThen w attempt.run (ExceptT.bindCont rest) s
    rw [hresult, hstate] at hthen
    exact hthen
  constructor
  · rw [hrun]
    exact hrest.result
  · rw [hrun]
    exact hrest.state
  · refine ⟨(attempt.run.runIn w s).requests ++ before, notes, List.forall_mem_append.2 ⟨hquiet, hbefore⟩, ?_⟩
    rw [hrun, Ending.behind, hrequests, List.append_assoc]

/-- Notes may follow the text that is written. -/
theorem Delivers.write {target : TextTarget} {text : String} {rest : Unit → Attempt Unit}
    (hrest : ∀ s, ∃ notes : List String, (rest ()).run.runIn w s = ⟨.ok (), s, notes.map .note⟩) :
    Delivers w s (Attempt.write target text >>= rest) target text := by
  obtain ⟨notes, hnotes⟩ := hrest (w.write s target text).2
  have hrun : (Attempt.write target text >>= rest).run.runIn w s =
      (Interaction.runIn w (ExceptT.bindCont rest ((w.write s target text).1.mapError .system))
        (w.write s target text).2).behind [.write target text] :=
    Interaction.runIn_andThen w (Attempt.write target text).run (ExceptT.bindCont rest) s
  cases hanswer : (w.write s target text).1 with
  | error e =>
      -- Nothing follows, not even notes.
      rw [hanswer] at hrun
      exact ⟨by rw [hrun, hanswer]; rfl, by rw [hrun]; rfl, [], [], nofun, by rw [hrun]; rfl⟩
  | ok _ =>
      rw [hanswer] at hrun
      have hrest : Interaction.runIn w (ExceptT.bindCont rest (.ok ())) (w.write s target text).2 =
          ⟨.ok (), (w.write s target text).2, notes.map .note⟩ := hnotes
      have hbehind := hrun.trans (congrArg (Ending.behind · [.write target text]) hrest)
      exact ⟨by rw [hbehind, hanswer]; rfl, by rw [hbehind]; rfl, [], notes, nofun, by rw [hbehind]; rfl⟩

end Attempt

/-! ### Machines -/

/-- The line of a note. -/
def Request.note? : Request → Option String
  | .note line => some line
  | _ => none

namespace Machine

/-- What a machine answers. -/
def surroundings : Surroundings Machine where
  holds machine path := machine.files.holds path
  read := read
  write := write

/-- The machine with further notes. -/
def noted (machine : Machine) (notes : List String) : Machine := { machine with notes := machine.notes ++ notes }

theorem write_noted (machine : Machine) (notes : List String) (target : TextTarget) (text : String) :
    (machine.noted notes).write target text =
      ((machine.write target text).1, (machine.write target text).2.noted notes) := by
  cases target with
  | standardOutput => rfl
  | file path =>
      have hfiles : (machine.noted notes).files = machine.files := rfl
      simp only [write, hfiles]
      cases machine.files.write path text <;> rfl

end Machine

/-- On a machine a program ends as in the surroundings that the machine is, and its notes are kept. -/
theorem Interaction.runOn_noted (program : Interaction α) (machine : Machine) (notes : List String) :
    program.runOn (machine.noted notes) =
      ((program.runIn Machine.surroundings machine).result, (program.runIn Machine.surroundings machine).state.noted
        (notes ++ (program.runIn Machine.surroundings machine).requests.filterMap Request.note?)) := by
  induction program generalizing machine notes with
  | done result => rw [runOn, runIn, List.filterMap_nil, List.append_nil]
  | probe path next ih => exact ih _ machine notes
  | read source next ih => exact ih _ machine notes
  | write target text next ih =>
      rw [runOn, Machine.write_noted]
      exact ih _ _ notes
  | note line next ih =>
      have hnoted : { machine.noted notes with notes := (machine.noted notes).notes ++ [line] } =
          machine.noted (notes ++ [line]) := by
        simp [Machine.noted]
      rw [runOn, hnoted, ih]
      simp [runIn, Ending.behind, Request.note?]

theorem Interaction.runOn_eq (program : Interaction α) (machine : Machine) :
    program.runOn machine =
      ((program.runIn Machine.surroundings machine).result, (program.runIn Machine.surroundings machine).state.noted
        ((program.runIn Machine.surroundings machine).requests.filterMap Request.note?)) := by
  have hnoted : machine.noted [] = machine := by simp [Machine.noted]
  have hrun := program.runOn_noted machine []
  rwa [hnoted, List.nil_append] at hrun

/-- What only finds out something leaves nothing but notes on a machine. -/
theorem Attempt.Finds.runOn {machine : Machine} {attempt : Attempt α} {result : Except DrawingError α}
    (h : Finds Machine.surroundings machine attempt result) :
    ∃ notes, attempt.run.runOn machine = (result, machine.noted notes) := by
  obtain ⟨hresult, hstate, -⟩ := h
  rw [Interaction.runOn_eq, hresult, hstate]
  exact ⟨_, rfl⟩

/-- What delivers a text leaves a machine as writing that text does, but for notes. -/
theorem Attempt.Delivers.runOn {machine : Machine} {attempt : Attempt Unit} {target : TextTarget} {text : String}
    (h : Delivers Machine.surroundings machine attempt target text) :
    ∃ notes, attempt.run.runOn machine =
      ((machine.write target text).1.mapError .system, (machine.write target text).2.noted notes) := by
  obtain ⟨hresult, hstate, -⟩ := h
  rw [Interaction.runOn_eq, hresult, hstate]
  exact ⟨_, rfl⟩

end FormulaDiagram
