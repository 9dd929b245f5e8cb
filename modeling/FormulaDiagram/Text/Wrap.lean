import FormulaDiagram.Text.Character
import FormulaDiagram.Text.LineBreak

/-!
Text in lines of a limited width. Every character is as wide as any other. A text is cut into words, and each line
takes as many of them as fit; blanks at the end of a line take no room and are left out. Words are the pieces between
the places where lines may be broken, cut once more behind hyphens in their midst, and by force where they are wider
than a line.
-/

namespace FormulaDiagram.Text

/-- A part of a text that stays on one line, with the number of blanks behind it. -/
structure Word where
  text : List Char
  blanks : Nat

namespace Word

/-- The word of a piece of text, with the blanks at the end of the piece. -/
def ofPiece (piece : List Char) : Word :=
  let blanks := (piece.reverse.takeWhile (· = ' ')).length
  ⟨piece.take (piece.length - blanks), blanks⟩

/-- The room for the word and for the blanks behind it. -/
def width (w : Word) : Nat := w.text.length + w.blanks

/-- The words of parts of a word, of which the last one has the blanks of the whole. -/
def ofParts (blanks : Nat) : List (List Char) → List Word
  | [] => []
  | [part] => [⟨part, blanks⟩]
  | part :: parts => ⟨part, 0⟩ :: ofParts blanks parts

/-- The text of words in a row, without the blanks behind the last one. -/
def textOf : List Word → List Char
  | [] => []
  | [w] => w.text
  | w :: ws => w.text ++ List.replicate w.blanks ' ' ++ textOf ws

end Word

/-- The parts of a text up to each hyphen between two letters or numbers, and what is left. -/
def hyphenParts : List Char → List (List Char)
  | [] => [[]]
  | [c] => [[c]]
  | c :: '-' :: d :: rest =>
    if isAlphanumeric c && isAlphanumeric d then [c, '-'] :: hyphenParts (d :: rest)
    else
      match hyphenParts ('-' :: d :: rest) with
      | [] => [[c]]
      | part :: parts => (c :: part) :: parts
  | c :: d :: rest =>
    match hyphenParts (d :: rest) with
    | [] => [[c]]
    | part :: parts => (c :: part) :: parts

/-- The parts of a text that are as wide as a line, and what is left. -/
def lineParts (width : Nat) (text : List Char) : List (List Char) :=
  if width < text.length ∧ 0 < width then text.take width :: lineParts width (text.drop width) else [text]
termination_by text.length
decreasing_by
  simp only [List.length_drop]
  omega

/-- The words of a line of text, none wider than a line of the width. -/
def words (width : Nat) (text : List Char) : List Word :=
  if text.isEmpty then []
  else
    (breakPieces text).flatMap fun piece =>
      let word := Word.ofPiece piece
      (Word.ofParts word.blanks (hyphenParts word.text)).flatMap fun part =>
        Word.ofParts part.blanks (lineParts width part.text)

/-- Puts words on lines: on a line that holds `line`, in reverse order and `used` wide, and on further ones. -/
def fill (width : Nat) (line : List Word) (used : Nat) : List Word → List (List Word)
  | [] => [line.reverse]
  | w :: ws =>
    if width < used + w.text.length && !line.isEmpty then line.reverse :: fill width [w] w.width ws
    else fill width (w :: line) (used + w.width) ws

/-- The lines of a text, each at most as wide as given. A line that ends in the text ends here too. -/
def wrap (width : Nat) (text : String) : List String :=
  (segments '\n' text.toList).flatMap fun line =>
    (fill width [] 0 (⟨[], 0⟩ :: words width line)).map fun ws => String.ofList (Word.textOf ws)

end FormulaDiagram.Text
