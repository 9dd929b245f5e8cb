import FormulaDiagram.Text.Alphanumeric

/-!
The two classes of characters that the formula language is built on: what may stand in an identifier and what
may stand between tokens. No character is in both. With them stands what is done with texts everywhere.
-/

namespace FormulaDiagram.Text

/-- The characters with the Unicode property White_Space. -/
def isWhiteSpace (c : Char) : Bool :=
  inRanges c.toNat
    [(0x9, 0xd), (0x20, 0x20), (0x85, 0x85), (0xa0, 0xa0), (0x1680, 0x1680), (0x2000, 0x200a), (0x2028, 0x2029),
      (0x202f, 0x202f), (0x205f, 0x205f), (0x3000, 0x3000)]

/-- The characters of identifiers: letters and numbers of any script, and the low line. -/
def isIdentifier (c : Char) : Bool := isAlphanumeric c || c = '_'

/-- A text without the white space at its end. -/
def trimEnd (s : String) : String := String.ofList (s.toList.reverse.dropWhile isWhiteSpace).reverse

/-- A text without the white space at either end. -/
def trim (s : String) : String := trimEnd (String.ofList (s.toList.dropWhile isWhiteSpace))

/-- The parts of a text between the places where a character stands. -/
def segments (mark : Char) : List Char → List (List Char)
  | [] => [[]]
  | c :: rest =>
    match segments mark rest with
    | [] => [[c]]
    | first :: later => if c = mark then [] :: first :: later else (c :: first) :: later

/-- The lines of a text. -/
def linesOf (text : String) : List String := (segments '\n' text.toList).map String.ofList

/-- The number of bytes of a text in UTF-8. -/
def utf8Length (cs : List Char) : Nat := cs.foldr (fun c n => c.utf8Size + n) 0

/-- The text in front of a byte offset and the text behind it, if the offset stands between characters. -/
def splitAt? : Nat → List Char → Option (List Char × List Char)
  | 0, text => some ([], text)
  | _ + 1, [] => none
  | offset + 1, c :: rest =>
    if c.utf8Size ≤ offset + 1 then
      (splitAt? (offset + 1 - c.utf8Size) rest).map fun r => (c :: r.1, r.2)
    else none

end FormulaDiagram.Text
