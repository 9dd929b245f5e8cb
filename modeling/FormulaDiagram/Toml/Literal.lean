import FormulaDiagram.Text.Character
import FormulaDiagram.Toml.Item

/-!
The literals of TOML: strings of four kinds, and the words that are numbers, booleans, dates and times.
-/

namespace FormulaDiagram.Toml

/-- What was read and the text behind it. -/
abbrev Reading (α : Type) : Type := α × List Char

/-! ### Strings -/

/-- Control characters may stand nowhere in a document, except the tab and the ends of lines. -/
def isControl (c : Char) : Bool := (c.toNat < 0x20 && c ≠ '\t') || c.toNat = 0x7f

/-- The character of a code point, which must not be half of a pair. -/
def charOfCode? (n : Nat) : Option Char := if n.isValidChar then some (Char.ofNat n) else none

def isHexDigit (c : Char) : Bool := c.isDigit || ('a' ≤ c && c ≤ 'f') || ('A' ≤ c && c ≤ 'F')

/-- The character of an escape of hexadecimal digits. -/
def charOfHex? (digits : List Char) : Option Char :=
  if digits.all isHexDigit then charOfCode? (numberOfDigits 16 digits) else none

/-- The character that a letter behind a backslash stands for. -/
def escapeOfLetter? : Char → Option Char
  | 'b' => some '\x08'
  | 't' => some '\t'
  | 'n' => some '\n'
  | 'f' => some '\x0c'
  | 'r' => some '\r'
  | 'e' => some '\x1b'
  | '"' => some '"'
  | '\\' => some '\\'
  | _ => none

/-- The escape behind a backslash. -/
def escape? : List Char → Option (Reading Char)
  | 'x' :: a :: b :: rest => (charOfHex? [a, b]).map (·, rest)
  | 'u' :: a :: b :: c :: d :: rest => (charOfHex? [a, b, c, d]).map (·, rest)
  | 'U' :: a :: b :: c :: d :: a' :: b' :: c' :: d' :: rest =>
    (charOfHex? [a, b, c, d, a', b', c', d']).map (·, rest)
  | c :: rest => (escapeOfLetter? c).map (·, rest)
  | [] => none

theorem escape?_shorter {cs rest : List Char} {c : Char} (h : escape? cs = some (c, rest)) :
    rest.length < cs.length := by
  unfold escape? at h
  split at h
  case h_5 => cases h
  all_goals
    obtain ⟨x, -, hx⟩ := Option.map_eq_some_iff.1 h
    cases hx
    simp only [List.length_cons]
    omega

/-- A string in double quotes, behind the opening one. -/
def basicString (content : List Char) (cs : List Char) : Option (Reading String) :=
  match cs with
  | [] => none
  | '"' :: rest => some (String.ofList content.reverse, rest)
  | '\\' :: rest =>
    match _h : escape? rest with
    | some (c, rest') => basicString (c :: content) rest'
    | none => none
  | c :: rest => if isControl c then none else basicString (c :: content) rest
termination_by cs.length
decreasing_by
  · have := escape?_shorter _h
    simp only [List.length_cons]
    omega
  · simp

/-- A string in single quotes, behind the opening one, where nothing is escaped. -/
def literalString (content : List Char) : List Char → Option (Reading String)
  | [] => none
  | '\'' :: rest => some (String.ofList content.reverse, rest)
  | c :: rest => if isControl c then none else literalString (c :: content) rest

/-- A text without the end of line it begins with, if it does. -/
def dropNewline : List Char → List Char
  | '\n' :: rest => rest
  | '\r' :: '\n' :: rest => rest
  | cs => cs

def isBlank (c : Char) : Bool := c = ' ' || c = '\t'

/-- Only blanks stand before the next end of line. -/
def endsLine (cs : List Char) : Bool :=
  match cs.dropWhile isBlank with
  | '\n' :: _ => true
  | '\r' :: '\n' :: _ => true
  | _ => false

/-- A text without the blanks and ends of lines it begins with. -/
def dropWhite : List Char → List Char
  | ' ' :: rest => dropWhite rest
  | '\t' :: rest => dropWhite rest
  | '\n' :: rest => dropWhite rest
  | '\r' :: '\n' :: rest => dropWhite rest
  | cs => cs

theorem dropWhite_length_le (cs : List Char) : (dropWhite cs).length ≤ cs.length := by
  fun_induction dropWhite cs with
  | case1 rest ih => exact Nat.le_succ_of_le ih
  | case2 rest ih => exact Nat.le_succ_of_le ih
  | case3 rest ih => exact Nat.le_succ_of_le ih
  | case4 rest ih => exact Nat.le_succ_of_le (Nat.le_succ_of_le ih)
  | case5 => exact Nat.le_refl _

/-- A string in three double quotes, behind the opening ones. Two more quotes may stand before the closing ones,
and a backslash at the end of a line takes away all white space up to the next character. -/
def longBasicString (content : List Char) (cs : List Char) : Option (Reading String) :=
  match cs with
  | [] => none
  | '"' :: '"' :: '"' :: '"' :: '"' :: rest => some (String.ofList ('"' :: '"' :: content).reverse, rest)
  | '"' :: '"' :: '"' :: '"' :: rest => some (String.ofList ('"' :: content).reverse, rest)
  | '"' :: '"' :: '"' :: rest => some (String.ofList content.reverse, rest)
  | '\r' :: '\n' :: rest => longBasicString ('\n' :: content) rest
  | '\\' :: rest =>
    if endsLine rest then longBasicString content (dropWhite rest)
    else
      match _h : escape? rest with
      | some (c, rest') => longBasicString (c :: content) rest'
      | none => none
  | c :: rest => if isControl c && c ≠ '\n' then none else longBasicString (c :: content) rest
termination_by cs.length
decreasing_by
  · simp only [List.length_cons]; omega
  · have := dropWhite_length_le rest
    simp only [List.length_cons]
    omega
  · have := escape?_shorter _h
    simp only [List.length_cons]
    omega
  · simp

/-- A string in three single quotes, behind the opening ones. -/
def longLiteralString (content : List Char) : List Char → Option (Reading String)
  | [] => none
  | '\'' :: '\'' :: '\'' :: '\'' :: '\'' :: rest => some (String.ofList ('\'' :: '\'' :: content).reverse, rest)
  | '\'' :: '\'' :: '\'' :: '\'' :: rest => some (String.ofList ('\'' :: content).reverse, rest)
  | '\'' :: '\'' :: '\'' :: rest => some (String.ofList content.reverse, rest)
  | '\r' :: '\n' :: rest => longLiteralString ('\n' :: content) rest
  | c :: rest => if isControl c && c ≠ '\n' then none else longLiteralString (c :: content) rest

/-! ### Numbers -/

/-- Digits of a kind, of which there is at least one, with single low lines between them. -/
def digitRun? (isDigit : Char → Bool) : List Char → Option (List Char)
  | [] => none
  | [c] => if isDigit c then some [c] else none
  | c :: '_' :: rest => if isDigit c then (digitRun? isDigit rest).map (c :: ·) else none
  | c :: rest => if isDigit c then (digitRun? isDigit rest).map (c :: ·) else none

/-- Splits off a sign, if there is one. -/
def sign (word : List Char) : Bool × List Char :=
  match word with
  | '-' :: rest => (true, rest)
  | '+' :: rest => (false, rest)
  | _ => (false, word)

/-- The digits of a whole decimal number behind its sign. It begins with a zero only if it is zero, or if a low line
stands between the sign and it. -/
def wholeDigits? (word : List Char) : Option (List Char) :=
  match word with
  | '-' :: '_' :: rest => digitRun? Char.isDigit rest
  | '+' :: '_' :: rest => digitRun? Char.isDigit rest
  | _ =>
    match digitRun? Char.isDigit (sign word).2 with
    | some ('0' :: _ :: _) => none
    | digits => digits

/-- An integer can be read if it fits in a word of 128 bits, with a sign or without. -/
def ofInteger (n : Int) : Item :=
  if -Int.ofNat (Nat.pow 2 127) ≤ n ∧ n < Int.ofNat (Nat.pow 2 128) then .integer n else .unreadable

/-- The integer that digits write in a base behind its mark. If there are none, it cannot be read. -/
def based? (base : Nat) (isDigit : Char → Bool) (digits : List Char) : Option Item :=
  match digits with
  | [] => some .unreadable
  | _ => (digitRun? isDigit digits).map fun ds => ofInteger (numberOfDigits base ds)

/-- The integer that a word writes in some base. -/
def integer? (word : List Char) : Option Item :=
  match word with
  | '0' :: 'x' :: rest => based? 16 isHexDigit rest
  | '0' :: 'o' :: rest => based? 8 (fun c => '0' ≤ c && c ≤ '7') rest
  | '0' :: 'b' :: rest => based? 2 (fun c => c = '0' || c = '1') rest
  | _ =>
    (wholeDigits? word).map fun ds => ofInteger (Binary.signed (sign word).1 (numberOfDigits 10 ds))

/-- A part begins with a digit, and ends with one too if it is not the last. Digits may be hexadecimal. -/
def areParts : List (List Char) → Bool
  | [] => true
  | [part] => part.head?.any isHexDigit
  | part :: parts => part.head?.any isHexDigit && part.getLast?.any isHexDigit && areParts parts

/-- A word that begins like a decimal integer, but holds other characters behind a low line. It passes for a number
until that number is asked for. -/
def isLoose (word : List Char) : Bool :=
  match Text.segments '_' word with
  | first :: part :: parts =>
    let digits := (sign first).2
    (if digits.isEmpty then !first.isEmpty else digits.all Char.isDigit && digits.head? ≠ some '0') &&
      areParts (part :: parts) && word.all fun c => c ≠ '.' && c ≠ 'e' && c ≠ 'E'
  | _ => false

/-- The power of ten that a word writes behind the letter `e`. -/
def exponent? (word : List Char) : Option Int :=
  let (negative, rest) := sign word
  (digitRun? Char.isDigit rest).map fun ds => Binary.signed negative (numberOfDigits 10 ds)

/-- A word before the first character of a kind and, if there is one, the word behind it. -/
def splitAtFirst (isMark : Char → Bool) (word : List Char) : List Char × Option (List Char) :=
  match word.span (!isMark ·) with
  | (before, _ :: behind) => (before, some behind)
  | (before, []) => (before, none)

/-- The number that a word writes with a point, a power of ten or both. If it is too large, it cannot be read. -/
def decimal? (word : List Char) : Option Item := do
  let (mantissa, power) := splitAtFirst (fun c => c = 'e' || c = 'E') word
  let (whole, parts) := splitAtFirst (· = '.') mantissa
  let whole ← if parts.isSome || power.isSome then wholeDigits? whole else none
  let fraction ← match parts with
    | some ds => digitRun? Char.isDigit ds
    | none => some []
  let exponent ← match power with
    | some p => exponent? p
    | none => some 0
  let value : Double := Binary.ofDecimal (sign word).1 (Decimal.ofParts whole fraction exponent)
  some (if value.isFinite then .float value else .unreadable)

/-- The values that are no finite numbers. -/
def special? (word : List Char) : Option Item :=
  let (negative, rest) := sign word
  if rest = "inf".toList then some (.float (.infinite negative))
  else if rest = "nan".toList then some (.float .nan)
  else none

/-! ### Dates and times -/

/-- The number that two digits write, if it is in a range. -/
def twoDigits? (low high : Nat) (a b : Char) : Option Unit :=
  let n := numberOfDigits 10 [a, b]
  if a.isDigit && b.isDigit && low ≤ n && n ≤ high then some () else none

def daysOfMonth (year month : Nat) : Nat :=
  if month = 2 then
    if year % 4 = 0 ∧ (year % 100 ≠ 0 ∨ year % 400 = 0) then 29 else 28
  else if month = 4 ∨ month = 6 ∨ month = 9 ∨ month = 11 then 30
  else 31

/-- A date at the head of a text, and the text behind it. -/
def date? : List Char → Option (List Char)
  | y₁ :: y₂ :: y₃ :: y₄ :: '-' :: m₁ :: m₂ :: '-' :: d₁ :: d₂ :: rest => do
    let year := [y₁, y₂, y₃, y₄]
    if year.all Char.isDigit then
      twoDigits? 1 12 m₁ m₂
      twoDigits? 1 (daysOfMonth (numberOfDigits 10 year) (numberOfDigits 10 [m₁, m₂])) d₁ d₂
      some rest
    else none
  | _ => none

/-- Fractions of a second at the head of a text, if there are any, and the text behind them. -/
def subseconds? (cs : List Char) : Option (List Char) :=
  match cs with
  | '.' :: rest => if (rest.takeWhile Char.isDigit).isEmpty then none else some (rest.dropWhile Char.isDigit)
  | _ => some cs

/-- A time of day at the head of a text, with seconds or without, and the text behind it. -/
def time? : List Char → Option (List Char)
  | h₁ :: h₂ :: ':' :: m₁ :: m₂ :: rest => do
    twoDigits? 0 23 h₁ h₂
    twoDigits? 0 59 m₁ m₂
    match rest with
    | ':' :: s₁ :: s₂ :: rest =>
      twoDigits? 0 60 s₁ s₂
      subseconds? rest
    | _ => some rest
  | _ => none

/-- The distance from universal time, or nothing. -/
def isOffset (cs : List Char) : Bool :=
  match cs with
  | [] => true
  | [c] => c = 'Z' || c = 'z'
  | [c, h₁, h₂, ':', m₁, m₂] =>
    (c = '+' || c = '-') && (twoDigits? 0 23 h₁ h₂).isSome && (twoDigits? 0 59 m₁ m₂).isSome
  | _ => false

/-- The word is a date, a time or both. -/
def isDateTime (word : List Char) : Bool :=
  match date? word with
  | some [] => true
  | some (c :: rest) =>
    (c = 'T' || c = 't' || c = ' ') &&
      match time? rest with
      | some offset => isOffset offset
      | none => false
  | none => time? word = some []

/-! ### Words -/

/-- What a word without quotes stands for. -/
def ofWord? (word : List Char) : Option Item :=
  if word = "true".toList then some (.boolean true)
  else if word = "false".toList then some (.boolean false)
  else
    match special? word with
    | some item => some item
    | none =>
      match integer? word with
      | some item => some item
      | none =>
        match decimal? word with
        | some item => some item
        | none =>
          if isDateTime word then some .dateTime
          else if isLoose word then some .unreadable
          else none

/-- The characters of words without quotes. -/
def inWord (c : Char) : Bool :=
  c ≠ ' ' && c ≠ '\t' && c ≠ '\n' && c ≠ '\r' && c ≠ '#' && c ≠ ',' && c ≠ '=' && c ≠ '[' && c ≠ ']' &&
    c ≠ '\x7b' && c ≠ '\x7d'

/-- The word at the head of a text. A time may stand behind a date and one blank. -/
def word (cs : List Char) : List Char × List Char :=
  let (first, rest) := cs.span inWord
  match rest with
  | ' ' :: c :: behind =>
    if date? first = some [] && c.isDigit then
      let (second, rest) := (c :: behind).span inWord
      (first ++ ' ' :: second, rest)
    else (first, rest)
  | _ => (first, rest)

end FormulaDiagram.Toml
