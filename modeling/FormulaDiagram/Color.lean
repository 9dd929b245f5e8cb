import FormulaDiagram.Numeric.Scalar
import FormulaDiagram.Text.Character

/-!
Colours in the notation of style sheets: by name, by hexadecimal digits, or by the function `rgb`. A named
colour is shown by its name, any other by its components, which are kept between zero and one and shown as
multiples of 255.
-/

namespace FormulaDiagram

/-- The colours that have names. -/
inductive ColorName where
  | white
  | black
  | red
  | blue
  | gray
  | aqua
  | cyan
  | rebeccapurple
  | transparent
deriving DecidableEq

namespace ColorName

def all : List ColorName :=
  [.white, .black, .red, .blue, .gray, .aqua, .cyan, .rebeccapurple, .transparent]

def text : ColorName → String
  | .white => "white"
  | .black => "black"
  | .red => "red"
  | .blue => "blue"
  | .gray => "gray"
  | .aqua => "aqua"
  | .cyan => "cyan"
  | .rebeccapurple => "rebeccapurple"
  | .transparent => "transparent"

end ColorName

/-- A colour: a name, or red, green, blue and opacity between zero and one. -/
inductive Color where
  | named (name : ColorName)
  | components (red green blue alpha : Single)
deriving DecidableEq

/-- Why a text is not a colour. -/
inductive ColorFault where
  | wrongNumberOfHexDigits
  | expectedEndOfString
  | unknownIdentifier
  | unknownNotation
  | unknownComponent
  | expectedArguments
  | expectedComma
  | expectedClosingParenthesis
deriving DecidableEq

def ColorFault.text : ColorFault → String
  | .wrongNumberOfHexDigits => "wrong number of hex digits"
  | .expectedEndOfString => "expected end of string"
  | .unknownIdentifier => "unknown color identifier"
  | .unknownNotation => "unknown color syntax"
  | .unknownComponent => "unknown color component"
  | .expectedArguments => "expected arguments"
  | .expectedComma => "expected comma"
  | .expectedClosingParenthesis => "expected closing parenthesis"

/-- A text that is no colour, and why. -/
structure ColorError where
  input : String
  fault : ColorFault

def ColorError.message (e : ColorError) : String := "invalid color `" ++ e.input ++ "`: " ++ e.fault.text

namespace Color

/-- The opacity. -/
def alpha : Color → Single
  | .named .transparent => Binary.ofNat 0
  | .named _ => Binary.ofNat 1
  | .components _ _ _ alpha => alpha

/-- The text of a colour in a style sheet. The opacity is left out when the colour is opaque. -/
def text : Color → String
  | .named name => name.text
  | .components red green blue alpha =>
    let channel := fun (c : Single) => (c * Binary.ofNat 255).text
    let channels := channel red ++ ", " ++ channel green ++ ", " ++ channel blue
    if alpha < Binary.ofNat 1 then "rgba(" ++ channels ++ ", " ++ alpha.text ++ ")" else "rgb(" ++ channels ++ ")"

/-! ### Hexadecimal digits -/

def isHexDigit (c : Char) : Bool := c.isDigit || ('a' ≤ c && c ≤ 'f') || ('A' ≤ c && c ≤ 'F')

/-- The component of two hexadecimal digits. -/
def ofHex (high low : Char) : Single :=
  Binary.ofNat (numberOfDigits 16 [high, low]) * Scalar.ratio 1 255

/-- The colour of three, four, six or eight digits; in the short forms every digit stands for two. -/
def ofHexDigits : List Char → Except ColorFault Color
  | [r, g, b] => .ok (.components (ofHex r r) (ofHex g g) (ofHex b b) (Binary.ofNat 1))
  | [r, g, b, a] => .ok (.components (ofHex r r) (ofHex g g) (ofHex b b) (ofHex a a))
  | [r, r', g, g', b, b'] => .ok (.components (ofHex r r') (ofHex g g') (ofHex b b') (Binary.ofNat 1))
  | [r, r', g, g', b, b', a, a'] => .ok (.components (ofHex r r') (ofHex g g') (ofHex b b') (ofHex a a'))
  | _ => .error .wrongNumberOfHexDigits

/-! ### Words and numbers -/

def isWordStart (c : Char) : Bool := c.isAlpha || c = '_' || c = '-'

/-- The word at the head of a text. A digit may not stand first, nor behind a hyphen that stands first, and two
hyphens begin no word. -/
def word? (cs : List Char) : Option (List Char × List Char) :=
  let word := match cs with
    | '-' :: c :: _ => if isWordStart c then cs.takeWhile inWord else ['-']
    | c :: _ => if isWordStart c then cs.takeWhile inWord else []
    | [] => []
  match word with
  | [] => none
  | ['-'] => none
  | '-' :: '-' :: _ => none
  | _ => some (word, cs.drop word.length)
where
  inWord (c : Char) : Bool := isWordStart c || c.isDigit

def dropBlanks (cs : List Char) : List Char :=
  cs.dropWhile fun c => c = ' ' || c = '\t' || c = '\r' || c = '\n'

/-- Splits off the digits at the head of a text. -/
def digits (cs : List Char) : List Char × List Char := cs.span Char.isDigit

/-- Splits off a sign, if there is one. -/
def sign (cs : List Char) : Bool × List Char :=
  match cs with
  | '-' :: rest => (true, rest)
  | '+' :: rest => (false, rest)
  | _ => (false, cs)

/-- Splits off a point with digits behind it, if there are any. -/
def fraction (cs : List Char) : List Char × List Char :=
  match cs with
  | '.' :: rest => if (digits rest).1.isEmpty then ([], cs) else digits rest
  | _ => ([], cs)

/-- Splits off a power of ten, if there is one. -/
def power (cs : List Char) : Int × List Char :=
  match cs with
  | c :: rest =>
    let (negative, rest') := sign rest
    let (ds, rest'') := digits rest'
    if (c = 'e' || c = 'E') && !ds.isEmpty then
      (Binary.signed negative (numberOfDigits 10 ds), rest'')
    else (0, cs)
  | [] => (0, [])

/-- The number at the head of a text. -/
def number? (cs : List Char) : Option (Double × List Char) :=
  let (negative, rest) := sign cs
  let (whole, rest) := digits rest
  let (parts, rest) := fraction rest
  if whole.isEmpty && parts.isEmpty then none
  else
    let (exponent, rest) := power rest
    some (Binary.ofDecimal negative (Decimal.ofParts whole parts exponent), rest)

/-! ### The function notation -/

/-- A number between zero and one, rounded to 32 bits. -/
def clamp (x : Double) : Single :=
  let zero : Double := Binary.ofNat 0
  let one : Double := Binary.ofNat 1
  (if x < zero then zero else if one < x then one else x).convert .single

/-- A component at the head of a text, behind blanks: a number times a scale, or hundredths. A word directly behind
the number would be its unit, and there is none for components. -/
def component (scale : Double) (cs : List Char) : Except ColorFault (Single × List Char) :=
  match number? (dropBlanks cs) with
  | some (x, '%' :: rest) => .ok (clamp (x * Binary.ofRatio false 1 100), rest)
  | some (x, rest) => if (word? rest).isSome then .error .unknownComponent else .ok (clamp (x * scale), rest)
  | none => .error .unknownComponent

/-- Passes over one character behind blanks, or fails. -/
def require (c : Char) (fault : ColorFault) (cs : List Char) : Except ColorFault (List Char) :=
  match dropBlanks cs with
  | c' :: rest => if c' = c then .ok rest else .error fault
  | [] => .error fault

/-- The opacity behind its separator. Without a separator the colour is opaque. -/
def opacity (separator : Char) (cs : List Char) : Except ColorFault (Single × List Char) :=
  match require separator .expectedComma cs with
  | .ok rest => component (Binary.ofNat 1) rest
  | .error _ => .ok (Binary.ofNat 1, cs)

/-- The arguments of `rgb`. A comma behind the first component asks for one behind the second and before the
opacity; without it the opacity stands behind a slash. -/
def ofArguments (cs : List Char) : Except ColorFault (Color × List Char) := do
  let rest ← match cs with
    | '(' :: rest => .ok rest
    | _ => .error .expectedArguments
  let scale : Double := Binary.ofNat 1 / Binary.ofNat 255
  let (red, rest) ← component scale rest
  let (commas, rest) := match require ',' .expectedComma rest with
    | .ok rest => (true, rest)
    | .error _ => (false, rest)
  let (green, rest) ← component scale rest
  let rest ← if commas then require ',' .expectedComma rest else .ok rest
  let (blue, rest) ← component scale rest
  let (alpha, rest) ← opacity (if commas then ',' else '/') rest
  let rest ← require ')' .expectedClosingParenthesis rest
  .ok (.components red green blue alpha, rest)

/-- The colour at the head of a text. -/
def ofHead (cs : List Char) : Except ColorFault (Color × List Char) :=
  match cs with
  | '#' :: rest =>
    let ds := (rest.take 8).takeWhile isHexDigit
    (ofHexDigits ds).map (·, rest.drop ds.length)
  | _ =>
    match word? cs with
    | none => .error .unknownNotation
    | some (word, rest) =>
      let name := (String.ofList word).toLower
      if name = "rgb" || name = "rgba" then ofArguments rest
      else
        match ColorName.all.find? (·.text == name) with
        | some known => .ok (.named known, rest)
        | none => .error .unknownIdentifier

/-- The colour that a text, white space at its ends apart, is the notation of. -/
def parse (input : String) : Except ColorError Color :=
  match ofHead (Text.trim input).toList with
  | .ok (color, []) => .ok color
  | .ok (_, _ :: _) => .error ⟨input, .expectedEndOfString⟩
  | .error fault => .error ⟨input, fault⟩

/-- The colour of six hexadecimal digits, given as a number. -/
def ofCode (code : Nat) : Color :=
  let channel := fun (n : Nat) => (Binary.ofNat (n % 256) * Scalar.ratio 1 255 : Single)
  .components (channel (code / 0x10000)) (channel (code / 0x100)) (channel code) (Binary.ofNat 1)

instance : Inhabited Color := ⟨.named .black⟩

end Color

end FormulaDiagram
