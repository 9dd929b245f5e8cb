import FormulaDiagram.Text.BreakClass

/-!
Where a line may be broken, by the line breaking rules of Unicode. Whether there is an opportunity before a character
depends on its class and on what stands before it: the class of the last character that is neither a blank nor joined
to the one before it, whether blanks follow that one, and a little more in a few rules.
-/

namespace FormulaDiagram.Text

/-- What the opportunity before the next character depends on. At the start of a text there is no class. -/
structure BreakContext where
  base : Option BreakClass := none
  /-- Blanks stand behind the base. -/
  spaced : Bool := false
  /-- The last character joins the next one to it. -/
  joining : Bool := false
  /-- The base is a hyphen, or breaks lines behind it, and stands behind a letter of Hebrew. -/
  afterHebrew : Bool := false
  /-- The base is the first half of a flag. -/
  oddIndicator : Bool := false

namespace BreakClass

def isLetter (k : BreakClass) : Bool := k = .alphabetic || k = .hebrewLetter

def isPicture (k : BreakClass) : Bool := k = .ideographic || k = .emojiBase || k = .emojiModifier

def isClosing (k : BreakClass) : Bool := k = .closing || k = .closingParenthesis

def isAffix (k : BreakClass) : Bool := k = .prefixNumeric || k = .postfixNumeric

/-- A syllable of Hangul, or a part of one. -/
def isHangul (k : BreakClass) : Bool :=
  k = .leadingJamo || k = .vowelJamo || k = .trailingJamo || k = .hangulPair || k = .hangulTriple

/-- No line begins with the class, not even behind blanks. -/
def neverFirst (k : BreakClass) : Bool :=
  k = .wordJoiner || k.isClosing || k = .exclamation || k = .infixNumeric || k = .slash

/-- The class holds on to a class that stands directly behind it. -/
def holds (base next : BreakClass) : Bool :=
  match base with
  | .breakBefore => true
  | .alphabetic => next.isLetter || next = .numeric || next.isAffix || next = .opening
  | .hebrewLetter => next.isLetter || next = .numeric || next.isAffix || next = .opening
  | .numeric => next = .numeric || next.isLetter || next.isAffix || next = .opening
  | .prefixNumeric => next.isLetter || next = .numeric || next = .opening || next.isPicture || next.isHangul
  | .postfixNumeric => next.isLetter || next = .numeric || next = .opening
  | .closing => next.isAffix
  | .closingParenthesis => next.isAffix || next.isLetter || next = .numeric
  | .hyphen => next = .numeric
  | .infixNumeric => next = .numeric || next.isLetter
  | .slash => next = .numeric || next = .hebrewLetter
  | .ideographic => next = .postfixNumeric
  | .emojiBase => next = .postfixNumeric || next = .emojiModifier
  | .emojiModifier => next = .postfixNumeric
  | .leadingJamo =>
    next = .leadingJamo || next = .vowelJamo || next = .hangulPair || next = .hangulTriple || next = .postfixNumeric
  | .hangulPair => next = .vowelJamo || next = .trailingJamo || next = .postfixNumeric
  | .vowelJamo => next = .vowelJamo || next = .trailingJamo || next = .postfixNumeric
  | .hangulTriple => next = .trailingJamo || next = .postfixNumeric
  | .trailingJamo => next = .trailingJamo || next = .postfixNumeric
  | _ => false

/-- The class holds on to a class behind it even over blanks. -/
def holdsOverBlanks (base next : BreakClass) : Bool :=
  base = .opening || (base = .quotation && next = .opening) || (base.isClosing && next = .nonstarter) ||
    (base = .breakBoth && next = .breakBoth)

/-- The class holds on to any class directly behind it. -/
def clingsToNext (base : BreakClass) : Bool := base = .wordJoiner || base = .glue || base = .quotation

/-- The class holds on to almost any class directly before it. -/
def clingsToBase (next : BreakClass) : Bool :=
  next = .quotation || next = .breakAfter || next = .hyphen || next = .nonstarter || next = .inseparable

end BreakClass

namespace BreakContext

variable (ctx : BreakContext)

/-- The next character, of the class `next`, belongs to the one before it and leaves the base as it is. -/
def absorbs (next : BreakClass) : Bool :=
  (next = .combining || next = .zeroWidthJoiner) && !ctx.spaced &&
    ctx.base.any fun base => base ≠ .newline && base ≠ .zeroWidthSpace

/-- The line may be broken before the next character, of the class `next`, which the base does not absorb. -/
def breaksBefore (next : BreakClass) : Bool :=
  match ctx.base with
  | none => ctx.spaced && !(next = .newline || next = .space || next = .zeroWidthSpace || next.neverFirst)
  | some base =>
    if base = .newline && !ctx.spaced then true
    else if next = .newline || next = .space || next = .zeroWidthSpace then false
    else if base = .zeroWidthSpace then true
    else if ctx.joining || next.neverFirst then false
    else if base.holdsOverBlanks next then false
    else if ctx.spaced then true
    else if next = .glue && base ≠ .breakAfter && base ≠ .hyphen then false
    else if base.clingsToNext || next = .quotation then false
    else if next = .contingent || base = .contingent then true
    else if next.clingsToBase || ctx.afterHebrew then false
    else if base = .regionalIndicator && next = .regionalIndicator then !ctx.oddIndicator
    else !base.holds next

/-- The context behind the next character, of the class `next`. -/
def push (next : BreakClass) : BreakContext :=
  if ctx.absorbs next then { ctx with joining := next = .zeroWidthJoiner }
  else if next = .space then { ctx with spaced := true, joining := false }
  else
    { base := some (if next = .combining || next = .zeroWidthJoiner then .alphabetic else next)
      joining := next = .zeroWidthJoiner
      afterHebrew := (next = .hyphen || next = .breakAfter) && ctx.base = some .hebrewLetter && !ctx.spaced
      oddIndicator := next = .regionalIndicator &&
        !(ctx.base = some .regionalIndicator && ctx.oddIndicator && !ctx.spaced) }

/-- The line may be broken before a character. Combining characters without a base count as alphabetic. -/
def breaksBeforeChar (c : Char) : Bool :=
  let next := BreakClass.ofChar c
  if ctx.absorbs next then false
  else ctx.breaksBefore (if next = .combining || next = .zeroWidthJoiner then .alphabetic else next)

end BreakContext

/-- The line may not be broken for its last character alone: the hyphen is left to what the words are made of, and the
soft hyphen is not shown when a line ends with it. -/
def isBreakingHyphen (c : Char) : Bool := c = '-' || c = '\u00ad'

/-- The pieces of a text between the places where its lines may be broken, in a context and behind the character
`before`. -/
def piecesBehind (ctx : BreakContext) (before : Char) : List Char → List (List Char)
  | [] => [[]]
  | c :: rest =>
    match piecesBehind (ctx.push (BreakClass.ofChar c)) c rest with
    | [] => [[c]]
    | piece :: pieces =>
      if ctx.breaksBeforeChar c && !isBreakingHyphen before then [] :: (c :: piece) :: pieces
      else (c :: piece) :: pieces

/-- The pieces of a text between the places where its lines may be broken. If the text ends with a hyphen, its last two
pieces are one. -/
def breakPieces (text : List Char) : List (List Char) :=
  let pieces := piecesBehind {} ' ' text
  match text.getLast?, pieces.reverse with
  | some c, last :: piece :: before =>
    if isBreakingHyphen c then ((piece ++ last) :: before).reverse else pieces
  | _, _ => pieces

end FormulaDiagram.Text
