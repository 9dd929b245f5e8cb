import FormulaDiagram.Text.Character
import FormulaDiagram.Token

/-!
The lexer. It cuts a text into tokens by longest match: white space is passed over, and at every other place
the longest spelling of a token is taken, which is an operator of several characters, a run of identifier
characters or a single sign. Where no token begins it stops with an error. It works on demand: each call of `next`
yields one token or the error, and the offsets come from how much of the source is left.
-/

namespace FormulaDiagram

/-- A character that no token begins with. -/
structure LexError where
  offset : Nat
  found : Char
deriving DecidableEq

namespace LexError

def span (e : LexError) : Span := ⟨e.offset, e.offset + e.found.utf8Size, Nat.le_add_right _ _⟩

def summary (e : LexError) : String := "unexpected character `" ++ e.found.toString ++ "`"

def message (e : LexError) : String := e.summary ++ " at offset " ++ toString e.offset

def diagnostic (e : LexError) : Diagnostic where
  severity := .error
  topic := some .unexpectedCharacter
  message := e.summary
  labels := [⟨true, e.span, Topic.unexpectedCharacter.description⟩]
  help := some "operators are ¬ ∧ ∨ → ↔ ∀ ∃ = ≠ or their ASCII forms ~ & | -> <-> ! ? = ~="

end LexError

/-- The lexer while it goes through a source: what of it is still to be read, and whether it has come to the end
or has failed. -/
structure Lexer where
  source : String
  input : List Char
  done : Bool

namespace Lexer

/-- The lexer at the beginning of a source. -/
def new (source : String) : Lexer := ⟨source, source.toList, false⟩

/-- The byte offset of the next character that is still to be read. -/
def offset (l : Lexer) : Nat := l.source.utf8ByteSize - Text.utf8Length l.input

/-- The token that begins with the character `c` before `rest`: its kind and how many characters follow `c`. -/
def lexeme? (c : Char) (rest : List Char) : Option (TokenKind × Nat) :=
  match TokenKind.ofChars? (c :: rest) with
  | some lexeme => some lexeme
  | none =>
    if Text.isIdentifier c then some (.identifier, (rest.takeWhile Text.isIdentifier).length)
    else (TokenKind.ofChar? c).map (·, 0)

def passSpace (l : Lexer) : Lexer := { l with input := l.input.dropWhile Text.isWhiteSpace }

def finish (l : Lexer) : Lexer := { l with done := true }

/-- The token of a kind that stands between what was still to be read before and what is now. -/
def tokenBetween (kind : TokenKind) (before now : Lexer) : Token :=
  let span := Span.between before.offset now.offset
  ⟨kind, (span.slice? now.source).getD "", span⟩

/-- What the lexer yields next, and the lexer behind it: a token, the error at a character that begins none, or
nothing. After the error and after the end it yields nothing any more. -/
def next (l : Lexer) : Option (Except LexError Token) × Lexer :=
  if l.done then (none, l)
  else
    let l := l.passSpace
    match l.input with
    | [] => (none, l.finish)
    | c :: rest =>
      match lexeme? c rest with
      | none => (some (.error ⟨l.offset, c⟩), l.finish)
      | some (kind, further) =>
        let behind := { l with input := rest.drop further }
        (some (.ok (tokenBetween kind l behind)), behind)

/-- How often the lexer may yield something, at most. -/
def remaining (l : Lexer) : Nat := if l.done then 0 else l.input.length + 1

theorem remaining_next {l behind : Lexer} {item : Except LexError Token} (h : l.next = (some item, behind)) :
    behind.remaining < l.remaining := by
  rw [next] at h
  split at h
  · cases h
  · rename_i hd
    have hle : l.passSpace.input.length ≤ l.input.length := (List.dropWhile_sublist _).length_le
    have hr : l.remaining = l.input.length + 1 := if_neg hd
    dsimp only at h
    split at h
    · cases h
    · rename_i c rest hin
      rw [hin, List.length_cons] at hle
      split at h
      · cases h
        rw [hr]
        exact Nat.succ_pos _
      · rename_i kind further _
        cases h
        have hb : remaining { l.passSpace with input := rest.drop further } = (rest.drop further).length + 1 :=
          if_neg hd
        rw [hr, hb, List.length_drop]
        omega

/-- All that the lexer yields until it yields nothing. -/
def items (l : Lexer) : List (Except LexError Token) :=
  match _ : l.next with
  | (none, _) => []
  | (some item, behind) => item :: behind.items
termination_by l.remaining
decreasing_by exact remaining_next ‹_›

def error? : Except LexError Token → Option LexError
  | .error e => some e
  | .ok _ => none

/-- The tokens until the lexer yields nothing, or the error if it yields one. -/
def collect (l : Lexer) : Except LexError (List Token) :=
  match _ : l.next with
  | (none, _) => .ok []
  | (some (.error e), _) => .error e
  | (some (.ok t), behind) => do return t :: (← behind.collect)
termination_by l.remaining
decreasing_by exact remaining_next ‹_›

end Lexer

/-- What a text was cut into: the tokens, and the error if one was met. -/
structure Lexing where
  tokens : List Token
  failure : Option LexError
deriving DecidableEq

/-- What the lexer yields for a text, tokens and error apart. -/
def lex (source : String) : Lexing :=
  let items := (Lexer.new source).items
  ⟨items.filterMap Except.toOption, items.findSome? Lexer.error?⟩

/-- The tokens of a text that consists of tokens and white space only. -/
def tokenize (source : String) : Except LexError (List Token) := (Lexer.new source).collect

end FormulaDiagram
