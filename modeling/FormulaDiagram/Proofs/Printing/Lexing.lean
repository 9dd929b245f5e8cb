import FormulaDiagram.Proofs.Lexing.Iteration
import FormulaDiagram.Proofs.Printing.Basic

/-!
The text of a formula is cut into its lexemes. The lexer goes through a text from left to right, so what it does
with a beginning of the text is put together from what it does with the parts. A sign is cut off whatever follows
it, except that some characters join with what follows; a name is cut off if no further identifier character
follows.
-/

namespace FormulaDiagram

namespace Lexer

/-- No identifier character stands at the beginning of the text. -/
def EndsName (text : List Char) : Prop := ∀ c ∈ text.head?, Text.isIdentifier c = false

theorem takeWhile_of_endsName {text : List Char} (h : EndsName text) :
    text.takeWhile Text.isIdentifier = [] := by
  cases text with
  | nil => rfl
  | cons c text => rw [List.takeWhile_cons, h c rfl]; rfl

theorem endsName_nil : EndsName [] := fun c hc => by cases hc

theorem endsName_cons {c : Char} {text : List Char} (h : Text.isIdentifier c = false) : EndsName (c :: text) :=
  fun d hd => by cases hd; exact h

/-- Lexemes are cut off the beginning of a text: behind them may stand whatever tiles the rest. -/
def Cuts (text : List Char) (lexemes : List Lexeme) (rest : List Char) : Prop :=
  ∀ offset, ∃ (offset' : Nat) (tokens : List Token), tokens.map Token.lexeme = lexemes ∧
    ∀ later failure, Tiles offset' rest later failure → Tiles offset text (tokens ++ later) failure

/-- The character is the usual spelling of the kind, and neither white space nor part of a name. -/
def Spells (c : Char) (kind : TokenKind) : Prop :=
  Text.isWhiteSpace c = false ∧ Text.isIdentifier c = false ∧ TokenKind.ofChar? c = some kind ∧
    kind.sign = (kind, String.ofList [c])

instance (c : Char) (kind : TokenKind) : Decidable (Spells c kind) := inferInstanceAs (Decidable (_ ∧ _ ∧ _ ∧ _))

namespace Cuts

variable {text middle rest : List Char} {lexemes lexemes' : List Lexeme}

theorem refl (text : List Char) : Cuts text [] text := fun offset => ⟨offset, [], rfl, fun _ _ h => h⟩

theorem trans (h : Cuts text lexemes middle) (h' : Cuts middle lexemes' rest) :
    Cuts text (lexemes ++ lexemes') rest := by
  intro offset
  obtain ⟨offset₁, tokens, ht, htiles⟩ := h offset
  obtain ⟨offset₂, tokens', ht', htiles'⟩ := h' offset₁
  refine ⟨offset₂, tokens ++ tokens', ?_, fun later failure hlater => ?_⟩
  · rw [List.map_append, ht, ht']
  · rw [List.append_assoc]
    exact htiles _ _ (htiles' _ _ hlater)

theorem cons {lexeme : Lexeme} (h : Cuts text [lexeme] middle) (h' : Cuts middle lexemes rest) :
    Cuts text (lexeme :: lexemes) rest :=
  h.trans h'

/-- White space is passed over. -/
theorem space (h : Cuts text lexemes rest) : Cuts (' ' :: text) lexemes rest := by
  intro offset
  obtain ⟨offset', tokens, ht, htiles⟩ := h (offset + ' '.utf8Size)
  exact ⟨offset', tokens, ht, fun later failure hlater => (htiles later failure hlater).space (by decide)⟩

/-- The token that begins a text is cut off. -/
theorem token {c : Char} {kind : TokenKind} {further : Nat} (hl : lexeme? c text = some (kind, further)) :
    Cuts (c :: text) [(kind, String.ofList (c :: text.take further))] (text.drop further) := by
  intro offset
  let spelling := c :: text.take further
  exact ⟨offset + Text.utf8Length spelling, [⟨kind, String.ofList spelling, spanAt offset spelling⟩], rfl,
    fun later failure hlater => .of_lexeme? hl hlater⟩

/-- A sign is cut off unless it is the beginning of a longer one. -/
theorem sign {c : Char} {kind : TokenKind} (hs : TokenKind.ofChars? (c :: text) = none) (hc : Spells c kind) :
    Cuts (c :: text) [kind.sign] text := by
  obtain ⟨-, hi, hk, hsign⟩ := hc
  have hl : lexeme? c text = some (kind, 0) := by
    rw [lexeme?, hs, hk, hi]
    rfl
  rw [hsign]
  exact token hl

/-- A text of which nothing is left consists of tokens. -/
theorem tokenize (h : Cuts text lexemes []) :
    ∃ tokens, FormulaDiagram.tokenize (String.ofList text) = .ok tokens ∧ tokens.map Token.lexeme = lexemes := by
  obtain ⟨offset, tokens, ht, htiles⟩ := h 0
  have hnil := htiles [] none (.finished blank_nil)
  rw [List.append_nil, ← String.toList_ofList (l := text)] at hnil
  exact ⟨tokens, tokenize_eq_ok_iff.2 hnil, ht⟩

end Cuts

/-- A name is cut off in front of what ends it. -/
theorem cuts_name {name : String} (hn : Text.IsName name) {rest : List Char} (hr : EndsName rest) :
    Cuts (name.toList ++ rest) [(.identifier, name)] rest := by
  obtain ⟨hne, hall⟩ := hn
  cases hcs : name.toList with
  | nil => exact absurd hcs hne
  | cons c cs =>
      rw [hcs] at hall
      have hc := hall c List.mem_cons_self
      have htake : (cs ++ rest).takeWhile Text.isIdentifier = cs := by
        rw [List.takeWhile_append_of_pos fun d hd => hall d (List.mem_cons_of_mem c hd), takeWhile_of_endsName hr,
          List.append_nil]
      have hl : lexeme? c (cs ++ rest) = some (.identifier, cs.length) := by
        rw [lexeme?, TokenKind.ofChars?_eq_none _ hc, htake]
        exact if_pos hc
      have h := Cuts.token hl
      rw [List.take_left, List.drop_left, ← hcs, String.ofList_toList] at h
      exact h

end Lexer

open Lexer (Cuts EndsName endsName_cons cuts_name)

namespace Lexer

variable {rest text : List Char} {lexemes : List Lexeme}

theorem cuts_enclosed (h : Cuts text lexemes (')' :: rest)) :
    Cuts ('(' :: text) (TokenKind.opening.sign :: lexemes ++ [TokenKind.closing.sign]) rest := by
  have hopen : Cuts ('(' :: text) [TokenKind.opening.sign] text := .sign rfl (by decide)
  have hclose : Cuts (')' :: rest) [TokenKind.closing.sign] rest := .sign rfl (by decide)
  exact hopen.cons (h.trans hclose)

/-- The sign of equality joins with what follows only if that is `>`. -/
theorem cuts_relation (negated : Bool) : Cuts ((if negated then '≠' else '=') :: ' ' :: rest)
    [(if negated then TokenKind.notEquals else .equals).sign] (' ' :: rest) := by
  cases negated <;> exact .sign rfl (by decide +kernel)

theorem cuts_connective (connective : Connective) :
    Cuts (connective.glyph.toList ++ rest) [connective.tokenKind.sign] rest := by
  cases connective <;> exact .sign rfl (by decide +kernel)

theorem cuts_quantifier (quantifier : Quantifier) :
    Cuts (quantifier.glyph.toList ++ rest) [quantifier.tokenKind.sign] rest := by
  cases quantifier <;> exact .sign rfl (by decide +kernel)

end Lexer

namespace Term

mutual

theorem cuts (t : Term) (hn : ∀ name ∈ t.names, Text.IsName name) {rest : List Char} (hr : EndsName rest) :
    Cuts (t.writeOnto rest) t.lexemes rest := by
  cases t with
  | «variable» name => exact cuts_name (hn name List.mem_cons_self) hr
  | function name arguments =>
      obtain ⟨hname, hall⟩ := List.forall_mem_cons.1 hn
      have hc : Cuts _ (lexemesAll arguments) (')' :: rest) := cuts_all arguments hall (endsName_cons (by decide))
      exact (cuts_name hname (endsName_cons (by decide))).cons (Lexer.cuts_enclosed hc)

theorem cuts_all (ts : List Term) (hn : ∀ name ∈ namesAll ts, Text.IsName name) {rest : List Char}
    (hr : EndsName rest) : Cuts (writeAll ts rest) (lexemesAll ts) rest := by
  cases ts with
  | nil => exact .refl rest
  | cons t ts =>
      obtain ⟨ht, hts⟩ := List.forall_mem_append.1 hn
      obtain ⟨hmore, hcuts⟩ := cuts_more ts hts hr
      exact (cuts t ht hmore).trans hcuts

/-- The comma between terms ends a name. -/
theorem cuts_more (ts : List Term) (hn : ∀ name ∈ namesAll ts, Text.IsName name) {rest : List Char}
    (hr : EndsName rest) : EndsName (writeMore ts rest) ∧ Cuts (writeMore ts rest) (lexemesMore ts) rest := by
  cases ts with
  | nil => exact ⟨hr, .refl rest⟩
  | cons t ts =>
      obtain ⟨ht, hts⟩ := List.forall_mem_append.1 hn
      obtain ⟨hmore, hcuts⟩ := cuts_more ts hts hr
      have hcomma : Cuts (',' :: ' ' :: t.writeOnto (writeMore ts rest)) [TokenKind.comma.sign] _ :=
        .sign rfl (by decide)
      exact ⟨endsName_cons (by decide), hcomma.cons (Cuts.space ((cuts t ht hmore).trans hcuts))⟩

end

end Term

theorem Atom.cuts {a : Atom} (hn : ∀ name ∈ a.names, Text.IsName name) {rest : List Char} (hr : EndsName rest) :
    Cuts (a.writeOnto rest) a.lexemes rest := by
  cases a with
  | proposition name => exact (Term.variable name (.point 0)).cuts hn hr
  | predicate name arguments => exact (Term.function name arguments (.point 0)).cuts hn hr
  | equality left right negated =>
      obtain ⟨hnl, hnr⟩ := List.forall_mem_append.1 hn
      have hl : Cuts _ left.lexemes (' ' :: (if negated then '≠' else '=') :: ' ' :: right.writeOnto rest) :=
        left.cuts hnl (endsName_cons (by decide))
      exact hl.trans (Cuts.space ((Lexer.cuts_relation negated).cons (Cuts.space (right.cuts hnr hr))))

namespace Formula

/-- What is written in parentheses or without is cut if it is cut without, in front of what comes behind it. -/
theorem cuts_written {enclosed : Bool} (write : List Char → List Char) {lexemes : List Lexeme} {rest : List Char}
    (hr : EndsName rest) (h : ∀ rest, EndsName rest → Cuts (write rest) lexemes rest) :
    Cuts (writeOpening enclosed (write (writeClosing enclosed rest))) (encloseLexemes enclosed lexemes) rest := by
  cases enclosed with
  | false => exact h rest hr
  | true => exact Lexer.cuts_enclosed (h (')' :: rest) (endsName_cons (by decide)))

/-- The text of a formula is cut into its lexemes. -/
theorem cuts {f : Formula} (hn : ∀ name ∈ f.names, Text.IsName name) (enclosed : Bool) {rest : List Char}
    (hr : EndsName rest) : Cuts (f.writeOnto enclosed rest) (f.lexemes enclosed) rest := by
  induction f generalizing enclosed rest with
  | atom facts a => exact cuts_written a.writeOnto hr fun rest hr => Atom.cuts hn hr
  | negation facts operand ih =>
      apply cuts_written (fun rest => '¬' :: operand.writeOnto operand.isCompound rest) hr
      intro rest hr
      have hnot : Cuts ('¬' :: operand.writeOnto operand.isCompound rest) [TokenKind.not.sign] _ :=
        .sign rfl (by decide)
      exact hnot.cons (ih hn _ hr)
  | binary facts connective left right ihl ihr =>
      obtain ⟨hnl, hnr⟩ := List.forall_mem_append.1 hn
      apply cuts_written (fun rest => left.writeOnto (enclosesLeft connective left)
        (' ' :: connective.glyph.toList ++ ' ' :: right.writeOnto right.isCompound rest)) hr
      intro rest hr
      have hl : Cuts _ (left.lexemes (enclosesLeft connective left))
          (' ' :: connective.glyph.toList ++ ' ' :: right.writeOnto right.isCompound rest) :=
        ihl hnl _ (endsName_cons (by decide))
      have hright := ihr hnr right.isCompound hr
      exact hl.trans (Cuts.space ((Lexer.cuts_connective connective).cons (Cuts.space hright)))
  | quantified facts quantifier bound body ih =>
      obtain ⟨hname, hbody⟩ := List.forall_mem_cons.1 hn
      apply cuts_written (fun rest => quantifier.glyph.toList ++ bound.name.toList ++
        '.' :: body.writeOnto false rest) hr
      intro rest hr
      have hbound : Cuts _ [(.identifier, bound.name)] ('.' :: body.writeOnto false rest) :=
        cuts_name hname (endsName_cons (by decide))
      have hdot : Cuts ('.' :: body.writeOnto false rest) [TokenKind.dot.sign] _ := .sign rfl (by decide)
      rw [List.append_assoc]
      exact (Lexer.cuts_quantifier quantifier).cons (hbound.cons (hdot.cons (ih hbody false hr)))

/-- The text of a formula consists of tokens, which are its lexemes. -/
theorem tokenize_text {f : Formula} (hn : ∀ name ∈ f.names, Text.IsName name) :
    ∃ tokens, tokenize f.text = .ok tokens ∧ tokens.map Token.lexeme = f.lexemes false := by
  rw [text_eq]
  exact (cuts hn false Lexer.endsName_nil).tokenize

end Formula

end FormulaDiagram
