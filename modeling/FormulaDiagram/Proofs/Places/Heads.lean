import FormulaDiagram.Proofs.Places.Nesting

/-!
What a warning about a vacuous quantifier points at. Its label goes from where the node begins to the end of the bound
variable. That is the head of the quantifier, its sign and its variable, if the node has no brackets around it. Brackets
belong to the node that they enclose, though, so where there are some, the label has those that are opened in front of
the sign as well.
-/

namespace FormulaDiagram

/-- The text is a head of the quantifier: one of its signs, maybe white space, and the name of the variable. -/
def Quantifier.IsHead (q : Quantifier) (name text : String) : Prop :=
  ∃ sign ∈ q.tokenKind.signs, ∃ space, Lexer.Blank space ∧ text.toList = sign.toList ++ space ++ name.toList

namespace Formula

/-- The quantifier at the root and the variable that it binds. -/
def head? : Formula → Option (Quantifier × BoundVariable)
  | .quantified _ quantifier bound _ => some (quantifier, bound)
  | _ => none

/-- The place of the node begins with a bracket. -/
def InBrackets (source : String) (f : Formula) : Prop :=
  ∃ c rest, f.span.slice? source = some (String.ofList (c :: rest)) ∧ TokenKind.ofChar? c = some .opening

/-- The part of the source at the range is the head of the quantifier at the node. If the place of the node begins with
a bracket, there are brackets and maybe white space in front of it. -/
def HeadAt (source : String) (f : Formula) (q : Quantifier) (bound : BoundVariable) (s : Span) : Prop :=
  ∃ brackets head, s.slice? source = some (brackets ++ head) ∧ q.IsHead bound.name head ∧
    (∀ c ∈ brackets.toList, Text.isWhiteSpace c ∨ TokenKind.ofChar? c = some .opening) ∧
    (brackets = "" ↔ ¬f.InBrackets source)

theorem head?_withSpan (f : Formula) (s : Span) : (f.withSpan s).head? = f.head? := by
  cases f <;> rfl

end Formula

/-! ### The tokens of a quantifier -/

namespace Grammar

/-- The quantifier of the phrase and its variable, if it is a quantifier. -/
def Phrase.head? : Phrase → Option (Quantifier × BoundVariable)
  | .formula f => f.head?
  | _ => none

/-- The sign and the variable of a quantifier stand behind brackets, of which there may be none. -/
theorem Spells.exists_head {ends : Category → List Token → List Token → Prop} {category : Category}
    {tokens rest : List Token} {p : Phrase} {n : Nat} (h : Spells ends category tokens rest p n) {q : Quantifier}
    {bound : BoundVariable} (hp : p.head? = some (q, bound)) :
    ∃ brackets sign name behind, tokens = brackets ++ sign :: name :: behind ∧ sign.kind = q.tokenKind ∧
      name.text = bound.name ∧ name.span = bound.span ∧ ∀ t ∈ brackets, t.kind = .opening := by
  induction h with
  | operand _ ih => exact ih hp
  | whole _ _ ih => exact ih hp
  | @quantified t name dot ts rest f n q' ht hn hd _ ih =>
      cases hp
      exact ⟨[], t, name, dot :: ts, rfl, ht, rfl, rfl, List.forall_mem_nil _⟩
  | @parenthesised t ts close rest f n ht _ hc ih =>
      rw [Phrase.head?, Formula.head?_withSpan] at hp
      obtain ⟨brackets, sign, name, behind, rfl, hsign, htext, hspan, hall⟩ := ih hp
      refine ⟨t :: brackets, sign, name, behind ++ [close], ?_, hsign, htext, hspan, List.forall_mem_cons.2 ⟨ht, hall⟩⟩
      simp
  | _ => cases hp

end Grammar

/-! ### The text at the head -/

/-- Brackets and quantifiers are spelled by one character. -/
theorem TokenKind.IsSpelling.exists_char {kind : TokenKind} {text : String} (h : kind.IsSpelling text)
    (hk : kind = .opening ∨ ∃ q : Quantifier, kind = q.tokenKind) :
    text ∈ kind.signs ∧ ∃ c, text.toList = [c] ∧ ofChar? c = some kind := by
  have hsigns : text ∈ kind.signs := by
    rcases h with h | ⟨rfl, -⟩
    · exact h
    · rcases hk with hk | ⟨q, hk⟩
      · cases hk
      · cases q <;> cases hk
  refine ⟨hsigns, ?_⟩
  rcases mem_signs_iff.1 hsigns with hc | hcompound
  · exact hc
  · have hnone : ∀ p ∈ compounds, p.1 ≠ .opening ∧ p.1 ≠ .forAll ∧ p.1 ≠ .forSome := by decide
    obtain ⟨ho, ha, hs⟩ := hnone _ hcompound
    rcases hk with hk | ⟨q, hk⟩
    · exact absurd hk ho
    · cases q
      · exact absurd hk ha
      · exact absurd hk hs

namespace Lexer

variable {offset : Nat} {text : List Char} {tokens : List Token} {t : Token} {failure : Option LexError}

theorem eq_nil_of_utf8Length {cs : List Char} (h : Text.utf8Length cs = 0) : cs = [] := by
  by_contra hne
  exact absurd h (Nat.ne_of_gt (Text.utf8Length_pos hne))

/-- A token that begins where the text does is spelled at the head of the text. -/
theorem Tiles.exists_spelling (h : Tiles offset text (t :: tokens) failure) (ht : t.span.start = offset) :
    ∃ rest, text = t.text.toList ++ rest ∧ t.kind.IsSpelling t.text ∧
      t.span.stop = offset + Text.utf8Length t.text.toList ∧ Tiles t.span.stop rest tokens failure := by
  cases h with
  | @token _ space rest _ _ kind spelling _ hl h =>
      have hzero : offset + Text.utf8Length space = offset := ht
      obtain rfl := eq_nil_of_utf8Length (Nat.add_eq_left.1 hzero)
      exact ⟨rest, rfl, hl.isSpelling, rfl, h⟩

/-- Where all tokens open brackets, the text is brackets and white space. -/
theorem Tiles.forall_opening (h : Tiles offset text tokens none) (ht : ∀ t ∈ tokens, t.kind = .opening) :
    ∀ c ∈ text, Text.isWhiteSpace c ∨ TokenKind.ofChar? c = some .opening := by
  induction tokens generalizing offset text with
  | nil =>
      cases h with
      | finished hs => exact fun c hc => .inl (hs c hc)
  | cons t tokens ih =>
      cases h with
      | @token _ space rest _ _ kind spelling hs hl h =>
          obtain ⟨hkind, hrest⟩ := List.forall_mem_cons.1 ht
          cases hkind
          obtain ⟨-, b, hb, hopening⟩ := hl.isSpelling.exists_char (.inl rfl)
          rw [hb]
          refine List.forall_mem_append.2 ⟨List.forall_mem_append.2 ⟨fun c hc => .inl (hs c hc), ?_⟩, ih h hrest⟩
          exact List.forall_mem_singleton.2 (.inr hopening)

/-- A text that goes from the sign of a quantifier to the end of a name is a head of the quantifier. -/
theorem Tiles.isHead {sign name : Token} {q : Quantifier} (h : Tiles sign.span.start text [sign, name] none)
    (hlength : sign.span.start + Text.utf8Length text = name.span.stop) (hsign : sign.kind = q.tokenKind) :
    q.IsHead name.text (String.ofList text) := by
  obtain ⟨rest, rfl, hspelling, hstop, hrest⟩ := h.exists_spelling rfl
  have hmem := (hspelling.exists_char (.inr ⟨q, hsign⟩)).1
  rw [hsign] at hmem
  cases hrest with
  | @token _ space tail _ _ kind spelling hs _ htail =>
      have hend : sign.span.stop + Text.utf8Length space + Text.utf8Length spelling.toList =
          sign.span.start + Text.utf8Length (sign.text.toList ++ (space ++ spelling.toList ++ tail)) := hlength.symm
      have hzero : Text.utf8Length tail = 0 := by
        simp only [Text.utf8Length_append] at hend
        omega
      obtain rfl := eq_nil_of_utf8Length hzero
      refine ⟨sign.text, hmem, space, hs, ?_⟩
      rw [String.toList_ofList, List.append_nil, List.append_assoc]

end Lexer

/-! ### The head of a node -/

/-- The part of a source where tokens stand may be cut in front of each of them. -/
theorem Stretch.exists_cut {source : String} {ts us : List Token} {t : Token} {s : Span}
    (h : Stretch source (ts ++ t :: us)) (hs : s.Covers (ts ++ t :: us)) :
    ∃ front back, s.slice? source = some (String.ofList (front ++ back)) ∧
      s.start + Text.utf8Length front = t.span.start ∧ t.span.start + Text.utf8Length back = s.stop ∧
      Lexer.Tiles s.start front ts none ∧ Lexer.Tiles t.span.start back (t :: us) none := by
  obtain ⟨all, hall, before, after, rfl⟩ := h
  obtain ⟨skipped, part, rest, hsource, hskipped, hlength, -, htiles, -⟩ := Lexer.exists_parts hall hs
  obtain ⟨front, back, rfl, hstart, hfront, hback⟩ := htiles.behind
  refine ⟨front, back, ?_, hstart, ?_, hfront, hback⟩
  · refine Span.slice?_eq_some_iff.2 ⟨skipped, rest, ?_, hskipped, ?_⟩
    · rw [String.toList_ofList, hsource]
    · rw [String.toList_ofList, hlength]
  · have hle := s.start_le_stop
    rw [Text.utf8Length_append, Span.length] at hlength
    omega

namespace Formula

variable {source : String} {g : Formula} {q : Quantifier} {bound : BoundVariable}

/-- Whether the place of a node begins with a bracket is seen from its first token. -/
theorem inBrackets_iff {tokens : List Token} {t : Token} (h : Stretch source (t :: tokens))
    (hs : g.span.Covers (t :: tokens)) (ht : t.kind = .opening ∨ ∃ q : Quantifier, t.kind = q.tokenKind) :
    g.InBrackets source ↔ t.kind = .opening := by
  obtain ⟨first, ts, hfirst, hstart⟩ := hs.first
  obtain ⟨rfl, rfl⟩ := List.cons.inj hfirst
  have hin : Stretch source ([] ++ t :: tokens) := h
  obtain ⟨front, back, hslice, hlength, -, -, hback⟩ := hin.exists_cut hs
  obtain rfl := Lexer.eq_nil_of_utf8Length (Nat.add_eq_left.1 (hlength.trans hstart))
  obtain ⟨behind, rfl, hspelling, -⟩ := hback.exists_spelling rfl
  obtain ⟨-, c, hc, hkind⟩ := hspelling.exists_char ht
  rw [hc, List.nil_append, List.singleton_append] at hslice
  constructor
  · rintro ⟨c', rest', hslice', hopening⟩
    rw [hslice, Option.some.injEq, String.ofList_inj] at hslice'
    obtain ⟨rfl, -⟩ := List.cons.inj hslice'
    exact Option.some.inj (hkind.symm.trans hopening)
  · intro ho
    exact ⟨c, behind, hslice, ho ▸ hkind⟩

/-- The sign of a quantifier is the first of its tokens if no bracket is, and stands further to the right otherwise. -/
theorem inBrackets_iff_lt {brackets behind : List Token} {sign : Token}
    (h : Stretch source (brackets ++ sign :: behind)) (hs : g.span.Covers (brackets ++ sign :: behind))
    (hsign : sign.kind = q.tokenKind) (hopening : ∀ t ∈ brackets, t.kind = .opening) :
    g.InBrackets source ↔ g.span.start < sign.span.start := by
  obtain ⟨first, ts, hfirst, hstart⟩ := hs.first
  cases brackets with
  | nil =>
      obtain ⟨rfl, -⟩ := List.cons.inj hfirst
      have hkind : sign.kind ≠ .opening := by
        rw [hsign]
        cases q <;> decide
      have hnot : ¬g.InBrackets source := fun hin => hkind ((inBrackets_iff h hs (.inr ⟨q, hsign⟩)).1 hin)
      exact iff_of_false hnot (Nat.not_lt.2 (Nat.le_of_eq hstart))
  | cons t brackets =>
      obtain ⟨rfl, -⟩ := List.cons.inj hfirst
      have ht := hopening t List.mem_cons_self
      have hlt := (h.slice?_token (t := t) (by simp)).2
      have hle := (List.pairwise_cons.1 h.ordered).1 sign (by simp)
      exact iff_of_true ((inBrackets_iff h hs (.inl ht)).2 ht) (by omega)

/-- Where tokens of a source spell a quantifier, its head stands between where the node begins and where the variable
ends. -/
theorem headAt_of_spells {category : Grammar.Category} {ends : Grammar.Category → List Token → List Token → Prop}
    {tokens rest : List Token} {n : Nat} (hs : Grammar.Spells ends category tokens rest (.formula g) n)
    (h : Stretch source tokens) (hg : g.head? = some (q, bound)) :
    g.HeadAt source q bound (.between g.span.start bound.span.stop) := by
  have hcovers : g.span.Covers tokens := hs.covered h.ordered
  obtain ⟨brackets, sign, name, behind, rfl, hsign, htext, hspan, hopening⟩ := hs.exists_head hg
  have hlt := inBrackets_iff_lt h hcovers hsign hopening
  rw [List.append_cons] at hcovers h
  have hlabel := hcovers.upTo h.ordered
  have hin : Stretch source (brackets ++ [sign] ++ [name]) := h.mono ⟨[], behind, by simp⟩
  rw [hspan, List.append_assoc] at hlabel
  rw [List.append_assoc] at hin
  obtain ⟨opened, head, hslice, hstart, hstop, hopened, hhead⟩ := hin.exists_cut hlabel
  have hend : sign.span.start + Text.utf8Length head = name.span.stop := by
    have hwithin := (hcovers.within_token h.ordered (t := name) (by simp)).1
    have hle := Nat.le_trans hwithin name.span.start_le_stop
    rw [hstop, ← hspan]
    exact Nat.max_eq_right hle
  refine ⟨String.ofList opened, String.ofList head, ?_, htext ▸ hhead.isHead hend hsign, ?_, ?_⟩
  · rw [← String.ofList_append, hslice]
  · rw [String.toList_ofList]
    exact hopened.forall_opening hopening
  · rw [hlt, Nat.not_lt, ← hstart]
    constructor
    · intro hempty
      rw [String.ofList_eq_empty_iff.1 hempty]
      exact Nat.le_refl _
    · intro hle
      have hzero : Text.utf8Length opened = 0 := Nat.le_zero.1 (Nat.le_of_add_le_add_left hle)
      rw [Lexer.eq_nil_of_utf8Length hzero]

/-- The warnings about vacuous quantifiers are those of the nodes that are such quantifiers. -/
theorem exists_vacuous {f : Formula} {d : Diagnostic} (hd : d ∈ f.warningsOnto [] [])
    (ht : d.topic = some .vacuousQuantifier) :
    ∃ g ∈ (f.annotate 0 []).preorder, ∃ q bound, g.head? = some (q, bound) ∧ g.BindsNothing ∧
      d = vacuousWarning q bound g.span.start := by
  have hwarnings : f.warningsOnto [] [] = (f.annotate 0 []).occurrences.flatMap Occurrence.warnings :=
    (warningsOnto_eq f [] []).trans (List.append_nil _)
  rw [hwarnings] at hd
  obtain ⟨⟨node, above⟩, ho, hd⟩ := List.mem_flatMap.1 hd
  have hnode : node ∈ (f.annotate 0 []).preorder := by
    rw [← nodes_occurrencesBelow _ []]
    exact List.mem_map_of_mem ho
  refine ⟨node, hnode, ?_⟩
  cases node with
  | quantified facts quantifier bound body =>
      rcases List.mem_append.1 hd with hd | hd
      · split at hd
        · next hvacuous =>
            obtain rfl := List.mem_singleton.1 hd
            exact ⟨quantifier, bound, rfl, hvacuous, rfl⟩
        · cases hd
      · obtain ⟨outer, -, rfl⟩ := List.mem_map.1 hd
        cases ht
  | _ => cases hd

end Formula

/-- Every warning about a vacuous quantifier is about a node that is one. It has one label, the primary one, and the
text under that is the head of the quantifier if the place of the node does not begin with a bracket. Otherwise there
are brackets, and maybe white space, in front of the head. -/
theorem label_of_vacuous {source : String} {a : AnnotatedFormula} (h : parse source = .ok a) :
    ∀ d ∈ a.warnings, d.topic = some .vacuousQuantifier →
      ∃ g ∈ a.formula.preorder, ∃ q bound l, g.head? = some (q, bound) ∧ g.BindsNothing ∧
        d = vacuousWarning q bound g.span.start ∧ d.labels = [l] ∧ l.isPrimary ∧ g.HeadAt source q bound l.span := by
  obtain ⟨tokens, f, ht, hw, rfl⟩ := exists_whole_of_parse h
  obtain ⟨n, -, hs⟩ := Grammar.whole_eq_ok_iff.1 hw
  let headStands (g : Formula) : Prop :=
    ∀ q bound, g.head? = some (q, bound) → g.HeadAt source q bound (.between g.span.start bound.span.stop)
  have hspelled : ∀ g ∈ f.preorder, headStands g := by
    intro g hg q bound hhead
    obtain ⟨within, m, hin, -, hs'⟩ := hs.hasParts g hg
    exact Formula.headAt_of_spells hs' ⟨tokens, ht, hin⟩ hhead
  have hannotate (g : Formula) (depth : Nat) (scope : List BoundVariable) (hg : headStands g) :
      headStands (g.annotate depth scope) := by
    intro q bound hhead
    cases g with
    | quantified => exact hg q bound hhead
    | _ => cases hhead
  have hannotated := Formula.forall_preorder_annotate hannotate hspelled 0 []
  intro d hd htopic
  obtain ⟨g, hg, q, bound, hhead, hvacuous, rfl⟩ := Formula.exists_vacuous hd htopic
  exact ⟨g, hg, q, bound, _, hhead, hvacuous, rfl, rfl, rfl, hannotated g hg q bound hhead⟩

/-- A source with one warning, about a vacuous quantifier, as it is found by evaluation. -/
theorem exists_warning_of_map (source : String) (s : Span)
    (h : (parse source).toOption.map
        (fun a => a.warnings.map fun d => (d.topic, d.labels.map fun l => (l.isPrimary, l.span))) =
      some [(some .vacuousQuantifier, [(true, s)])]) :
    ∃ a d l, parse source = .ok a ∧ d ∈ a.warnings ∧ d.topic = some .vacuousQuantifier ∧ d.labels = [l] ∧
      l.isPrimary ∧ l.span = s := by
  obtain ⟨a, hparse, -, hwarnings⟩ := exists_parse_of_map h
  obtain ⟨d, hd, hlabels⟩ := List.map_eq_singleton_iff.1 hwarnings
  obtain ⟨htopic, hlabels⟩ := Prod.mk.inj hlabels
  obtain ⟨l, hl, hspan⟩ := List.map_eq_singleton_iff.1 hlabels
  obtain ⟨hprimary, hspan⟩ := Prod.mk.inj hspan
  exact ⟨a, d, l, hparse, hd ▸ List.mem_singleton_self d, htopic, hl, hprimary, hspan⟩

/-- The warning about `p ∧ ∀ x.q` points at `∀ x`. -/
theorem label_of_vacuous_operand :
    ∃ a d l g q bound, parse "p ∧ ∀ x.q" = .ok a ∧ d ∈ a.warnings ∧ d.topic = some .vacuousQuantifier ∧
      d.labels = [l] ∧ l.span.slice? "p ∧ ∀ x.q" = some "∀ x" ∧ g ∈ a.formula.preorder ∧
      g.HeadAt "p ∧ ∀ x.q" q bound l.span := by
  obtain ⟨a, d, l, hparse, hd, htopic, hl, -, hspan⟩ := exists_warning_of_map "p ∧ ∀ x.q" ⟨6, 11, by decide⟩
    (by decide +kernel)
  obtain ⟨g, hg, q, bound, l', -, -, -, hl', -, hhead⟩ := label_of_vacuous hparse d hd htopic
  obtain rfl := List.singleton_inj.1 (hl.symm.trans hl')
  refine ⟨a, d, l, g, q, bound, hparse, hd, htopic, hl, ?_, hg, hhead⟩
  rw [hspan]
  decide +kernel

/-- The warning about `(∀x.p)` points at the bracket as well, so what it points at is not the head of a quantifier. -/
theorem label_of_vacuous_in_brackets :
    ∃ a d l, parse "(∀x.p)" = .ok a ∧ d ∈ a.warnings ∧ d.topic = some .vacuousQuantifier ∧ d.labels = [l] ∧
      l.isPrimary ∧ l.span.slice? "(∀x.p)" = some "(∀x" ∧ ∀ (q : Quantifier) (name : String), ¬q.IsHead name "(∀x" := by
  obtain ⟨a, d, l, hparse, hd, htopic, hl, hprimary, hspan⟩ := exists_warning_of_map "(∀x.p)" ⟨0, 5, by decide⟩
    (by decide +kernel)
  refine ⟨a, d, l, hparse, hd, htopic, hl, hprimary, ?_, ?_⟩
  · rw [hspan]
    decide +kernel
  · rintro q name ⟨sign, hsign, space, -, htext⟩
    have hfirst : ∀ sign ∈ q.tokenKind.signs, sign.toList.head?.any (· ≠ '(') := by
      cases q <;> decide
    have hhead := hfirst sign hsign
    cases hlist : sign.toList with
    | nil =>
        rw [hlist] at hhead
        cases hhead
    | cons c cs =>
        rw [hlist] at hhead htext
        obtain ⟨rfl, -⟩ := List.cons.inj htext
        cases hhead

end FormulaDiagram
