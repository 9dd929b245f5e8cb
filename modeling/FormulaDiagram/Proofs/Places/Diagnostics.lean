import FormulaDiagram.Drawing.Render
import FormulaDiagram.Proofs.Places.Alike
import FormulaDiagram.Proofs.Places.Part
import FormulaDiagram.Proofs.Validation.Occurrences
import FormulaDiagram.Report.Basic

/-!
What diagnostics point at. The labels of warnings stand where some of the tokens do: a variable is a token, and the
head of a quantifier goes from the first token of the quantifier to its variable, whatever parentheses there are
around it. The label of a syntax error is the place of a token or the end of the source, and that of a lexical error
is a character. So no label points outside its source or into a character, and none is empty but at the end.
-/

namespace FormulaDiagram

/-- The diagnostics about a source text: those of its error, or else the warnings about its formula. -/
def diagnosticsOf (source : String) : List Diagnostic :=
  match parse source with
  | .ok annotated => annotated.warnings
  | .error e => e.diagnostics

/-- The reports about a source text: those of its error, or else one for each warning about its formula. -/
def reportsOf (source : String) : List Report :=
  match parseSource source with
  | .ok annotated => annotated.warnings.map (Report.ofDiagnostic source)
  | .error e => e.reports

namespace Span

/-- The range goes from the beginning of a token to the end of the same or a later one. -/
def Spans (s : Span) (tokens : List Token) : Prop := ∃ within, within <:+: tokens ∧ s.Covers within

variable {s : Span} {tokens within : List Token}

theorem Covers.spans (h : s.Covers within) (hw : within <:+: tokens) : s.Spans tokens := ⟨within, hw, h⟩

theorem spans_token {t : Token} (ht : t ∈ tokens) : t.span.Spans tokens := by
  obtain ⟨before, after, rfl⟩ := List.append_of_mem ht
  exact (Covers.single t).spans ⟨before, after, by simp⟩

/-- From where tokens begin to the end of one of them stand the tokens up to it. -/
theorem Covers.upTo {ts us : List Token} {t : Token} (h : s.Covers (ts ++ t :: us)) (ho : Ordered (ts ++ t :: us)) :
    (between s.start t.span.stop).Covers (ts ++ [t]) := by
  obtain ⟨⟨first, rest, hfirst, hstart⟩, -⟩ := h
  have hs := t.span.start_le_stop
  cases ts with
  | nil =>
      obtain ⟨rfl, -⟩ := List.cons.inj hfirst
      refine ⟨⟨t, [], rfl, hstart⟩, ⟨[], t, rfl, ?_⟩⟩
      show _ = max s.start t.span.stop
      omega
  | cons u ts =>
      obtain ⟨rfl, -⟩ := List.cons.inj hfirst
      have hlt := (List.pairwise_cons.1 ho).1 t (by simp)
      have hs' := u.span.start_le_stop
      refine ⟨⟨u, ts ++ [t], rfl, hstart⟩, ⟨u :: ts, t, rfl, ?_⟩⟩
      show _ = max s.start t.span.stop
      omega

/-- From where tokens begin to the end of one of them. -/
theorem Covers.spans_between (h : s.Covers within) (ho : Ordered within) {t : Token} (ht : t ∈ within) :
    (between s.start t.span.stop).Spans within := by
  obtain ⟨before, after, rfl⟩ := List.append_of_mem ht
  exact (h.upTo ho).spans ⟨[], after, by simp⟩

/-- A range with a token in it is not empty. -/
theorem Covers.start_lt_stop (h : s.Covers within) (ho : Ordered within)
    (hne : ∀ t ∈ within, t.span.start < t.span.stop) : s.start < s.stop := by
  obtain ⟨⟨first, ts, rfl, hstart⟩, ⟨us, last, hlast, hstop⟩⟩ := h
  have hfirst := hne first (by simp)
  cases us with
  | nil =>
      obtain ⟨rfl, -⟩ := List.cons.inj hlast
      omega
  | cons u us =>
      obtain ⟨rfl, rfl⟩ := List.cons.inj hlast
      have hle := (List.pairwise_cons.1 ho).1 last (by simp)
      have hs := last.span.start_le_stop
      omega

end Span

/-! ### The places of quantifiers -/

namespace Formula

theorem bound?_withSpan (f : Formula) (s : Span) : (f.withSpan s).bound? = f.bound? := by
  cases f <;> rfl

/-- The head of each quantifier in the formula and the variable that it binds stand where some of the tokens do. -/
def QuantifiersSpan (f : Formula) (tokens : List Token) : Prop :=
  ∀ g ∈ f.preorder, ∀ bound, g.bound? = some bound →
    (Span.between g.span.start bound.span.stop).Spans tokens ∧ bound.span.Spans tokens

end Formula

namespace Grammar

/-- The variable that the phrase binds, if it is a quantifier. -/
def Phrase.bound? : Phrase → Option BoundVariable
  | .formula f => f.bound?
  | _ => none

variable {ends : Category → List Token → List Token → Prop} {category : Category} {tokens rest : List Token}
  {p : Phrase} {f : Formula} {n : Nat}

/-- The variable of a quantifier stands at the place of one of its tokens. -/
theorem Spells.exists_bound (h : Spells ends category tokens rest p n) {bound : BoundVariable}
    (hb : p.bound? = some bound) : ∃ t ∈ tokens, t.span = bound.span := by
  induction h with
  | operand _ ih => exact ih hb
  | whole _ _ ih => exact ih hb
  | @quantified t name dot ts rest f n q ht hn hd _ ih =>
      cases hb
      exact ⟨name, by simp, rfl⟩
  | parenthesised ht _ hc ih =>
      obtain ⟨t, hmem, hspan⟩ := ih ((Formula.bound?_withSpan _ _).symm.trans hb)
      exact ⟨t, by simp [hmem], hspan⟩
  | _ => cases hb

/-- Each quantifier is spelled by tokens of its own, which begin where it begins and have its variable among them. -/
theorem Spells.quantifiersSpan (h : Spells NotFollowed category tokens rest (.formula f) n) (ho : Ordered tokens) :
    f.QuantifiersSpan tokens := by
  intro g hg bound hb
  obtain ⟨within, m, hw, -, hs⟩ := h.hasParts g hg
  have hordered : Ordered within := ho.sublist hw.sublist
  obtain ⟨t, ht, hspan⟩ := hs.exists_bound (p := .formula g) hb
  obtain ⟨upTo, hu, hhead⟩ := (hs.covered hordered : g.span.Covers within).spans_between hordered ht
  rw [hspan] at hhead
  exact ⟨hhead.spans (hu.trans hw), hspan ▸ Span.spans_token (hw.subset ht)⟩

end Grammar

/-- What holds of the places of variables in scope and of all that quantifiers show holds of the labels of warnings. -/
theorem Formula.forall_labels_warningsOnto {P : Span → Prop} (f : Formula) {scope : List BoundVariable}
    {later : List Diagnostic}
    (hf : ∀ g ∈ f.preorder, ∀ bound, g.bound? = some bound →
      P (Span.between g.span.start bound.span.stop) ∧ P bound.span)
    (hscope : ∀ bound ∈ scope, P bound.span) (hlater : ∀ d ∈ later, ∀ l ∈ d.labels, P l.span) :
    ∀ d ∈ f.warningsOnto scope later, ∀ l ∈ d.labels, P l.span := by
  induction f generalizing scope later with
  | atom => exact hlater
  | negation facts operand ih =>
      rw [preorder_negation, List.forall_mem_cons] at hf
      exact ih hf.2 hscope hlater
  | binary facts connective left right ihl ihr =>
      rw [preorder_binary, List.forall_mem_cons, List.forall_mem_append] at hf
      exact ihl hf.2.1 hscope (ihr hf.2.2 hscope hlater)
  | quantified facts quantifier bound body ih =>
      rw [preorder_quantified, List.forall_mem_cons] at hf
      obtain ⟨hroot, hbody⟩ := hf
      obtain ⟨hhead, hbound⟩ := hroot bound rfl
      have hlabels := ih hbody (List.forall_mem_cons.2 ⟨hbound, hscope⟩) hlater
      rw [warningsOnto, List.forall_mem_append, List.forall_mem_append]
      refine ⟨⟨?_, ?_⟩, hlabels⟩
      · split
        · simp only [List.forall_mem_singleton, vacuousWarning]
          exact hhead
        · exact List.forall_mem_nil _
      · cases houter : bound.outer? scope with
        | none => exact List.forall_mem_nil _
        | some outer =>
            have houter' := hscope outer (List.mem_of_find?_eq_some houter)
            simp [shadowingWarning, hbound, houter']

/-! ### Labels and sources -/

section

variable {source : String} {tokens : List Token} {s : Span}

theorem lex_of_tokenize (h : tokenize source = .ok tokens) : lex source = ⟨tokens, none⟩ :=
  Lexer.lex_eq_iff.2 (Lexer.tokenize_eq_ok_iff.1 h)

/-- Where some of the tokens of a source stand there is a part of it that is not empty. -/
theorem Span.Spans.exists_part (h : s.Spans tokens) (ht : tokenize source = .ok tokens) :
    (∃ part, s.slice? source = some part) ∧ s.start < s.stop := by
  obtain ⟨within, ⟨before, after, rfl⟩, hs⟩ := h
  have hlex := lex_of_tokenize ht
  have hsub : within.Sublist (lex source).tokens := by
    rw [hlex]
    exact (List.infix_append before within after).sublist
  obtain ⟨part, -, hpart, -⟩ := Lexer.tokenize_part ht hs
  refine ⟨⟨part, hpart⟩, hs.start_lt_stop ?_ fun t hmem => (Lexer.slice?_token (hsub.subset hmem)).2⟩
  exact (Lexer.tiles_lex source).pairwise.sublist hsub

/-- The place of a syntax error is that of a token, or the end of the source if that is what was found. -/
theorem Parser.Failure.exists_part {e : Failure} (ht : tokenize source = .ok tokens)
    (he : Parser.whole tokens = .error e) :
    (∃ part, (e.error source.utf8ByteSize).span.slice? source = some part) ∧
      ((e.error source.utf8ByteSize).span.isEmpty → (e.error source.utf8ByteSize).found = .endOfInput ∧
        (e.error source.utf8ByteSize).span = .point source.utf8ByteSize) := by
  obtain ⟨taken, htaken, -⟩ := Grammar.settled_of_failure he
  rw [error]
  cases hrest : e.rest with
  | nil => exact ⟨⟨"", Span.slice?_end source⟩, fun _ => ⟨rfl, rfl⟩⟩
  | cons t rest =>
      have hmem : t ∈ tokens := by
        rw [htaken, hrest]
        exact List.mem_append_right _ List.mem_cons_self
      obtain ⟨hpart, hlt⟩ := (Span.spans_token hmem).exists_part ht
      exact ⟨hpart, fun hempty => absurd (of_decide_eq_true hempty) (Nat.ne_of_lt hlt)⟩

end

/-- The label points at a part of the source, which is empty only where a formula ends too early. -/
structure Label.PointsInto (source : String) (l : Label) : Prop where
  exists_part : ∃ part, l.span.slice? source = some part
  atEnd : l.span.isEmpty → ∃ e, parse source = .error (.grammatical e) ∧ e.found = .endOfInput ∧
    l.span = .point source.utf8ByteSize

theorem Label.pointsInto_of_lt {source : String} {l : Label} (h : ∃ part, l.span.slice? source = some part)
    (hlt : l.span.start < l.span.stop) : l.PointsInto source :=
  ⟨h, fun hempty => absurd (of_decide_eq_true hempty) (Nat.ne_of_lt hlt)⟩

theorem pointsInto_of_mem {source : String} {d : Diagnostic} (hd : d ∈ diagnosticsOf source) {l : Label}
    (hl : l ∈ d.labels) : l.PointsInto source := by
  rw [diagnosticsOf] at hd
  rcases parse_cases source with ⟨e, hfailure, hparse⟩ | ⟨tokens, ht, ⟨e, he, hparse⟩ | ⟨f, hf, hparse⟩⟩
  · rw [hparse] at hd
    obtain rfl := List.mem_singleton.1 hd
    obtain rfl := List.mem_singleton.1 hl
    refine Label.pointsInto_of_lt ⟨_, Lexer.slice?_found hfailure⟩ ?_
    exact Nat.lt_add_of_pos_right e.found.utf8Size_pos
  · rw [hparse] at hd
    obtain rfl := List.mem_singleton.1 hd
    obtain rfl := List.mem_singleton.1 hl
    obtain ⟨hpart, hend⟩ := e.exists_part ht he
    exact ⟨hpart, fun hempty => ⟨_, hparse, hend hempty⟩⟩
  · rw [hparse] at hd
    obtain ⟨n, -, hs⟩ := Grammar.whole_eq_ok_iff.1 hf
    have hspans := hs.quantifiersSpan (Lexer.tokenize_eq_ok_iff.1 ht).pairwise
    have hlabels := f.forall_labels_warningsOnto (P := (Span.Spans · tokens)) hspans (List.forall_mem_nil _)
      (List.forall_mem_nil _)
    obtain ⟨hpart, hlt⟩ := (hlabels d hd l hl).exists_part ht
    exact Label.pointsInto_of_lt hpart hlt

/-- The offset of a syntax error is where the place of it begins. -/
theorem Parser.Failure.offset_eq (e : Failure) (sourceLength : Nat) :
    (e.error sourceLength).offset = (e.error sourceLength).span.start := by
  rw [error]
  cases e.rest <;> rfl

/-- An error has one diagnostic, and its offset is where the first label of it points. -/
theorem offset_of_error {source : String} {e : SourceError} (h : parse source = .error e) :
    ∃ l, (e.diagnostics.flatMap Diagnostic.labels).find? (·.isPrimary) = some l ∧ e.offset? = some l.span.start := by
  rcases parse_cases source with ⟨e', -, hparse⟩ | ⟨tokens, -, ⟨e', -, hparse⟩ | ⟨f, -, hparse⟩⟩
  · cases hparse.symm.trans h
    exact ⟨_, rfl, rfl⟩
  · cases hparse.symm.trans h
    exact ⟨_, rfl, congrArg some (e'.offset_eq source.utf8ByteSize)⟩
  · cases hparse.symm.trans h

/-! ### Reports -/

/-- The label of a report shows a label of a diagnostic: it says the same of the same bytes. -/
structure ReportLabel.Shows (shown : ReportLabel) (l : Label) : Prop where
  isPrimary_eq : shown.isPrimary = l.isPrimary
  message_eq : shown.message = l.message
  start_eq : shown.span.start = l.span.start
  stop_eq : shown.span.start + shown.span.length = l.span.stop

theorem ReportLabel.shows_ofLabel (l : Label) : (ofLabel l).Shows l := by
  have hspan : (ofLabel l).span = .ofSpan l.span := by
    rw [ofLabel]
    split <;> rfl
  have hstop : (SourceSpan.ofSpan l.span).start + (SourceSpan.ofSpan l.span).length = l.span.stop :=
    Nat.add_sub_cancel' l.span.start_le_stop
  refine ⟨?_, ?_, ?_, ?_⟩
  · rw [ofLabel]
    split
    · exact Eq.symm ‹_›
    · exact (Bool.eq_false_iff.2 ‹_›).symm
  · rw [ofLabel]
    split <;> rfl
  · rw [hspan]
    rfl
  · rw [hspan, hstop]

/-- The report is about a diagnostic of a source: its labels show those of the diagnostic, one by one. -/
structure Report.IsAbout (r : Report) (source : String) (d : Diagnostic) : Prop where
  source_eq : r.source = some source
  message_eq : r.message = d.message
  labels_shown : List.Forall₂ ReportLabel.Shows r.labels d.labels

theorem Report.isAbout_ofDiagnostic (source : String) (d : Diagnostic) : (ofDiagnostic source d).IsAbout source d := by
  refine ⟨rfl, rfl, ?_⟩
  rw [ofDiagnostic, List.forall₂_map_left_iff, List.forall₂_same]
  exact fun l _ => ReportLabel.shows_ofLabel l

/-- There is a report for each diagnostic. -/
theorem reportsOf_eq (source : String) :
    reportsOf source = (diagnosticsOf source).map (Report.ofDiagnostic source) := by
  rw [reportsOf, diagnosticsOf, parseSource]
  cases parse source <;> rfl

/-- Each report is about the diagnostic at its position. -/
theorem reportsOf_isAbout (source : String) :
    List.Forall₂ (fun r d => r.IsAbout source d) (reportsOf source) (diagnosticsOf source) := by
  rw [reportsOf_eq, List.forall₂_map_left_iff, List.forall₂_same]
  exact fun d _ => Report.isAbout_ofDiagnostic source d

/-- Every label of every diagnostic about a source points into the source, from one place between characters to
another, and is empty only for a syntax error at the end. The offset of an error is where its first primary label
begins. The reports show the same places in the same order, by offset and length, and none of them goes beyond the
end of the source. -/
theorem labels_in_source (source : String) :
    (∀ d ∈ diagnosticsOf source, ∀ l ∈ d.labels,
      l.span.start ≤ l.span.stop ∧ l.span.stop ≤ source.utf8ByteSize ∧
        (∃ part, l.span.slice? source = some part) ∧
        (l.span.isEmpty → ∃ e, parse source = .error (.grammatical e) ∧ e.found = .endOfInput ∧
          l.span = .point source.utf8ByteSize)) ∧
      (∀ e, parse source = .error e → ∃ l,
        (e.diagnostics.flatMap Diagnostic.labels).find? (·.isPrimary) = some l ∧ e.offset? = some l.span.start) ∧
      List.Forall₂ (fun r d => r.IsAbout source d) (reportsOf source) (diagnosticsOf source) ∧
      ∀ r ∈ reportsOf source, ∀ l ∈ r.labels, l.span.start + l.span.length ≤ source.utf8ByteSize := by
  have hstop (d : Diagnostic) (hd : d ∈ diagnosticsOf source) (l : Label) (hl : l ∈ d.labels) :
      l.span.stop ≤ source.utf8ByteSize := by
    obtain ⟨part, hpart⟩ := (pointsInto_of_mem hd hl).exists_part
    exact Span.stop_le_of_slice? hpart
  refine ⟨fun d hd l hl => ?_, fun e => offset_of_error, reportsOf_isAbout source, fun r hr shown hshown => ?_⟩
  · have hpoints := pointsInto_of_mem hd hl
    exact ⟨l.span.start_le_stop, hstop d hd l hl, hpoints.exists_part, hpoints.atEnd⟩
  · rw [reportsOf_eq] at hr
    obtain ⟨d, hd, rfl⟩ := List.mem_map.1 hr
    obtain ⟨l, hl, rfl⟩ := List.mem_map.1 hshown
    rw [(ReportLabel.shows_ofLabel l).stop_eq]
    exact hstop d hd l hl

end FormulaDiagram
