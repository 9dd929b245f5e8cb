import FormulaDiagram.Span

/-!
What stands at a range of byte offsets. Offsets count bytes and characters may have several, so not every range of
offsets has a part: both ends have to stand between characters, and then the part is what lies between two others.
-/

namespace FormulaDiagram

namespace Text

@[simp] theorem utf8Length_nil : utf8Length [] = 0 := rfl

@[simp] theorem utf8Length_cons (c : Char) (cs : List Char) :
    utf8Length (c :: cs) = c.utf8Size + utf8Length cs := rfl

@[simp] theorem utf8Length_append (cs ds : List Char) :
    utf8Length (cs ++ ds) = utf8Length cs + utf8Length ds := by
  induction cs with
  | nil => simp
  | cons c cs ih => simp [ih, Nat.add_assoc]

theorem utf8Length_pos {cs : List Char} (h : cs ≠ []) : 0 < utf8Length cs := by
  cases cs with
  | nil => exact absurd rfl h
  | cons c cs =>
      have hc := c.utf8Size_pos
      rw [utf8Length_cons]
      omega

theorem utf8Length_toList (s : String) : utf8Length s.toList = s.utf8ByteSize := by
  have h (cs : List Char) : utf8Length cs = (String.ofList cs).utf8ByteSize := by
    induction cs with
    | nil => rfl
    | cons c cs ih =>
        rw [utf8Length_cons, ih, ← List.singleton_append, String.ofList_append, String.utf8ByteSize_append,
          ← String.singleton_eq_ofList, String.utf8ByteSize_singleton]
  rw [h, String.ofList_toList]

theorem splitAt?_utf8Length (before after : List Char) :
    splitAt? (utf8Length before) (before ++ after) = some (before, after) := by
  induction before with
  | nil => rw [utf8Length_nil, List.nil_append, splitAt?]
  | cons c before ih =>
      obtain ⟨size, hsize⟩ : ∃ size, c.utf8Size = size + 1 := ⟨c.utf8Size - 1, by have := c.utf8Size_pos; omega⟩
      have hlength : utf8Length (c :: before) = size + utf8Length before + 1 := by
        rw [utf8Length_cons, hsize]
        omega
      have hle : c.utf8Size ≤ size + utf8Length before + 1 := by omega
      have hsub : size + utf8Length before + 1 - c.utf8Size = utf8Length before := by omega
      rw [hlength, List.cons_append, splitAt?, if_pos hle, hsub, ih]
      rfl

theorem splitAt?_eq_some_iff {offset : Nat} {text before after : List Char} :
    splitAt? offset text = some (before, after) ↔ text = before ++ after ∧ utf8Length before = offset := by
  constructor
  · intro h
    fun_induction splitAt? offset text generalizing before with
    | case1 => cases h; exact ⟨rfl, rfl⟩
    | case2 => cases h
    | case3 offset c rest hle ih =>
        obtain ⟨⟨before', after'⟩, hr, h⟩ := Option.map_eq_some_iff.1 h
        cases h
        obtain ⟨rfl, hl⟩ := ih hr
        refine ⟨rfl, ?_⟩
        rw [utf8Length_cons, hl]
        omega
    | case4 => cases h
  · rintro ⟨rfl, rfl⟩
    exact splitAt?_utf8Length before after

end Text

namespace Span

/-- The part at a range is what stands there. -/
theorem slice?_eq_some_iff {source part : String} {s : Span} :
    s.slice? source = some part ↔ ∃ before after, source.toList = before ++ part.toList ++ after ∧
      Text.utf8Length before = s.start ∧ Text.utf8Length part.toList = s.length := by
  constructor
  · intro h
    obtain ⟨⟨before, behind⟩, hb, h⟩ := Option.bind_eq_some_iff.1 h
    obtain ⟨⟨part, after⟩, hp, h⟩ := Option.bind_eq_some_iff.1 h
    cases h
    obtain ⟨hs, hbefore⟩ := Text.splitAt?_eq_some_iff.1 hb
    obtain ⟨rfl, hpart⟩ := Text.splitAt?_eq_some_iff.1 hp
    refine ⟨before, after, ?_, hbefore, ?_⟩
    · rw [String.toList_ofList, hs, List.append_assoc]
    · rw [String.toList_ofList, hpart]
  · rintro ⟨before, after, hs, hbefore, hpart⟩
    rw [slice?, hs, ← hbefore, ← hpart, List.append_assoc, Text.splitAt?_utf8Length]
    show (Text.splitAt? _ (part.toList ++ after)).bind _ = _
    rw [Text.splitAt?_utf8Length]
    exact congrArg some String.ofList_toList

/-- Where there is a part there is text up to its end. -/
theorem stop_le_of_slice? {source part : String} {s : Span} (h : s.slice? source = some part) :
    s.stop ≤ source.utf8ByteSize := by
  obtain ⟨before, after, hsource, hbefore, hpart⟩ := slice?_eq_some_iff.1 h
  have hs := s.start_le_stop
  rw [length] at hpart
  rw [← Text.utf8Length_toList, hsource, Text.utf8Length_append, Text.utf8Length_append]
  omega

/-- At the end of a text nothing stands. -/
theorem slice?_end (source : String) : (point source.utf8ByteSize).slice? source = some "" := by
  refine slice?_eq_some_iff.2 ⟨source.toList, [], ?_, Text.utf8Length_toList source, ?_⟩
  · simp
  · simp [point, length]

end Span

end FormulaDiagram
