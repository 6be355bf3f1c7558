import SimpleSentence.Diagnostic
import SimpleSentence.Proofs.Report.ErrorLine

/-!
The range that an error hands to the drawing. A range of a text covers whole characters
of it, and the range of a failed text is the span of its offending token: a run of
letters, or nothing at the end of the text. Widening leaves both as they are, the first
because it is not empty and the second because nothing is behind it.
-/

namespace SimpleSentence

/-- A range that holds a part of a text is in order and ends in the text. -/
theorem Span.Holds.within {span : Span} {source part : Text} (holds : span.Holds source part) :
    span.start ≤ span.stop ∧ span.stop ≤ Text.byteLength source := by
  obtain ⟨before, after, rfl, start, stop⟩ := holds
  rw [start, stop, Text.byteLength_append before part, Text.byteLength_append (before ++ part),
    Text.byteLength_append before part]
  exact ⟨Nat.le_add_right _ _, Nat.le_add_right _ _⟩

theorem Span.holds_end (text : Text) : (empty (Text.byteLength text)).Holds text [] := by
  refine ⟨text, [], ?_, rfl, ?_⟩
  · rw [List.append_nil, List.append_nil]
  · rw [List.append_nil]
    rfl

/-! ### Widening -/

theorem widen_of_holds {span : Span} {source part : Text} (holds : span.Holds source part)
    (filled : part ≠ []) (limit : Nat) : widen limit span = span := by
  obtain ⟨before, after, _, start, stop⟩ := holds
  have positive := Text.byteLength_pos filled
  have open? : span.isEmpty = false := by
    rw [Text.byteLength_append] at stop
    exact beq_false_of_ne (by omega)
  rw [widen, open?]
  rfl

theorem widen_end (limit : Nat) : widen limit (.empty limit) = .empty limit := by
  have shut : (Span.empty limit).isEmpty = true := beq_self_eq_true limit
  rw [widen, if_pos shut]
  exact congrArg (Span.mk limit) (Nat.min_eq_right (Nat.le_succ limit))

/-! ### The offending token -/

theorem Lexicon.holds_of_mem_tag {lexicon : Lexicon} {text : Text} {token : Token}
    (member : token ∈ (lexicon.tag text).words) : token.span.Holds text token.text := by
  obtain ⟨word, inside, place, rfl⟩ := mem_tokensFrom member
  exact Word.holds_of_mem inside

-- Only the line feed and the carriage return begin a line break.
theorem Text.IsWord.unbroken {text : Text} (isWord : text.IsWord) :
    ∀ char ∈ text, char ≠ '\n' ∧ char ≠ '\r' := by
  intro char member
  have letter := isWord.2 char member
  constructor
  · rintro rfl
    exact absurd letter (by decide)
  · rintro rfl
    exact absurd letter (by decide)

namespace ParseError

variable {lexicon : Lexicon} {text : Text} {error : ParseError}

theorem range_at_word (path : Option Text) (member : error.found ∈ (lexicon.tag text).words) :
    (error.excerpt path text).range = error.found.span :=
  widen_of_holds (Lexicon.holds_of_mem_tag member) (Lexicon.isWord_of_mem_tag member).1 _

theorem range_at_end (path : Option Text) (atEnd : error.found = (lexicon.tag text).sentinel) :
    (error.excerpt path text).range = .empty (Text.byteLength text) := by
  show widen (Text.byteLength text) error.found.span = _
  rw [atEnd]
  exact widen_end _

/-- The range drawn for a failed text is the span of the offending token. It lies in the text,
between characters and inside one line, over the token's own text or over nothing at the end. -/
theorem drawn_range_within (path : Option Text) (failed : lexicon.parse text = .error error) :
    let range := (error.excerpt path text).range
    range = error.found.span ∧
      range.start ≤ range.stop ∧ range.stop ≤ Text.byteLength text ∧
      ∃ part, range.Holds text part ∧ (∀ char ∈ part, char ≠ '\n' ∧ char ≠ '\r') ∧
        (error.found ∈ (lexicon.tag text).words ∧ part = error.found.text ∧ part ≠ [] ∨
          error.found = (lexicon.tag text).sentinel ∧ part = [] ∧
            range = .empty (Text.byteLength text)) := by
  intro range
  rcases Lexicon.found_cases failed with member | atEnd
  · have own : range = error.found.span := range_at_word path member
    have holds := Lexicon.holds_of_mem_tag member
    have isWord := Lexicon.isWord_of_mem_tag member
    rw [own]
    exact ⟨rfl, holds.within.1, holds.within.2, error.found.text, holds, isWord.unbroken,
      .inl ⟨member, rfl, isWord.1⟩⟩
  · have own : range = .empty (Text.byteLength text) := range_at_end path atEnd
    have holds := Span.holds_end text
    have span : error.found.span = .empty (Text.byteLength text) := by
      rw [atEnd]
      rfl
    rw [own]
    exact ⟨span.symm, holds.within.1, holds.within.2, [], holds,
      List.forall_mem_nil _, .inr ⟨atEnd, rfl, rfl⟩⟩

-- A determiner on a later line where a verb is due, and no verb before the end of the text.
theorem drawn_range_behind_wide_characters :
    let first := "\u00C9\n dog\r\n\u20ACthe".toList
    let second := "the dog\n\u20AC\n".toList
    let dueVerb := CategorySet.single .verb
    let early : ParseError := .unexpected dueVerb ⟨"the".toList, .determiner, 1, ⟨12, 15⟩⟩
    let late : ParseError := .unexpected dueVerb ⟨sentinelText, .endOfInput, 2, .empty 12⟩
    (Lexicon.ofRecords []).parse first = .error early ∧
      (Lexicon.ofRecords []).parse second = .error late ∧
      (early.excerpt none first).range = ⟨12, 15⟩ ∧
      (late.excerpt none second).range = .empty 12 ∧
      (∃ part, (early.excerpt none first).range.Holds first part) ∧
      ∃ part, (late.excerpt none second).range.Holds second part := by
  intro first second dueVerb early late
  have atWord : (Lexicon.ofRecords []).parse first = .error early := by decide +kernel
  have atEnd : (Lexicon.ofRecords []).parse second = .error late := by decide +kernel
  obtain ⟨range, _, _, part, holds, _⟩ := drawn_range_within none atWord
  obtain ⟨endRange, _, _, endPart, endHolds, _⟩ := drawn_range_within none atEnd
  exact ⟨atWord, atEnd, range, endRange, ⟨part, holds⟩, endPart, endHolds⟩

end ParseError

end SimpleSentence
