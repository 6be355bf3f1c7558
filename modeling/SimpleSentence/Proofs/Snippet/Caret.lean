import SimpleSentence.Proofs.Snippet.Kept
import SimpleSentence.Proofs.Snippet.Range
import SimpleSentence.Proofs.Snippet.Spot

/-!
Where the carets of a drawn error stand. A word is pointed at from below by one caret for
each of its characters, from the column in which it starts, and the end of a text by one
caret behind its last line; the line is numbered by the line feeds in front of it, and
the note is the last thing drawn.
-/

namespace SimpleSentence

namespace Text

/-- The characters that take a column between two, if the text begins at some column. -/
def standing (first past column : Nat) : Text → Text
  | [] => []
  | char :: rest =>
      let next := column + columnsOf char
      if first < next && column < past then char :: standing first past next rest
      else standing first past next rest

variable {first past column : Nat} {text : Text}

theorem standing_append (first past column : Nat) (front rest : Text) :
    standing first past column (front ++ rest) =
      standing first past column front ++ standing first past (column + columns front) rest := by
  induction front generalizing column with
  | nil => rfl
  | cons char more ih =>
      have onward := ih (column + columnsOf char)
      rw [Nat.add_assoc] at onward
      rw [List.cons_append, standing, standing, columns]
      split
      · rw [onward, List.cons_append]
      · rw [onward]

/-- A text that ends in front of the columns, or begins behind them, has no part in them. -/
theorem standing_apart (apart : column + columns text ≤ first ∨ past ≤ column) :
    standing first past column text = [] := by
  induction text generalizing column with
  | nil => rfl
  | cons char rest ih =>
      rw [columns] at apart
      have outside : ¬ (first < column + columnsOf char && column < past) = true := by
        simp only [Bool.and_eq_true, decide_eq_true_eq]
        omega
      rw [standing, if_neg outside]
      exact ih (by omega)

theorem standing_printed (printed : text.all isPrinted = true) (begun : first ≤ column)
    (ended : column + text.length ≤ past) : standing first past column text = text := by
  induction text generalizing column with
  | nil => rfl
  | cons char rest ih =>
      rw [List.all_cons, Bool.and_eq_true] at printed
      rw [List.length_cons] at ended
      have inside : (first < column + 1 && column < past) = true := by
        simp only [Bool.and_eq_true, decide_eq_true_eq]
        omega
      have onward := ih printed.2 (Nat.le_succ_of_le begun) (by omega)
      rw [standing, columnsOf_of_isPrinted printed.1, if_pos inside, onward]

/-- In a line, a printed part stands in the columns behind those of its lead. -/
theorem standing_part {lead part tail : Text} (printed : part.all isPrinted = true) :
    standing (columns lead) (columns lead + part.length) 0 (lead ++ part ++ tail) = part := by
  have width := columns_printed printed
  have before : standing (columns lead) (columns lead + part.length) 0 lead = [] :=
    standing_apart (.inl (by omega))
  have behind : standing (columns lead) (columns lead + part.length)
      (0 + columns (lead ++ part)) tail = [] := by
    apply standing_apart
    rw [columns_append]
    omega
  rw [standing_append, standing_append, before, behind,
    standing_printed printed (by omega) (by omega), List.append_nil, List.nil_append]

theorem length_joinWith_le (between : Text) (parts : List Text) :
    (joinWith between parts).length ≤
      (parts.map fun part => part.length + between.length).sum := by
  fun_induction joinWith between parts with
  | case1 => exact Nat.le_refl _
  | case2 only => simp
  | case3 first rest more ih =>
      rw [List.length_append, List.length_append, List.map_cons, List.sum_cons]
      exact Nat.add_le_add_left ih _

end Text

/-! ### The note -/

theorem CategorySet.length_codes_le (set : CategorySet) : set.codes.length ≤ 44 := by
  let sizes (categories : List Category) : List Nat :=
    (categories.map Category.code).map fun code => code.length + 1
  have part : (sizes set.members).Sublist (sizes Category.all) :=
    (List.filter_sublist.map _).map _
  calc
    set.codes.length ≤ (sizes set.members).sum := Text.length_joinWith_le ['/'] _
    _ ≤ (sizes Category.all).sum := part.sum_le_sum fun _ _ => Nat.zero_le _
    _ = 44 := by decide

namespace ParseError

variable (error : ParseError)

theorem printed_note : error.note.all isPrinted = true := by
  cases error with
  | unexpected expected found =>
      have fixed : ("expected ".toList).all isPrinted = true := by decide
      show ("expected ".toList ++ expected.codes).all isPrinted = true
      rw [List.all_append, fixed, expected.printed_codes]
      rfl
  | trailing found => exact (by decide : ("not covered by the grammar".toList).all isPrinted = true)

theorem columns_note_le : Text.columns error.note ≤ 53 := by
  rw [Text.columns_printed error.printed_note]
  cases error with
  | unexpected expected found =>
      have codes := expected.length_codes_le
      show ("expected ".toList ++ expected.codes).length ≤ 53
      rw [List.length_append]
      exact Nat.add_le_add (by decide : ("expected ".toList).length ≤ 9) codes
  | trailing found => exact (by decide : ("not covered by the grammar".toList).length ≤ 53)

theorem caret_not_mem_note : '^' ∉ error.note := by
  cases error with
  | unexpected expected found =>
      intro member
      rcases List.mem_append.mp member with fixed | inCodes
      · exact absurd fixed (by decide)
      · rcases Text.mem_joinWith inCodes with slash | ⟨code, listed, inside⟩
        · exact absurd slash (by decide)
        · obtain ⟨category, _, rfl⟩ := List.mem_map.mp listed
          exact absurd (category.isWord_code.2 '^' inside) (by decide)
  | trailing found => exact (by decide : '^' ∉ "not covered by the grammar".toList)

end ParseError

/-! ### The drawn lines -/

namespace Snippet

/-- What is drawn of an error below its message and its place: a bar, the number of a line and
what is shown of it, and below that some carets with the note. -/
def pointerLines (number : Nat) (shown : Text) (lead carets : Nat) (note : Text) : List Text :=
  let digits := Text.numeral number
  let blanks := List.replicate digits.length ' '
  [blanks ++ " |".toList,
    digits ++ " |".toList ++ (if shown.isEmpty then [] else ' ' :: shown),
    blanks ++ " | ".toList ++ List.replicate lead ' ' ++ List.replicate carets '^' ++ ' ' :: note]

theorem Pointer.text_eq {pointer : Pointer} {number lead carets : Nat} {shown : Text}
    (numbered : pointer.number = number)
    (width : pointer.width = (Text.numeral number).length) (code : pointer.code = shown)
    (marks : pointer.marks = List.replicate lead ' ' ++ List.replicate carets '^') (note : Text) :
    pointer.text ++ note = Text.joinWith ['\n'] (pointerLines number shown lead carets note) := by
  have gutter : pointer.gutter =
      List.replicate (Text.numeral number).length ' ' ++ " |".toList := by
    rw [Pointer.gutter, width, List.replicate_succ', List.append_assoc]
    rfl
  have source : pointer.sourceLine = Text.numeral number ++ " |".toList ++
      (if shown.isEmpty then [] else ' ' :: shown) := by
    rw [Pointer.sourceLine, numbered, width, code, Nat.sub_self, List.replicate_zero,
      List.nil_append]
  rw [Pointer.text, gutter, source, marks]
  simp only [pointerLines, Text.joinWith, List.append_assoc, List.cons_append, List.nil_append]
  rfl

/-- In a text of fewer bytes than a machine word counts, line numbers take at most twenty digits. -/
theorem Spot.length_number (spot : Spot) (bounded : Text.byteLength spot.text < 2 ^ 64) :
    (Text.numeral spot.number).length ≤ 20 := by
  have feeds : spot.before.count '\n' ≤ spot.before.length := List.count_le_length
  have before := Text.length_le_byteLength spot.before
  have size : Text.byteLength spot.before ≤ Text.byteLength spot.text := by
    rw [spot.text_eq, Text.byteLength_append, Text.byteLength_append]
    omega
  apply (Nat.length_toDigits_le_iff (by decide) (by decide)).mpr
  rw [Spot.number]
  omega

/-- The drawn form of a line with its end in view: all of it, or dots and blanks and the end. -/
inductive KeepsEnd (line : Text) : Text → Prop where
  | whole : KeepsEnd line line
  | cut {hidden rest : Text} (blanks : Nat) (parts : line = hidden ++ rest) (filled : rest ≠ []) :
      KeepsEnd line ("...".toList ++ List.replicate blanks ' ' ++ rest)

theorem Spot.picture_line {spot : Spot} (printed : spot.part.all isPrinted = true) :
    picture spot.line = picture spot.lead ++ spot.part ++ picture spot.tail := by
  rw [line, picture_append, picture_append, picture_printed printed]

namespace Excerpt

variable {excerpt : Excerpt} {spot : Spot} (source : excerpt.source = spot.text)
include source

section Part

variable (range : excerpt.range =
    ⟨Text.byteLength spot.before, Text.byteLength (spot.before ++ spot.part)⟩)
  (filled : spot.part ≠ []) (printed : spot.part.all isPrinted = true)
include range filled

theorem width_part : excerpt.width = (Text.numeral spot.number).length := by
  rw [width, source, range]
  exact Spot.numberWidth_part filled _

include printed

theorem position_part :
    excerpt.position.line.number = spot.number ∧ excerpt.position.line.text = spot.line ∧
      excerpt.position.first = Text.columns spot.lead ∧
      excerpt.position.past = Text.columns spot.lead + spot.part.length ∧
      excerpt.position.column = spot.column := by
  have columns := Text.columns_printed printed
  have some := List.length_pos_iff.mpr filled
  rw [position, source, range, ← columns]
  exact spot.locate_part filled (by omega)

/-- The place names the line and the place of the part in it. -/
theorem place_part {path : Text} (known : excerpt.path = some path) :
    excerpt.place =
      '\n' :: (List.replicate (Text.numeral spot.number).length ' ' ++ "--> ".toList ++
        (path ++ ':' :: (Text.numeral spot.number ++ ':' :: Text.numeral spot.column))) := by
  obtain ⟨number, _, _, _, column⟩ := position_part source range filled printed
  rw [place, known, number, column, width_part source range filled]

/-- A printed part of a line that is drawn whole has its carets below it. -/
theorem pointer_part (whole : excerpt.Whole) :
    excerpt.pointer.text ++ excerpt.note =
      Text.joinWith ['\n'] (pointerLines spot.number (picture spot.line)
        (Text.columns (picture spot.lead)) spot.part.length excerpt.note) := by
  obtain ⟨number, line, first, past, _⟩ := position_part source range filled printed
  have width := width_part source range filled
  have code : excerpt.pointer.code = picture spot.line := by
    rw [whole.pointer_code, line]
  have marks : excerpt.pointer.marks = List.replicate (Text.columns (picture spot.lead)) ' ' ++
      List.replicate spot.part.length '^' := by
    rw [whole.pointer_marks, first, past, Nat.add_sub_cancel_left, columns_picture]
  exact Pointer.text_eq number width code marks _

end Part

section End

variable (range : excerpt.range = .empty (Text.byteLength spot.text)) (atEnd : spot.AtEnd)
include range atEnd

theorem position_end :
    excerpt.position.line.number = spot.number ∧ excerpt.position.line.text = spot.line ∧
      excerpt.position.first = Text.columns spot.line ∧
      excerpt.position.past = Text.columns spot.line + 1 := by
  rw [position, source, range]
  exact atEnd.locate_end

theorem width_end : excerpt.width = (Text.numeral spot.number).length := by
  rw [width, source, range]
  exact atEnd.numberWidth_end _

theorem extent_end : excerpt.extent.AtEnd := by
  obtain ⟨_, line, first, past⟩ := position_end source range atEnd
  have length : excerpt.extent.length = Text.columns spot.line := congrArg Text.columns line
  exact ⟨first.trans length.symm, past.trans (congrArg (· + 1) length.symm)⟩

/-- In a room of some width the end of the last line is in view, and the mark is behind it. -/
theorem code_end (roomy : 117 ≤ excerpt.room) (noted : Text.columns excerpt.note ≤ 54) :
    ∃ shown, KeepsEnd (picture spot.line) shown ∧ plainLine excerpt.code.cells = shown ∧
      excerpt.position.first - excerpt.code.cut = Text.columns shown := by
  obtain ⟨_, line, first, _⟩ := position_end source range atEnd
  have extent := extent_end source range atEnd
  have past : excerpt.extent.window.past excerpt.room (Text.columns (picture spot.line)) =
      Text.columns (picture spot.line) := by
    rw [columns_picture, ← line]
    exact extent.past_eq
  have code : excerpt.code = codeLine excerpt.room excerpt.extent.window (picture spot.line) := by
    rw [Excerpt.code, line]
  rw [← columns_picture] at first
  rw [code, first]
  by_cases left : excerpt.extent.window.left = 0
  · rw [codeLine_whole left past, plainLine_styled]
    exact ⟨picture spot.line, .whole, rfl, Nat.sub_zero _⟩
  · have far : excerpt.extent.window.left + 10 ≤ Text.columns (picture spot.line) := by
      rw [columns_picture, ← line]
      exact (extent.left_far roomy (Nat.succ_le_succ noted)).resolve_left left
    obtain ⟨hidden, rest, blanks, parts, filled, cells, total⟩ :=
      codeLine_of_end (Nat.pos_of_ne_zero left) far past
    refine ⟨_, .cut blanks parts filled, ?_, ?_⟩
    · rw [cells, plainLine_append, plainLine_append, plainLine_styled, plainLine_spaces]
      rfl
    · have blank : Text.columns (List.replicate blanks ' ') = blanks := by
        rw [Text.columns_printed (by simp [isPrinted]), List.length_replicate]
      have dots : Text.columns "...".toList = 3 := by decide +kernel
      rw [Text.columns_append, Text.columns_append, blank, dots]
      omega

/-- The end of a text has one caret behind its last line. What is cut off a long line leaves the
end in view, unless the line numbers alone fill the drawing. -/
theorem pointer_end (noted : Text.columns excerpt.note ≤ 54)
    (inView : excerpt.Whole ∨ Text.byteLength spot.text < 2 ^ 64) :
    ∃ shown, KeepsEnd (picture spot.line) shown ∧
      (excerpt.Whole → shown = picture spot.line) ∧
      excerpt.pointer.text ++ excerpt.note = Text.joinWith ['\n']
        (pointerLines spot.number shown (Text.columns shown) 1 excerpt.note) := by
  obtain ⟨number, line, first, past⟩ := position_end source range atEnd
  have width := width_end source range atEnd
  by_cases whole : excerpt.Whole
  · have code : excerpt.pointer.code = picture spot.line := by
      rw [whole.pointer_code, line]
    have marks : excerpt.pointer.marks =
        List.replicate (Text.columns (picture spot.line)) ' ' ++ List.replicate 1 '^' := by
      rw [whole.pointer_marks, first, past, Nat.add_sub_cancel_left, columns_picture]
    exact ⟨_, .whole, fun _ => rfl, Pointer.text_eq number width code marks _⟩
  · have roomy : 117 ≤ excerpt.room := by
      have digits := spot.length_number (inView.resolve_left whole)
      rw [room, width, codeColumns]
      omega
    have narrow : excerpt.position.past - excerpt.position.first ≤ 2 * excerpt.room := by
      rw [first, past]
      omega
    obtain ⟨shown, kept, cells, columns⟩ := code_end source range atEnd roomy noted
    have code : excerpt.pointer.code = shown := (pointer_code narrow).trans cells
    have marks : excerpt.pointer.marks =
        List.replicate (Text.columns shown) ' ' ++ List.replicate 1 '^' := by
      rw [pointer_marks narrow, columns, first, past, Nat.add_sub_cancel_left]
    exact ⟨shown, kept, fun all => absurd all whole, Pointer.text_eq number width code marks _⟩

end End

end Excerpt

end Snippet

namespace ParseError

open Snippet (KeepsEnd Spot picture pointerLines)

/-- The drawing shows the line of a word with its number, the place of the word in the line, and
below the characters of the word as many carets. -/
structure PointsAtWord (error : ParseError) (path text : Text) (spot : Spot) : Prop where
  source : spot.text = text
  part : spot.part = error.found.text
  start : Text.byteLength spot.before = error.found.span.start
  spelled :
    let lead := Text.columns (picture spot.lead)
    Text.standing lead (lead + error.found.text.length) 0 (picture spot.line) = error.found.text
  drawn :
    let blanks := List.replicate (Text.numeral spot.number).length ' '
    error.render false (some path) (some text) = Text.joinWith ['\n']
      ([errorMark ++ error.message,
        blanks ++ "--> ".toList ++
          (path ++ ':' :: (Text.numeral spot.number ++ ':' :: Text.numeral spot.column))] ++
        pointerLines spot.number (picture spot.line) (Text.columns (picture spot.lead))
          error.found.text.length error.note)

/-- The drawing shows the last line of a text up to its end, the whole line if nothing is cut
away, and one caret behind what is shown. -/
structure PointsAtEnd (error : ParseError) (path : Option Text) (text : Text) (spot : Spot)
    (shown : Text) : Prop where
  source : spot.text = text
  atEnd : spot.AtEnd
  kept : KeepsEnd (picture spot.line) shown
  whole : (error.excerpt path text).Whole → shown = picture spot.line
  drawn : ∃ head : List Text, error.render false path (some text) = Text.joinWith ['\n']
    (head ++ pointerLines spot.number shown (Text.columns shown) 1 error.note)

/-- The last line of the drawing ends with the note, which has no carets of its own. -/
structure EndsWithNote (error : ParseError) (path : Option Text) (text : Text) : Prop where
  drawn : ∃ above last, '\n' ∉ last ++ error.note ∧
    error.render false path (some text) = above ++ '\n' :: (last ++ error.note)
  plain : '^' ∉ error.note

section Drawn

variable {lexicon : Lexicon} {text : Text} {error : ParseError}
  (visible : Text.blank text = false) (failed : lexicon.parse text = .error error)
include visible failed

theorem render_eq (path : Option Text) :
    error.render false path (some text) =
      errorMark ++ error.message ++ (error.excerpt path text).place ++
        '\n' :: ((error.excerpt path text).pointer.text ++ error.note) := by
  have seen : ¬ Text.blank text = true := by rw [visible]; exact Bool.false_ne_true
  have drawn := (error.excerpt path text).drawing_eq
  rw [Snippet.Excerpt.title_printed failed] at drawn
  rw [render, if_neg seen]
  exact drawn

theorem points_at_word (path : Text) (member : error.found ∈ (lexicon.tag text).words)
    (whole : (error.excerpt (some path) text).Whole) :
    ∃ spot, error.PointsAtWord path text spot := by
  have isWord := Lexicon.isWord_of_mem_tag member
  obtain ⟨before, after, parts, start, stop⟩ := Lexicon.holds_of_mem_tag member
  have noFeed : '\n' ∉ error.found.text := fun feed => (isWord.unbroken '\n' feed).1 rfl
  have noReturn : error.found.text.getLast? ≠ some '\r' := fun last =>
    (isWord.unbroken '\r' (List.mem_of_getLast? last)).2 rfl
  obtain ⟨spot, texts, rfl, part⟩ :=
    Spot.exists_of_parts before after isWord.1 noFeed noReturn
  have source : (error.excerpt (some path) text).source = spot.text := parts.trans texts.symm
  have range : (error.excerpt (some path) text).range =
      ⟨Text.byteLength spot.before, Text.byteLength (spot.before ++ spot.part)⟩ := by
    rw [range_at_word (some path) member, part, ← start, ← stop]
  have filled : spot.part ≠ [] := part ▸ isWord.1
  have printed : spot.part.all isPrinted = true := part ▸ isWord.printed
  have place := Snippet.Excerpt.place_part source range filled printed rfl
  have note : (error.excerpt (some path) text).note = error.note := rfl
  have pointer := Snippet.Excerpt.pointer_part source range filled printed whole
  rw [note] at pointer
  refine ⟨spot, source.symm, part, start.symm, ?_, ?_⟩
  · rw [← part, Spot.picture_line printed]
    exact Text.standing_part printed
  · rw [render_eq visible failed, pointer, place, ← part]
    simp only [pointerLines, Text.joinWith, List.append_assoc, List.cons_append, List.nil_append]

theorem points_at_end (path : Option Text) (atEnd : error.found = (lexicon.tag text).sentinel)
    (inView : (error.excerpt path text).Whole ∨ Text.byteLength text < 2 ^ 64) :
    ∃ spot shown, error.PointsAtEnd path text spot shown := by
  have filled : text ≠ [] := by
    rintro rfl
    cases visible
  obtain ⟨spot, rfl, last⟩ := Spot.exists_atEnd filled
  have noted : Text.columns error.note ≤ 54 := Nat.le_succ_of_le error.columns_note_le
  obtain ⟨shown, kept, whole, pointer⟩ :=
    Snippet.Excerpt.pointer_end rfl (range_at_end path atEnd) last noted inView
  have note : (error.excerpt path spot.text).note = error.note := rfl
  rw [note] at pointer
  refine ⟨spot, shown, rfl, last, kept, whole,
    [errorMark ++ error.message ++ (error.excerpt path spot.text).place], ?_⟩
  rw [render_eq visible failed, pointer]
  simp only [pointerLines, Text.joinWith, List.append_assoc, List.cons_append, List.nil_append]

theorem ends_with_note (path : Option Text) : error.EndsWithNote path text := by
  let pointer := (error.excerpt path text).pointer
  have single : '\n' ∉ pointer.gutter ++ ' ' :: (pointer.marks ++ [' ']) ++ error.note := by
    simp only [List.mem_append, List.mem_cons, List.not_mem_nil, or_false, not_or]
    refine ⟨⟨?_, by decide, fun member => ?_, by decide⟩, fun member => ?_⟩
    · rw [Snippet.Pointer.gutter, List.mem_append, not_or]
      exact ⟨fun member => absurd (List.mem_replicate.mp member).2 (by decide), by decide⟩
    · exact absurd (pointer.drawn '\n' member) (by decide)
    · exact absurd (List.all_eq_true.mp error.printed_note '\n' member) (by decide)
  refine ⟨⟨errorMark ++ error.message ++ (error.excerpt path text).place ++
    '\n' :: (pointer.gutter ++ '\n' :: pointer.sourceLine), _, single, ?_⟩,
    error.caret_not_mem_note⟩
  rw [render_eq visible failed, Snippet.Pointer.text]
  simp only [pointer, List.append_assoc, List.cons_append, List.nil_append]

/-- The drawing of an error points at what is wrong. At a word, with a path and nothing cut away,
it names the line and the place of the word and has one caret below each of its characters; at the
end of a text it has one caret behind the last line; and it always ends with the note. The caret at
the end is there for long lines as well, in every text whose bytes can be addressed: only with line
numbers of more than a hundred digits would no room be left for it. -/
theorem drawing_points_at_offender :
    (∀ path, error.found ∈ (lexicon.tag text).words →
        (error.excerpt (some path) text).Whole → ∃ spot, error.PointsAtWord path text spot) ∧
      (∀ path, error.found = (lexicon.tag text).sentinel →
        (error.excerpt path text).Whole ∨ Text.byteLength text < 2 ^ 64 →
          ∃ spot shown, error.PointsAtEnd path text spot shown) ∧
      ∀ path, error.EndsWithNote path text :=
  ⟨points_at_word visible failed, points_at_end visible failed, ends_with_note visible failed⟩

end Drawn

-- A determiner where a verb is due, behind a tab and a wide character, and a verb missing in
-- front of the last line break.
theorem points_behind_wide_characters :
    let lexicon := Lexicon.ofRecords []
    let first := "\u4E16\r\n\t\u4E16Dog the eats".toList
    let second := "the dog\n\u20AC\u0301\r\n".toList
    let dueVerb := CategorySet.single .verb
    let early : ParseError := .unexpected dueVerb ⟨"the".toList, .determiner, 1, ⟨13, 16⟩⟩
    let late : ParseError := .unexpected dueVerb ⟨sentinelText, .endOfInput, 2, .empty 15⟩
    Text.blank first = false ∧ lexicon.parse first = .error early ∧
      early.found ∈ (lexicon.tag first).words ∧
      (early.excerpt (some "in".toList) first).Whole ∧
      (∃ spot, early.PointsAtWord "in".toList first spot) ∧
      Text.blank second = false ∧ lexicon.parse second = .error late ∧
      late.found = (lexicon.tag second).sentinel ∧
      (∃ spot shown, late.PointsAtEnd none second spot shown) ∧
      late.EndsWithNote none second := by
  intro lexicon first second dueVerb early late
  have seen : Text.blank first = false := by decide +kernel
  have failed : lexicon.parse first = .error early := by decide +kernel
  have atWord : early.found ∈ (lexicon.tag first).words := by decide +kernel
  have whole : (early.excerpt (some "in".toList) first).Whole := by decide +kernel
  have otherSeen : Text.blank second = false := by decide +kernel
  have otherFailed : lexicon.parse second = .error late := by decide +kernel
  have atEnd : late.found = (lexicon.tag second).sentinel := by decide +kernel
  have short : Text.byteLength second < 2 ^ 64 := by decide +kernel
  have word := (drawing_points_at_offender seen failed).1 _ atWord whole
  obtain ⟨_, sentinel, note⟩ := drawing_points_at_offender otherSeen otherFailed
  exact ⟨seen, failed, atWord, whole, word, otherSeen, otherFailed, atEnd,
    sentinel none atEnd (.inr short), note none⟩

example :
    (unexpected (.single .verb) ⟨"the".toList, .determiner, 1, ⟨13, 16⟩⟩).render false
        (some "in".toList) (some "\u4E16\r\n\t\u4E16Dog the eats".toList) =
      Text.joinWith ['\n']
        ["error: expected V, found DET (\"the\") at position 1".toList,
          " --> in:2:7".toList,
          "  |".toList,
          "2 |     \u4E16Dog the eats".toList,
          "  |           ^^^ expected V".toList] := by
  decide +kernel

end ParseError

end SimpleSentence
