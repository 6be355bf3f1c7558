import SimpleSentence.Proofs.FirstFailure
import SimpleSentence.Proofs.Report.Limit
import SimpleSentence.Proofs.Snippet.Shown
import SimpleSentence.Proofs.Tagging
import SimpleSentence.Proofs.Text.Normal
import SimpleSentence.Proofs.Tree.Legible

/-!
A report in colour is the report without colours and some sequences. What a report
marks is padded before it is marked, so both palettes lay it out alike, and none
of what it prints holds an escape character: words are letters, the source is
drawn, and the rest are fixed texts. The error is trimmed at its end; the trim
takes nothing from a drawing, and a blank text gets one line without colours.
-/

namespace SimpleSentence

open Text (escapeMark Shows)

section Clean

variable {text : Text}

theorem Text.IsWord.clean (word : text.IsWord) : escapeMark ∉ text := by
  intro member
  exact absurd (word.2 _ member) (by decide)

theorem Text.clean_padRight (width : Text.PadWidth) (clean : escapeMark ∉ text) :
    escapeMark ∉ Text.padRight width text := by
  intro member
  rcases Text.mem_padRight member with inText | same
  · exact clean inText
  · exact absurd same (by decide)

theorem Category.clean_description (category : Category) : escapeMark ∉ category.description := by
  cases category <;> decide

theorem Tree.clean_indent (level : Nat) : escapeMark ∉ Tree.indent level := by
  intro member
  exact absurd (List.mem_replicate.mp member).2 (by decide)

theorem Text.clean_joinWith {between : Text} {parts : List Text} (gap : escapeMark ∉ between)
    (clean : ∀ part ∈ parts, escapeMark ∉ part) : escapeMark ∉ Text.joinWith between parts := by
  intro member
  rcases Text.mem_joinWith member with inBetween | ⟨part, listed, inside⟩
  · exact gap inBetween
  · exact clean part listed inside

theorem Text.clean_trimEnd (clean : escapeMark ∉ text) : escapeMark ∉ Text.trimEnd text := by
  intro member
  have kept := (List.dropWhile_sublist _).subset (List.mem_reverse.mp member)
  exact clean (List.mem_reverse.mp kept)

theorem CategorySet.clean_codes (set : CategorySet) : escapeMark ∉ set.codes := by
  apply Text.clean_joinWith (by decide)
  intro part member
  obtain ⟨category, _, rfl⟩ := List.mem_map.mp member
  exact category.isWord_code.clean

theorem ParseError.clean_note (error : ParseError) : escapeMark ∉ error.note := by
  cases error with
  | unexpected expected found =>
      have text : (unexpected expected found).note = "expected ".toList ++ expected.codes := rfl
      rw [text, List.mem_append, not_or]
      exact ⟨by decide, expected.clean_codes⟩
  | trailing found =>
      have text : (trailing found).note = "not covered by the grammar".toList := rfl
      rw [text]
      decide

mutual

theorem Tree.clean_outlineAt (level : Nat) : ∀ tree : Tree,
    (∀ word ∈ tree.words, escapeMark ∉ word) → escapeMark ∉ tree.outlineAt level
  | .phrase kind children, clean => by
      have below := Tree.clean_outlineOf (level + 1) children clean
      simp only [outlineAt, List.mem_append, not_or]
      exact ⟨⟨clean_indent level, kind.isWord_label.clean⟩, below⟩
  | .word text category _, clean => by
      have own := clean text List.mem_cons_self
      simp only [outlineAt, List.mem_append, List.mem_cons, not_or]
      exact ⟨clean_indent level, own, by decide, category.isWord_code.clean⟩

theorem Tree.clean_outlineOf (level : Nat) : ∀ trees : List Tree,
    (∀ word ∈ Tree.wordsOf trees, escapeMark ∉ word) → escapeMark ∉ Tree.outlineOf level trees
  | [], _ => List.not_mem_nil
  | first :: rest, clean => by
      have own := Tree.clean_outlineAt level first fun word member =>
        clean word (List.mem_append_left _ member)
      have later := Tree.clean_outlineOf level rest fun word member =>
        clean word (List.mem_append_right _ member)
      simp only [outlineOf, List.mem_cons, List.mem_append, not_or]
      exact ⟨by decide, own, later⟩

end

/-- The words that are tagged are words of the text. -/
theorem Lexicon.isWord_of_mem_tag {lexicon : Lexicon} {token : Token}
    (member : token ∈ (lexicon.tag text).words) : token.text.IsWord := by
  obtain ⟨word, inside, place, rfl⟩ := Lexicon.mem_tokensFrom member
  exact (Word.allFrom_word 0 text word inside).1

theorem Lexicon.clean_outline {lexicon : Lexicon} {tree : Tree}
    (parsed : lexicon.parse text = .ok tree) : escapeMark ∉ tree.outline := by
  apply Tree.clean_outlineAt
  intro word member
  rw [words_of_parse parsed] at member
  exact (Word.isWord_of_mem member).clean

end Clean

theorem Palette.shows_mark (role : Role) {text : Text} (clean : escapeMark ∉ text) :
    Shows (coloured.mark role text) (colourless.mark role text) := by
  have opened : Shows (coloured.opening role) [] := by
    apply Shows.sequence
    cases role <;> decide
  have closed : Shows coloured.closing [] := @Shows.sequence ['0'] (by decide)
  exact (opened.append (.of_clean clean)).append closed

/-- A message about a token that is quoted without escape characters has none. -/
theorem ParseError.clean_plainMessage {error : ParseError}
    (quoted : escapeMark ∉ Text.quote error.found.text) : escapeMark ∉ error.plainMessage := by
  have found : escapeMark ∉ foundText error.found := by
    simp only [foundText, List.mem_append, not_or]
    exact ⟨⟨⟨⟨(Category.isWord_code _).clean, by decide⟩, quoted⟩, by decide⟩,
      Snippet.escapeMark_not_mem_numeral _⟩
  have joint : escapeMark ∉ error.joint := by
    cases error with
    | unexpected expected token => exact (by decide : escapeMark ∉ ", found ".toList)
    | trailing token => exact (by decide : escapeMark ∉ ", found unconsumed ".toList)
  unfold plainMessage
  rw [error.message_eq]
  simp only [List.mem_append, not_or]
  exact ⟨by decide, ⟨⟨by decide, error.expected.clean_codes⟩, joint⟩, found⟩

/-- A set that is not empty has a member. -/
theorem CategorySet.members_ne_nil {set : CategorySet} (some : set.isEmpty = false) :
    set.members ≠ [] := by
  intro none
  have nothing (category : Category) : set.contains category = empty.contains category := by
    have outside := List.filter_eq_nil_iff.mp none category category.mem_all
    rw [contains_empty, Bool.eq_false_iff]
    exact outside
  rw [CategorySet.ext nothing] at some
  cases some

theorem CategorySet.codes_visible {set : CategorySet} (some : set.isEmpty = false) :
    ∃ char ∈ set.codes.getLast?, Text.isBlank char = false := by
  obtain ⟨char, last, visible⟩ : ∃ char ∈
      (set.members.getLast (members_ne_nil some)).code.getLast?, Text.isBlank char = false := by
    generalize set.members.getLast (members_ne_nil some) = category
    cases category <;> exact ⟨_, rfl, by decide⟩
  have ends : (set.members.map Category.code).getLast? =
      .some (set.members.getLast (members_ne_nil some)).code := by
    rw [List.getLast?_map, List.getLast?_eq_some_getLast (members_ne_nil some)]
    rfl
  exact ⟨char, Snippet.getLast?_joinWith _ ends last, visible⟩

theorem ParseError.note_visible {error : ParseError} (some : error.expected.isEmpty = false) :
    ∃ char ∈ error.note.getLast?, Text.isBlank char = false := by
  cases error with
  | unexpected expected found =>
      obtain ⟨char, last, visible⟩ := @CategorySet.codes_visible expected some
      have text : (unexpected expected found).note = "expected ".toList ++ expected.codes := rfl
      refine ⟨char, ?_, visible⟩
      rw [text, List.getLast?_append, Option.mem_def.mp last]
      rfl
  | trailing found => exact ⟨'r', rfl, by decide⟩

namespace Report

open Palette (coloured colourless)

theorem shows_headerRow (words tags : Text.PadWidth) :
    Shows (headerRow coloured words tags) (headerRow colourless words tags) := by
  have titles : escapeMark ∉ Text.padRight words wordHeader ++ gap ++
      Text.padRight tags tagHeader ++ gap ++ meaningHeader := by
    simp only [List.mem_append, not_or]
    exact ⟨⟨⟨⟨Text.clean_padRight _ (by decide), by decide⟩,
      Text.clean_padRight _ (by decide)⟩, by decide⟩, by decide⟩
  exact (Palette.shows_mark .header titles).append (.of_clean (by decide))

theorem shows_tokenRow (words tags : Text.PadWidth) {token : Token}
    (clean : escapeMark ∉ token.text) :
    Shows (tokenRow coloured words tags token) (tokenRow colourless words tags token) := by
  have gapShown : Shows gap gap := .of_clean (by decide)
  have word := Shows.of_clean (Text.clean_padRight words clean)
  have tag := Palette.shows_mark .tag (Text.clean_padRight tags token.category.isWord_code.clean)
  have meaning := Shows.of_clean token.category.clean_description
  exact ((((word.append gapShown).append tag).append gapShown).append meaning).append
    (.of_clean (by decide))

theorem shows_tagRows {tokens : List Token} (clean : ∀ token ∈ tokens, escapeMark ∉ token.text)
    (words tags : Text.PadWidth) :
    Shows (tagRows coloured words tags tokens) (tagRows colourless words tags tokens) := by
  suffices rows : Shows (tokens.flatMap (tokenRow coloured words tags))
      (tokens.flatMap (tokenRow colourless words tags)) from
    (shows_headerRow words tags).append rows
  induction tokens with
  | nil => exact .of_clean List.not_mem_nil
  | cons first rest ih =>
      have own := shows_tokenRow words tags (clean first List.mem_cons_self)
      exact own.append (ih fun token member => clean token (List.mem_cons_of_mem first member))

section Drawn

variable {error : ParseError} (some : error.expected.isEmpty = false) {source : Text}
  (visible : Text.blank source = false)
include some visible

/-- An error shown against a text that is not blank is drawn, and a drawing is not trimmed. -/
theorem trimEnd_render (inColour : Bool) :
    Text.trimEnd (error.render inColour none (.some source)) =
      Snippet.drawingText inColour (error.excerpt none source).lines := by
  have whole : error.render inColour none (.some source) =
      Snippet.drawingText inColour (error.excerpt none source).lines := by
    rw [ParseError.render, if_neg (by rw [visible]; exact Bool.false_ne_true)]
    rfl
  rw [whole]
  exact Snippet.trimEnd_drawingText ((error.excerpt none source).lines_endsMarked
    (error.note_visible some)) inColour

theorem shows_drawnError :
    Shows (Text.trimEnd (error.render true none (.some source)))
      (Text.trimEnd (error.render false none (.some source))) := by
  rw [trimEnd_render some visible, trimEnd_render some visible]
  apply Snippet.shows_drawing
  apply Snippet.Excerpt.clean_lines error.clean_note
  intro path member
  cases member

end Drawn

/-- A blank text has no words, and it is rejected with one line in one style. -/
theorem shows_blankError {lexicon : Lexicon} {text : Text} (blank : Text.blank text = true)
    {error : ParseError} (failed : lexicon.parse text = .error error) :
    Shows (Text.trimEnd (error.render true none (some text)))
      (Text.trimEnd (error.render false none (some text))) := by
  have plain (inColour : Bool) : error.render inColour none (some text) = error.plainMessage := by
    rw [ParseError.render, if_pos blank]
  rw [plain, plain]
  apply Shows.of_clean
  apply Text.clean_trimEnd
  rw [lexicon.parse_blank blank] at failed
  cases failed
  apply ParseError.clean_plainMessage
  show escapeMark ∉ Text.quote sentinelText
  decide

theorem shows_error {lexicon : Lexicon} {text : Text} {error : ParseError}
    (failed : lexicon.parse text = .error error) :
    Shows (Text.trimEnd (error.render true none (some text)))
      (Text.trimEnd (error.render false none (some text))) := by
  obtain ⟨_, _, last, _, _, _, rfl, _⟩ := Tagged.parse_failed rfl failed
  cases blank : Text.blank text with
  | true => exact shows_blankError blank failed
  | false => exact shows_drawnError (last.error_expected_nonempty _) blank

theorem shows_verdict (lexicon : Lexicon) (text : Text) :
    Shows (verdict coloured (lexicon.analyse text))
      (verdict colourless (lexicon.analyse text)) := by
  have feed : escapeMark ∉ ['\n'] := by decide
  unfold verdict
  cases outcome : (lexicon.analyse text).outcome with
  | ok tree =>
      have mark := @Palette.shows_mark .accepted "accepted".toList (by decide)
      have outline := Shows.of_clean (Lexicon.clean_outline outcome)
      exact mark.append ((outline.append (.of_clean feed)).cons (by decide))
  | error error =>
      have mark := @Palette.shows_mark .rejected "rejected".toList (by decide)
      exact mark.append (((shows_error outcome).append (.of_clean feed)).cons (by decide))

/-- Without its sequences the report in colour is the report without colours, and that one has
no escape character, whatever the text holds. Only a word that no column is wide enough for takes
both reports away. -/
theorem colour_adds_only_sequences (lexicon : Lexicon) (text : Text) :
    (text.Narrow → ∃ inColour plain,
      ofAnalysis? coloured (lexicon.analyse text) = some inColour ∧
        ofAnalysis? colourless (lexicon.analyse text) = some plain ∧
        Text.uncoloured inColour = plain ∧ escapeMark ∉ plain) ∧
      (¬ text.Narrow → ∀ palette, ofAnalysis? palette (lexicon.analyse text) = none) := by
  constructor
  · intro narrow
    have width := (wordWidth_tag_le_iff lexicon).mpr narrow
    have clean : ∀ token ∈ (lexicon.tag text).words, escapeMark ∉ token.text :=
      fun token member => (Lexicon.isWord_of_mem_tag member).clean
    have table := shows_tagRows clean ⟨_, width⟩ ⟨_, tagWidth_le (lexicon.tag text).words⟩
    have whole := table.append (@Shows.cons _ _ '\n' (by decide) (shows_verdict lexicon text))
    exact ⟨_, _, ofAnalysis?_eq_some lexicon (tagTable?_narrow coloured width),
      ofAnalysis?_eq_some lexicon (tagTable?_narrow colourless width), whole.uncoloured_eq,
      whole.clean⟩
  · exact fun wide palette => (ofAnalysis?_eq_none_iff lexicon palette).mpr wide

-- A text that is rejected behind an escape sequence of its own.
def escapedText : Text := "The \x1b[31mdog".toList

theorem escapedText_uncoloured :
    escapedText.Narrow ∧ ∃ inColour plain,
      ofAnalysis? coloured (Lexicon.starter.analyse escapedText) = some inColour ∧
        ofAnalysis? colourless (Lexicon.starter.analyse escapedText) = some plain ∧
        Text.uncoloured inColour = plain ∧ escapeMark ∉ plain := by
  have narrow : escapedText.Narrow := by decide
  exact ⟨narrow, (colour_adds_only_sequences _ _).1 narrow⟩

/-- There are texts on which no report can be made, in colour or without. -/
theorem longWord_never_coloured :
    ¬ ∀ (lexicon : Lexicon) (text : Text), ∃ inColour plain,
      ofAnalysis? coloured (lexicon.analyse text) = some inColour ∧
        ofAnalysis? colourless (lexicon.analyse text) = some plain ∧
        Text.uncoloured inColour = plain := by
  intro always
  obtain ⟨inColour, _, made, _⟩ := always Lexicon.starter longWord
  rw [(ofAnalysis?_eq_none_iff _ _).mpr not_narrow_longWord] at made
  cases made

end Report

end SimpleSentence
