import SimpleSentence.Proofs.Report.Colour
import SimpleSentence.Proofs.Report.Listing
import SimpleSentence.Proofs.Snippet.Pointer
import SimpleSentence.Proofs.Text.Printed

/-!
The error line of a report. A message about a token of a text is made of plain
printable characters, so it is drawn as it is, and it fills the first line below
the verdict. No line in front of it begins like an error line.
-/

namespace SimpleSentence

/-! ### Printable messages -/

theorem CategorySet.printed_codes (set : CategorySet) : set.codes.all isPrinted = true := by
  apply List.all_eq_true.mpr
  intro char member
  rcases Text.mem_joinWith member with inBetween | ⟨part, listed, inside⟩
  · rw [List.mem_singleton.mp inBetween]
    decide
  · obtain ⟨category, _, rfl⟩ := List.mem_map.mp listed
    exact isPrinted_of_isWordLetter (category.isWord_code.2 char inside)

theorem ParseError.printed_message {error : ParseError}
    (printed : error.found.text.all isPrinted = true) : error.message.all isPrinted = true := by
  have found : (foundText error.found).all isPrinted = true := by
    have fixed : (" (".toList).all isPrinted = true ∧
        (") at position ".toList).all isPrinted = true := by decide
    simp only [foundText, List.all_append, Bool.and_eq_true]
    exact ⟨⟨⟨⟨(Category.isWord_code _).printed, fixed.1⟩, printed_quote printed⟩, fixed.2⟩,
      printed_numeral _⟩
  have joint : error.joint.all isPrinted = true := by
    cases error with
    | unexpected expected token => exact (by decide : (", found ".toList).all isPrinted = true)
    | trailing token => exact (by decide : (", found unconsumed ".toList).all isPrinted = true)
  rw [error.message_eq]
  simp only [List.all_append, Bool.and_eq_true]
  exact ⟨⟨⟨by decide, error.expected.printed_codes⟩, joint⟩, found⟩

/-! ### The offending token -/

section Failed

variable {lexicon : Lexicon} {text : Text} {error : ParseError}
  (failed : lexicon.parse text = .error error)
include failed

/-- The offending token is one of the words or the end mark. -/
theorem Lexicon.found_cases :
    error.found ∈ (lexicon.tag text).words ∨ error.found = (lexicon.tag text).sentinel := by
  obtain ⟨read, left, last, whole, _, _, rfl, _⟩ := Tagged.parse_failed rfl failed
  rw [last.error_found]
  cases left with
  | nil => exact .inr rfl
  | cons token rest =>
      left
      rw [whole]
      exact List.mem_append_right read List.mem_cons_self

theorem Lexicon.expected_nonempty : error.expected.isEmpty = false := by
  obtain ⟨_, _, last, _, _, _, rfl, _⟩ := Tagged.parse_failed rfl failed
  exact last.error_expected_nonempty _

theorem Lexicon.printed_message : error.message.all isPrinted = true := by
  apply ParseError.printed_message
  rcases found_cases failed with member | same
  · exact (isWord_of_mem_tag member).printed
  · rw [same]
    exact (by decide : sentinelText.all isPrinted = true)

end Failed

/-! ### The first line below the verdict -/

theorem ParseError.message_visible (error : ParseError) :
    ∃ char ∈ error.message.getLast?, Text.isBlank char = false := by
  obtain ⟨front, ends⟩ : ∃ front, error.message = front ++ Text.numeral error.found.index := by
    rw [error.message_eq, foundText, ← List.append_assoc]
    exact ⟨_, rfl⟩
  cases last : (Text.numeral error.found.index).getLast? with
  | none => exact absurd (List.getLast?_eq_none_iff.mp last) (Text.numeral_ne_nil _)
  | some char =>
      refine ⟨char, ?_, isBlank_of_isDigit (Text.isDigit_of_mem_numeral (List.mem_of_getLast? last))⟩
      rw [ends, List.getLast?_append, last]
      rfl

def errorMark : Text := "error: ".toList

namespace Snippet

theorem Excerpt.plainLine_titleLine (excerpt : Excerpt) :
    plainLine excerpt.titleLine = errorMark ++ picture excerpt.message := by
  rw [titleLine, plainLine_append, plainLine_styled, plainLine_styled]
  rfl

/-- The message of a failed text is drawn as it is. -/
theorem Excerpt.title_printed {lexicon : Lexicon} {text : Text} {error : ParseError}
    (failed : lexicon.parse text = .error error) (path : Option Text) :
    plainLine (error.excerpt path text).titleLine = errorMark ++ error.message := by
  rw [plainLine_titleLine]
  exact congrArg _ (picture_printed (Lexicon.printed_message failed))

end Snippet

namespace Report

/-- The first line that begins like an error line. -/
def errorLine? (report : Text) : Option Text := (Text.linesOf report).find? errorMark.isPrefixOf

theorem IsTableLine.no_error {line : Text} (isLine : IsTableLine line) :
    errorMark.isPrefixOf line = false := by
  obtain ⟨made, rfl, chars⟩ := isLine
  rw [Bool.eq_false_iff]
  intro begins
  have colon : ':' ∈ made ++ ['\n'] :=
    (List.isPrefixOf_iff_prefix.mp begins).subset (by decide : ':' ∈ errorMark)
  rcases List.mem_append.mp colon with inside | atEnd
  · exact absurd (chars ':' inside) (by decide)
  · exact absurd atEnd (by decide)

section Rejected

variable {lexicon : Lexicon} {text : Text} {error : ParseError}
  (failed : lexicon.parse text = .error error)
include failed

theorem verdict_rejected :
    ∃ below, verdict .colourless (lexicon.analyse text) =
      "rejected".toList ++ '\n' :: (errorMark ++ error.message ++ '\n' :: below) := by
  have outcome : (lexicon.analyse text).outcome = .error error := failed
  have shown : verdict .colourless (lexicon.analyse text) =
      "rejected".toList ++ '\n' :: (Text.trimEnd (error.render false none (some text)) ++
        ['\n']) := by
    rw [verdict, outcome]
    exact congrArg (· ++ _) (Palette.mark_colourless .rejected "rejected".toList)
  cases blank : Text.blank text with
  | true =>
      have plain : error.render false none (some text) = errorMark ++ error.message := by
        rw [ParseError.render, if_pos blank]
        rfl
      obtain ⟨char, last, visible⟩ := error.message_visible
      have ends : (errorMark ++ error.message).getLast? = some char := by
        rw [List.getLast?_append, Option.mem_def.mp last]
        rfl
      refine ⟨[], ?_⟩
      rw [shown, plain, Snippet.trimEnd_of_getLast? ends visible]
  | false =>
      obtain ⟨pointer, drawn⟩ := (error.excerpt none text).drawing_unplaced rfl
      have title := Snippet.Excerpt.title_printed failed none
      refine ⟨pointer.text ++ error.note ++ ['\n'], ?_⟩
      rw [shown, trimEnd_render (Lexicon.expected_nonempty failed) blank, drawn, title,
        List.append_assoc (errorMark ++ error.message)]
      rfl

/-- The error line of a report holds the message and nothing else. -/
theorem errorLine?_report {table : Text}
    (made : tagTable? .colourless (lexicon.tag text).words = some table) :
    errorLine? (table ++ '\n' :: verdict .colourless (lexicon.analyse text)) =
      some (errorMark ++ error.message ++ ['\n']) := by
  obtain ⟨below, shown⟩ := verdict_rejected failed
  have isWord : ∀ token ∈ (lexicon.tag text).words, token.text.IsWord :=
    fun token member => Lexicon.isWord_of_mem_tag member
  obtain ⟨header, rows, lines, _, table⟩ := linesOf_tagTable isWord made
    ('\n' :: verdict .colourless (lexicon.analyse text))
  have noError : (header :: rows).find? errorMark.isPrefixOf = none := by
    apply List.find?_eq_none.mpr
    intro line member begins
    rw [(table line member).no_error] at begins
    cases begins
  have single : '\n' ∉ errorMark ++ error.message := by
    intro member
    rcases List.mem_append.mp member with inMark | inMessage
    · exact absurd inMark (by decide)
    · exact absurd (List.all_eq_true.mp (Lexicon.printed_message failed) _ inMessage) (by decide)
  have empty := Text.linesOf_line (List.not_mem_nil (a := '\n'))
    (verdict .colourless (lexicon.analyse text))
  have verdictLine := Text.linesOf_line (by decide : '\n' ∉ "rejected".toList)
    (errorMark ++ error.message ++ '\n' :: below)
  have begins : errorMark.isPrefixOf (errorMark ++ error.message ++ ['\n']) = true := by
    rw [List.isPrefixOf_iff_prefix, List.append_assoc]
    exact List.prefix_append _ _
  rw [List.nil_append, List.nil_append] at empty
  rw [errorLine?, lines, List.find?_append, noError, Option.none_or, empty, shown,
    verdictLine, Text.linesOf_line single]
  rw [List.find?_cons_of_neg (by decide), List.find?_cons_of_neg (by decide),
    List.find?_cons_of_pos begins]

end Rejected

end Report

end SimpleSentence
