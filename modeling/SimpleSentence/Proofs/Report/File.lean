import SimpleSentence.Proofs.Views

/-!
The report on a file beside the report on its text. The first is made of the trimmed
text and the second of the text as it is, so the words stand in other places; but they
are the same words, and only where an error is pointed at depends on places. So both
hold the same table and tell the same outcome, unless nothing is left of the file.
Where one of them is missing for a word that is too long, the other is missing too.
-/

namespace SimpleSentence

section Alike

variable {error other : ParseError} (alike : error.Alike Token.SameWord other)
include alike

theorem ParseError.Alike.message_eq : error.message = other.message := by
  have named {found other : Token} (same : found.SameWord other) :
      foundText found = foundText other := by
    obtain ⟨text, category, index⟩ := same
    rw [foundText, foundText, text, category, index]
  rw [ParseError.message_eq, ParseError.message_eq]
  cases alike with
  | unexpected same => exact congrArg _ (named same)
  | trailing same => exact congrArg _ (named same)

theorem ParseError.Alike.note_eq : error.note = other.note := by
  cases alike with
  | unexpected same => rfl
  | trailing same => rfl

end Alike

namespace Report

/-- A table shows nothing of its tokens but their words and categories. -/
theorem tagTable?_unplaced (palette : Palette) (tokens : List Token) :
    tagTable? palette (tokens.map unplaced.token) = tagTable? palette tokens := by
  apply tagTable?_congr
  rw [List.map_map]
  rfl

theorem tagTable?_trim (palette : Palette) (lexicon : Lexicon) (text : Text) :
    tagTable? palette (lexicon.tag (Text.trim text)).words =
      tagTable? palette (lexicon.tag text).words := by
  have same := congrArg Tagged.words (lexicon.unplaced_tag_eq (Word.textsIn_trim text))
  rw [← tagTable?_unplaced, ← tagTable?_unplaced palette (lexicon.tag text).words]
  exact congrArg (tagTable? palette) same

/-- The text tells the outcome: the verdict with the outline of the tree, or the verdict with the
line of the error, lines that point at it, and its note behind them. -/
inductive Tells : Except ParseError Tree → Text → Prop where
  | accepted {tree : Tree} :
      Tells (.ok tree) (acceptedLine ++ '\n' :: (tree.outline ++ ['\n']))
  | rejected {error : ParseError} (oneLine : '\n' ∉ error.message) (pointer : Snippet.Pointer) :
      Tells (.error error)
        (rejectedLine ++ '\n' :: (errorMark ++ error.message ++ '\n' ::
          (pointer.text ++ error.note ++ ['\n'])))

theorem Tells.of_alike {outcome other : Except ParseError Tree}
    (judged : JudgedAlike Eq Token.SameWord outcome other) {told : Text}
    (tells : Tells outcome told) : Tells other told := by
  cases judged with
  | accepted same =>
      subst same
      exact tells
  | rejected alike =>
      cases tells with
      | rejected oneLine pointer =>
          rw [alike.message_eq] at oneLine
          rw [alike.message_eq, alike.note_eq]
          exact .rejected oneLine pointer

/-- The verdict on a text that is not blank tells the outcome. -/
theorem verdict_tells (lexicon : Lexicon) {text : Text} (visible : Text.blank text = false) :
    Tells (lexicon.parse text) (verdict .colourless (lexicon.analyse text)) := by
  have analysed : (lexicon.analyse text).outcome = lexicon.parse text := rfl
  cases parsed : lexicon.parse text with
  | ok tree =>
      rw [verdict, analysed, parsed]
      exact .accepted
  | error error =>
      have printed := Lexicon.printed_message parsed
      have oneLine : '\n' ∉ error.message := fun member =>
        absurd (List.all_eq_true.mp printed _ member) (by decide)
      obtain ⟨pointer, drawn⟩ := (error.excerpt none text).drawing_unplaced rfl
      have title := Snippet.Excerpt.title_printed parsed none
      have shown : verdict .colourless (lexicon.analyse text) =
          rejectedLine ++ '\n' :: (Text.trimEnd (error.render false none (some text)) ++
            ['\n']) := by
        rw [verdict, analysed, parsed]
        exact congrArg (· ++ _) (Palette.mark_colourless .rejected rejectedLine)
      have note : (error.excerpt none text).note = error.note := rfl
      rw [shown, trimEnd_render (Lexicon.expected_nonempty parsed) visible, drawn, title, note]
      have whole := Tells.rejected oneLine pointer
      simpa only [List.append_assoc, List.cons_append] using whole

theorem banner_colourless (name : Text) :
    banner .colourless name = "== ".toList ++ name ++ " ==\n".toList := by
  rw [banner, Palette.mark_colourless, List.append_assoc]
  rfl

/-- The report on a file with a table for its text. -/
theorem ofFile?_eq_some (lexicon : Lexicon) (name : Text) {text table : Text}
    (visible : Text.trim text ≠ [])
    (made : tagTable? .colourless (lexicon.tag text).words = some table) :
    ofFile? .colourless lexicon name text =
      some ("== ".toList ++ name ++ " ==\n".toList ++ Text.trim text ++ "\n\n".toList ++
        (table ++ '\n' :: verdict .colourless (lexicon.analyse (Text.trim text))) ++ ['\n']) := by
  have trimmed : tagTable? .colourless (lexicon.tag (Text.trim text)).words = some table :=
    (tagTable?_trim .colourless lexicon text).trans made
  rw [ofFile?, if_neg (by simpa using visible), ofAnalysis?_eq_some lexicon trimmed,
    Option.map_some, banner_colourless]
  generalize verdict .colourless (lexicon.analyse (Text.trim text)) = told
  simp only [List.append_assoc, List.cons_append]
  rfl

/-- The report on a file is its name, its trimmed text and a report on that; the report on the
text as it is has the same table and tells the same outcome. A file of blanks is called empty, and
its text is rejected before any word. For a word that no column is wide enough for, there is
neither report. -/
theorem file_report_agrees (lexicon : Lexicon) (name text : Text) :
    (text.Narrow → Text.trim text ≠ [] → ∃ table told other,
      ofFile? .colourless lexicon name text =
          some ("== ".toList ++ name ++ " ==\n".toList ++ Text.trim text ++ "\n\n".toList ++
            (table ++ '\n' :: told) ++ ['\n']) ∧
        ofAnalysis? .colourless (lexicon.analyse text) = some (table ++ '\n' :: other) ∧
        tagTable? .colourless (lexicon.tag text).words = some table ∧
        Tells (lexicon.parse text) told ∧ Tells (lexicon.parse text) other) ∧
      (Text.trim text = [] →
        ofFile? .colourless lexicon name text =
            some ("== ".toList ++ name ++ " ==\nempty file\n\n".toList) ∧
          lexicon.parse text = .error (.unexpected Grammar.nounPhraseStart
            ⟨sentinelText, .endOfInput, 0, .empty (Text.byteLength text)⟩)) ∧
      (¬ text.Narrow → ofFile? .colourless lexicon name text = none ∧
        ofAnalysis? .colourless (lexicon.analyse text) = none) := by
  constructor
  · intro narrow some
    have visible : Text.blank text = false :=
      Bool.eq_false_iff.mpr fun blank => some (Text.trim_of_blank blank)
    have trimmedVisible : Text.blank (Text.trim text) = false := by rwa [Text.blank_trim]
    have trimmed := verdict_tells lexicon trimmedVisible
    obtain ⟨table, made⟩ := exists_tagTable lexicon .colourless narrow
    exact ⟨table, _, _, ofFile?_eq_some lexicon name some made, ofAnalysis?_eq_some lexicon made,
      made, trimmed.of_alike (lexicon.parse_trim text), verdict_tells lexicon visible⟩
  constructor
  · intro nothing
    have empty : ofFile? .colourless lexicon name text =
        some (banner .colourless name ++ "empty file\n\n".toList) := by
      rw [ofFile?, nothing]
      rfl
    refine ⟨?_, lexicon.parse_blank (Text.blank_of_trim nothing)⟩
    rw [empty, banner_colourless, List.append_assoc]
    rfl
  · intro wide
    exact ⟨(ofFile?_eq_none_iff lexicon .colourless name).mpr wide,
      (ofAnalysis?_eq_none_iff lexicon .colourless).mpr wide⟩

-- Blanks of several bytes around words that are no sentence, and blanks alone.
theorem paddedFiles_agree :
    (Text.Narrow "\u3000The dog's\n\n".toList ∧ ∃ table told other,
      ofFile? .colourless (.ofRecords Lexicon.ateRecords) "a.txt".toList
            "\u3000The dog's\n\n".toList =
          some ("== a.txt ==\nThe dog's\n\n".toList ++ (table ++ '\n' :: told) ++ ['\n']) ∧
        ofAnalysis? .colourless
            ((Lexicon.ofRecords Lexicon.ateRecords).analyse "\u3000The dog's\n\n".toList) =
          some (table ++ '\n' :: other) ∧
        Tells ((Lexicon.ofRecords Lexicon.ateRecords).parse "\u3000The dog's\n\n".toList) told ∧
        Tells ((Lexicon.ofRecords Lexicon.ateRecords).parse "\u3000The dog's\n\n".toList) other) ∧
      ofFile? .colourless (.ofRecords Lexicon.ateRecords) "b.txt".toList "\u00A0\n".toList =
        some "== b.txt ==\nempty file\n\n".toList := by
  have trimmed : Text.trim "\u3000The dog's\n\n".toList = "The dog's".toList := by decide
  have narrow : Text.Narrow "\u3000The dog's\n\n".toList := by decide
  constructor
  · have agrees := (file_report_agrees (.ofRecords Lexicon.ateRecords) "a.txt".toList
      "\u3000The dog's\n\n".toList).1 narrow (by rw [trimmed]; decide)
    rw [trimmed] at agrees
    obtain ⟨table, told, other, file, text, _, tells⟩ := agrees
    exact ⟨narrow, table, told, other, file, text, tells⟩
  · exact ((file_report_agrees (.ofRecords Lexicon.ateRecords) "b.txt".toList
      "\u00A0\n".toList).2.1 (by decide)).1

/-- There are texts that are not blank and have no report, be they given as a file or not. -/
theorem longWord_without_file_report :
    Text.trim longWord ≠ [] ∧
      ¬ ∀ (lexicon : Lexicon) (name text : Text), Text.trim text ≠ [] → ∃ table told,
        ofFile? .colourless lexicon name text =
          some ("== ".toList ++ name ++ " ==\n".toList ++ Text.trim text ++ "\n\n".toList ++
            (table ++ '\n' :: told) ++ ['\n']) := by
  have visible : Text.trim longWord ≠ [] := fun nothing =>
    not_narrow_longWord (narrow_of_trim_nil nothing)
  refine ⟨visible, fun always => ?_⟩
  obtain ⟨_, _, made⟩ := always Lexicon.starter "a.txt".toList longWord visible
  rw [(ofFile?_eq_none_iff _ _ _).mpr not_narrow_longWord] at made
  cases made

end Report

end SimpleSentence
