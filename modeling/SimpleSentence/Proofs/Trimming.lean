import SimpleSentence.Proofs.Respacing
import SimpleSentence.Proofs.Text.Normal

/-!
Trimming takes no word away. What it takes from the ends of a text are blanks, and
no letter is blank, so a text and its trimmed form have the same words; of a blank
text nothing is left, and it has no word that a parser could read.
-/

namespace SimpleSentence

theorem isWordLetter_of_isBlank {char : Char} (blank : Text.isBlank char = true) :
    isWordLetter char = false := by
  cases letter : isWordLetter char with
  | false => rfl
  | true =>
      have simple : isSimpleLetter char = true := Bool.or_eq_true_iff.mpr (.inl letter)
      rw [isBlank_of_isSimpleLetter simple] at blank
      cases blank

namespace Text

/-- What is trimmed stood between blanks. -/
theorem trim_parts (text : Text) :
    ∃ front back, text = front ++ trim text ++ back ∧
      (∀ char ∈ front, isBlank char = true) ∧ ∀ char ∈ back, isBlank char = true := by
  let begun := text.dropWhile isBlank
  refine ⟨text.takeWhile isBlank, (begun.reverse.takeWhile isBlank).reverse, ?_, ?_, ?_⟩
  · have ended : begun = trim text ++ (begun.reverse.takeWhile isBlank).reverse := by
      calc
        begun = (begun.reverse.takeWhile isBlank ++ begun.reverse.dropWhile isBlank).reverse := by
          rw [List.takeWhile_append_dropWhile, List.reverse_reverse]
        _ = trim text ++ (begun.reverse.takeWhile isBlank).reverse := List.reverse_append
    rw [List.append_assoc, ← ended]
    exact List.takeWhile_append_dropWhile.symm
  · exact fun char member => List.mem_takeWhile_imp member
  · exact fun char member => List.mem_takeWhile_imp (List.mem_reverse.mp member)

theorem blank_of_trim {text : Text} (nothing : trim text = []) : blank text = true := by
  obtain ⟨front, back, whole, frontBlank, backBlank⟩ := trim_parts text
  rw [nothing, List.append_nil] at whole
  rw [blank, whole, List.all_append, List.all_eq_true.mpr frontBlank,
    List.all_eq_true.mpr backBlank, Bool.and_self]

theorem trim_of_blank {text : Text} (isBlank : blank text = true) : trim text = [] := by
  have begun : text.dropWhile Text.isBlank = [] :=
    List.dropWhile_eq_nil_iff.mpr (List.all_eq_true.mp isBlank)
  rw [trim, trimBy, begun]
  rfl

theorem blank_trim (text : Text) : blank (trim text) = blank text := by
  rw [Bool.eq_iff_iff]
  constructor
  · intro isBlank
    apply blank_of_trim
    rw [← trim_trim]
    exact trim_of_blank isBlank
  · intro isBlank
    rw [trim_of_blank isBlank]
    rfl

end Text

namespace Word

variable {gap : Text} (separators : ∀ char ∈ gap, isWordLetter char = false)
include separators

theorem textsIn_append_separators (text : Text) : textsIn (text ++ gap) = textsIn text := by
  induction cut text with
  | nothing =>
      have passed := @textsIn_separators [] gap separators
      rwa [List.append_nil] at passed
  | separator separator _ ih =>
      rw [List.cons_append, textsIn_separator separator, textsIn_separator separator, ih]
  | @run run rest word ended _ ih =>
      have stillEnded : ∀ char ∈ (rest ++ gap).head?, isWordLetter char = false := by
        cases rest with
        | nil => exact fun char head => separators char (List.mem_of_mem_head? head)
        | cons next more => exact ended
      rw [List.append_assoc, textsIn_run word stillEnded, textsIn_run word ended, ih]

end Word

theorem Word.textsIn_trim (text : Text) : textsIn (Text.trim text) = textsIn text := by
  obtain ⟨front, back, whole, frontBlank, backBlank⟩ := Text.trim_parts text
  have frontSeparates : ∀ char ∈ front, isWordLetter char = false :=
    fun char member => isWordLetter_of_isBlank (frontBlank char member)
  have backSeparates : ∀ char ∈ back, isWordLetter char = false :=
    fun char member => isWordLetter_of_isBlank (backBlank char member)
  conv_rhs => rw [whole]
  rw [List.append_assoc, textsIn_separators frontSeparates, textsIn_append_separators backSeparates]

theorem Word.allIn_blank {text : Text} (blank : Text.blank text = true) : allIn text = [] := by
  have texts := textsIn_trim text
  rw [Text.trim_of_blank blank] at texts
  exact List.map_eq_nil_iff.mp texts.symm

namespace Lexicon

/-- A blank text is rejected at its end, before any word. -/
theorem parse_blank (lexicon : Lexicon) {text : Text} (blank : Text.blank text = true) :
    lexicon.parse text = .error (.unexpected Grammar.nounPhraseStart
      ⟨sentinelText, .endOfInput, 0, .empty (Text.byteLength text)⟩) := by
  rw [Lexicon.parse, Lexicon.tag, Word.allIn_blank blank]
  rfl

theorem parse_trim (lexicon : Lexicon) (text : Text) :
    JudgedAlike Eq Token.SameWord (lexicon.parse (Text.trim text)) (lexicon.parse text) :=
  lexicon.parse_sameWords (Word.textsIn_trim text)

end Lexicon

end SimpleSentence
