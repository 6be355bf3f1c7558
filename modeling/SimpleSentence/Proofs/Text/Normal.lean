import Mathlib
import SimpleSentence.Lexicon

/-!
Normal forms. Trimming a second time changes nothing, so a trimmed marking is
read as the category of the marking itself. A simple word has no blanks and only
ASCII letters to lower, so in lowercase it is a simple word that neither trimming
nor lowering changes.
-/

namespace SimpleSentence

namespace Text

theorem head_of_dropWhile {drop : Char → Bool} {text rest : Text} {first : Char}
    (shape : text.dropWhile drop = first :: rest) : drop first = false := by
  have head := List.head?_dropWhile_not drop text
  rw [shape] at head
  exact head

-- Trimming the end of a text leaves a prefix of it, so the first character stays.
theorem dropWhile_trimBy (drop : Char → Bool) (text : Text) :
    (trimBy drop text).dropWhile drop = trimBy drop text := by
  cases shape : trimBy drop text with
  | nil => rfl
  | cons first rest =>
      have front : trimBy drop text <+: text.dropWhile drop :=
        List.rdropWhile_prefix drop (text.dropWhile drop)
      rcases front with ⟨more, whole⟩
      rw [shape] at whole
      have kept := head_of_dropWhile whole.symm
      rw [List.dropWhile_cons, kept]
      rfl

theorem trimBy_trimBy (drop : Char → Bool) (text : Text) :
    trimBy drop (trimBy drop text) = trimBy drop text := by
  have begun := dropWhile_trimBy drop text
  have ended : trimEndBy drop (trimBy drop text) = trimBy drop text :=
    List.rdropWhile_idempotent drop (text.dropWhile drop)
  calc
    trimBy drop (trimBy drop text)
        = trimEndBy drop ((trimBy drop text).dropWhile drop) := rfl
    _ = trimBy drop text := by rw [begun, ended]

theorem trim_trim (text : Text) : trim (trim text) = trim text := trimBy_trimBy isBlank text

theorem trim_of_not_blank {text : Text} (solid : ∀ char ∈ text, isBlank char = false) :
    trim text = text := by
  have begun : text.dropWhile isBlank = text := by
    cases text with
    | nil => rfl
    | cons first rest =>
        rw [List.dropWhile_cons, solid first List.mem_cons_self]
        rfl
  have ended : List.rdropWhile isBlank text = text := by
    apply List.rdropWhile_eq_self_iff.mpr
    intro some blank
    rw [solid _ (List.getLast_mem some)] at blank
    cases blank
  calc
    trim text = List.rdropWhile isBlank (text.dropWhile isBlank) := rfl
    _ = text := by rw [begun, ended]

end Text

theorem Category.ofMarking_trim (marking : Text) :
    ofMarking (Text.trim marking) = ofMarking marking := by
  have same : normalizeMarking (Text.trim marking) = normalizeMarking marking := by
    rw [normalizeMarking, Text.trim_trim]
    rfl
  rw [ofMarking, same]
  rfl

theorem isUpper_iff (char : Char) :
    char.isUpper = true ↔ 65 ≤ char.toNat ∧ char.toNat ≤ 90 := by
  have range : char.isUpper = decide (65 ≤ char.val ∧ char.val ≤ 90) := rfl
  rw [range, decide_eq_true_iff, UInt32.le_iff_toNat_le, UInt32.le_iff_toNat_le]
  rfl

theorem isLower_iff (char : Char) :
    char.isLower = true ↔ 97 ≤ char.toNat ∧ char.toNat ≤ 122 := by
  have range : char.isLower = (decide (97 ≤ char.val) && decide (char.val ≤ 122)) := rfl
  rw [range, Bool.and_eq_true, decide_eq_true_iff, decide_eq_true_iff, UInt32.le_iff_toNat_le,
    UInt32.le_iff_toNat_le]
  rfl

theorem isSimpleLetter_iff (char : Char) :
    isSimpleLetter char = true ↔
      char.isUpper = true ∨ char.isLower = true ∨ char = '\'' ∨ char = '-' := by
  have classes : isSimpleLetter char =
      (char.isUpper || char.isLower || char == '\'' || char == '-') := rfl
  rw [classes]
  simp [or_assoc]

theorem toNat_lt_of_isSimpleLetter {char : Char} (simple : isSimpleLetter char = true) :
    32 < char.toNat ∧ char.toNat < 128 := by
  rcases (isSimpleLetter_iff char).mp simple with upper | lower | rfl | rfl
  · have range := (isUpper_iff char).mp upper
    omega
  · have range := (isLower_iff char).mp lower
    omega
  · decide
  · decide

theorem isBlank_of_isSimpleLetter {char : Char} (simple : isSimpleLetter char = true) :
    Text.isBlank char = false := by
  have range := toNat_lt_of_isSimpleLetter simple
  simp only [Text.isBlank, Bool.or_eq_false_iff, Bool.and_eq_false_iff, decide_eq_false_iff_not,
    beq_eq_false_iff_ne]
  omega

theorem isSimpleLetter_toLower {char : Char} (simple : isSimpleLetter char = true) :
    isSimpleLetter char.toLower = true ∧ ¬ char.toLower.isUpper = true := by
  refine ⟨?_, by simp⟩
  by_cases upper : char.isUpper = true
  · have lower : char.toLower.isLower = true := by simp [Char.isAlpha, upper]
    exact (isSimpleLetter_iff _).mpr (.inr (.inl lower))
  · rwa [Char.toLower_eq_of_not_isUpper upper]

theorem lowerChar_of_isSimpleLetter {char : Char} (simple : isSimpleLetter char = true) :
    Text.lowerChar char = [char.toLower] := by
  by_cases upper : char.isUpper = true
  · exact if_pos upper
  · have range := toNat_lt_of_isSimpleLetter simple
    have notKelvin : char ≠ '\u212A' := by
      rintro rfl
      exact absurd range.2 (by decide)
    have notDotted : char ≠ '\u0130' := by
      rintro rfl
      exact absurd range.2 (by decide)
    rw [Text.lowerChar, if_neg upper, if_neg notKelvin, if_neg notDotted,
      Char.toLower_eq_of_not_isUpper upper]

theorem isSimpleWord_iff (word : Text) :
    isSimpleWord word = true ↔ word ≠ [] ∧ ∀ char ∈ word, isSimpleLetter char = true := by
  simp [isSimpleWord]

theorem Text.trim_of_isSimpleWord {word : Text} (simple : isSimpleWord word = true) :
    trim word = word :=
  trim_of_not_blank fun char member =>
    isBlank_of_isSimpleLetter (((isSimpleWord_iff word).mp simple).2 char member)

theorem Text.lower_of_letters {word : Text}
    (letters : ∀ char ∈ word, isSimpleLetter char = true) :
    lower word = word.map Char.toLower := by
  induction word with
  | nil => rfl
  | cons first rest ih =>
      have later := ih fun char member => letters char (List.mem_cons_of_mem first member)
      rw [lower, lowerChar_of_isSimpleLetter (letters first List.mem_cons_self), later]
      rfl

/-- In lowercase a simple word is a simple word without capitals. -/
theorem isSimpleWord_lower {word : Text} (simple : isSimpleWord word = true) :
    isSimpleWord (Text.lower word) = true ∧
      ∀ char ∈ Text.lower word, ¬ char.isUpper = true := by
  rcases (isSimpleWord_iff word).mp simple with ⟨some, letters⟩
  rw [Text.lower_of_letters letters]
  constructor
  · apply (isSimpleWord_iff _).mpr
    constructor
    · simpa using some
    · intro char member
      rcases List.mem_map.mp member with ⟨source, inside, rfl⟩
      exact (isSimpleLetter_toLower (letters source inside)).1
  · intro char member
    rcases List.mem_map.mp member with ⟨source, inside, rfl⟩
    exact (isSimpleLetter_toLower (letters source inside)).2

theorem Text.lower_lower {word : Text} (simple : isSimpleWord word = true) :
    lower (lower word) = lower word := by
  rcases isSimpleWord_lower simple with ⟨again, small⟩
  rw [lower_of_letters ((isSimpleWord_iff _).mp again).2]
  calc
    (lower word).map Char.toLower
        = (lower word).map id :=
          List.map_congr_left fun char member => Char.toLower_eq_of_not_isUpper (small char member)
    _ = lower word := List.map_id _

end SimpleSentence
