import SimpleSentence.Proofs.Text.Normal
import SimpleSentence.Proofs.Words
import SimpleSentence.Snippet.Drawing
import SimpleSentence.Text.Quoted

/-!
Printed characters are those from the blank up to the tilde. Each takes one byte and
one terminal column and is drawn as itself, so in a printed text the three measures
agree; words and numbers are printed, and quoting leaves a printed text printed.
-/

namespace SimpleSentence

def isPrinted (char : Char) : Bool := 0x20 ≤ char.toNat && char.toNat < 0x7F

theorem isPrinted_iff (char : Char) :
    isPrinted char = true ↔ 0x20 ≤ char.toNat ∧ char.toNat < 0x7F := by
  simp [isPrinted]

theorem isPrinted_of_isWordLetter {char : Char} (letter : isWordLetter char = true) :
    isPrinted char = true := by
  have simple : isSimpleLetter char = true := Bool.or_eq_true_iff.mpr (.inl letter)
  rw [isPrinted_iff]
  rcases (isSimpleLetter_iff char).mp simple with upper | lower | rfl | rfl
  · have range := (isUpper_iff char).mp upper
    omega
  · have range := (isLower_iff char).mp lower
    omega
  · decide
  · decide

theorem isDigit_iff (char : Char) :
    char.isDigit = true ↔ 48 ≤ char.toNat ∧ char.toNat ≤ 57 := by
  have range : char.isDigit = (decide (48 ≤ char.val) && decide (char.val ≤ 57)) := rfl
  rw [range, Bool.and_eq_true, decide_eq_true_iff, decide_eq_true_iff, UInt32.le_iff_toNat_le,
    UInt32.le_iff_toNat_le]
  rfl

theorem isPrinted_of_isDigit {char : Char} (digit : char.isDigit = true) :
    isPrinted char = true := by
  have range := (isDigit_iff char).mp digit
  rw [isPrinted_iff]
  omega

theorem isBlank_of_isDigit {char : Char} (digit : char.isDigit = true) :
    Text.isBlank char = false := by
  have range := (isDigit_iff char).mp digit
  simp [Text.isBlank]
  omega

section Printed

variable {text : Text}

theorem Text.IsWord.printed (isWord : text.IsWord) : text.all isPrinted = true :=
  List.all_eq_true.mpr fun char member => isPrinted_of_isWordLetter (isWord.2 char member)

theorem printed_numeral (number : Nat) : (Text.numeral number).all isPrinted = true := by
  apply List.all_eq_true.mpr
  intro char member
  exact isPrinted_of_isDigit (Text.isDigit_of_mem_numeral member)

theorem isUnprintable_of_isPrinted {char : Char} (printed : isPrinted char = true) :
    Text.isUnprintable char = false := by
  obtain ⟨low, high⟩ := (isPrinted_iff char).mp printed
  have noControl : ¬ char.toNat < 0x20 := Nat.not_lt.mpr low
  have noDelete : ¬ 0x7F ≤ char.toNat := Nat.not_le.mpr high
  simp [Text.isUnprintable, noControl, noDelete]

theorem printed_escapeChar {char : Char} (printed : isPrinted char = true) :
    (Text.escapeChar char).all isPrinted = true := by
  have backslash : isPrinted '\\' = true := by decide
  unfold Text.escapeChar
  rw [isUnprintable_of_isPrinted printed]
  repeat' split
  · simp [backslash, printed]
  · decide
  · decide
  · decide
  · decide
  · next never => cases never
  · simp [printed]

theorem printed_quote (printed : text.all isPrinted = true) :
    (Text.quote text).all isPrinted = true := by
  have escaped : (Text.escape text).all isPrinted = true := by
    induction text with
    | nil => rfl
    | cons char rest ih =>
        rw [List.all_cons, Bool.and_eq_true] at printed
        rw [Text.escape, List.all_append, printed_escapeChar printed.1, ih printed.2]
        rfl
  have mark : isPrinted '"' = true := by decide
  simp [Text.quote, escaped, mark]

theorem utf8Size_of_isPrinted {char : Char} (printed : isPrinted char = true) :
    char.utf8Size = 1 := by
  have bound : char.toNat < 0x7F := ((isPrinted_iff char).mp printed).2
  exact Char.utf8Size_eq_one_iff.mpr (UInt32.le_iff_toNat_le.mpr (Nat.le_of_lt bound))

theorem turnsDirection_of_low {char : Char} (low : char.toNat < 0xAD) :
    Text.turnsDirection char = false := by
  simp only [Text.turnsDirection, Bool.or_eq_false_iff, Bool.and_eq_false_iff,
    decide_eq_false_iff_not]
  omega

/-- Below the soft hyphen nothing combines and nothing is wide. -/
theorem columnsOf_of_low {char : Char} (low : char.toNat < 0xAD) (noTab : char ≠ '\t') :
    Text.columnsOf char = 1 := by
  have other (high : Char) (bound : 0xAD ≤ high.toNat) : char ≠ high := by
    rintro rfl
    exact Nat.not_le.mpr low bound
  have joins : (Text.isCombining char || Text.isIgnorable char || Text.isAttached char) = false := by
    have noCombining : ¬ 0x300 ≤ char.toNat := by omega
    have noAttached : ¬ 0x5C8 ≤ char.toNat := by omega
    simp [Text.isCombining, Text.isIgnorable, Text.isAttached, noCombining, noAttached, low]
  have narrow : Text.isWide char = false := by
    have below : ¬ 0x1100 ≤ char.toNat := by omega
    simp [Text.isWide, below]
  rw [Text.columnsOf, if_neg noTab, turnsDirection_of_low low, joins, narrow]
  simp [other '\u2D7F' (by decide), other '\u115F' (by decide), other '\u17D8' (by decide)]

theorem columnsOf_of_isPrinted {char : Char} (printed : isPrinted char = true) :
    Text.columnsOf char = 1 := by
  obtain ⟨low, high⟩ := (isPrinted_iff char).mp printed
  apply columnsOf_of_low (by omega)
  rintro rfl
  exact absurd low (by decide)

theorem Text.byteLength_printed (printed : text.all isPrinted = true) :
    byteLength text = text.length := by
  induction text with
  | nil => rfl
  | cons char rest ih =>
      rw [List.all_cons, Bool.and_eq_true] at printed
      rw [byteLength, utf8Size_of_isPrinted printed.1, ih printed.2, List.length_cons, Nat.add_comm]

theorem Text.columns_printed (printed : text.all isPrinted = true) :
    columns text = text.length := by
  induction text with
  | nil => rfl
  | cons char rest ih =>
      rw [List.all_cons, Bool.and_eq_true] at printed
      rw [columns, columnsOf_of_isPrinted printed.1, ih printed.2, List.length_cons, Nat.add_comm]

theorem Snippet.picture_printed (printed : text.all isPrinted = true) :
    Snippet.picture text = text := by
  induction text with
  | nil => rfl
  | cons char rest ih =>
      rw [List.all_cons, Bool.and_eq_true] at printed
      have own : pictureOf char = [char] := by
        obtain ⟨low, high⟩ := (isPrinted_iff char).mp printed.1
        have noTab : char ≠ '\t' := by
          rintro rfl
          exact absurd low (by decide)
        have noTurn : Text.turnsDirection char = false := turnsDirection_of_low (by omega)
        simp only [pictureOf]
        rw [if_neg noTab, if_neg (by omega), if_neg (by omega), if_neg (by omega), if_neg]
        rw [noTurn]
        exact Bool.false_ne_true
      rw [picture, List.flatMap_cons, own, ← picture, ih printed.2]
      rfl

end Printed

end SimpleSentence
