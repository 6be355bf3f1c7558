import SimpleSentence.Proofs.Text.Normal
import SimpleSentence.Word

/-!
Folding the case of ASCII letters. A capital and its small letter belong to the
same classes of characters and take one byte each, so folding commutes with
trimming and keeps all lengths; and lowercase forms do not see it. So a marking
names the same category in any case.
-/

namespace SimpleSentence

-- It is enough to look at capitals, since folding leaves every other character alone.
theorem comp_toLower {α : Type} {view : Char → α}
    (capitals : ∀ char, char.isUpper = true → view char.toLower = view char) :
    view ∘ Char.toLower = view := by
  funext char
  by_cases upper : char.isUpper = true
  · exact capitals char upper
  · exact congrArg view (Char.toLower_eq_of_not_isUpper upper)

theorem isWordLetter_toLower : isWordLetter ∘ Char.toLower = isWordLetter := by
  apply comp_toLower
  intro char upper
  simp [isWordLetter, Char.isAlpha, upper]

theorem isSimpleLetter_comp_toLower : isSimpleLetter ∘ Char.toLower = isSimpleLetter := by
  apply comp_toLower
  intro char upper
  simp [isSimpleLetter, Char.isAlpha, upper]

theorem isBlank_toLower : Text.isBlank ∘ Char.toLower = Text.isBlank := by
  apply comp_toLower
  intro char upper
  have simple := (isSimpleLetter_iff char).mpr (.inl upper)
  rw [isBlank_of_isSimpleLetter simple,
    isBlank_of_isSimpleLetter (isSimpleLetter_toLower simple).1]

theorem isQuote_toLower : (fun char : Char => char == '"') ∘ Char.toLower = (· == '"') := by
  apply comp_toLower
  intro char upper
  have before : char ≠ '"' := by
    rintro rfl
    cases upper
  have after : char.toLower ≠ '"' := by
    intro equal
    have letter : char.toLower.isAlpha = true := by simp [Char.isAlpha, upper]
    rw [equal] at letter
    cases letter
  simp [before, after]

theorem utf8Size_of_isSimpleLetter {char : Char} (simple : isSimpleLetter char = true) :
    char.utf8Size = 1 := by
  have bound : char.toNat < 128 := (toNat_lt_of_isSimpleLetter simple).2
  exact Char.utf8Size_eq_one_iff.mpr (UInt32.le_iff_toNat_le.mpr (Nat.le_of_lt_succ bound))

theorem utf8Size_toLower : Char.utf8Size ∘ Char.toLower = Char.utf8Size := by
  apply comp_toLower
  intro char upper
  have simple := (isSimpleLetter_iff char).mpr (.inl upper)
  rw [utf8Size_of_isSimpleLetter simple,
    utf8Size_of_isSimpleLetter (isSimpleLetter_toLower simple).1]

namespace Text

theorem foldAscii_foldAscii (text : Text) : foldAscii (foldAscii text) = foldAscii text := by
  simp [foldAscii, Char.toLower_toLower_eq_toLower]

theorem foldAscii_append (first second : Text) :
    foldAscii (first ++ second) = foldAscii first ++ foldAscii second := List.map_append

theorem byteLength_foldAscii (text : Text) : byteLength (foldAscii text) = byteLength text := by
  induction text with
  | nil => rfl
  | cons char rest ih =>
      have size : char.toLower.utf8Size = char.utf8Size := congrFun utf8Size_toLower char
      show char.toLower.utf8Size + byteLength (foldAscii rest) = _
      rw [size, ih]
      rfl

theorem lowerChar_toLower : lowerChar ∘ Char.toLower = lowerChar := by
  apply comp_toLower
  intro char upper
  have simple := (isSimpleLetter_iff char).mpr (.inl upper)
  rw [lowerChar_of_isSimpleLetter simple,
    lowerChar_of_isSimpleLetter (isSimpleLetter_toLower simple).1, Char.toLower_toLower_eq_toLower]

theorem lower_foldAscii (text : Text) : lower (foldAscii text) = lower text := by
  induction text with
  | nil => rfl
  | cons char rest ih =>
      have first : lowerChar char.toLower = lowerChar char := congrFun lowerChar_toLower char
      show lowerChar char.toLower ++ lower (foldAscii rest) = _
      rw [first, ih]
      rfl

theorem trimBy_foldAscii {drop : Char → Bool} (same : drop ∘ Char.toLower = drop) (text : Text) :
    trimBy drop (foldAscii text) = foldAscii (trimBy drop text) := by
  simp only [trimBy, trimEndBy, foldAscii, List.dropWhile_map, same, ← List.map_reverse]

theorem trim_foldAscii (text : Text) : trim (foldAscii text) = foldAscii (trim text) :=
  trimBy_foldAscii isBlank_toLower text

theorem all_foldAscii {view : Char → Bool} (same : view ∘ Char.toLower = view) (text : Text) :
    (foldAscii text).all view = text.all view := by
  rw [foldAscii, List.all_map, same]

end Text

theorem isSimpleWord_foldAscii (word : Text) :
    isSimpleWord (Text.foldAscii word) = isSimpleWord word := by
  rw [isSimpleWord, Text.all_foldAscii isSimpleLetter_comp_toLower]
  cases word <;> rfl

theorem Category.ofMarking_foldAscii (marking : Text) :
    ofMarking (Text.foldAscii marking) = ofMarking marking := by
  have normal : normalizeMarking (Text.foldAscii marking) = normalizeMarking marking := by
    rw [normalizeMarking, Text.trim_foldAscii, Text.trimBy_foldAscii isQuote_toLower,
      Text.lower_foldAscii]
    rfl
  rw [ofMarking, normal]
  rfl

end SimpleSentence
