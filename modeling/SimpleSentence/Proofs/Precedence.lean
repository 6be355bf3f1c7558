import SimpleSentence.Proofs.Lexicon.Contents
import SimpleSentence.Proofs.Text.Beginning
import SimpleSentence.Proofs.Text.Folding

/-!
A marking is resolved to the strongest category that it shows. Text behind a marking
takes no sign away: each step of normalizing, trimming blanks, trimming quotes and
lowercasing, takes a beginning of a text to a beginning of the result, and a sign in
a beginning stands in the whole. So a longer marking shows all that a shorter one
shows, and the strongest of more is at least as strong.
-/

namespace SimpleSentence

namespace Category

/-! ### Signs -/

def Sign.text : Sign → Text
  | .anywhere sign => sign
  | .atStart sign => sign

theorem ascii_of_mem_signs {row : Category × List Sign} (listed : row ∈ signs) {sign : Sign}
    (member : sign ∈ row.2) : ∀ char ∈ sign.text, char.toNat < 128 := by
  have table : signs.all (fun row => row.2.all fun sign =>
      sign.text.all fun char => char.toNat < 128) = true := by decide +kernel
  have small := List.all_eq_true.mp (List.all_eq_true.mp table row listed) sign member
  exact fun char inside => of_decide_eq_true (List.all_eq_true.mp small char inside)

/-- Where a sign stands: as a part of a text, or at its start. -/
def Sign.StandsIn (text : Text) : Sign → Prop
  | .anywhere sign => sign <:+: text
  | .atStart sign => sign <+: text

theorem Sign.holds_iff (sign : Sign) (text : Text) :
    sign.holds text = true ↔ sign.StandsIn text := by
  cases sign with
  | anywhere sign => exact Text.occurs_iff sign text
  | atStart sign => exact List.isPrefixOf_iff_prefix

theorem Sign.StandsIn.longer {sign : Sign} {text longer : Text} (stands : sign.StandsIn text)
    (beginning : text <+: longer) : sign.StandsIn longer := by
  cases sign with
  | anywhere sign => exact stands.trans beginning.isInfix
  | atStart sign => exact stands.trans beginning

theorem Sign.StandsIn.alike {sign : Sign} {text other : Text} (stands : sign.StandsIn text)
    (alike : Text.AsciiAlike text other) (ascii : ∀ char ∈ sign.text, char.toNat < 128) :
    sign.StandsIn other := by
  cases sign with
  | anywhere sign => exact alike.isInfix ascii stands
  | atStart sign => exact alike.isPrefix ascii stands

/-- A text shows a category if one of the category's signs stands in it. -/
def ShownIn (text : Text) (category : Category) : Prop :=
  ∃ row ∈ signs, row.1 = category ∧ ∃ sign ∈ row.2, sign.StandsIn text

section ShownIn

variable {text other : Text} {category : Category} (shown : category.ShownIn text)
include shown

theorem ShownIn.longer (beginning : text <+: other) : category.ShownIn other := by
  obtain ⟨row, listed, named, sign, member, stands⟩ := shown
  exact ⟨row, listed, named, sign, member, stands.longer beginning⟩

theorem ShownIn.alike (alike : Text.AsciiAlike text other) : category.ShownIn other := by
  obtain ⟨row, listed, named, sign, member, stands⟩ := shown
  have ascii := ascii_of_mem_signs listed member
  exact ⟨row, listed, named, sign, member, stands.alike alike ascii⟩

end ShownIn

theorem any_holds_iff {row : Category × List Sign} {text : Text} :
    row.2.any (Sign.holds text) = true ↔ ∃ sign ∈ row.2, sign.StandsIn text := by
  simp only [List.any_eq_true, Sign.holds_iff]

theorem normalizeMarking_beginning {marking longer : Text} (beginning : marking <+: longer) :
    normalizeMarking marking <+: normalizeMarking longer :=
  Text.lower_beginning (Text.trimBy_beginning (Text.trimBy_beginning beginning _) _)

/-! ### Precedence -/

/-- The categories of markings, the strongest first. -/
def strongestFirst : List Category :=
  [adverb, preposition, pronoun, conjunction, interjection, verb, adjective, noun, unknown]

/-- At the same place of that order, or before. -/
def AtLeastAsStrong (category other : Category) : Prop :=
  strongestFirst.idxOf category ≤ strongestFirst.idxOf other

instance (category other : Category) : Decidable (category.AtLeastAsStrong other) :=
  inferInstanceAs (Decidable (_ ≤ _))

theorem signs_strongest_first : signs.Pairwise fun row other => row.1.AtLeastAsStrong other.1 := by
  decide

-- The rows behind the first that holds are no stronger, and those in front of it do not hold.
theorem found_strongest {holds : Category × List Sign → Bool} {first row : Category × List Sign}
    (found : signs.find? holds = some first) (listed : row ∈ signs) (rowHolds : holds row = true) :
    first.1.AtLeastAsStrong row.1 := by
  obtain ⟨_, before, after, parts, passed⟩ := List.find?_eq_some_iff_append.mp found
  have order := signs_strongest_first
  rw [parts, List.pairwise_append, List.pairwise_cons] at order
  rw [parts, List.mem_append, List.mem_cons] at listed
  rcases listed with earlier | rfl | later
  · have passedOver := passed row earlier
    rw [rowHolds] at passedOver
    cases passedOver
  · exact Nat.le_refl _
  · exact order.2.1.1 row later

/-- The strongest category that a text shows, or `unknown` if it shows none. -/
structure Resolves (text : Text) (category : Category) : Prop where
  shown : category.ShownIn text ∨ category = unknown
  strongest : ∀ other : Category, other.ShownIn text → category.AtLeastAsStrong other

theorem Resolves.alike {text other : Text} {category : Category} (resolved : category.Resolves text)
    (alike : Text.AsciiAlike text other) : category.Resolves other where
  shown := resolved.shown.imp_left fun shown => shown.alike alike
  strongest := fun rival shown => resolved.strongest rival (shown.alike alike.symm)

theorem ofMarking_resolves (marking : Text) :
    (ofMarking marking).Resolves (normalizeMarking marking) := by
  cases found : signs.find? fun row => row.2.any (Sign.holds (normalizeMarking marking)) with
  | none =>
      have unresolved : ofMarking marking = unknown := by simp only [ofMarking, found]
      refine ⟨.inr unresolved, ?_⟩
      rintro _ ⟨row, listed, rfl, holds⟩
      exact absurd (any_holds_iff.mpr holds) (List.find?_eq_none.mp found row listed)
  | some first =>
      have decided : ofMarking marking = first.1 := by simp only [ofMarking, found]
      have firstHolds := List.find?_some found
      rw [decided]
      refine ⟨.inl ⟨first, List.mem_of_find?_eq_some found, rfl, any_holds_iff.mp firstHolds⟩, ?_⟩
      rintro _ ⟨row, listed, rfl, holds⟩
      exact found_strongest found listed (any_holds_iff.mpr holds)

theorem ofMarking_strengthened (marking more : Text) :
    (ofMarking (marking ++ more)).AtLeastAsStrong (ofMarking marking) := by
  rcases (ofMarking_resolves marking).shown with shown | unresolved
  · exact (ofMarking_resolves (marking ++ more)).strongest _
      (shown.longer (normalizeMarking_beginning (List.prefix_append marking more)))
  · have weakest : ∀ category ∈ unknown :: signs.map Prod.fst,
        category.AtLeastAsStrong unknown := by decide
    rw [unresolved]
    exact weakest _ (ofMarking_mem _)

theorem ofMarking_between_blanks {front back : Text} (frontBlank : Text.blank front = true)
    (backBlank : Text.blank back = true) (marking : Text) :
    ofMarking (front ++ marking ++ back) = ofMarking marking := by
  rw [← ofMarking_trim, Text.trim_between_blanks frontBlank backBlank, ofMarking_trim]

/-- A marking is resolved to the strongest category that its normal form shows, whatever letters
outside ASCII become in lowercase. Text behind a marking never weakens its category; the case of
ASCII letters and blanks around a marking change nothing; and no marking is resolved to a
determiner or to the end of the input. -/
theorem resolved_by_precedence (marking : Text) :
    (∀ normal, Text.AsciiAlike (normalizeMarking marking) normal →
        (ofMarking marking).Resolves normal) ∧
      (∀ more, (ofMarking (marking ++ more)).AtLeastAsStrong (ofMarking marking)) ∧
      (∀ other, Text.sameAscii marking other = true → ofMarking other = ofMarking marking) ∧
      (∀ front back, Text.blank front = true → Text.blank back = true →
        ofMarking (front ++ marking ++ back) = ofMarking marking) ∧
      ofMarking marking ≠ determiner ∧ ofMarking marking ≠ endOfInput := by
  refine ⟨?_, ofMarking_strengthened marking, ?_, ?_, ?_, ?_⟩
  · exact fun normal alike => (ofMarking_resolves marking).alike alike
  · intro other same
    rw [← ofMarking_foldAscii, ← beq_iff_eq.mp same, ofMarking_foldAscii]
  · exact fun front back frontBlank backBlank =>
      ofMarking_between_blanks frontBlank backBlank marking
  · exact ofMarking_ne (by decide) marking
  · exact ofMarking_ne (by decide) marking

-- The quotes around the first marking stay when more stands behind it, and a capital sigma may
-- have two small forms. In the longer marking the sign of a verb is part of that of an adverb.
theorem quotedSigma_resolved :
    let marking := "\" V. \u03A3\"".toList
    let other := "\" v. \u03A3\"".toList
    let more := " & \"adv.\"".toList
    Text.AsciiAlike (normalizeMarking marking) " v. \u03C2".toList ∧
      (ofMarking marking).Resolves " v. \u03C2".toList ∧
      (ofMarking (marking ++ more)).AtLeastAsStrong (ofMarking marking) ∧
      Text.sameAscii marking other = true ∧ ofMarking other = ofMarking marking ∧
      Text.blank ['\u00A0'] = true ∧ Text.blank ['\n'] = true ∧
      ofMarking (['\u00A0'] ++ marking ++ ['\n']) = ofMarking marking := by
  intro marking other more
  have alike : Text.AsciiAlike (normalizeMarking marking) " v. \u03C2".toList := by
    unfold Text.AsciiAlike
    decide +kernel
  have same : Text.sameAscii marking other = true := by decide +kernel
  obtain ⟨resolves, stronger, caseIgnored, between, _, _⟩ := resolved_by_precedence marking
  exact ⟨alike, resolves _ alike, stronger more, same, caseIgnored other same, rfl, rfl,
    between _ _ rfl rfl⟩

end Category

end SimpleSentence
