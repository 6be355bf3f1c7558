import SimpleSentence.Proofs.FirstFailure

/-!
What could have stood in the place of a leftover token. A whole sentence can
always go on with a prepositional phrase, and with an object too if it ends with
its verb. The error of a leftover token expects the end and nothing else, so it
never expects all that would have let the sentence go on.
-/

namespace SimpleSentence

namespace Stage

theorem isSome_next?_iff {stage : Stage} (done : stage.isDone = true) (category : Category) :
    (stage.next? category).isSome = true ↔
      category = .preposition ∨
        (stage = .afterVerb ∧ Grammar.nounPhraseStart.contains category = true) := by
  rw [← contains_followers]
  cases stage with
  | opening _ | inside _ | predicate => cases done
  | afterVerb =>
      rw [followers, CategorySet.contains_union, Bool.or_eq_true,
        Parsing.contains_prepPhraseStart, or_comm]
      simp
  | afterPhrase =>
      rw [followers, Parsing.contains_prepPhraseStart]
      simp

theorem eq_afterVerb_of_verb {stage next : Stage} (taken : stage.next? .verb = some next) :
    next = .afterVerb := by
  cases stage with
  | predicate =>
      cases taken
      rfl
  | _ => cases taken

theorem eq_verb_of_afterVerb {stage : Stage} {category : Category}
    (taken : stage.next? category = some .afterVerb) : category = .verb := by
  rcases stage with (_ | _ | _) | (_ | _ | _) | _ | _ | _ <;> cases category <;> cases taken
  rfl

theorem ends_with_verb_iff {categories : List Category} {stage : Stage}
    (reached : (opening .subject).after? categories = some stage) (done : stage.isDone = true) :
    stage = .afterVerb ↔ categories.getLast? = some .verb := by
  rcases categories.eq_nil_or_concat with rfl | ⟨front, last, rfl⟩
  · cases reached
    cases done
  · rw [List.concat_eq_append, after?_append] at reached
    obtain ⟨middle, _, read⟩ := Option.bind_eq_some_iff.mp reached
    rw [after?] at read
    cases taken : middle.next? last with
    | none => simp [taken] at read
    | some next =>
        simp only [taken, after?, Option.some.injEq] at read
        subst read
        rw [List.concat_eq_append, List.getLast?_concat, Option.some.injEq]
        constructor
        · rintro rfl
          exact eq_verb_of_afterVerb taken
        · rintro rfl
          exact eq_afterVerb_of_verb taken

end Stage

/-- What can follow a whole sentence in a longer one. -/
theorem viable_behind_sentence {categories : List Category} (sentence : IsSentence categories)
    (category : Category) :
    Viable (categories ++ [category]) ↔
      category = .preposition ∨
        (categories.getLast? = some .verb ∧ Grammar.nounPhraseStart.contains category = true) := by
  obtain ⟨last, reached, done⟩ := (isSentence_iff_reached _).mp sentence
  rw [viable_snoc_iff reached, Stage.isSome_next?_iff done, Stage.ends_with_verb_iff reached done]

namespace Tagged

/-- The categories of the first words. -/
def beginning (tagged : Tagged) (count : Nat) : List Category :=
  (tagged.words.map Token.category).take count

-- A token is left over when the words in front of it are a sentence and no sentence begins with
-- these words and the token.
structure LeftOver (tagged : Tagged) (count : Nat) (found : Token) : Prop where
  place : tagged.tokens[count]? = some found
  isWord : count < tagged.words.length
  sentence : IsSentence (tagged.beginning count)
  longest : LongestViable (tagged.words.map Token.category) count

theorem leftOver_of_trailing {tagged : Tagged} (closed : tagged.Closed) {found : Token}
    (rejected : tagged.parse = .error (.trailing found)) :
    ∃ count, tagged.LeftOver count found := by
  obtain ⟨read, left, last, whole, reached, blocked, same, unfinished⟩ :=
    parse_failed closed.sentinel rejected
  have done : last.isDone = true := by
    by_contra notDone
    simp [Stage.error, notDone] at same
  have own : found = Parsing.current tagged.sentinel left := by
    simpa [Stage.error, done] using same
  have categories : tagged.words.map Token.category =
      read.map Token.category ++ left.map Token.category := by rw [whole, List.map_append]
  have taken : tagged.beginning read.length = read.map Token.category := by
    rw [beginning, categories, List.take_left' (List.length_map _)]
  cases left with
  | nil =>
      rw [unfinished rfl] at done
      cases done
  | cons first rest =>
      refine ⟨read.length, ?_, ?_, ?_, ?_⟩
      · rw [own]
        exact token_behind whole
      · simp [whole]
      · rw [taken]
        exact (isSentence_iff_isDone reached).mpr done
      · have longest := @longestViable_of_blocked _ _ ((first :: rest).map Token.category)
          reached (by simpa [Parsing.current] using blocked)
        simpa [categories] using longest

/-- The error expects the end and whatever lets the sentence in front of its token go on. -/
def ExpectsContinuations (tagged : Tagged) (count : Nat) (error : ParseError) : Prop :=
  ∀ category, error.expected.contains category = true ↔
    category = .endOfInput ∨ Viable (tagged.beginning count ++ [category])

end Tagged

theorem ParseError.contains_expected_trailing (found : Token) (category : Category) :
    (ParseError.trailing found).expected.contains category = true ↔ category = .endOfInput := by
  rw [expected, Grammar.endOnly, CategorySet.contains_single, beq_iff_eq, eq_comm]

-- A preposition could always stand in the place of a leftover token.
theorem Tagged.not_expectsContinuations {tagged : Tagged} {count : Nat}
    (sentence : IsSentence (tagged.beginning count)) (found : Token) :
    ¬ tagged.ExpectsContinuations count (.trailing found) := by
  intro expects
  have viable := (viable_behind_sentence sentence .preposition).mpr (.inl rfl)
  have expected := (expects .preposition).mpr (.inr viable)
  rw [ParseError.contains_expected_trailing] at expected
  cases expected

/-- A leftover token stands behind a sentence. Its error expects the end alone, though the
sentence could go on with a preposition, or with the beginning of an object if its verb was read
last; so the error never expects all that could stand there. -/
theorem leftover_expects_end_alone (tagged : Tagged) (closed : tagged.Closed) (found : Token)
    (rejected : tagged.parse = .error (.trailing found)) :
    ∃ count, tagged.LeftOver count found ∧
      (∀ category, (ParseError.trailing found).expected.contains category = true ↔
        category = .endOfInput) ∧
      (∀ category, Viable (tagged.beginning count ++ [category]) ↔
        category = .preposition ∨
          ((tagged.beginning count).getLast? = some .verb ∧
            Grammar.nounPhraseStart.contains category = true)) ∧
      ¬ tagged.ExpectsContinuations count (.trailing found) := by
  obtain ⟨count, leftOver⟩ := Tagged.leftOver_of_trailing closed rejected
  exact ⟨count, leftOver, ParseError.contains_expected_trailing found,
    viable_behind_sentence leftOver.sentence,
    Tagged.not_expectsContinuations leftOver.sentence found⟩

/-- The tokens of the text `They ate bread and`. -/
def ateBreadAnd : Tagged :=
  { words :=
      [⟨"They".toList, .pronoun, 0, ⟨0, 4⟩⟩, ⟨"ate".toList, .verb, 1, ⟨5, 8⟩⟩,
        ⟨"bread".toList, .noun, 2, ⟨9, 14⟩⟩, ⟨"and".toList, .conjunction, 3, ⟨15, 18⟩⟩]
    sentinel := ⟨sentinelText, .endOfInput, 4, .empty 18⟩ }

theorem ateBreadAnd_expects_end_alone :
    ateBreadAnd.Closed ∧
      ateBreadAnd.parse =
        .error (.trailing ⟨"and".toList, .conjunction, 3, ⟨15, 18⟩⟩) ∧
      ∃ count, ateBreadAnd.LeftOver count ⟨"and".toList, .conjunction, 3, ⟨15, 18⟩⟩ := by
  have closed : ateBreadAnd.Closed := ⟨rfl, by decide⟩
  have rejected : ateBreadAnd.parse =
      .error (.trailing ⟨"and".toList, .conjunction, 3, ⟨15, 18⟩⟩) := by
    decide +kernel
  obtain ⟨count, leftOver, _⟩ := leftover_expects_end_alone ateBreadAnd closed _ rejected
  exact ⟨closed, rejected, count, leftOver⟩

/-- The tokens of the text `The dog sleeps quietly.` -/
def sleepsQuietly : Tagged :=
  { words :=
      [⟨"The".toList, .determiner, 0, ⟨0, 3⟩⟩, ⟨"dog".toList, .noun, 1, ⟨4, 7⟩⟩,
        ⟨"sleeps".toList, .verb, 2, ⟨8, 14⟩⟩, ⟨"quietly".toList, .adverb, 3, ⟨15, 22⟩⟩]
    sentinel := ⟨sentinelText, .endOfInput, 4, .empty 23⟩ }

/-- Behind `The dog sleeps` a preposition or the beginning of an object could stand in the place
of `quietly`, but the error expects the end alone. -/
theorem sleepsQuietly_continuations_missing :
    sleepsQuietly.Closed ∧
      sleepsQuietly.parse = .error (.trailing ⟨"quietly".toList, .adverb, 3, ⟨15, 22⟩⟩) ∧
      sleepsQuietly.LeftOver 3 ⟨"quietly".toList, .adverb, 3, ⟨15, 22⟩⟩ ∧
      ¬ sleepsQuietly.ExpectsContinuations 3
        (.trailing ⟨"quietly".toList, .adverb, 3, ⟨15, 22⟩⟩) := by
  have reached : (Stage.opening .subject).after? [.determiner, .noun, .verb] = some .afterVerb :=
    rfl
  have sentence : IsSentence (sleepsQuietly.beginning 3) :=
    (isSentence_iff_reached _).mpr ⟨.afterVerb, reached, rfl⟩
  have longest := @longestViable_of_blocked _ _ [.adverb] reached (by rintro next ⟨⟩; rfl)
  exact ⟨⟨rfl, by decide⟩, by decide +kernel, ⟨rfl, by decide, sentence, longest⟩,
    Tagged.not_expectsContinuations sentence _⟩

end SimpleSentence
