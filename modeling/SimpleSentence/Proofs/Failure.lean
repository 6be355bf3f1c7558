import SimpleSentence.Proofs.Stage

/-!
Where and how the parser gives up. A production that fails was able to read some
words up to a stage and stopped at the first token that this stage cannot take;
what it expects is what the stage can take. The end mark is such a token at
every stage. A sentence that is followed by something ends at a stage that
cannot take what follows.
-/

namespace SimpleSentence

namespace Parsing

variable {sentinel : Token} {tokens left : List Token} {error : ParseError}

/-- From this stage on, the error names the first token that cannot be read. -/
def Stuck (stage : Stage) (sentinel : Token) (tokens : List Token) (error : ParseError) : Prop :=
  ∃ (read left : List Token) (last : Stage),
    tokens = read ++ left ∧
    stage.after? (read.map Token.category) = some last ∧
    last.isDone = false ∧
    last.next? (current sentinel left).category = none ∧
    error = .unexpected last.followers (current sentinel left)

theorem Stuck.after {stage next : Stage} {read : List Token} (stuck : Stuck next sentinel left error)
    (reached : stage.after? (read.map Token.category) = some next) :
    Stuck stage sentinel (read ++ left) error := by
  obtain ⟨further, rest, last, rfl, continued, unfinished, blocked, same⟩ := stuck
  refine ⟨read ++ further, rest, last, by simp, ?_, unfinished, blocked, same⟩
  rw [List.map_append]
  exact Stage.after?_append_of reached continued

theorem contains_nounPhraseRest (category : Category) :
    Grammar.nounPhraseRest.contains category = true ↔
      category = .adjective ∨ category = .noun := by
  cases category <;> decide

/-- What follows the modifiers is no adjective, nor a determiner if there are none. -/
theorem modifiers_stop (tokens : List Token) :
    ∀ head ∈ (modifiers tokens).2.head?, head.category ≠ .adjective ∧
      ((modifiers tokens).1 = [] → head.category ≠ .determiner) := by
  have stopped (words : List Token) : ∀ head ∈ (words.dropWhile isAdjective).head?,
      head.category ≠ .adjective := by
    intro head member
    have failed := List.head?_dropWhile_not isAdjective words
    rw [Option.mem_def.mp member] at failed
    simpa [isAdjective] using failed
  cases tokens with
  | nil => simp [modifiers]
  | cons first rest =>
      by_cases determiner : first.category = .determiner
      · simpa [modifiers, determiner] using stopped rest
      · simp only [modifiers, determiner, ↓reduceIte]
        intro head member
        refine ⟨stopped (first :: rest) head member, fun none => ?_⟩
        by_cases adjective : isAdjective first = true
        · simp [adjective] at none
        · simp only [List.dropWhile_cons, adjective, Bool.false_eq_true, ↓reduceIte,
            List.head?_cons, Option.mem_def, Option.some.injEq] at member
          rwa [← member]

theorem next?_after_modifiers (atEnd : sentinel.category = .endOfInput)
    (notPronoun : ∀ first ∈ tokens.head?, first.category ≠ .pronoun)
    (notNoun : ∀ head ∈ (modifiers tokens).2.head?, head.category ≠ .noun) (slot : Slot) :
    (Stage.afterModifiers slot (modifiers tokens).1).next?
      (current sentinel (modifiers tokens).2).category = none := by
  obtain ⟨_, _, _, whole, _, _⟩ := modifiers_sound tokens
  have stop := modifiers_stop tokens
  cases rest : (modifiers tokens).2 with
  | nil => rw [current, atEnd, Stage.next?_endOfInput]
  | cons head after =>
      rw [rest] at stop whole notNoun
      have noun := notNoun head rfl
      obtain ⟨adjective, determiner⟩ := stop head rfl
      rw [← Option.not_isSome_iff_eq_none, ← Stage.contains_followers,
        ← Stage.headExpected_eq, current]
      cases taken : (modifiers tokens).1 with
      | nil =>
          rw [taken] at determiner whole
          have pronoun := notPronoun head (by rw [whole]; rfl)
          have expected : headExpected [] = Grammar.nounPhraseStart := rfl
          rw [expected, contains_nounPhraseStart]
          simp [adjective, noun, pronoun, determiner rfl]
      | cons first others =>
          have expected : headExpected (first :: others) = Grammar.nounPhraseRest := rfl
          rw [expected, contains_nounPhraseRest]
          simp [adjective, noun]

theorem nominal_failed (failed : nominal sentinel tokens = .error error) :
    (∀ head ∈ (modifiers tokens).2.head?, head.category ≠ .noun) ∧
      error = .unexpected (headExpected (modifiers tokens).1)
        (current sentinel (modifiers tokens).2) := by
  unfold nominal at failed
  split at failed
  · next taken shape =>
      cases failed
      simp [shape, current]
  · next taken head rest shape =>
      by_cases noun : head.category = .noun
      · simp [noun] at failed
      · simp only [noun, ↓reduceIte, Except.error.injEq] at failed
        simpa [shape, current, noun] using failed.symm

theorem nominal_stuck (atEnd : sentinel.category = .endOfInput)
    (notPronoun : ∀ first ∈ tokens.head?, first.category ≠ .pronoun)
    (failed : nominal sentinel tokens = .error error) (slot : Slot) :
    Stuck (.opening slot) sentinel tokens error := by
  obtain ⟨determiner, adjectives, taken, whole, isDeterminer, areAdjectives⟩ :=
    modifiers_sound tokens
  obtain ⟨notNoun, rfl⟩ := nominal_failed failed
  have read := Stage.after?_modifiers slot isDeterminer areAdjectives
  rw [← taken] at read
  have unfinished : (Stage.afterModifiers slot (modifiers tokens).1).isDone = false := by
    unfold Stage.afterModifiers
    split <;> rfl
  have blocked := next?_after_modifiers atEnd notPronoun notNoun slot
  exact ⟨_, _, _, whole, read, unfinished, blocked, by rw [← Stage.headExpected_eq]⟩

theorem nounPhrase_stuck (atEnd : sentinel.category = .endOfInput)
    (failed : nounPhrase sentinel tokens = .error error) (slot : Slot) :
    Stuck (.opening slot) sentinel tokens error := by
  cases tokens with
  | nil =>
      have notFound : nominal sentinel [] = .error error := failed
      exact nominal_stuck atEnd (by simp) notFound slot
  | cons first rest =>
      by_cases pronoun : first.category = .pronoun
      · simp [nounPhrase, pronoun] at failed
      · simp only [nounPhrase, pronoun, ↓reduceIte] at failed
        exact nominal_stuck atEnd (by simpa using pronoun) failed slot

theorem prepPhrase_stuck (atEnd : sentinel.category = .endOfInput) {stage : Stage}
    (done : stage.isDone = true) (begun : (current sentinel tokens).category = .preposition)
    (failed : prepPhrase sentinel tokens = .error error) : Stuck stage sentinel tokens error := by
  cases tokens with
  | nil =>
      rw [current, atEnd] at begun
      cases begun
  | cons first rest =>
      have isPreposition : first.category = .preposition := begun
      have reached : stage.after? ([first].map Token.category) = some (.opening .complement) := by
        simp [Stage.after?, isPreposition, Stage.next?_preposition done]
      cases found : nounPhrase sentinel rest with
      | ok result => simp [prepPhrase, isPreposition, found] at failed
      | error other =>
          have same : other = error := by simpa [prepPhrase, isPreposition, found] using failed
          subst same
          exact (nounPhrase_stuck atEnd found .complement).after reached

-- Each phrase that was taken leads to the stage from which the next one is read.
theorem prepPhrases_stuck (atEnd : sentinel.category = .endOfInput) {stage : Stage}
    (done : stage.isDone = true) (failed : prepPhrases sentinel tokens = .error error) :
    Stuck stage sentinel tokens error := by
  fun_induction prepPhrases sentinel tokens generalizing stage with
  | case1 tokens begun other found =>
      cases failed
      exact prepPhrase_stuck atEnd done ((contains_prepPhraseStart _).mp begun) found
  | case2 tokens begun first middle found _ other later ih =>
      cases failed
      obtain ⟨words, rfl, derived⟩ := prepPhrase_sound found
      exact (ih rfl later).after (Stage.after?_prepPhrase done derived)
  | case3 _ _ _ _ _ _ _ _ _ _ => cases failed
  | case4 _ _ => cases failed

-- An object that was begun has read its first word, so it is also stuck seen from the verb.
theorem Stuck.from_verb (stuck : Stuck (.opening .object) sentinel tokens error)
    (begun : Grammar.nounPhraseStart.contains (current sentinel tokens).category = true) :
    Stuck .afterVerb sentinel tokens error := by
  obtain ⟨read, left, last, rfl, reached, unfinished, blocked, same⟩ := stuck
  cases read with
  | nil =>
      cases reached
      have member := Stage.contains_followers (.opening .object)
        (current sentinel left).category
      rw [blocked] at member
      exact absurd begun (by simpa [Stage.followers] using member)
  | cons first rest =>
      have firstBegun : Grammar.nounPhraseStart.contains first.category = true := begun
      refine ⟨first :: rest, left, last, rfl, ?_, unfinished, blocked, same⟩
      rw [List.map_cons, Stage.after?] at reached ⊢
      rwa [Stage.next?_afterVerb firstBegun]

theorem object_stuck (atEnd : sentinel.category = .endOfInput)
    (failed : object sentinel tokens = .error error) :
    Stuck .afterVerb sentinel tokens error := by
  by_cases begun : Grammar.nounPhraseStart.contains (current sentinel tokens).category = true
  · rw [object_next begun] at failed
    cases found : nounPhrase sentinel tokens with
    | ok result =>
        rw [found] at failed
        cases failed
    | error other =>
        rw [found] at failed
        cases failed
        exact (nounPhrase_stuck atEnd found .object).from_verb begun
  · rw [object_stop (by simpa using begun)] at failed
    cases failed

theorem verbPhrase_stuck (atEnd : sentinel.category = .endOfInput)
    (failed : verbPhrase sentinel tokens = .error error) :
    Stuck .predicate sentinel tokens error := by
  cases tokens with
  | nil =>
      cases failed
      exact ⟨[], [], .predicate, rfl, rfl, rfl, by rw [current, atEnd]; rfl, rfl⟩
  | cons verb rest =>
      by_cases isVerb : verb.category = .verb
      · have reached : Stage.predicate.after? ([verb].map Token.category) = some .afterVerb := by
          simp [Stage.after?, Stage.next?, isVerb]
        simp only [verbPhrase, isVerb, ↓reduceIte] at failed
        cases objectFound : object sentinel rest with
        | error other =>
            simp only [objectFound, Except.error.injEq] at failed
            subst failed
            exact (object_stuck atEnd objectFound).after reached
        | ok result =>
            obtain ⟨objects, afterObject⟩ := result
            obtain ⟨part, rfl, rfl, objectDerived, _⟩ := object_sound objectFound
            have noPhrases : ∀ chosen ∈ ([] : List Derivation),
                Derives .prepPhrase chosen.words chosen.tree := by simp
            have reachedObject := Stage.after?_verbPhrase isVerb objectDerived noPhrases
            cases phrasesFound : prepPhrases sentinel afterObject with
            | ok result => simp [objectFound, phrasesFound] at failed
            | error other =>
                simp only [objectFound, phrasesFound, Except.error.injEq] at failed
                subst failed
                have stuck := prepPhrases_stuck atEnd (Stage.afterParts_isDone part []) phrasesFound
                simpa using stuck.after reachedObject
      · simp only [verbPhrase, isVerb, ↓reduceIte] at failed
        cases failed
        exact ⟨[], verb :: rest, .predicate, rfl, rfl, rfl, Stage.next?_predicate isVerb, rfl⟩

theorem sentence_stuck (atEnd : sentinel.category = .endOfInput)
    (failed : sentence sentinel tokens = .error error) :
    Stuck (.opening .subject) sentinel tokens error := by
  unfold sentence at failed
  split at failed
  · next other found =>
      cases failed
      exact nounPhrase_stuck atEnd found .subject
  · next subject afterSubject subjectFound =>
      obtain ⟨words, rfl, derived⟩ := nounPhrase_sound subjectFound
      split at failed
      · next other found =>
          cases failed
          exact (verbPhrase_stuck atEnd found).after (Stage.after?_nounPhrase .subject derived)
      · cases failed

theorem next?_afterParts {part : Option Derivation} {parts : List Derivation}
    (noPhrase : (current sentinel left).category ≠ .preposition)
    (noPart : part = none → parts = [] → Ended sentinel left) :
    (Stage.afterParts part parts).next? (current sentinel left).category = none := by
  unfold Stage.afterParts
  split
  · next empty =>
      obtain ⟨none, nil⟩ : part = none ∧ parts = [] := by simpa using empty
      rw [← Option.not_isSome_iff_eq_none, ← Stage.contains_followers, Stage.followers,
        CategorySet.contains_union, (noPart none nil).1]
      simpa [contains_prepPhraseStart] using noPhrase
  · exact Stage.next?_afterPhrase noPhrase

/-- A sentence that was taken ends at a stage that cannot take what follows it. -/
theorem sentence_reached {tree : Tree} (parsed : sentence sentinel tokens = .ok (tree, left)) :
    ∃ (read : List Token) (last : Stage), tokens = read ++ left ∧
      (Stage.opening .subject).after? (read.map Token.category) = some last ∧
      last.isDone = true ∧ last.next? (current sentinel left).category = none := by
  unfold sentence at parsed
  split at parsed
  · cases parsed
  · next subject afterSubject subjectFound =>
      obtain ⟨words, rfl, derived⟩ := nounPhrase_sound subjectFound
      split at parsed
      · cases parsed
      · next predicate after predicateFound =>
          cases parsed
          obtain ⟨verb, part, parts, rfl, _, isVerb, objectDerived, partsDerived, noPhrase,
            noPart⟩ := verbPhrase_parts predicateFound
          refine ⟨words ++ _, Stage.afterParts part parts, (List.append_assoc _ _ _).symm, ?_,
            Stage.afterParts_isDone part parts, next?_afterParts noPhrase noPart⟩
          rw [List.map_append]
          exact Stage.after?_append_of (Stage.after?_nounPhrase .subject derived)
            (Stage.after?_verbPhrase isVerb objectDerived partsDerived)

end Parsing

/-- What a stage answers to a token that it cannot take. -/
def Stage.error (stage : Stage) (found : Token) : ParseError :=
  if stage.isDone then .trailing found else .unexpected stage.followers found

/-- A rejected text was read up to a stage that cannot take the next token. -/
theorem Tagged.parse_failed {tagged : Tagged} {error : ParseError}
    (atEnd : tagged.sentinel.category = .endOfInput) (failed : tagged.parse = .error error) :
    ∃ (read left : List Token) (last : Stage), tagged.words = read ++ left ∧
      (Stage.opening .subject).after? (read.map Token.category) = some last ∧
      last.next? (Parsing.current tagged.sentinel left).category = none ∧
      error = last.error (Parsing.current tagged.sentinel left) ∧
      (left = [] → last.isDone = false) := by
  unfold Tagged.parse at failed
  split at failed
  · next other found =>
      cases failed
      obtain ⟨read, left, last, whole, reached, unfinished, blocked, rfl⟩ :=
        Parsing.sentence_stuck atEnd found
      exact ⟨read, left, last, whole, reached, blocked, by simp [Stage.error, unfinished],
        fun _ => unfinished⟩
  · cases failed
  · next tree found rest parsed =>
      cases failed
      obtain ⟨read, last, whole, reached, done, blocked⟩ := Parsing.sentence_reached parsed
      exact ⟨read, found :: rest, last, whole, reached, blocked,
        by simp [Stage.error, done, Parsing.current], by simp⟩

end SimpleSentence
