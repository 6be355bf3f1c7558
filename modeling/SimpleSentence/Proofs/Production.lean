import Mathlib.Data.List.TakeWhile
import SimpleSentence.Parsing
import SimpleSentence.Proofs.Derivation

/-!
What each production of the parser takes. A production that succeeds has taken
a derivation of its phrase from the front of the tokens and nothing else. A
derivation in front of any tokens is taken whole, whatever follows it, as far as
the phrase itself tells where it ends; a verb phrase does not, so there the next
token must begin neither an object nor a further prepositional phrase.
-/

namespace SimpleSentence.Parsing

variable {sentinel : Token} {tokens left : List Token} {tree : Tree}

theorem contains_nounPhraseStart (category : Category) :
    Grammar.nounPhraseStart.contains category = true ↔
      category = .determiner ∨ category = .adjective ∨ category = .noun ∨
        category = .pronoun := by
  cases category <;> decide

theorem contains_prepPhraseStart (category : Category) :
    Grammar.prepPhraseStart.contains category = true ↔ category = .preposition := by
  cases category <;> decide

theorem isAdjective_iff (token : Token) :
    isAdjective token = true ↔ token.category = .adjective := beq_iff_eq

theorem takeWhile_adjectives {word : Token} {words : List Token}
    (member : word ∈ words.takeWhile isAdjective) : word.category = .adjective :=
  (isAdjective_iff word).mp (List.mem_takeWhile_imp member)

/-- The modifiers taken are one determiner at most and then adjectives. -/
theorem modifiers_sound (tokens : List Token) :
    ∃ (determiner : Option Token) (adjectives : List Token),
      (modifiers tokens).1 = determiner.toList ++ adjectives ∧
      tokens = (modifiers tokens).1 ++ (modifiers tokens).2 ∧
      (∀ word ∈ determiner, word.category = .determiner) ∧
      ∀ word ∈ adjectives, word.category = .adjective := by
  cases tokens with
  | nil => exact ⟨none, [], rfl, rfl, by simp, by simp⟩
  | cons first rest =>
      by_cases determiner : first.category = .determiner
      · refine ⟨some first, rest.takeWhile isAdjective, ?_, ?_, by simpa, ?_⟩
        · simp [modifiers, determiner]
        · simp [modifiers, determiner]
        · exact fun word => takeWhile_adjectives
      · refine ⟨none, (first :: rest).takeWhile isAdjective, ?_, ?_, by simp, ?_⟩
        · simp [modifiers, determiner]
        · simp only [modifiers, determiner, ↓reduceIte, List.takeWhile_append_dropWhile]
        · exact fun word => takeWhile_adjectives

theorem modifiers_complete {determiner : Option Token} {adjectives : List Token} {head : Token}
    (isDeterminer : ∀ word ∈ determiner, word.category = .determiner)
    (areAdjectives : ∀ word ∈ adjectives, word.category = .adjective)
    (isNoun : head.category = .noun) (left : List Token) :
    modifiers (determiner.toList ++ adjectives ++ head :: left) =
      (determiner.toList ++ adjectives, head :: left) := by
  have allAdjectives : ∀ word ∈ adjectives, isAdjective word = true := fun word member =>
    (isAdjective_iff word).mpr (areAdjectives word member)
  have notAdjective : isAdjective head = false := by simp [isAdjective, isNoun]
  have taken : (adjectives ++ head :: left).takeWhile isAdjective = adjectives := by
    rw [List.takeWhile_append_of_pos allAdjectives]
    simp [notAdjective]
  have dropped : (adjectives ++ head :: left).dropWhile isAdjective = head :: left := by
    rw [List.dropWhile_append_of_pos allAdjectives]
    simp [notAdjective]
  cases determiner with
  | some first => simp [modifiers, isDeterminer first rfl, taken, dropped]
  | none =>
      cases adjectives with
      | nil => simp [modifiers, isNoun, notAdjective]
      | cons first rest =>
          have isAdjective := areAdjectives first List.mem_cons_self
          rw [List.cons_append] at taken dropped
          simp [modifiers, isAdjective, taken, dropped]

theorem nominal_sound (parsed : nominal sentinel tokens = .ok (tree, left)) :
    ∃ words, tokens = words ++ left ∧ Derives .nounPhrase words tree := by
  obtain ⟨determiner, adjectives, taken, whole, isDeterminer, areAdjectives⟩ :=
    modifiers_sound tokens
  unfold nominal at parsed
  split at parsed
  · cases parsed
  · next before head rest shape =>
      rw [shape] at taken whole
      subst taken
      by_cases noun : head.category = .noun
      · simp only [noun, ↓reduceIte, Except.ok.injEq, Prod.mk.injEq] at parsed
        obtain ⟨rfl, rfl⟩ := parsed
        exact ⟨_, by simpa using whole, .nominal isDeterminer areAdjectives noun⟩
      · simp [noun] at parsed

theorem nounPhrase_sound (parsed : nounPhrase sentinel tokens = .ok (tree, left)) :
    ∃ words, tokens = words ++ left ∧ Derives .nounPhrase words tree := by
  cases tokens with
  | nil => exact nominal_sound parsed
  | cons first rest =>
      by_cases pronoun : first.category = .pronoun
      · simp only [nounPhrase, pronoun, ↓reduceIte, Except.ok.injEq, Prod.mk.injEq] at parsed
        obtain ⟨rfl, rfl⟩ := parsed
        exact ⟨[first], rfl, .pronoun pronoun⟩
      · simp only [nounPhrase, pronoun, ↓reduceIte] at parsed
        exact nominal_sound parsed

theorem nounPhrase_eq_nominal (notPronoun : ∀ first ∈ tokens.head?, first.category ≠ .pronoun) :
    nounPhrase sentinel tokens = nominal sentinel tokens := by
  cases tokens with
  | nil => rfl
  | cons first rest => simp [nounPhrase, notPronoun first rfl]

-- A noun phrase ends with its noun or pronoun, so nothing after it matters.
theorem nounPhrase_complete {words : List Token} (derived : Derives .nounPhrase words tree)
    (left : List Token) : nounPhrase sentinel (words ++ left) = .ok (tree, left) := by
  cases derived with
  | pronoun isPronoun => simp [nounPhrase, isPronoun]
  | @nominal determiner adjectives head isDeterminer areAdjectives isNoun =>
      have taken := modifiers_complete isDeterminer areAdjectives isNoun left
      rw [List.append_assoc, List.singleton_append]
      rw [nounPhrase_eq_nominal]
      · simp only [nominal, taken, isNoun, ↓reduceIte]
      · cases determiner with
        | some first => simp [isDeterminer first rfl]
        | none =>
            cases adjectives with
            | nil => simp [isNoun]
            | cons first rest => simp [areAdjectives first List.mem_cons_self]

theorem prepPhrase_sound (parsed : prepPhrase sentinel tokens = .ok (tree, left)) :
    ∃ words, tokens = words ++ left ∧ Derives .prepPhrase words tree := by
  cases tokens with
  | nil => cases parsed
  | cons first rest =>
      by_cases preposition : first.category = .preposition
      · cases found : nounPhrase sentinel rest with
        | error error => simp [prepPhrase, preposition, found] at parsed
        | ok result =>
            simp only [prepPhrase, preposition, ↓reduceIte, found, Except.ok.injEq,
              Prod.mk.injEq] at parsed
            obtain ⟨rfl, rfl⟩ := parsed
            obtain ⟨words, rfl, derived⟩ := nounPhrase_sound found
            exact ⟨first :: words, rfl, @Derives.prep first ⟨words, _⟩ preposition derived⟩
      · simp [prepPhrase, preposition] at parsed

theorem prepPhrase_complete {words : List Token} (derived : Derives .prepPhrase words tree)
    (left : List Token) : prepPhrase sentinel (words ++ left) = .ok (tree, left) := by
  cases derived with
  | prep isPreposition objectDerived =>
      simp [prepPhrase, isPreposition, nounPhrase_complete objectDerived left]

theorem prepPhrase_head {words : List Token} (derived : Derives .prepPhrase words tree) :
    ∃ first rest, words = first :: rest ∧ first.category = .preposition := by
  cases derived with
  | prep isPreposition objectDerived => exact ⟨_, _, rfl, isPreposition⟩

theorem prepPhrases_stop (ended : (current sentinel tokens).category ≠ .preposition) :
    prepPhrases sentinel tokens = .ok ([], tokens) := by
  rw [prepPhrases, if_neg]
  rwa [contains_prepPhraseStart]

theorem prepPhrases_next {first : Tree}
    (begun : (current sentinel tokens).category = .preposition)
    (found : prepPhrase sentinel tokens = .ok (first, left)) :
    prepPhrases sentinel tokens = (prepPhrases sentinel left).map fun result =>
      (first :: result.1, result.2) := by
  rw [prepPhrases, if_pos ((contains_prepPhraseStart _).mpr begun)]
  split
  · next other failed => rw [found] at failed; cases failed
  · next other rest again =>
      rw [found] at again
      cases again
      cases prepPhrases sentinel left <;> rfl

theorem prepPhrases_failed {error : ParseError}
    (begun : (current sentinel tokens).category = .preposition)
    (failed : prepPhrase sentinel tokens = .error error) :
    prepPhrases sentinel tokens = .error error := by
  rw [prepPhrases, if_pos ((contains_prepPhraseStart _).mpr begun)]
  split
  · next other again =>
      rw [failed] at again
      exact congrArg Except.error (Except.error.inj again).symm
  · next first left found => rw [failed] at found; cases found

-- Each step of the loop takes one prepositional phrase, and the loop stops only where none begins.
theorem prepPhrases_sound {trees : List Tree}
    (parsed : prepPhrases sentinel tokens = .ok (trees, left)) :
    (∃ parts : List Derivation, trees = parts.map Derivation.tree ∧
      tokens = parts.flatMap Derivation.words ++ left ∧
      ∀ part ∈ parts, Derives .prepPhrase part.words part.tree) ∧
    (current sentinel left).category ≠ .preposition := by
  fun_induction prepPhrases sentinel tokens generalizing trees with
  | case1 _ _ _ _ => cases parsed
  | case2 _ _ _ _ _ _ _ _ => cases parsed
  | case3 tokens begun first middle found _ more last rest ih =>
      cases parsed
      obtain ⟨⟨parts, rfl, rfl, derived⟩, ended⟩ := ih rest
      obtain ⟨words, rfl, firstDerived⟩ := prepPhrase_sound found
      refine ⟨⟨⟨words, first⟩ :: parts, rfl, by simp, ?_⟩, ended⟩
      simpa using ⟨firstDerived, derived⟩
  | case4 tokens ended =>
      cases parsed
      exact ⟨⟨[], rfl, rfl, by simp⟩, fun begun => ended ((contains_prepPhraseStart _).mpr begun)⟩

theorem prepPhrases_complete {parts : List Derivation}
    (derived : ∀ part ∈ parts, Derives .prepPhrase part.words part.tree)
    (ended : (current sentinel left).category ≠ .preposition) :
    prepPhrases sentinel (parts.flatMap Derivation.words ++ left) =
      .ok (parts.map Derivation.tree, left) := by
  induction parts with
  | nil => exact prepPhrases_stop ended
  | cons part rest ih =>
      have firstDerived := derived part List.mem_cons_self
      have later := ih fun other member => derived other (List.mem_cons_of_mem part member)
      have found : prepPhrase sentinel (part.words ++ (rest.flatMap Derivation.words ++ left)) =
          .ok (part.tree, rest.flatMap Derivation.words ++ left) :=
        prepPhrase_complete firstDerived _
      have begun : (current sentinel
          (part.words ++ (rest.flatMap Derivation.words ++ left))).category = .preposition := by
        obtain ⟨first, words, shape, isPreposition⟩ := prepPhrase_head firstDerived
        rw [shape]
        exact isPreposition
      rw [List.flatMap_cons, List.append_assoc, prepPhrases_next begun found, later]
      rfl

theorem object_stop
    (ended : Grammar.nounPhraseStart.contains (current sentinel tokens).category = false) :
    object sentinel tokens = .ok ([], tokens) := by
  rw [object, if_neg (by simp [ended])]

theorem object_next
    (begun : Grammar.nounPhraseStart.contains (current sentinel tokens).category = true) :
    object sentinel tokens = (nounPhrase sentinel tokens).map fun result =>
      ([result.1], result.2) := by
  rw [object, if_pos begun]
  cases nounPhrase sentinel tokens <;> rfl

theorem object_sound {trees : List Tree} (parsed : object sentinel tokens = .ok (trees, left)) :
    ∃ part : Option Derivation, trees = part.toList.map Derivation.tree ∧
      tokens = part.toList.flatMap Derivation.words ++ left ∧
      (∀ chosen ∈ part, Derives .nounPhrase chosen.words chosen.tree) ∧
      (part = none → Grammar.nounPhraseStart.contains (current sentinel left).category = false) := by
  unfold object at parsed
  split at parsed
  · split at parsed
    · cases parsed
    · next tree rest found =>
        cases parsed
        obtain ⟨words, rfl, derived⟩ := nounPhrase_sound found
        exact ⟨some ⟨words, tree⟩, rfl, by simp, by simpa using derived, by simp⟩
  · next ended =>
      cases parsed
      exact ⟨none, rfl, rfl, by simp, fun _ => by simpa using ended⟩

theorem nounPhrase_head {words : List Token} (derived : Derives .nounPhrase words tree) :
    ∃ first rest, words = first :: rest ∧
      Grammar.nounPhraseStart.contains first.category = true := by
  simp only [contains_nounPhraseStart]
  cases derived with
  | pronoun isPronoun => exact ⟨_, [], rfl, by simp [isPronoun]⟩
  | @nominal determiner adjectives head isDeterminer areAdjectives isNoun =>
      cases determiner with
      | some first => exact ⟨first, _, rfl, by simp [isDeterminer first rfl]⟩
      | none =>
          cases adjectives with
          | nil => exact ⟨head, [], rfl, by simp [isNoun]⟩
          | cons first rest =>
              exact ⟨first, _, rfl, by simp [areAdjectives first List.mem_cons_self]⟩

theorem object_complete {part : Option Derivation}
    (derived : ∀ chosen ∈ part, Derives .nounPhrase chosen.words chosen.tree)
    (ended : part = none →
      Grammar.nounPhraseStart.contains (current sentinel left).category = false) :
    object sentinel (part.toList.flatMap Derivation.words ++ left) =
      .ok (part.toList.map Derivation.tree, left) := by
  cases part with
  | none => exact object_stop (ended rfl)
  | some chosen =>
      have chosenDerived := derived chosen rfl
      obtain ⟨first, rest, shape, begun⟩ := nounPhrase_head chosenDerived
      have whole : (some chosen).toList.flatMap Derivation.words ++ left =
          chosen.words ++ left := by simp
      rw [whole, object_next, nounPhrase_complete chosenDerived left]
      · rfl
      · simpa [shape, current] using begun

-- A verb phrase is over where neither an object nor a further phrase begins.
def Ended (sentinel : Token) (left : List Token) : Prop :=
  Grammar.nounPhraseStart.contains (current sentinel left).category = false ∧
    (current sentinel left).category ≠ .preposition

-- The phrases after an object begin with a preposition, so none of them is taken for an object.
theorem no_object_before_phrases {parts : List Derivation}
    (derived : ∀ part ∈ parts, Derives .prepPhrase part.words part.tree)
    (ended : Ended sentinel left) :
    Grammar.nounPhraseStart.contains
      (current sentinel (parts.flatMap Derivation.words ++ left)).category = false := by
  cases parts with
  | nil => exact ended.1
  | cons part rest =>
      obtain ⟨first, words, shape, isPreposition⟩ :=
        prepPhrase_head (derived part List.mem_cons_self)
      rw [List.flatMap_cons, shape]
      show Grammar.nounPhraseStart.contains first.category = false
      rw [isPreposition]
      decide

/-- A verb phrase that was taken, in its parts, and what cannot follow it. -/
theorem verbPhrase_parts (parsed : verbPhrase sentinel tokens = .ok (tree, left)) :
    ∃ (verb : Token) (part : Option Derivation) (parts : List Derivation),
      tokens = verb :: (part.toList ++ parts).flatMap Derivation.words ++ left ∧
      tree = .phrase .verbPhrase (verb.leaf :: (part.toList ++ parts).map Derivation.tree) ∧
      verb.category = .verb ∧
      (∀ chosen ∈ part, Derives .nounPhrase chosen.words chosen.tree) ∧
      (∀ chosen ∈ parts, Derives .prepPhrase chosen.words chosen.tree) ∧
      (current sentinel left).category ≠ .preposition ∧
      (part = none → parts = [] → Ended sentinel left) := by
  cases tokens with
  | nil => cases parsed
  | cons verb rest =>
      by_cases isVerb : verb.category = .verb
      · simp only [verbPhrase, isVerb, ↓reduceIte] at parsed
        cases objectFound : object sentinel rest with
        | error error => simp [objectFound] at parsed
        | ok result =>
            obtain ⟨objects, afterObject⟩ := result
            cases phrasesFound : prepPhrases sentinel afterObject with
            | error error => simp [objectFound, phrasesFound] at parsed
            | ok result =>
                obtain ⟨phrases, last⟩ := result
                simp only [objectFound, phrasesFound, Except.ok.injEq, Prod.mk.injEq] at parsed
                obtain ⟨rfl, rfl⟩ := parsed
                obtain ⟨part, rfl, rfl, objectDerived, noObject⟩ := object_sound objectFound
                obtain ⟨⟨parts, rfl, rfl, partsDerived⟩, ended⟩ :=
                  prepPhrases_sound phrasesFound
                refine ⟨verb, part, parts, ?_, ?_, isVerb, objectDerived, partsDerived, ended, ?_⟩
                · simp
                · simp
                · rintro rfl rfl
                  exact ⟨noObject rfl, ended⟩
      · simp [verbPhrase, isVerb] at parsed

theorem verbPhrase_sound (parsed : verbPhrase sentinel tokens = .ok (tree, left)) :
    ∃ words, tokens = words ++ left ∧ Derives .verbPhrase words tree := by
  obtain ⟨verb, part, parts, rfl, rfl, isVerb, objectDerived, partsDerived, _⟩ :=
    verbPhrase_parts parsed
  exact ⟨_, rfl, .verbal isVerb objectDerived partsDerived⟩

theorem verbPhrase_complete {words : List Token} (derived : Derives .verbPhrase words tree)
    (ended : Ended sentinel left) :
    verbPhrase sentinel (words ++ left) = .ok (tree, left) := by
  cases derived with
  | @verbal verb object modifiers isVerb objectDerived modifiersDerived =>
      have objectFound := object_complete objectDerived fun _ =>
        no_object_before_phrases modifiersDerived ended
      have phrasesFound := prepPhrases_complete modifiersDerived ended.2
      rw [List.cons_append, List.flatMap_append, List.append_assoc]
      simp [verbPhrase, isVerb, objectFound, phrasesFound]

theorem sentence_sound (parsed : sentence sentinel tokens = .ok (tree, left)) :
    ∃ words, tokens = words ++ left ∧ Derives .sentence words tree := by
  unfold sentence at parsed
  split at parsed
  · cases parsed
  · next subject afterSubject subjectFound =>
      split at parsed
      · cases parsed
      · next predicate last predicateFound =>
          cases parsed
          obtain ⟨before, rfl, subjectDerived⟩ := nounPhrase_sound subjectFound
          obtain ⟨after, rfl, predicateDerived⟩ := verbPhrase_sound predicateFound
          exact ⟨before ++ after, by simp,
            @Derives.sentence ⟨before, subject⟩ ⟨after, predicate⟩ subjectDerived
              predicateDerived⟩

theorem sentence_complete {words : List Token} (derived : Derives .sentence words tree)
    (ended : Ended sentinel left) :
    sentence sentinel (words ++ left) = .ok (tree, left) := by
  cases derived with
  | sentence subjectDerived predicateDerived =>
      rw [List.append_assoc]
      simp [sentence, nounPhrase_complete subjectDerived,
        verbPhrase_complete predicateDerived ended]

end SimpleSentence.Parsing
