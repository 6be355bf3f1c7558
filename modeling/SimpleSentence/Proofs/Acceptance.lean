import SimpleSentence.Proofs.Failure

/-!
The parser accepts exactly the sentences of the grammar. On a closed tagged text
it returns a tree exactly when that tree is a derivation of the words, so no
text has two derivations, and whether one exists depends on the categories
alone. Sentences and their beginnings are also what the stages read: a sentence
is read to a stage that is done, and every stage can be completed.
-/

namespace SimpleSentence

-- A tagged text as the tagger makes it: the end mark is the only token of its category.
structure Tagged.Closed (tagged : Tagged) : Prop where
  sentinel : tagged.sentinel.category = .endOfInput
  words : ∀ word ∈ tagged.words, word.category ≠ .endOfInput

namespace Tagged

variable {tagged : Tagged} {tree : Tree}

theorem Closed.ended (closed : tagged.Closed) : Parsing.Ended tagged.sentinel [] := by
  unfold Parsing.Ended Parsing.current
  rw [closed.sentinel]
  exact ⟨by decide, by decide⟩

theorem parse_sound (parsed : tagged.parse = .ok tree) : Derives .sentence tagged.words tree := by
  unfold parse at parsed
  split at parsed
  · cases parsed
  · next found taken =>
      cases parsed
      obtain ⟨words, whole, derived⟩ := Parsing.sentence_sound taken
      rw [whole, List.append_nil]
      exact derived
  · cases parsed

theorem parse_complete (closed : tagged.Closed) (derived : Derives .sentence tagged.words tree) :
    tagged.parse = .ok tree := by
  have taken := Parsing.sentence_complete derived closed.ended
  rw [List.append_nil] at taken
  rw [parse, taken]

theorem parse_ok_iff (closed : tagged.Closed) :
    tagged.parse = .ok tree ↔ Derives .sentence tagged.words tree :=
  ⟨parse_sound, parse_complete closed⟩

-- If all words were read to a stage that is done, no token was left to fail at.
theorem parse_of_reached (closed : tagged.Closed) {last : Stage}
    (reached : (Stage.opening .subject).after? (tagged.words.map Token.category) = some last)
    (done : last.isDone = true) : ∃ tree, tagged.parse = .ok tree := by
  cases outcome : tagged.parse with
  | ok tree => exact ⟨tree, rfl⟩
  | error error =>
      obtain ⟨read, left, stage, whole, front, blocked, _, unfinished⟩ :=
        parse_failed closed.sentinel outcome
      rw [whole, List.map_append, Stage.after?_append, front] at reached
      cases left with
      | nil =>
          cases reached
          rw [unfinished rfl] at done
          cases done
      | cons found rest =>
          have stopped : stage.next? found.category = none := blocked
          simp [Stage.after?, stopped] at reached

/-- Words of given categories, closed by an end mark. -/
def ofCategories (categories : List Category) : Tagged :=
  { words := categories.map fun category => ⟨[], category, 0, .empty 0⟩
    sentinel := ⟨[], .endOfInput, categories.length, .empty 0⟩ }

theorem categories_ofCategories (categories : List Category) :
    (ofCategories categories).words.map Token.category = categories := by
  simp [ofCategories, Function.comp_def]

theorem closed_ofCategories {categories : List Category}
    (words : ∀ category ∈ categories, category ≠ .endOfInput) :
    (ofCategories categories).Closed := by
  refine ⟨rfl, fun word member => ?_⟩
  obtain ⟨category, inside, rfl⟩ := List.mem_map.mp member
  exact words category inside

end Tagged

theorem isSentence_iff_reached (categories : List Category) :
    IsSentence categories ↔ ∃ last,
      (Stage.opening .subject).after? categories = some last ∧ last.isDone = true := by
  constructor
  · rintro ⟨words, tree, rfl, derived⟩
    exact Stage.after?_sentence derived
  · rintro ⟨last, reached, done⟩
    have closed := Tagged.closed_ofCategories (Stage.no_endOfInput reached)
    have same := Tagged.categories_ofCategories categories
    rw [← same] at reached
    obtain ⟨tree, parsed⟩ := Tagged.parse_of_reached closed reached done
    exact ⟨_, tree, same, Tagged.parse_sound parsed⟩

theorem viable_iff_reached (categories : List Category) :
    Viable categories ↔ ∃ stage, (Stage.opening .subject).after? categories = some stage := by
  constructor
  · rintro ⟨more, sentence⟩
    obtain ⟨last, reached, _⟩ := (isSentence_iff_reached _).mp sentence
    rw [Stage.after?_append] at reached
    obtain ⟨stage, front, _⟩ := Option.bind_eq_some_iff.mp reached
    exact ⟨stage, front⟩
  · rintro ⟨stage, reached⟩
    obtain ⟨last, completed, done⟩ := stage.ending_completes
    exact ⟨stage.ending, (isSentence_iff_reached _).mpr
      ⟨last, Stage.after?_append_of reached completed, done⟩⟩

/-- The trees that the parser returns are the derivation trees: grown by the productions and with
the words for leaves. There is at most one, and there is one for the sentences of the grammar. -/
theorem parse_exactly_derivations (tagged : Tagged) (closed : tagged.Closed) :
    (∀ tree, tagged.parse = .ok tree ↔
      tree.symbol = .phrase .sentence ∧ tree.WellGrown ∧
        tree.leaves = tagged.words.map Token.leaf) ∧
    (∀ tree, tagged.parse = .ok tree ↔ Derives .sentence tagged.words tree) ∧
    ((∃ tree, tagged.parse = .ok tree) ↔ IsSentence (tagged.words.map Token.category)) ∧
    (∀ first second, Derives .sentence tagged.words first →
      Derives .sentence tagged.words second → first = second) := by
  refine ⟨fun tree => (Tagged.parse_ok_iff closed).trans derives_iff_wellGrown,
    fun tree => Tagged.parse_ok_iff closed, ?_, ?_⟩
  · constructor
    · rintro ⟨tree, parsed⟩
      exact ⟨tagged.words, tree, rfl, Tagged.parse_sound parsed⟩
    · intro sentence
      obtain ⟨last, reached, done⟩ := (isSentence_iff_reached _).mp sentence
      exact Tagged.parse_of_reached closed reached done
  · intro first second firstDerived secondDerived
    have parsed := Tagged.parse_complete closed firstDerived
    rw [Tagged.parse_complete closed secondDerived] at parsed
    exact (Except.ok.inj parsed).symm

/-- The tokens of the text `The old dog sat in it`. -/
def oldDogSat : Tagged :=
  { words :=
      [⟨"The".toList, .determiner, 0, ⟨0, 3⟩⟩, ⟨"old".toList, .adjective, 1, ⟨4, 7⟩⟩,
        ⟨"dog".toList, .noun, 2, ⟨8, 11⟩⟩, ⟨"sat".toList, .verb, 3, ⟨12, 15⟩⟩,
        ⟨"in".toList, .preposition, 4, ⟨16, 18⟩⟩, ⟨"it".toList, .pronoun, 5, ⟨19, 21⟩⟩]
    sentinel := ⟨sentinelText, .endOfInput, 6, .empty 21⟩ }

def oldDogSatTree : Tree :=
  .phrase .sentence
    [.phrase .nounPhrase
      [.word "The".toList .determiner 0, .word "old".toList .adjective 1,
        .word "dog".toList .noun 2],
    .phrase .verbPhrase
      [.word "sat".toList .verb 3,
        .phrase .prepPhrase
          [.word "in".toList .preposition 4, .phrase .nounPhrase [.word "it".toList .pronoun 5]]]]

theorem oldDogSat_parsed : oldDogSat.Closed ∧ oldDogSat.parse = .ok oldDogSatTree := by
  have closed : oldDogSat.Closed := ⟨rfl, by decide⟩
  have subject : Tree.WellGrown (oldDogSatTree.children[0]) :=
    .phrase (.determined 1) (by simp [Tree.WellGrown.word])
  have object : Tree.WellGrown (.phrase .nounPhrase [.word "it".toList .pronoun 5]) :=
    .phrase .pronoun (by simp [Tree.WellGrown.word])
  have modifier : Tree.WellGrown (.phrase .prepPhrase
      [.word "in".toList .preposition 4, .phrase .nounPhrase [.word "it".toList .pronoun 5]]) :=
    .phrase .prep (by simpa [Tree.WellGrown.word] using object)
  have predicate : Tree.WellGrown (oldDogSatTree.children[1]) :=
    .phrase (.intransitive 1) (by simpa [Tree.WellGrown.word] using modifier)
  have grown : oldDogSatTree.WellGrown := .phrase .sentence (by simpa using ⟨subject, predicate⟩)
  exact ⟨closed, ((parse_exactly_derivations oldDogSat closed).1 oldDogSatTree).mpr
    ⟨rfl, grown, rfl⟩⟩

end SimpleSentence
