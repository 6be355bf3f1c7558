import SimpleSentence.Proofs.Acceptance

/-!
A rejected text is rejected at its first impossible token. The words before the
token that the error names are the longest beginning of the text that some
sentence has; the error says that a whole sentence was read exactly when they
are one, and otherwise it expects exactly the categories that could follow them.
-/

namespace SimpleSentence

-- How many of the categories still begin a sentence.
structure LongestViable (categories : List Category) (count : Nat) : Prop where
  inside : count ≤ categories.length
  viable : Viable (categories.take count)
  longest : ∀ longer, longer ≤ categories.length → Viable (categories.take longer) →
    longer ≤ count

namespace Stage

theorem error_found (stage : Stage) (found : Token) : (stage.error found).found = found := by
  unfold error
  split <;> rfl

theorem error_expected_nonempty (stage : Stage) (found : Token) :
    (stage.error found).expected.isEmpty = false := by
  unfold error
  split
  · rfl
  · exact stage.followers_nonempty

-- A token that the stage cannot take is not expected by it, nor is a word expected at the end.
theorem error_excludes_found {stage : Stage} {found : Token}
    (blocked : stage.next? found.category = none)
    (isWord : stage.isDone = true → found.category ≠ .endOfInput) :
    (stage.error found).expected.contains (stage.error found).found.category = false := by
  rw [error_found]
  unfold error
  split
  · next done =>
      rw [ParseError.expected, Grammar.endOnly, CategorySet.contains_single]
      exact beq_false_of_ne (isWord done).symm
  · rw [ParseError.expected, contains_followers, blocked]
    rfl

end Stage

section Reached

variable {categories : List Category} {stage : Stage}

theorem isSentence_iff_isDone
    (reached : (Stage.opening .subject).after? categories = some stage) :
    IsSentence categories ↔ stage.isDone = true := by
  rw [isSentence_iff_reached, reached]
  simp

theorem viable_snoc_iff (reached : (Stage.opening .subject).after? categories = some stage)
    (category : Category) :
    Viable (categories ++ [category]) ↔ (stage.next? category).isSome = true := by
  rw [viable_iff_reached, Stage.after?_append, reached]
  cases found : stage.next? category <;> simp [Stage.after?, found]

-- Nothing that begins with an impossible category after a viable beginning is viable.
theorem longestViable_of_blocked {left : List Category}
    (reached : (Stage.opening .subject).after? categories = some stage)
    (blocked : ∀ next ∈ left.head?, stage.next? next = none) :
    LongestViable (categories ++ left) categories.length := by
  refine ⟨by simp, ?_, fun longer bound viable => ?_⟩
  · rw [List.take_left]
    exact (viable_iff_reached _).mpr ⟨stage, reached⟩
  · by_contra beyond
    obtain ⟨further, rfl⟩ : ∃ further, longer = categories.length + (further + 1) :=
      ⟨longer - categories.length - 1, by omega⟩
    cases left with
    | nil =>
        rw [List.append_nil] at bound
        omega
    | cons next rest =>
        obtain ⟨last, whole⟩ := (viable_iff_reached _).mp viable
        rw [List.take_length_add_append, List.take_succ_cons, Stage.after?_append, reached] at whole
        simp [Stage.after?, blocked next rfl] at whole

end Reached

namespace Tagged

-- The token that an error names stands in the tagged text right behind the words read.
theorem token_behind {tagged : Tagged} {read left : List Token}
    (whole : tagged.words = read ++ left) :
    tagged.tokens[read.length]? = some (Parsing.current tagged.sentinel left) := by
  rw [tokens, whole, List.append_assoc, List.getElem?_append_right (Nat.le_refl _)]
  cases left <;> simp [Parsing.current]

theorem error_of_rejected {tagged : Tagged}
    (rejected : ¬ IsSentence (tagged.words.map Token.category)) :
    ∃ error, tagged.parse = .error error := by
  cases outcome : tagged.parse with
  | error error => exact ⟨error, rfl⟩
  | ok tree => exact absurd ⟨tagged.words, tree, rfl, parse_sound outcome⟩ rejected

end Tagged

/-- An error names the token behind the longest viable beginning, and says what could stand
there instead: nothing more if the beginning is a sentence, else every viable continuation. -/
theorem rejected_at_first_failure (tagged : Tagged) (closed : tagged.Closed)
    (rejected : ¬ IsSentence (tagged.words.map Token.category)) :
    ∃ (count : Nat) (error : ParseError),
      LongestViable (tagged.words.map Token.category) count ∧
      tagged.parse = .error error ∧
      tagged.tokens[count]? = some error.found ∧
      ((IsSentence ((tagged.words.map Token.category).take count) ∧
          error = .trailing error.found) ∨
        (¬ IsSentence ((tagged.words.map Token.category).take count) ∧
          ∃ expected, error = .unexpected expected error.found ∧
            ∀ category, expected.contains category = true ↔
              Viable ((tagged.words.map Token.category).take count ++ [category]))) ∧
      error.expected.contains error.found.category = false ∧
      error.expected.isEmpty = false := by
  obtain ⟨error, failed⟩ := Tagged.error_of_rejected rejected
  obtain ⟨read, left, last, whole, reached, blocked, rfl, unfinished⟩ :=
    Tagged.parse_failed closed.sentinel failed
  have categories : tagged.words.map Token.category =
      read.map Token.category ++ left.map Token.category := by rw [whole, List.map_append]
  have taken : (tagged.words.map Token.category).take read.length =
      read.map Token.category := by rw [categories, List.take_left' (List.length_map _)]
  have isWord : last.isDone = true →
      (Parsing.current tagged.sentinel left).category ≠ .endOfInput := by
    intro done
    cases left with
    | nil =>
        rw [unfinished rfl] at done
        cases done
    | cons found rest => exact closed.words found (by simp [whole])
  have next : ∀ category ∈ (left.map Token.category).head?, last.next? category = none := by
    cases left with
    | nil => simp
    | cons found rest => simpa [Parsing.current] using blocked
  have longest := longestViable_of_blocked reached next
  refine ⟨read.length, _, ?_, failed, ?_, ?_, last.error_excludes_found blocked isWord,
    last.error_expected_nonempty _⟩
  · simpa [categories] using longest
  · rw [last.error_found]
    exact Tagged.token_behind whole
  · rw [taken, last.error_found]
    cases done : last.isDone with
    | true => exact .inl ⟨(isSentence_iff_isDone reached).mpr done, by simp [Stage.error, done]⟩
    | false =>
        refine .inr ⟨fun sentence => ?_, last.followers, by simp [Stage.error, done], ?_⟩
        · rw [(isSentence_iff_isDone reached).mp sentence] at done
          cases done
        · intro category
          rw [last.contains_followers, viable_snoc_iff reached]

/-- The tokens of the text `It saw the old under`. -/
def sawTheOld : Tagged :=
  { words :=
      [⟨"It".toList, .pronoun, 0, ⟨0, 2⟩⟩, ⟨"saw".toList, .verb, 1, ⟨3, 6⟩⟩,
        ⟨"the".toList, .determiner, 2, ⟨7, 10⟩⟩, ⟨"old".toList, .adjective, 3, ⟨11, 14⟩⟩,
        ⟨"under".toList, .preposition, 4, ⟨15, 20⟩⟩]
    sentinel := ⟨sentinelText, .endOfInput, 5, .empty 20⟩ }

theorem sawTheOld_rejected :
    sawTheOld.Closed ∧ ¬ IsSentence (sawTheOld.words.map Token.category) ∧
      ∃ count error, LongestViable (sawTheOld.words.map Token.category) count ∧
        sawTheOld.parse = .error error ∧ sawTheOld.tokens[count]? = some error.found := by
  have closed : sawTheOld.Closed := ⟨rfl, by decide⟩
  have rejected : ¬ IsSentence (sawTheOld.words.map Token.category) := by
    rw [isSentence_iff_reached]
    rintro ⟨last, reached, _⟩
    cases reached
  obtain ⟨count, error, longest, failed, found, _⟩ :=
    rejected_at_first_failure sawTheOld closed rejected
  exact ⟨closed, rejected, count, error, longest, failed, found⟩

end SimpleSentence
