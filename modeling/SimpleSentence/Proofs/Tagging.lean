import SimpleSentence.Proofs.Lexicon.Contents
import SimpleSentence.Proofs.Words
import SimpleSentence.Token

/-!
What tagging makes of a text. The tokens are the words in order, each with its
number, its span, the text under the span and one category, and behind them the
end mark. A category is settled by the closed classes, then by the lexicon, then
by a guess; none of the three gives the category of the end mark, and only the
first makes a determiner, because no marking stands for either.
-/

namespace SimpleSentence

theorem closedClass?_determiner_iff (word : Text) :
    closedClass? word = some .determiner ↔ word ∈ determiners := by
  unfold closedClass?
  split
  · next listed => simpa using listed
  · next absent =>
      constructor
      · intro found
        split at found
        · cases found
        · split at found <;> cases found
      · intro listed
        exact absurd (List.contains_iff_mem.mpr listed) absent

theorem closedClass?_cases {word : Text} {category : Category}
    (found : closedClass? word = some category) :
    category = .determiner ∨ category = .pronoun ∨ category = .preposition := by
  unfold closedClass? at found
  split at found
  · exact .inl (Option.some.inj found).symm
  · split at found
    · exact .inr (.inl (Option.some.inj found).symm)
    · split at found
      · exact .inr (.inr (Option.some.inj found).symm)
      · cases found

-- A category that a word may have without being in a closed class.
def Category.Open (category : Category) : Prop :=
  category ≠ .unknown ∧ category ≠ .determiner ∧ category ≠ .endOfInput

theorem guess_open (word : Text) : (guess word).Open := by
  unfold guess
  split
  · exact ⟨by decide, by decide, by decide⟩
  · exact ⟨by decide, by decide, by decide⟩

namespace Lexicon

/-- What settles the category of a lowercase word. -/
inductive Resolution (lexicon : Lexicon) (word : Text) : Category → Prop where
  | closed {category : Category} (listed : closedClass? word = some category) :
      Resolution lexicon word category
  | entry {category : Category} (unlisted : closedClass? word = none)
      (held : lexicon.lookup? word = some category) (known : category ≠ .unknown) :
      Resolution lexicon word category
  | guessed (unlisted : closedClass? word = none) : Resolution lexicon word (guess word)

theorem categoryOf_resolution (lexicon : Lexicon) (word : Text) :
    lexicon.Resolution (Text.lower word) (lexicon.categoryOf word) := by
  simp only [categoryOf]
  split
  · next category listed => exact .closed listed
  · next unlisted =>
      split
      · exact .guessed unlisted
      · next category known held => exact .entry unlisted held known
      · exact .guessed unlisted

-- Outside the closed classes every category is open, from the lexicon as well as by a guess.
theorem Resolution.closed_or_open {lexicon : Lexicon} (consistent : lexicon.Consistent)
    {word : Text} {category : Category} (resolution : lexicon.Resolution word category) :
    closedClass? word = some category ∨ closedClass? word = none ∧ category.Open := by
  cases resolution with
  | closed listed => exact .inl listed
  | entry unlisted held known =>
      obtain ⟨entry, member, _, rfl⟩ := (consistent.lookup _ _).mp held
      exact .inr ⟨unlisted, (consistent.resolved entry member).2⟩
  | guessed unlisted => exact .inr ⟨unlisted, guess_open word⟩

/-- A word is tagged neither as an end mark nor as unknown, and as a determiner by the list only. -/
theorem Consistent.categoryOf {lexicon : Lexicon} (consistent : lexicon.Consistent) (word : Text) :
    lexicon.categoryOf word ≠ .endOfInput ∧ lexicon.categoryOf word ≠ .unknown ∧
      (lexicon.categoryOf word = .determiner ↔ Text.lower word ∈ determiners) := by
  have listed := closedClass?_determiner_iff (Text.lower word)
  rcases (lexicon.categoryOf_resolution word).closed_or_open consistent with
    found | ⟨unlisted, known, notDeterminer, notEnd⟩
  · rw [found, Option.some.injEq] at listed
    refine ⟨?_, ?_, listed⟩
    · rcases closedClass?_cases found with equal | equal | equal <;> rw [equal] <;> decide
    · rcases closedClass?_cases found with equal | equal | equal <;> rw [equal] <;> decide
  · rw [unlisted] at listed
    refine ⟨notEnd, known, fun equal => absurd equal notDeterminer, fun inside => ?_⟩
    cases listed.mpr inside

theorem index_tokensFrom (lexicon : Lexicon) (index : Nat) (words : List Word) :
    (lexicon.tokensFrom index words).map Token.index = List.range' index words.length := by
  calc
    (lexicon.tokensFrom index words).map Token.index
        = (words.zipIdx index).map Prod.snd := by
          rw [tokensFrom_eq_map, List.map_map]
          rfl
    _ = List.range' index words.length := List.zipIdx_map_snd index words

theorem mem_tokensFrom {lexicon : Lexicon} {index : Nat} {words : List Word} {token : Token}
    (member : token ∈ lexicon.tokensFrom index words) :
    ∃ word ∈ words, ∃ place, token = lexicon.token place word := by
  rw [tokensFrom_eq_map] at member
  obtain ⟨⟨word, place⟩, inside, rfl⟩ := List.mem_map.mp member
  exact ⟨word, List.fst_mem_of_mem_zipIdx inside, place, rfl⟩

/-- The tokens of a text: one for each word and one more, numbered in a row. A word has the text
under its span and the category of that text, which is never that of the end mark; the end mark
stands behind all bytes. -/
theorem tag_tokens {lexicon : Lexicon} (built : lexicon.Built) (text : Text) :
    (lexicon.tag text).tokens.map Token.span =
        (Word.allIn text).map Word.span ++ [.empty (Text.byteLength text)] ∧
      (lexicon.tag text).tokens.map Token.index = List.range ((Word.allIn text).length + 1) ∧
      (∀ token ∈ (lexicon.tag text).words,
        token.span.Holds text token.text ∧
        token.category = lexicon.categoryOf token.text ∧
        token.category ≠ .endOfInput ∧ token.category ≠ .unknown ∧
        (token.category = .determiner ↔ Text.lower token.text ∈ determiners) ∧
        token.isSentinel = false) ∧
      (lexicon.tag text).sentinel =
        ⟨"<EOF>".toList, .endOfInput, (Word.allIn text).length, .empty (Text.byteLength text)⟩ ∧
      (lexicon.tag text).sentinel.isSentinel = true := by
  refine ⟨?_, ?_, ?_, rfl, rfl⟩
  · have spans : (lexicon.tag text).words.map Token.span = (Word.allIn text).map Word.span :=
      map_tokensFrom (fun _ _ => rfl) 0 (Word.allIn text)
    rw [Tagged.tokens, List.map_append, spans]
    rfl
  · rw [Tagged.tokens, List.map_append, tag, index_tokensFrom, List.range_succ,
      List.range_eq_range']
    rfl
  · intro token member
    obtain ⟨word, inside, place, rfl⟩ := mem_tokensFrom member
    obtain ⟨notEnd, known, determiner⟩ := built.sound.consistent.categoryOf word.text
    exact ⟨Word.holds_of_mem inside, rfl, notEnd, known, determiner, beq_false_of_ne notEnd⟩

-- A text that spells the end mark, and markings that speak of it and of determiners.
def endMarkRecords : List Record :=
  [⟨"EOF".toList, "<EOF> n.".toList⟩, ⟨"la".toList, "a., det.".toList⟩,
    ⟨"over-all".toList, "EndOfInput".toList⟩]

theorem endMarkText_tagged :
    (ofRecords endMarkRecords).Built ∧
      ((ofRecords endMarkRecords).tag "\u00C0 la <EOF>".toList).tokens =
        [⟨"la".toList, .adjective, 0, ⟨3, 5⟩⟩, ⟨"EOF".toList, .noun, 1, ⟨7, 10⟩⟩,
          ⟨"<EOF>".toList, .endOfInput, 2, ⟨11, 11⟩⟩] ∧
      ∀ token ∈ ((ofRecords endMarkRecords).tag "\u00C0 la <EOF>".toList).words,
        token.isSentinel = false := by
  have built : (ofRecords endMarkRecords).Built := .listed endMarkRecords
  refine ⟨built, by decide +kernel, fun token member => ?_⟩
  exact ((tag_tokens built "\u00C0 la <EOF>".toList).2.2.1 token member).2.2.2.2.2

end Lexicon

end SimpleSentence
