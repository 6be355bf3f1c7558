import Mathlib.Data.List.Forall2
import SimpleSentence.Proofs.Production

/-!
A relabelling spells the words of a tagged text in another way and moves them in
the source, while their categories and numbers stay. The parser looks at nothing
but categories, so it commutes with every relabelling: each production takes the
same words and gives the relabelled tree, or fails at the same token with the
relabelled error. Hence two tagged texts that one relabelling makes equal are
judged alike, and their trees or errors differ only in what it hides.
-/

namespace SimpleSentence

/-- Errors of one kind with one expected set, about two tokens that are alike. -/
inductive ParseError.Alike (tokens : Token → Token → Prop) : ParseError → ParseError → Prop where
  | unexpected {expected : CategorySet} {found other : Token} (alike : tokens found other) :
      Alike tokens (.unexpected expected found) (.unexpected expected other)
  | trailing {found other : Token} (alike : tokens found other) :
      Alike tokens (.trailing found) (.trailing other)

/-- Two texts accepted with trees that are alike, or rejected with errors that are. -/
inductive JudgedAlike (trees : Tree → Tree → Prop) (tokens : Token → Token → Prop) :
    Except ParseError Tree → Except ParseError Tree → Prop where
  | accepted {tree other : Tree} (alike : trees tree other) :
      JudgedAlike trees tokens (.ok tree) (.ok other)
  | rejected {error other : ParseError} (alike : error.Alike tokens other) :
      JudgedAlike trees tokens (.error error) (.error other)

-- What may change about a token.
structure Relabelling where
  spell : Text → Text
  move : Span → Span

namespace Relabelling

variable (change : Relabelling)

def token (token : Token) : Token :=
  ⟨change.spell token.text, token.category, token.index, change.move token.span⟩

mutual

def tree : Tree → Tree
  | .phrase kind children => .phrase kind (trees children)
  | .word text category index => .word (change.spell text) category index

def trees : List Tree → List Tree
  | [] => []
  | first :: rest => tree first :: trees rest

end

def error : ParseError → ParseError
  | .unexpected expected found => .unexpected expected (change.token found)
  | .trailing found => .trailing (change.token found)

def verdict : Except ParseError Tree → Except ParseError Tree
  | .ok tree => .ok (change.tree tree)
  | .error error => .error (change.error error)

def tagged (tagged : Tagged) : Tagged :=
  ⟨tagged.words.map change.token, change.token tagged.sentinel⟩

/-- The outcome of a production, with the words that it leaves. -/
def outcome {α : Type} (part : α → α) : Parsing.Outcome α → Parsing.Outcome α
  | .ok (found, left) => .ok (part found, left.map change.token)
  | .error error => .error (change.error error)

@[simp] theorem category_token (token : Token) :
    (change.token token).category = token.category := rfl

theorem trees_eq_map (trees : List Tree) : change.trees trees = trees.map change.tree := by
  induction trees with
  | nil => rfl
  | cons first rest ih => rw [Relabelling.trees, ih, List.map_cons]

@[simp] theorem tree_phrase (kind : PhraseKind) (children : List Tree) :
    change.tree (.phrase kind children) = .phrase kind (children.map change.tree) := by
  rw [tree, trees_eq_map]

@[simp] theorem leaf_token (token : Token) : (change.token token).leaf = change.tree token.leaf := by
  rw [Token.leaf, Token.leaf, tree, Relabelling.token]

section Productions

open Parsing

variable (sentinel : Token) (tokens : List Token)

@[simp] theorem current_map :
    current (change.token sentinel) (tokens.map change.token) =
      change.token (current sentinel tokens) := by
  cases tokens <;> rfl

theorem modifiers_map :
    modifiers (tokens.map change.token) =
      ((modifiers tokens).1.map change.token, (modifiers tokens).2.map change.token) := by
  have same : isAdjective ∘ change.token = isAdjective := rfl
  cases tokens with
  | nil => rfl
  | cons first rest =>
      by_cases determiner : first.category = .determiner
      · simp [modifiers, determiner, List.takeWhile_map, List.dropWhile_map, same]
      · have kept : ¬ (change.token first).category = .determiner := determiner
        rw [List.map_cons, modifiers, modifiers, if_neg determiner, if_neg kept,
          ← List.map_cons, List.takeWhile_map, List.dropWhile_map, same]

theorem headExpected_map : headExpected (tokens.map change.token) = headExpected tokens := by
  simp [headExpected]

theorem nominal_map :
    nominal (change.token sentinel) (tokens.map change.token) =
      change.outcome change.tree (nominal sentinel tokens) := by
  rw [nominal, modifiers_map, nominal]
  cases shape : modifiers tokens with
  | mk taken left =>
      cases left with
      | nil => simp [outcome, error, headExpected_map]
      | cons head rest =>
          by_cases noun : head.category = .noun
          · simp [outcome, noun, Function.comp_def]
          · simp [outcome, error, noun, headExpected_map]

theorem nounPhrase_map :
    nounPhrase (change.token sentinel) (tokens.map change.token) =
      change.outcome change.tree (nounPhrase sentinel tokens) := by
  cases tokens with
  | nil => exact change.nominal_map sentinel []
  | cons first rest =>
      by_cases pronoun : first.category = .pronoun
      · simp [nounPhrase, pronoun, outcome]
      · have nominal := change.nominal_map sentinel (first :: rest)
        rw [List.map_cons] at nominal
        simpa [nounPhrase, pronoun] using nominal

theorem prepPhrase_map :
    prepPhrase (change.token sentinel) (tokens.map change.token) =
      change.outcome change.tree (prepPhrase sentinel tokens) := by
  cases tokens with
  | nil => rfl
  | cons first rest =>
      by_cases preposition : first.category = .preposition
      · have object := change.nounPhrase_map sentinel rest
        cases found : nounPhrase sentinel rest <;> rw [found] at object <;>
          simp [prepPhrase, preposition, object, found, outcome]
      · simp [prepPhrase, preposition, outcome, error]

theorem object_map :
    object (change.token sentinel) (tokens.map change.token) =
      change.outcome (List.map change.tree) (object sentinel tokens) := by
  rw [object, object, current_map, category_token, nounPhrase_map]
  split
  · cases nounPhrase sentinel tokens <;> rfl
  · rfl

-- Induction along the loop: both runs stop at the same word, and take the same phrase before it.
theorem prepPhrases_map :
    prepPhrases (change.token sentinel) (tokens.map change.token) =
      change.outcome (List.map change.tree) (prepPhrases sentinel tokens) := by
  fun_induction prepPhrases sentinel tokens with
  | case1 tokens begun error failed =>
      have phrase := change.prepPhrase_map sentinel tokens
      rw [failed] at phrase
      exact prepPhrases_failed (by simpa using (contains_prepPhraseStart _).mp begun) phrase
  | case2 tokens begun first left found shorter error failed ih =>
      have phrase := change.prepPhrase_map sentinel tokens
      rw [found] at phrase
      rw [prepPhrases_next (by simpa using (contains_prepPhraseStart _).mp begun) phrase, ih, failed]
      rfl
  | case3 tokens begun first left found shorter more rest taken ih =>
      have phrase := change.prepPhrase_map sentinel tokens
      rw [found] at phrase
      rw [prepPhrases_next (by simpa using (contains_prepPhraseStart _).mp begun) phrase, ih, taken]
      rfl
  | case4 tokens ended =>
      apply prepPhrases_stop
      rwa [current_map, category_token, ne_eq, ← contains_prepPhraseStart]

theorem verbPhrase_map :
    verbPhrase (change.token sentinel) (tokens.map change.token) =
      change.outcome change.tree (verbPhrase sentinel tokens) := by
  cases tokens with
  | nil => rfl
  | cons verb rest =>
      by_cases isVerb : verb.category = .verb
      · have objects := change.object_map sentinel rest
        cases objectFound : object sentinel rest with
        | error error =>
            rw [objectFound] at objects
            simp [verbPhrase, isVerb, objects, objectFound, outcome]
        | ok result =>
            obtain ⟨taken, afterObject⟩ := result
            have phrases := change.prepPhrases_map sentinel afterObject
            rw [objectFound] at objects
            cases phrasesFound : prepPhrases sentinel afterObject <;> rw [phrasesFound] at phrases <;>
              simp [verbPhrase, isVerb, objects, objectFound, outcome, phrases, phrasesFound]
      · simp [verbPhrase, isVerb, outcome, error]

theorem sentence_map :
    sentence (change.token sentinel) (tokens.map change.token) =
      change.outcome change.tree (sentence sentinel tokens) := by
  have subjects := change.nounPhrase_map sentinel tokens
  cases subjectFound : nounPhrase sentinel tokens with
  | error error =>
      rw [subjectFound] at subjects
      simp [sentence, subjects, subjectFound, outcome]
  | ok result =>
      obtain ⟨subject, afterSubject⟩ := result
      have predicates := change.verbPhrase_map sentinel afterSubject
      rw [subjectFound] at subjects
      cases predicateFound : verbPhrase sentinel afterSubject <;> rw [predicateFound] at predicates <;>
        simp [sentence, subjects, subjectFound, outcome, predicates, predicateFound]

end Productions

/-- A relabelled text is accepted or rejected like the text, with the relabelled tree or error. -/
theorem parse_tagged (tagged : Tagged) :
    (change.tagged tagged).parse = change.verdict tagged.parse := by
  have taken := change.sentence_map tagged.sentinel tagged.words
  cases found : Parsing.sentence tagged.sentinel tagged.words with
  | error error =>
      rw [found] at taken
      simp [Tagged.parse, Relabelling.tagged, taken, found, outcome, verdict]
  | ok result =>
      obtain ⟨tree, left⟩ := result
      rw [found] at taken
      cases left <;>
        simp [Tagged.parse, Relabelling.tagged, taken, found, outcome, verdict, error]

theorem error_alike {first second : ParseError}
    (equal : change.error first = change.error second) :
    first.Alike (fun found other => change.token found = change.token other) second := by
  cases first with
  | unexpected expected found =>
      cases second with
      | unexpected others other =>
          obtain ⟨rfl, alike⟩ := ParseError.unexpected.inj equal
          exact .unexpected alike
      | trailing other => cases equal
  | trailing found =>
      cases second with
      | unexpected others other => cases equal
      | trailing other => exact .trailing (ParseError.trailing.inj equal)

theorem verdict_alike {first second : Except ParseError Tree}
    (equal : change.verdict first = change.verdict second) :
    JudgedAlike (fun tree other => change.tree tree = change.tree other)
      (fun found other => change.token found = change.token other) first second := by
  cases first with
  | ok tree =>
      cases second with
      | ok other => exact .accepted (Except.ok.inj equal)
      | error error => cases equal
  | error error =>
      cases second with
      | ok tree => cases equal
      | error other => exact .rejected (change.error_alike (Except.error.inj equal))

theorem tokens_tagged (tagged : Tagged) :
    (change.tagged tagged).tokens = tagged.tokens.map change.token := by
  simp [Relabelling.tagged, Tagged.tokens]

theorem tokens_alike {first second : Tagged}
    (equal : change.tagged first = change.tagged second) :
    List.Forall₂ (fun found other => change.token found = change.token other)
      first.tokens second.tokens := by
  have mapped : List.Forall₂ Eq (first.tokens.map change.token)
      (second.tokens.map change.token) := by
    rw [List.forall₂_eq_eq_eq, ← change.tokens_tagged, ← change.tokens_tagged, equal]
  exact (List.forall₂_map_right_iff.mp (List.forall₂_map_left_iff.mp mapped))

/-- Tagged texts that a relabelling makes equal are judged alike. -/
theorem parse_alike {first second : Tagged}
    (equal : change.tagged first = change.tagged second) :
    JudgedAlike (fun tree other => change.tree tree = change.tree other)
      (fun found other => change.token found = change.token other) first.parse second.parse := by
  apply change.verdict_alike
  rw [← change.parse_tagged, ← change.parse_tagged, equal]

end Relabelling

section Alike

variable {sameTrees otherTrees : Tree → Tree → Prop} {sameTokens otherTokens : Token → Token → Prop}

theorem ParseError.Alike.imp (weaker : ∀ found other, sameTokens found other → otherTokens found other)
    {first second : ParseError} (alike : first.Alike sameTokens second) :
    first.Alike otherTokens second := by
  cases alike with
  | unexpected alike => exact .unexpected (weaker _ _ alike)
  | trailing alike => exact .trailing (weaker _ _ alike)

theorem JudgedAlike.imp (trees : ∀ tree other, sameTrees tree other → otherTrees tree other)
    (tokens : ∀ found other, sameTokens found other → otherTokens found other)
    {first second : Except ParseError Tree} (judged : JudgedAlike sameTrees sameTokens first second) :
    JudgedAlike otherTrees otherTokens first second := by
  cases judged with
  | accepted alike => exact .accepted (trees _ _ alike)
  | rejected alike => exact .rejected (alike.imp tokens)

end Alike

end SimpleSentence
