import Mathlib.Data.List.Basic
import SimpleSentence.Grammar

/-!
Two readings of "derivation tree". `Derives` builds a tree together with its
words; `WellGrown` looks at a finished tree and asks of every phrase node that
its children are the right-hand side of a production. A tree derives a list of
words exactly when it is well grown, its root is the phrase in question and its
leaves from left to right are these words. Which words may be derived depends on
their categories alone.
-/

namespace SimpleSentence

-- What stands at the root of a tree: a phrase or a word of some category.
inductive Symbol where
  | phrase (kind : PhraseKind)
  | word (category : Category)
  deriving DecidableEq, Repr

def Tree.symbol : Tree → Symbol
  | .phrase kind _ => .phrase kind
  | .word _ category _ => .word category

/-- The right-hand sides of each phrase. -/
inductive PhraseKind.Produces : PhraseKind → List Symbol → Prop where
  | sentence : Produces .sentence [.phrase .nounPhrase, .phrase .verbPhrase]
  | pronoun : Produces .nounPhrase [.word .pronoun]
  | bare (adjectives : Nat) :
      Produces .nounPhrase (List.replicate adjectives (.word .adjective) ++ [.word .noun])
  | determined (adjectives : Nat) :
      Produces .nounPhrase
        (.word .determiner :: (List.replicate adjectives (.word .adjective) ++ [.word .noun]))
  | intransitive (modifiers : Nat) :
      Produces .verbPhrase (.word .verb :: List.replicate modifiers (.phrase .prepPhrase))
  | transitive (modifiers : Nat) :
      Produces .verbPhrase
        (.word .verb :: .phrase .nounPhrase :: List.replicate modifiers (.phrase .prepPhrase))
  | prep : Produces .prepPhrase [.word .preposition, .phrase .nounPhrase]

namespace Tree

/-- Every phrase node is an instance of a production of its phrase. -/
inductive WellGrown : Tree → Prop where
  | word (text : Text) (category : Category) (index : Nat) : WellGrown (.word text category index)
  | phrase {kind : PhraseKind} {children : List Tree}
      (produced : kind.Produces (children.map symbol))
      (grown : ∀ child ∈ children, WellGrown child) : WellGrown (.phrase kind children)

theorem leavesOf_eq_flatMap (trees : List Tree) : leavesOf trees = trees.flatMap leaves := by
  induction trees with
  | nil => rfl
  | cons tree rest ih => rw [leavesOf, ih, List.flatMap_cons]

theorem leaves_phrase (kind : PhraseKind) (children : List Tree) :
    leaves (.phrase kind children) = children.flatMap leaves := by
  rw [leaves, leavesOf_eq_flatMap]

end Tree

theorem Token.leaves_leaf (token : Token) : token.leaf.leaves = [token.leaf] := rfl

theorem Token.flatMap_leaves (tokens : List Token) :
    (tokens.map Token.leaf).flatMap Tree.leaves = tokens.map Token.leaf := by
  induction tokens with
  | nil => rfl
  | cons token rest ih => rw [List.map_cons, List.flatMap_cons, ih, leaves_leaf]; rfl

-- The leaves of several derivations in a row are their words in a row.
theorem flatMap_leaves_of_parts (parts : List Derivation)
    (kept : ∀ part ∈ parts, part.tree.leaves = part.words.map Token.leaf) :
    (parts.map Derivation.tree).flatMap Tree.leaves =
      (parts.flatMap Derivation.words).map Token.leaf := by
  induction parts with
  | nil => rfl
  | cons part rest ih =>
      have later := ih fun other member => kept other (List.mem_cons_of_mem part member)
      rw [List.map_cons, List.flatMap_cons, List.flatMap_cons, List.map_append, later,
        kept part List.mem_cons_self]

theorem Derives.leaves {kind : PhraseKind} {words : List Token} {tree : Tree}
    (derived : Derives kind words tree) : tree.leaves = words.map Token.leaf := by
  induction derived with
  | pronoun _ => rfl
  | nominal _ _ _ => rw [Tree.leaves_phrase, Token.flatMap_leaves]
  | prep _ _ kept => simp [Tree.leaves_phrase, Token.leaves_leaf, kept]
  | verbal _ _ _ objectKept modifiersKept =>
      have kept := flatMap_leaves_of_parts (_ ++ _) fun part member =>
        (List.mem_append.mp member).elim
          (fun inObject => objectKept part (Option.mem_toList.mp inObject))
          (modifiersKept part)
      rw [Tree.leaves_phrase, List.flatMap_cons, kept, Token.leaves_leaf]
      rfl
  | sentence _ _ subjectKept predicateKept =>
      simp [Tree.leaves_phrase, subjectKept, predicateKept]

theorem Derives.symbol {kind : PhraseKind} {words : List Token} {tree : Tree}
    (derived : Derives kind words tree) : tree.symbol = .phrase kind := by
  cases derived <;> rfl

theorem Token.symbols_leaf {tokens : List Token} {category : Category}
    (same : ∀ token ∈ tokens, token.category = category) :
    (tokens.map Token.leaf).map Tree.symbol =
      List.replicate tokens.length (.word category) := by
  rw [List.eq_replicate_iff]
  constructor
  · simp
  · intro symbol member
    obtain ⟨tree, inLeaves, rfl⟩ := List.mem_map.mp member
    obtain ⟨token, inTokens, rfl⟩ := List.mem_map.mp inLeaves
    exact congrArg Symbol.word (same token inTokens)

theorem symbols_of_parts {kind : PhraseKind} {parts : List Derivation}
    (derived : ∀ part ∈ parts, Derives kind part.words part.tree) :
    (parts.map Derivation.tree).map Tree.symbol =
      List.replicate parts.length (.phrase kind) := by
  rw [List.eq_replicate_iff]
  constructor
  · simp
  · intro symbol member
    obtain ⟨tree, inTrees, rfl⟩ := List.mem_map.mp member
    obtain ⟨part, inParts, rfl⟩ := List.mem_map.mp inTrees
    exact (derived part inParts).symbol

theorem Token.wellGrown_leaf (token : Token) : token.leaf.WellGrown :=
  .word token.text token.category token.index

theorem Token.wellGrown_of_mem_leaves (tokens : List Token) :
    ∀ child ∈ tokens.map Token.leaf, child.WellGrown := by
  intro child member
  obtain ⟨token, _, rfl⟩ := List.mem_map.mp member
  exact token.wellGrown_leaf

theorem Derives.wellGrown {kind : PhraseKind} {words : List Token} {tree : Tree}
    (derived : Derives kind words tree) : tree.WellGrown := by
  induction derived with
  | pronoun isPronoun =>
      refine .phrase ?_ (Token.wellGrown_of_mem_leaves [_])
      simpa [Tree.symbol, Token.leaf, isPronoun] using PhraseKind.Produces.pronoun
  | @nominal determiner adjectives head isDeterminer areAdjectives isNoun =>
      refine .phrase ?_ (Token.wellGrown_of_mem_leaves _)
      have headSymbol : head.leaf.symbol = .word .noun := congrArg Symbol.word isNoun
      cases determiner with
      | none =>
          simpa [← List.map_map, Token.symbols_leaf areAdjectives, headSymbol] using
            PhraseKind.Produces.bare adjectives.length
      | some first =>
          have firstSymbol : first.leaf.symbol = .word .determiner :=
            congrArg Symbol.word (isDeterminer first rfl)
          simpa [← List.map_map, Token.symbols_leaf areAdjectives, headSymbol, firstSymbol] using
            PhraseKind.Produces.determined adjectives.length
  | @prep word object isPreposition derived grown =>
      have wordSymbol : word.leaf.symbol = .word .preposition :=
        congrArg Symbol.word isPreposition
      refine .phrase ?_ ?_
      · simpa [wordSymbol, derived.symbol] using PhraseKind.Produces.prep
      · simpa using ⟨word.wellGrown_leaf, grown⟩
  | @verbal verb object modifiers isVerb objectDerived modifiersDerived objectGrown
      modifiersGrown =>
      have verbSymbol : verb.leaf.symbol = .word .verb := congrArg Symbol.word isVerb
      have laterSymbols := symbols_of_parts modifiersDerived
      cases object with
      | none =>
          refine .phrase ?_ ?_
          · simpa [← List.map_map, laterSymbols, verbSymbol] using
              PhraseKind.Produces.intransitive modifiers.length
          · simpa using ⟨verb.wellGrown_leaf, modifiersGrown⟩
      | some part =>
          have partSymbol := (objectDerived part rfl).symbol
          refine .phrase ?_ ?_
          · simpa [← List.map_map, laterSymbols, verbSymbol, partSymbol] using
              PhraseKind.Produces.transitive modifiers.length
          · simpa using ⟨verb.wellGrown_leaf, objectGrown part rfl, modifiersGrown⟩
  | sentence subjectDerived predicateDerived subjectGrown predicateGrown =>
      refine .phrase ?_ ?_
      · simpa [subjectDerived.symbol, predicateDerived.symbol] using
          PhraseKind.Produces.sentence
      · simpa using ⟨subjectGrown, predicateGrown⟩

theorem Tree.leaves_of_word {tree : Tree} {category : Category}
    (isWord : tree.symbol = .word category) : tree.leaves = [tree] := by
  cases tree with
  | phrase kind children => cases isWord
  | word text category index => rfl

theorem Token.category_of_symbol {token : Token} {category : Category}
    (isWord : token.leaf.symbol = .word category) : token.category = category :=
  Symbol.word.inj isWord

-- A production that begins with a word takes the first word for it.
theorem word_before {category : Category} {trees : List Tree} {symbols : List Symbol}
    {words : List Token} (shape : trees.map Tree.symbol = .word category :: symbols)
    (kept : trees.flatMap Tree.leaves = words.map Token.leaf) :
    ∃ word rest later, trees = word.leaf :: rest ∧ words = word :: later ∧
      word.category = category ∧ rest.map Tree.symbol = symbols ∧
      rest.flatMap Tree.leaves = later.map Token.leaf := by
  obtain ⟨tree, rest, rfl, isWord, restShape⟩ := List.map_eq_cons_iff.mp shape
  rw [List.flatMap_cons, Tree.leaves_of_word isWord] at kept
  obtain ⟨word, later, rfl, rfl, laterKept⟩ := List.map_eq_cons_iff.mp kept.symm
  exact ⟨word, rest, later, rfl, rfl, Token.category_of_symbol isWord, restShape,
    laterKept.symm⟩

theorem nothing_left {trees : List Tree} {words : List Token}
    (shape : trees.map Tree.symbol = []) (kept : trees.flatMap Tree.leaves = words.map Token.leaf) :
    trees = [] ∧ words = [] := by
  have noTree : trees = [] := List.map_eq_nil_iff.mp shape
  subst noTree
  exact ⟨rfl, List.map_eq_nil_iff.mp kept.symm⟩

theorem words_of_leaves {count : Nat} {category : Category} {trees : List Tree}
    {words : List Token}
    (symbols : trees.map Tree.symbol = List.replicate count (.word category))
    (kept : trees.flatMap Tree.leaves = words.map Token.leaf) :
    trees = words.map Token.leaf ∧ ∀ word ∈ words, word.category = category := by
  induction count generalizing trees words with
  | zero =>
      obtain ⟨rfl, rfl⟩ := nothing_left symbols kept
      exact ⟨rfl, by simp⟩
  | succ count ih =>
      rw [List.replicate_succ] at symbols
      obtain ⟨word, rest, later, rfl, rfl, isWord, restShape, restKept⟩ :=
        word_before symbols kept
      obtain ⟨rfl, same⟩ := ih restShape restKept
      exact ⟨rfl, by simpa using ⟨isWord, same⟩⟩

-- What a subtree must satisfy to be read as a derivation.
def Tree.Readable (tree : Tree) : Prop :=
  ∀ {kind : PhraseKind} {words : List Token}, tree.symbol = .phrase kind →
    tree.leaves = words.map Token.leaf → Derives kind words tree

-- A production that begins with a phrase takes as many words as that phrase has leaves.
theorem phrase_before {kind : PhraseKind} {trees : List Tree} {symbols : List Symbol}
    {words : List Token} (readable : ∀ tree ∈ trees, tree.Readable)
    (shape : trees.map Tree.symbol = .phrase kind :: symbols)
    (kept : trees.flatMap Tree.leaves = words.map Token.leaf) :
    ∃ (part : Derivation) (rest : List Tree) (later : List Token),
      trees = part.tree :: rest ∧ words = part.words ++ later ∧
      Derives kind part.words part.tree ∧ rest.map Tree.symbol = symbols ∧
      rest.flatMap Tree.leaves = later.map Token.leaf := by
  obtain ⟨tree, rest, rfl, isPhrase, restShape⟩ := List.map_eq_cons_iff.mp shape
  rw [List.flatMap_cons] at kept
  obtain ⟨front, later, rfl, frontKept, laterKept⟩ := List.map_eq_append_iff.mp kept.symm
  exact ⟨⟨front, tree⟩, rest, later, rfl, rfl,
    readable tree List.mem_cons_self isPhrase frontKept.symm, restShape, laterKept.symm⟩

theorem parts_of_phrases {count : Nat} {kind : PhraseKind} {trees : List Tree}
    {words : List Token} (readable : ∀ tree ∈ trees, tree.Readable)
    (symbols : trees.map Tree.symbol = List.replicate count (.phrase kind))
    (kept : trees.flatMap Tree.leaves = words.map Token.leaf) :
    ∃ parts : List Derivation, trees = parts.map Derivation.tree ∧
      words = parts.flatMap Derivation.words ∧
      ∀ part ∈ parts, Derives kind part.words part.tree := by
  induction count generalizing trees words with
  | zero =>
      obtain ⟨rfl, rfl⟩ := nothing_left symbols kept
      exact ⟨[], rfl, rfl, by simp⟩
  | succ count ih =>
      rw [List.replicate_succ] at symbols
      obtain ⟨part, rest, later, rfl, rfl, derived, restShape, restKept⟩ :=
        phrase_before readable symbols kept
      obtain ⟨parts, rfl, rfl, partsDerived⟩ :=
        ih (fun tree member => readable tree (List.mem_cons_of_mem part.tree member))
          restShape restKept
      exact ⟨part :: parts, rfl, rfl, by simpa using ⟨derived, partsDerived⟩⟩

theorem nominal_of_leaves {count : Nat} {trees : List Tree} {words : List Token}
    (determiner : Option Token) (isDeterminer : ∀ word ∈ determiner, word.category = .determiner)
    (shape : trees.map Tree.symbol = List.replicate count (.word .adjective) ++ [.word .noun])
    (kept : trees.flatMap Tree.leaves = words.map Token.leaf) :
    Derives .nounPhrase (determiner.toList ++ words)
      (.phrase .nounPhrase (determiner.toList.map Token.leaf ++ trees)) := by
  obtain ⟨front, back, rfl, frontShape, backShape⟩ := List.map_eq_append_iff.mp shape
  rw [List.flatMap_append] at kept
  obtain ⟨adjectives, after, rfl, frontKept, backKept⟩ := List.map_eq_append_iff.mp kept.symm
  obtain ⟨rfl, areAdjectives⟩ := words_of_leaves frontShape frontKept.symm
  obtain ⟨head, rest, later, rfl, rfl, isNoun, restShape, restKept⟩ :=
    word_before backShape backKept.symm
  obtain ⟨rfl, rfl⟩ := nothing_left restShape restKept
  simpa using Derives.nominal isDeterminer areAdjectives isNoun

theorem verbal_of_leaves {count : Nat} {verb : Token} {trees : List Tree}
    {words : List Token} (object : Option Derivation) (isVerb : verb.category = .verb)
    (objectDerived : ∀ part ∈ object, Derives .nounPhrase part.words part.tree)
    (readable : ∀ tree ∈ trees, tree.Readable)
    (shape : trees.map Tree.symbol = List.replicate count (.phrase .prepPhrase))
    (kept : trees.flatMap Tree.leaves = words.map Token.leaf) :
    Derives .verbPhrase (verb :: (object.toList.flatMap Derivation.words ++ words))
      (.phrase .verbPhrase (verb.leaf :: (object.toList.map Derivation.tree ++ trees))) := by
  obtain ⟨parts, rfl, rfl, derived⟩ := parts_of_phrases readable shape kept
  simpa using Derives.verbal isVerb objectDerived derived

-- Induction on the tree: the production at the root tells which leaves belong to which child.
theorem Tree.WellGrown.readable {tree : Tree} (grown : tree.WellGrown) : tree.Readable := by
  induction grown with
  | word text category index =>
      intro kind words isPhrase
      cases isPhrase
  | @phrase kind children produced _ ih =>
      intro other words isPhrase kept
      cases isPhrase
      rw [leaves_phrase] at kept
      generalize shape : children.map symbol = parts at produced
      cases produced with
      | sentence =>
          obtain ⟨subject, rest, later, rfl, rfl, subjectDerived, restShape, restKept⟩ :=
            phrase_before ih shape kept
          obtain ⟨predicate, last, after, rfl, rfl, predicateDerived, lastShape, lastKept⟩ :=
            phrase_before (fun tree member => ih tree (List.mem_cons_of_mem _ member))
              restShape restKept
          obtain ⟨rfl, rfl⟩ := nothing_left lastShape lastKept
          simpa using Derives.sentence subjectDerived predicateDerived
      | pronoun =>
          obtain ⟨word, rest, later, rfl, rfl, isPronoun, restShape, restKept⟩ :=
            word_before shape kept
          obtain ⟨rfl, rfl⟩ := nothing_left restShape restKept
          exact .pronoun isPronoun
      | bare adjectives =>
          simpa using nominal_of_leaves none (by simp) shape kept
      | determined adjectives =>
          obtain ⟨word, rest, later, rfl, rfl, isDeterminer, restShape, restKept⟩ :=
            word_before shape kept
          simpa using nominal_of_leaves (some word) (by simpa) restShape restKept
      | intransitive modifiers =>
          obtain ⟨verb, rest, later, rfl, rfl, isVerb, restShape, restKept⟩ :=
            word_before shape kept
          simpa using verbal_of_leaves none isVerb (by simp)
            (fun tree member => ih tree (List.mem_cons_of_mem _ member)) restShape restKept
      | transitive modifiers =>
          obtain ⟨verb, rest, later, rfl, rfl, isVerb, restShape, restKept⟩ :=
            word_before shape kept
          have restReadable : ∀ tree ∈ rest, tree.Readable := fun tree member =>
            ih tree (List.mem_cons_of_mem _ member)
          obtain ⟨object, last, after, rfl, rfl, objectDerived, lastShape, lastKept⟩ :=
            phrase_before restReadable restShape restKept
          simpa using verbal_of_leaves (some object) isVerb (by simpa)
            (fun tree member => restReadable tree (List.mem_cons_of_mem _ member))
            lastShape lastKept
      | prep =>
          obtain ⟨word, rest, later, rfl, rfl, isPreposition, restShape, restKept⟩ :=
            word_before shape kept
          obtain ⟨object, last, after, rfl, rfl, objectDerived, lastShape, lastKept⟩ :=
            phrase_before (fun tree member => ih tree (List.mem_cons_of_mem _ member))
              restShape restKept
          obtain ⟨rfl, rfl⟩ := nothing_left lastShape lastKept
          simpa using Derives.prep isPreposition objectDerived

/-- The two readings agree: a derivation of some words is a well grown tree over their leaves. -/
theorem derives_iff_wellGrown {kind : PhraseKind} {words : List Token} {tree : Tree} :
    Derives kind words tree ↔
      tree.symbol = .phrase kind ∧ tree.WellGrown ∧ tree.leaves = words.map Token.leaf := by
  constructor
  · intro derived
    exact ⟨derived.symbol, derived.wellGrown, derived.leaves⟩
  · rintro ⟨isPhrase, grown, kept⟩
    exact grown.readable isPhrase kept

end SimpleSentence
