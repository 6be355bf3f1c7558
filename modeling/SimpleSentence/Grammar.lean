import SimpleSentence.Token
import SimpleSentence.Tree

/-!
The grammar, stated apart from any way of parsing:

    sentence     S  → NP VP
    noun phrase  NP → PRON | DET? ADJ* N
    verb phrase  VP → V NP? PP*
    prep phrase  PP → PREP NP

`Derives kind words tree` says that the tree is a derivation of exactly these
words, each word a leaf in its place. A list of categories is a sentence when
some words with these categories have a derivation, and viable when it can be
continued to a sentence.
-/

namespace SimpleSentence

def Token.leaf (token : Token) : Tree := .word token.text token.category token.index

-- A stretch of words together with its derivation.
structure Derivation where
  words : List Token
  tree : Tree

inductive Derives : PhraseKind → List Token → Tree → Prop where
  | pronoun {word : Token} (isPronoun : word.category = .pronoun) :
      Derives .nounPhrase [word] (.phrase .nounPhrase [word.leaf])
  | nominal {determiner : Option Token} {adjectives : List Token} {head : Token}
      (isDeterminer : ∀ word ∈ determiner, word.category = .determiner)
      (areAdjectives : ∀ word ∈ adjectives, word.category = .adjective)
      (isNoun : head.category = .noun) :
      Derives .nounPhrase (determiner.toList ++ adjectives ++ [head])
        (.phrase .nounPhrase ((determiner.toList ++ adjectives ++ [head]).map Token.leaf))
  | prep {word : Token} {object : Derivation}
      (isPreposition : word.category = .preposition)
      (derived : Derives .nounPhrase object.words object.tree) :
      Derives .prepPhrase (word :: object.words) (.phrase .prepPhrase [word.leaf, object.tree])
  | verbal {verb : Token} {object : Option Derivation} {modifiers : List Derivation}
      (isVerb : verb.category = .verb)
      (objectDerived : ∀ part ∈ object, Derives .nounPhrase part.words part.tree)
      (modifiersDerived : ∀ part ∈ modifiers, Derives .prepPhrase part.words part.tree) :
      Derives .verbPhrase
        (verb :: (object.toList ++ modifiers).flatMap Derivation.words)
        (.phrase .verbPhrase
          (verb.leaf :: (object.toList ++ modifiers).map Derivation.tree))
  | sentence {subject predicate : Derivation}
      (subjectDerived : Derives .nounPhrase subject.words subject.tree)
      (predicateDerived : Derives .verbPhrase predicate.words predicate.tree) :
      Derives .sentence (subject.words ++ predicate.words)
        (.phrase .sentence [subject.tree, predicate.tree])

def IsSentence (categories : List Category) : Prop :=
  ∃ words tree, words.map Token.category = categories ∧ Derives .sentence words tree

def Viable (categories : List Category) : Prop :=
  ∃ more, IsSentence (categories ++ more)

namespace Grammar

/-- What may begin a noun phrase. -/
def nounPhraseStart : CategorySet := .ofList [.determiner, .adjective, .noun, .pronoun]

/-- What may follow a determiner or an adjective inside a noun phrase. -/
def nounPhraseRest : CategorySet := .ofList [.adjective, .noun]

def verbPhraseStart : CategorySet := .single .verb

def prepPhraseStart : CategorySet := .single .preposition

def endOnly : CategorySet := .single .endOfInput

end Grammar

end SimpleSentence
