import SimpleSentence.CategorySet
import SimpleSentence.Lexicon
import SimpleSentence.Word

/-!
Tagging gives each word of a text one category: that of its closed class, else
that of the lexicon, else adverb for a word in `-ly` and noun for any other.
Only the lowercase word decides. A tagged text keeps its end mark apart from
its words, so the mark is always there and no word can take its place.
-/

namespace SimpleSentence

structure Token where
  text : Text
  category : Category
  index : Nat
  span : Span
  deriving DecidableEq, Repr

namespace Token

def isSentinel (token : Token) : Bool := token.category == .endOfInput

/-- The leaf label of a tree: text, slash, code. -/
def label (token : Token) : Text := token.text ++ '/' :: token.category.code

end Token

def determiners : List Text :=
  ["a".toList, "an".toList, "the".toList, "this".toList, "that".toList, "my".toList,
    "your".toList, "his".toList, "her".toList, "our".toList, "their".toList]

def pronouns : List Text :=
  ["i".toList, "you".toList, "he".toList, "she".toList, "it".toList, "we".toList,
    "they".toList]

def prepositions : List Text :=
  ["in".toList, "on".toList, "at".toList, "for".toList, "to".toList, "with".toList,
    "from".toList, "between".toList, "before".toList, "after".toList]

/-- The category of a lowercase word that belongs to a closed class. -/
def closedClass? (word : Text) : Option Category :=
  if determiners.contains word then some .determiner
  else if pronouns.contains word then some .pronoun
  else if prepositions.contains word then some .preposition
  else none

def adverbEnding : Text := "ly".toList

/-- The category of a lowercase word that no list knows. -/
def guess (word : Text) : Category :=
  if adverbEnding.isSuffixOf word then .adverb else .noun

def sentinelText : Text := "<EOF>".toList

structure Tagged where
  words : List Token
  sentinel : Token
  deriving DecidableEq, Repr

/-- The words with the end mark behind them. -/
def Tagged.tokens (tagged : Tagged) : List Token := tagged.words ++ [tagged.sentinel]

namespace Lexicon

/-- The category of a word as it is tagged inside a sentence. -/
def categoryOf (lexicon : Lexicon) (word : Text) : Category :=
  let lowered := Text.lower word
  match closedClass? lowered with
  | some category => category
  | none =>
      match lexicon.lookup? lowered with
      | some .unknown => guess lowered
      | some category => category
      | none => guess lowered

def token (lexicon : Lexicon) (index : Nat) (word : Word) : Token :=
  ⟨word.text, lexicon.categoryOf word.text, index, word.span⟩

/-- Tokens numbered on from `index`. -/
def tokensFrom (lexicon : Lexicon) (index : Nat) : List Word → List Token
  | [] => []
  | word :: rest => lexicon.token index word :: tokensFrom lexicon (index + 1) rest

theorem tokensFrom_eq_map (lexicon : Lexicon) (index : Nat) (words : List Word) :
    lexicon.tokensFrom index words =
      (words.zipIdx index).map fun numbered => lexicon.token numbered.2 numbered.1 := by
  induction words generalizing index with
  | nil => rfl
  | cons word rest ih => simp [tokensFrom, ih]

/-- A part of a token that comes from its word alone comes from the words in order. -/
theorem map_tokensFrom {α : Type} {lexicon : Lexicon} {ofToken : Token → α} {ofWord : Word → α}
    (same : ∀ index word, ofToken (lexicon.token index word) = ofWord word) (index : Nat)
    (words : List Word) : (lexicon.tokensFrom index words).map ofToken = words.map ofWord := by
  induction words generalizing index with
  | nil => rfl
  | cons word rest ih => rw [tokensFrom, List.map_cons, same, ih, List.map_cons]

/-- The end mark is numbered like a further word and stands at the end of the text. -/
def tag (lexicon : Lexicon) (text : Text) : Tagged :=
  let words := Word.allIn text
  { words := lexicon.tokensFrom 0 words
    sentinel := ⟨sentinelText, .endOfInput, words.length, .empty (Text.byteLength text)⟩ }

end Lexicon

end SimpleSentence
