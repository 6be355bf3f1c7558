import SimpleSentence.Text.Basic
import SimpleSentence.Text.Blank
import SimpleSentence.Text.Case

/-!
The coarse word categories shared by the lexicon, the tagger and the grammar.
`endOfInput` marks only the end of a tagged sequence, and `unknown` is what a
dictionary marking yields when no rule applies; no lexicon stores either.
-/

namespace SimpleSentence

inductive Category where
  | noun
  | verb
  | adjective
  | adverb
  | determiner
  | pronoun
  | preposition
  | conjunction
  | interjection
  | endOfInput
  | unknown
  deriving DecidableEq, Repr

namespace Category

/-- Every category once, in the order of their numbers. -/
def all : List Category :=
  [noun, verb, adjective, adverb, determiner, pronoun, preposition, conjunction,
    interjection, endOfInput, unknown]

def number : Category → Nat
  | noun => 0
  | verb => 1
  | adjective => 2
  | adverb => 3
  | determiner => 4
  | pronoun => 5
  | preposition => 6
  | conjunction => 7
  | interjection => 8
  | endOfInput => 9
  | unknown => 10

theorem number_lt (category : Category) : category.number < 11 := by
  cases category <;> decide

theorem number_injective {first second : Category} (same : first.number = second.number) :
    first = second := by
  revert same
  cases first <;> cases second <;> decide

theorem mem_all (category : Category) : category ∈ all := by
  cases category <;> decide

/-- The name in machine-readable reports. -/
def name : Category → Text
  | noun => "Noun".toList
  | verb => "Verb".toList
  | adjective => "Adjective".toList
  | adverb => "Adverb".toList
  | determiner => "Determiner".toList
  | pronoun => "Pronoun".toList
  | preposition => "Preposition".toList
  | conjunction => "Conjunction".toList
  | interjection => "Interjection".toList
  | endOfInput => "EndOfInput".toList
  | unknown => "Unknown".toList

/-- The short form in labels, tables and messages. -/
def code : Category → Text
  | noun => "N".toList
  | verb => "V".toList
  | adjective => "ADJ".toList
  | adverb => "ADV".toList
  | determiner => "DET".toList
  | pronoun => "PRON".toList
  | preposition => "PREP".toList
  | conjunction => "CONJ".toList
  | interjection => "INTJ".toList
  | endOfInput => "EOF".toList
  | unknown => "UNK".toList

/-- The wording for readers; no rule consults it. -/
def description : Category → Text
  | noun => "noun".toList
  | verb => "verb".toList
  | adjective => "adjective".toList
  | adverb => "adverb".toList
  | determiner => "determiner / article".toList
  | pronoun => "pronoun".toList
  | preposition => "preposition".toList
  | conjunction => "conjunction".toList
  | interjection => "interjection".toList
  | endOfInput => "end of input".toList
  | unknown => "unknown (treated as noun)".toList

/-- Reads a code back; outer blanks and the case of ASCII letters do not matter. -/
def ofCode? (text : Text) : Option Category :=
  all.find? fun category => Text.sameAscii category.code (Text.trim text)

-- A rule of the marking table either looks for its sign anywhere or at the start.
inductive Sign where
  | anywhere (sign : Text)
  | atStart (sign : Text)

def Sign.holds (marking : Text) : Sign → Bool
  | .anywhere sign => Text.occurs sign marking
  | .atStart sign => sign.isPrefixOf marking

/-- The marking table, strongest category first. -/
def signs : List (Category × List Sign) :=
  [(adverb, [.anywhere "adv.".toList]),
   (preposition, [.anywhere "prep.".toList]),
   (pronoun, [.anywhere "pron.".toList]),
   (conjunction, [.anywhere "conj.".toList]),
   (interjection, [.anywhere "interj.".toList]),
   (verb, [.anywhere "v.".toList, .anywhere "imp.".toList, .anywhere "p. p.".toList,
     .anywhere "p. pr.".toList]),
   (adjective, [.anywhere "adj.".toList, .atStart "a.".toList, .anywhere "superl.".toList,
     .anywhere "compar.".toList]),
   (noun, [.anywhere "n.".toList, .anywhere "pl.".toList])]

/-- A marking without outer blanks, then without outer double quotes, in lowercase. -/
def normalizeMarking (marking : Text) : Text :=
  Text.lower (Text.trimBy (· == '"') (Text.trim marking))

/-- The first row of the table with a sign that holds decides; with none it is `unknown`. -/
def ofMarking (marking : Text) : Category :=
  let normal := normalizeMarking marking
  match signs.find? fun row => row.2.any (Sign.holds normal) with
  | some row => row.1
  | none => unknown

end Category

end SimpleSentence
