import SimpleSentence.Parsing

/-!
The parser as it walks over the tokens. A cursor stands at one token of a tagged
text, end mark included; the token can be looked at and the cursor moved on by
one, never back. A walk ends with a tree, with a rejection, or with a breach: the
cursor is past the end mark, the end mark is about to be taken, a phrase would
have no parts, or a loop goes round without moving on. A walk rejects and accepts
as the parser does that hands on the words that are left.
-/

namespace SimpleSentence

structure Cursor where
  tokens : List Token
  place : Nat
  deriving DecidableEq, Repr

/-- What a walk takes for granted and finds otherwise. -/
inductive Breach where
  | pastEnd (place count : Nat)
  | endTaken
  | childless (kind : PhraseKind)
  | endless
  deriving DecidableEq, Repr

inductive Halt where
  | rejected (error : ParseError)
  | broken (breach : Breach)
  deriving DecidableEq, Repr

namespace Cursor

/-- A step of a walk gives a value or halts, and leaves the cursor where it then stands. -/
abbrev Action (α : Type) := EStateM Halt Cursor α

/-- The number of tokens from the cursor on. -/
def remaining (cursor : Cursor) : Nat := cursor.tokens.length - cursor.place

def current : Action Token := fun cursor =>
  match cursor.tokens[cursor.place]? with
  | some token => .ok token cursor
  | none => .error (.broken (.pastEnd cursor.place cursor.tokens.length)) cursor

def atEnd : Action Bool := do return (← current).isSentinel

def isAt (category : Category) : Action Bool := do return (← current).category == category

def isAtOneOf (set : CategorySet) : Action Bool := do return set.contains (← current).category

/-- Gives the token at the cursor and moves on by one. -/
def take : Action Token := do
  if ← atEnd then throw (.broken .endTaken)
  else
    let token ← current
    modify fun cursor => { cursor with place := cursor.place + 1 }
    return token

def takeIf (category : Category) : Action (Option Token) := do
  if ← isAt category then return some (← take) else return none

def unexpected (expected : CategorySet) : Action ParseError := do
  return .unexpected expected (← current)

/-- A token of the category, or the error that names what would have been accepted. -/
def expect (category : Category) (expected : CategorySet) : Action Token := do
  match ← takeIf category with
  | some token => return token
  | none => throw (.rejected (← unexpected expected))

/-- Every word must have been taken. -/
def finish : Action Unit := do
  if ← atEnd then return () else throw (.rejected (.trailing (← current)))

def phrase (kind : PhraseKind) (children : List Tree) : Action Tree :=
  if children.isEmpty then throw (.broken (.childless kind)) else return .phrase kind children

/-- An optional part is taken exactly when the token at the cursor can begin it. -/
def optional (start : CategorySet) (part : Action Tree) : Action (Option Tree) := do
  if ← isAtOneOf start then return some (← part) else return none

/-- Goes round as long as there is a further part. A round that does not move the cursor on would
be followed by the same round for ever. -/
def many {α : Type} (part : Action (Option α)) : Action (List α) := fun cursor =>
  match part cursor with
  | .error halt after => .error halt after
  | .ok none after => .ok [] after
  | .ok (some first) after =>
      if _moved : after.remaining < cursor.remaining then
        match many part after with
        | .error halt last => .error halt last
        | .ok more last => .ok (first :: more) last
      else .error (.broken .endless) after
termination_by cursor => cursor.remaining

/-- `DET? ADJ*` -/
def modifiers : Action (List Token) := do
  let determiner ← takeIf .determiner
  let adjectives ← many (takeIf .adjective)
  return determiner.toList ++ adjectives

/-- `NP → PRON | DET? ADJ* N` -/
def nounPhrase : Action Tree := do
  match ← takeIf .pronoun with
  | some pronoun => phrase .nounPhrase [pronoun.leaf]
  | none =>
      let taken ← modifiers
      let noun ← expect .noun (Parsing.headExpected taken)
      phrase .nounPhrase ((taken ++ [noun]).map Token.leaf)

/-- `PP → PREP NP` -/
def prepPhrase : Action Tree := do
  let preposition ← expect .preposition Grammar.prepPhraseStart
  let object ← nounPhrase
  phrase .prepPhrase [preposition.leaf, object]

/-- `VP → V NP? PP*` -/
def verbPhrase : Action Tree := do
  let verb ← expect .verb Grammar.verbPhraseStart
  let object ← optional Grammar.nounPhraseStart nounPhrase
  let phrases ← many (optional Grammar.prepPhraseStart prepPhrase)
  phrase .verbPhrase (verb.leaf :: (object.toList ++ phrases))

/-- `S → NP VP` -/
def sentence : Action Tree := do
  let subject ← nounPhrase
  let predicate ← verbPhrase
  phrase .sentence [subject, predicate]

def production : PhraseKind → Action Tree
  | .sentence => sentence
  | .nounPhrase => nounPhrase
  | .verbPhrase => verbPhrase
  | .prepPhrase => prepPhrase

def parse : Action Tree := do
  let tree ← sentence
  finish
  return tree

end Cursor

/-- The cursor before anything is taken. -/
def Tagged.cursor (tagged : Tagged) : Cursor := ⟨tagged.tokens, 0⟩

end SimpleSentence
