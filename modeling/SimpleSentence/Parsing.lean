import SimpleSentence.ParseError

/-!
The parser reads the words of a tagged text once from left to right. Each
production gives its tree and the words it leaves, or the first error; it takes
an optional part exactly when the next word can begin it. The end mark is only
ever the token that an error names when no word is left.
-/

namespace SimpleSentence

namespace Parsing

abbrev Outcome (α : Type) := Except ParseError (α × List Token)

def isAdjective (token : Token) : Bool := token.category == .adjective

/-- The token that an error at this place names. -/
def current (sentinel : Token) : List Token → Token
  | [] => sentinel
  | token :: _ => token

/-- An optional determiner and all adjectives that follow, and the words after them. -/
def modifiers : List Token → List Token × List Token
  | [] => ([], [])
  | first :: rest =>
      if first.category = .determiner then
        (first :: rest.takeWhile isAdjective, rest.dropWhile isAdjective)
      else ((first :: rest).takeWhile isAdjective, (first :: rest).dropWhile isAdjective)

/-- Before anything is taken a pronoun would also have done. -/
def headExpected (taken : List Token) : CategorySet :=
  if taken.isEmpty then Grammar.nounPhraseStart else Grammar.nounPhraseRest

/-- `DET? ADJ* N` -/
def nominal (sentinel : Token) (tokens : List Token) : Outcome Tree :=
  match modifiers tokens with
  | (taken, []) => .error (.unexpected (headExpected taken) sentinel)
  | (taken, head :: rest) =>
      if head.category = .noun then
        .ok (.phrase .nounPhrase ((taken ++ [head]).map Token.leaf), rest)
      else .error (.unexpected (headExpected taken) head)

/-- `NP → PRON | DET? ADJ* N` -/
def nounPhrase (sentinel : Token) (tokens : List Token) : Outcome Tree :=
  match tokens with
  | [] => nominal sentinel []
  | first :: rest =>
      if first.category = .pronoun then .ok (.phrase .nounPhrase [first.leaf], rest)
      else nominal sentinel (first :: rest)

/-- `PP → PREP NP` -/
def prepPhrase (sentinel : Token) (tokens : List Token) : Outcome Tree :=
  match tokens with
  | [] => .error (.unexpected Grammar.prepPhraseStart sentinel)
  | first :: rest =>
      if first.category = .preposition then
        match nounPhrase sentinel rest with
        | .error error => .error error
        | .ok (object, left) => .ok (.phrase .prepPhrase [first.leaf, object], left)
      else .error (.unexpected Grammar.prepPhraseStart first)

theorem modifiers_length (tokens : List Token) :
    (modifiers tokens).2.length ≤ tokens.length := by
  have drop (words : List Token) : (words.dropWhile isAdjective).length ≤ words.length :=
    (List.dropWhile_sublist _).length_le
  cases tokens with
  | nil => simp [modifiers]
  | cons first rest =>
      by_cases determiner : first.category = .determiner
      · simpa [modifiers, determiner] using Nat.le_succ_of_le (drop rest)
      · simpa [modifiers, determiner] using drop (first :: rest)

theorem nominal_shorter {sentinel : Token} {tokens left : List Token} {tree : Tree}
    (parsed : nominal sentinel tokens = .ok (tree, left)) : left.length < tokens.length := by
  have bound := modifiers_length tokens
  unfold nominal at parsed
  split at parsed
  · cases parsed
  · next head rest taken =>
      by_cases noun : head.category = .noun
      · simp only [noun, ↓reduceIte, Except.ok.injEq, Prod.mk.injEq] at parsed
        rw [taken] at bound
        rw [← parsed.2]
        exact Nat.lt_of_succ_le bound
      · simp [noun] at parsed

theorem nounPhrase_shorter {sentinel : Token} {tokens left : List Token} {tree : Tree}
    (parsed : nounPhrase sentinel tokens = .ok (tree, left)) : left.length < tokens.length := by
  cases tokens with
  | nil => exact nominal_shorter parsed
  | cons first rest =>
      by_cases pronoun : first.category = .pronoun
      · simp only [nounPhrase, pronoun, ↓reduceIte, Except.ok.injEq, Prod.mk.injEq] at parsed
        simp [← parsed.2]
      · simp only [nounPhrase, pronoun, ↓reduceIte] at parsed
        exact nominal_shorter parsed

theorem prepPhrase_shorter {sentinel : Token} {tokens left : List Token} {tree : Tree}
    (parsed : prepPhrase sentinel tokens = .ok (tree, left)) : left.length < tokens.length := by
  cases tokens with
  | nil => simp [prepPhrase] at parsed
  | cons first rest =>
      by_cases preposition : first.category = .preposition
      · cases object : nounPhrase sentinel rest with
        | error error => simp [prepPhrase, preposition, object] at parsed
        | ok result =>
            simp only [prepPhrase, preposition, ↓reduceIte, object, Except.ok.injEq,
              Prod.mk.injEq] at parsed
            have shorter := @nounPhrase_shorter sentinel rest result.2 result.1 object
            rw [← parsed.2]
            exact Nat.lt_succ_of_lt shorter
      · simp [prepPhrase, preposition] at parsed

/-- `PP*`: a further phrase is begun exactly at a preposition. -/
def prepPhrases (sentinel : Token) (tokens : List Token) : Outcome (List Tree) :=
  if Grammar.prepPhraseStart.contains (current sentinel tokens).category then
    match parsed : prepPhrase sentinel tokens with
    | .error error => .error error
    | .ok (first, left) =>
        have : left.length < tokens.length := prepPhrase_shorter parsed
        match prepPhrases sentinel left with
        | .error error => .error error
        | .ok (more, rest) => .ok (first :: more, rest)
  else .ok ([], tokens)
termination_by tokens.length

/-- `NP?`: an object is begun exactly at a word that can begin a noun phrase. -/
def object (sentinel : Token) (tokens : List Token) : Outcome (List Tree) :=
  if Grammar.nounPhraseStart.contains (current sentinel tokens).category then
    match nounPhrase sentinel tokens with
    | .error error => .error error
    | .ok (tree, rest) => .ok ([tree], rest)
  else .ok ([], tokens)

/-- `VP → V NP? PP*` -/
def verbPhrase (sentinel : Token) (tokens : List Token) : Outcome Tree :=
  match tokens with
  | [] => .error (.unexpected Grammar.verbPhraseStart sentinel)
  | verb :: rest =>
      if verb.category = .verb then
        match object sentinel rest with
        | .error error => .error error
        | .ok (objects, afterObject) =>
            match prepPhrases sentinel afterObject with
            | .error error => .error error
            | .ok (phrases, left) =>
                .ok (.phrase .verbPhrase (verb.leaf :: (objects ++ phrases)), left)
      else .error (.unexpected Grammar.verbPhraseStart verb)

/-- `S → NP VP` -/
def sentence (sentinel : Token) (tokens : List Token) : Outcome Tree :=
  match nounPhrase sentinel tokens with
  | .error error => .error error
  | .ok (subject, afterSubject) =>
      match verbPhrase sentinel afterSubject with
      | .error error => .error error
      | .ok (predicate, left) => .ok (.phrase .sentence [subject, predicate], left)

end Parsing

/-- A tagged text is accepted when one sentence takes all of its words. -/
def Tagged.parse (tagged : Tagged) : Except ParseError Tree :=
  match Parsing.sentence tagged.sentinel tagged.words with
  | .error error => .error error
  | .ok (tree, []) => .ok tree
  | .ok (_, found :: _) => .error (.trailing found)

def Lexicon.parse (lexicon : Lexicon) (text : Text) : Except ParseError Tree :=
  (lexicon.tag text).parse

end SimpleSentence
