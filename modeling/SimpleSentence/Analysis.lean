import SimpleSentence.Parsing

/-!
A text with its tagged words and what the grammar says about them.
-/

namespace SimpleSentence

structure Analysis where
  source : Text
  tagged : Tagged
  outcome : Except ParseError Tree

namespace Analysis

def isAccepted (analysis : Analysis) : Bool :=
  match analysis.outcome with
  | .ok _ => true
  | .error _ => false

end Analysis

def Lexicon.analyse (lexicon : Lexicon) (text : Text) : Analysis :=
  let tagged := lexicon.tag text
  { source := text, tagged := tagged, outcome := tagged.parse }

theorem Lexicon.isAccepted_iff (lexicon : Lexicon) (text : Text) :
    (lexicon.analyse text).isAccepted = true ↔ ∃ tree, lexicon.parse text = .ok tree := by
  rw [Analysis.isAccepted, analyse, Lexicon.parse]
  cases (lexicon.tag text).parse <;> simp

end SimpleSentence
