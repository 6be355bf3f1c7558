import SimpleSentence.Text.Basic

/-!
The words of a text are its maximal runs of ASCII letters and apostrophes;
everything else separates words and belongs to none. A span counts bytes of the
encoded text, so it starts after every byte before the word and is as long as
the word has characters.
-/

namespace SimpleSentence

structure Span where
  start : Nat
  stop : Nat
  deriving DecidableEq, Repr

namespace Span

def empty (offset : Nat) : Span := ⟨offset, offset⟩

def length (span : Span) : Nat := span.stop - span.start

def isEmpty (span : Span) : Bool := span.start == span.stop

end Span

structure Word where
  text : Text
  span : Span
  deriving DecidableEq, Repr

def isWordLetter (char : Char) : Bool := char.isAlpha || char == '\''

namespace Word

/-- The word that a run of letters at an offset makes; an empty run makes none. -/
def ofRun? (offset : Nat) : Text → Option Word
  | [] => none
  | char :: rest =>
      some ⟨char :: rest, ⟨offset, offset + Text.byteLength (char :: rest)⟩⟩

-- What stands at an offset: the run of letters that begins right there, perhaps
-- empty, and the words that begin later.
structure Ahead where
  run : Text
  later : List Word

def ahead (offset : Nat) : Text → Ahead
  | [] => ⟨[], []⟩
  | char :: rest =>
      let after := offset + char.utf8Size
      let next := ahead after rest
      if isWordLetter char then ⟨char :: next.run, next.later⟩
      else ⟨[], (ofRun? after next.run).toList ++ next.later⟩

theorem ahead_run (offset : Nat) (text : Text) :
    (ahead offset text).run = text.takeWhile isWordLetter := by
  induction text generalizing offset with
  | nil => rfl
  | cons char rest ih =>
      by_cases letter : isWordLetter char
      · simp [ahead, letter, ih]
      · simp [ahead, letter]

/-- The words of a text from left to right. -/
def allIn (text : Text) : List Word :=
  let start := ahead 0 text
  (ofRun? 0 start.run).toList ++ start.later

def textsIn (text : Text) : List Text := (allIn text).map Word.text

end Word

end SimpleSentence
