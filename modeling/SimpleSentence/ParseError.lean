import SimpleSentence.Grammar
import SimpleSentence.Text.Quoted

/-!
Why a tagged text is no sentence. Either a phrase met a token that cannot
continue it, or a whole sentence was read and a token is left over. Both name
one offending token, which may be the end mark, and the message tells all about
the error but the token's span.
-/

namespace SimpleSentence

inductive ParseError where
  | unexpected (expected : CategorySet) (found : Token)
  | trailing (found : Token)
  deriving DecidableEq, Repr

namespace ParseError

def expected : ParseError → CategorySet
  | unexpected expected _ => expected
  | trailing _ => Grammar.endOnly

def found : ParseError → Token
  | unexpected _ found => found
  | trailing found => found

/-- The offending token: its code, its quoted text and its number. -/
def foundText (token : Token) : Text :=
  token.category.code ++ " (".toList ++ Text.quote token.text ++
    ") at position ".toList ++ Text.numeral token.index

def message : ParseError → Text
  | unexpected expected found =>
      "expected ".toList ++ expected.codes ++ ", found ".toList ++ foundText found
  | trailing found =>
      "expected ".toList ++ Grammar.endOnly.codes ++ ", found unconsumed ".toList ++
        foundText found

/-- What stands between the expected categories and the offending token. -/
def joint : ParseError → Text
  | unexpected _ _ => ", found ".toList
  | trailing _ => ", found unconsumed ".toList

theorem message_eq (error : ParseError) :
    error.message = "expected ".toList ++ error.expected.codes ++ error.joint ++
      foundText error.found := by
  cases error <;> rfl

/-- The short note under the offending token. -/
def note : ParseError → Text
  | unexpected expected _ => "expected ".toList ++ expected.codes
  | trailing _ => "not covered by the grammar".toList

end ParseError

end SimpleSentence
