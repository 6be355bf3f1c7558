import SimpleSentence.ParseError
import SimpleSentence.Snippet.Drawing

/-!
A parse error shown against the text it was found in: an excerpt with the
offending token underlined. Without a text, or with a blank one, there is
nothing to point at and the message stands alone, in one style.
-/

namespace SimpleSentence

/-- An empty range is widened by one byte, so far as the text goes on. -/
def widen (limit : Nat) (range : Span) : Span :=
  if range.isEmpty then ⟨range.start, min (range.start + 1) limit⟩ else range

namespace ParseError

def plainMessage (error : ParseError) : Text := "error: ".toList ++ error.message

def excerpt (error : ParseError) (path : Option Text) (source : Text) : Snippet.Excerpt :=
  { message := error.message
    note := error.note
    source := source
    path := path
    range := widen (Text.byteLength source) error.found.span }

def render (error : ParseError) (coloured : Bool) (path source? : Option Text) : Text :=
  match source? with
  | none => error.plainMessage
  | some source =>
      if Text.blank source then error.plainMessage
      else (error.excerpt path source).render coloured

end ParseError

end SimpleSentence
