import SimpleSentence.Text.Basic

/-!
Two ways of ignoring case. `foldAscii` touches the letters A to Z only. `lower`
is lowercasing as far as a comparison with ASCII text can tell.
-/

namespace SimpleSentence.Text

def lowerChar (char : Char) : Text :=
  if char.isUpper then [char.toLower]
  else if char = '\u212A' then ['k']
  else if char = '\u0130' then ['i', '\u0307']
  else [char]

/-- Lowercases the letters A to Z, the Kelvin sign and the capital I with a dot, and leaves all
other characters as they are. Outside ASCII only these two have an ASCII letter in their lowercase
form, so the result is the full lowercase form where it is asked for ASCII characters, and not
elsewhere. -/
def lower : Text → Text
  | [] => []
  | char :: rest => lowerChar char ++ lower rest

def foldAscii (text : Text) : Text := text.map Char.toLower

/-- Equality up to the case of ASCII letters. -/
def sameAscii (first second : Text) : Bool := foldAscii first == foldAscii second

theorem lower_append (first second : Text) :
    lower (first ++ second) = lower first ++ lower second := by
  induction first with
  | nil => rfl
  | cons char rest ih => simp [lower, ih]

end SimpleSentence.Text
