import SimpleSentence.Text.Basic

/-!
Colours of a report by the role of what they mark. Each marked piece is closed
by the same reset, and without colours all sequences are empty, so the layout
of a report never depends on the palette.
-/

namespace SimpleSentence

inductive Role where
  | tag
  | accepted
  | rejected
  | header
  deriving DecidableEq, Repr

inductive Palette where
  | coloured
  | colourless
  deriving DecidableEq, Repr

namespace Palette

def ofChoice (coloured : Bool) : Palette := if coloured then .coloured else .colourless

def isColoured : Palette → Bool
  | coloured => true
  | colourless => false

def roleCode : Role → Text
  | .tag => "34".toList
  | .accepted => "32".toList
  | .rejected => "31".toList
  | .header => "2".toList

def opening (palette : Palette) (role : Role) : Text :=
  match palette with
  | coloured => '\x1b' :: '[' :: (roleCode role ++ ['m'])
  | colourless => []

def closing : Palette → Text
  | coloured => ['\x1b', '[', '0', 'm']
  | colourless => []

def mark (palette : Palette) (role : Role) (text : Text) : Text :=
  palette.opening role ++ text ++ palette.closing

end Palette

end SimpleSentence
