import SimpleSentence.Text.Basic

/-!
JSON values with their members in order, and the one way they are written: two
spaces deeper at each level, one element a line, an empty list or object
without a line break. Only quotes, backslashes and controls below the space are
escaped, so every other character stands for itself.
-/

namespace SimpleSentence

inductive Json where
  | bool (value : Bool)
  | number (value : Nat)
  | text (value : Text)
  | array (items : List Json)
  | object (members : List (Text × Json))
  deriving Repr

namespace Json

def hexDigit (number : Nat) : Char :=
  if number < 10 then Char.ofNat (48 + number) else Char.ofNat (87 + number)

def escapeChar (char : Char) : Text :=
  if char = '"' then ['\\', '"']
  else if char = '\\' then ['\\', '\\']
  else if char = '\n' then ['\\', 'n']
  else if char = '\r' then ['\\', 'r']
  else if char = '\t' then ['\\', 't']
  else if char = '\x08' then ['\\', 'b']
  else if char = '\x0c' then ['\\', 'f']
  else if char.toNat < 0x20 then
    ['\\', 'u', '0', '0', hexDigit (char.toNat / 16), hexDigit (char.toNat % 16)]
  else [char]

def escape : Text → Text
  | [] => []
  | char :: rest => escapeChar char ++ escape rest

def quoted (text : Text) : Text := '"' :: (escape text ++ ['"'])

/-- A new line at some level. -/
def breakAt (level : Nat) : Text := '\n' :: List.replicate (2 * level) ' '

mutual

def writeAt (level : Nat) : Json → Text
  | bool true => "true".toList
  | bool false => "false".toList
  | number value => Text.numeral value
  | text value => quoted value
  | array [] => "[]".toList
  | array (first :: rest) =>
      '[' :: (breakAt (level + 1) ++ writeAt (level + 1) first ++
        writeItems (level + 1) rest ++ breakAt level ++ [']'])
  | object [] => ['\x7b', '\x7d']
  | object ((name, first) :: rest) =>
      '\x7b' :: (breakAt (level + 1) ++ quoted name ++ ": ".toList ++
        writeAt (level + 1) first ++ writeMembers (level + 1) rest ++
        breakAt level ++ ['\x7d'])

/-- Further items of a list, each after a comma. -/
def writeItems (level : Nat) : List Json → Text
  | [] => []
  | item :: rest => ',' :: (breakAt level ++ writeAt level item ++ writeItems level rest)

/-- Further members of an object, each after a comma. -/
def writeMembers (level : Nat) : List (Text × Json) → Text
  | [] => []
  | (name, value) :: rest =>
      ',' :: (breakAt level ++ quoted name ++ ": ".toList ++ writeAt level value ++
        writeMembers level rest)

end

def write (json : Json) : Text := writeAt 0 json

end Json

end SimpleSentence
