import SimpleSentence.Text.Basic

/-!
What a command line asks for, and the ways in which one is refused. A request
for help is a refusal too, the only one that is no failure.
-/

namespace SimpleSentence

inductive ColourChoice where
  | automatic
  | always
  | never
  deriving DecidableEq, Repr

namespace ColourChoice

def ofText? (text : Text) : Option ColourChoice :=
  if text = "auto".toList then some .automatic
  else if text = "always".toList then some .always
  else if text = "never".toList then some .never
  else none

/-- Left to itself, colour is used on a terminal only. -/
def coloured (choice : ColourChoice) (onTerminal : Bool) : Bool :=
  match choice with
  | automatic => onTerminal
  | always => true
  | never => false

end ColourChoice

inductive Command where
  | tag
  | parse
  | run
  | lexicon
  deriving DecidableEq, Repr

def Command.ofName? (name : Text) : Option Command :=
  if name = "tag".toList then some .tag
  else if name = "parse".toList then some .parse
  else if name = "run".toList then some .run
  else if name = "lexicon".toList then some .lexicon
  else none

-- Where a sentence comes from and how its report is shown.
structure Reading where
  text : Option Text
  file : Option Text
  json : Bool
  colour : ColourChoice
  deriving DecidableEq, Repr

inductive Task where
  | tag (reading : Reading)
  | parse (reading : Reading)
  | run (directory : Text) (colour : ColourChoice)
  | lexicon (output : Option Text)
  deriving DecidableEq, Repr

structure Invocation where
  task : Task
  lexicon : Option Text
  verbosity : Nat
  deriving DecidableEq, Repr

inductive Refusal where
  | unknownArgument
  | unknownCommand
  | badValue
  | conflict
  | surplusValue
  | help
  | nothingAsked
  deriving DecidableEq, Repr

def Refusal.exitCode : Refusal → Nat
  | .help => 0
  | _ => 2

end SimpleSentence
