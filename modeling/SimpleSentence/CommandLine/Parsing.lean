import SimpleSentence.CommandLine.Invocation

/-!
Reading a command line. The first argument names the command and the rest are
its options and words in any order; after `--` all are words. An option with a
value takes it from the same argument or from the next one. A value that waits
is checked only when the next known option, the next word or the end arrives,
so an unknown option is reported before a fault of the value in front of it.
The first fault decides.

Each option may be given once, only `-v` counts. A lexicon named by the
environment is used when no option names one. A sentence is given either in
words or by a file.
-/

namespace SimpleSentence.CommandLine

-- Options that take a value.
inductive Key where
  | file
  | lexicon
  | colour
  | output
  deriving DecidableEq, Repr

-- Options that take none.
inductive Switch where
  | json
  | verbose
  | help
  deriving DecidableEq, Repr

inductive Known where
  | key (key : Key)
  | switch (switch : Switch)
  deriving DecidableEq, Repr

def readsSentence : Command → Bool
  | .tag | .parse => true
  | .run | .lexicon => false

/-- The option of a long name, among those that the command has. -/
def longOption? (command : Command) (name : Text) : Option Known :=
  if name = "lexicon".toList then some (.key .lexicon)
  else if name = "help".toList then some (.switch .help)
  else match command with
    | .tag | .parse =>
        if name = "file".toList then some (.key .file)
        else if name = "color".toList then some (.key .colour)
        else if name = "json".toList then some (.switch .json)
        else none
    | .run => if name = "color".toList then some (.key .colour) else none
    | .lexicon => if name = "output".toList then some (.key .output) else none

/-- The option of a single letter, among those that the command has. -/
def shortOption? (command : Command) (letter : Char) : Option Known :=
  if letter = 'v' then some (.switch .verbose)
  else if letter = 'h' then some (.switch .help)
  else match command with
    | .tag | .parse => if letter = 'f' then some (.key .file) else none
    | .run => none
    | .lexicon => if letter = 'o' then some (.key .output) else none

-- What has been given and checked so far.
structure Given where
  words : List Text
  directory : Option Text
  file : Option Text
  lexicon : Option Text
  output : Option Text
  colour : Option ColourChoice
  json : Bool
  verbosity : Nat
  deriving DecidableEq, Repr

def Given.nothing : Given := ⟨[], none, none, none, none, none, false, 0⟩

-- What waits to be checked.
inductive Waiting where
  | nothing
  | key (key : Key) (value : Option Text)
  | directory (path : Text)
  deriving DecidableEq, Repr

structure State where
  given : Given
  waiting : Waiting
  wordsOnly : Bool
  deriving DecidableEq, Repr

def State.start : State := ⟨.nothing, .nothing, false⟩

def maxVerbosity : Nat := 255

/-- A path is any text but the empty one. -/
def checkPath (previous : Option Text) (path : Text) : Except Refusal Text :=
  if previous.isSome then .error .conflict
  else if path.isEmpty then .error .badValue
  else .ok path

/-- A repeated option is reported before a bad value. -/
def setKey (given : Given) (key : Key) (value : Text) : Except Refusal Given :=
  match key with
  | .file => (checkPath given.file value).map fun path => { given with file := some path }
  | .lexicon =>
      (checkPath given.lexicon value).map fun path => { given with lexicon := some path }
  | .output =>
      (checkPath given.output value).map fun path => { given with output := some path }
  | .colour =>
      if given.colour.isSome then .error .conflict
      else match ColourChoice.ofText? value with
        | none => .error .badValue
        | some choice => .ok { given with colour := some choice }

/-- Checks what waits. -/
def settle (state : State) : Except Refusal Given :=
  match state.waiting with
  | .nothing => .ok state.given
  | .key _ none => .error .badValue
  | .key key (some value) => setKey state.given key value
  | .directory path =>
      if path.isEmpty then .error .badValue
      else .ok { state.given with directory := some path }

def flip (given : Given) : Switch → Except Refusal Given
  | .help => .error .help
  | .verbose => .ok { given with verbosity := min maxVerbosity (given.verbosity + 1) }
  | .json => if given.json then .error .conflict else .ok { given with json := true }

def applySwitch (state : State) (switch : Switch) : Except Refusal State :=
  match settle state with
  | .error refusal => .error refusal
  | .ok given =>
      (flip given switch).map fun next => { state with given := next, waiting := .nothing }

def applyKey (state : State) (key : Key) (value : Option Text) : Except Refusal State :=
  match settle state with
  | .error refusal => .error refusal
  | .ok given =>
      match value with
      | none => .ok { state with given := given, waiting := .key key none }
      | some value =>
          (setKey given key value).map fun next => { state with given := next, waiting := .nothing }

/-- A word belongs to the sentence, or is the one directory of `run`. -/
def takeWord (command : Command) (state : State) (word : Text) : Except Refusal State :=
  match command with
  | .tag | .parse =>
      (settle state).map fun given =>
        { state with given := { given with words := given.words ++ [word] }, waiting := .nothing }
  | .run =>
      let taken := match state.waiting with
        | .directory _ => true
        | _ => state.given.directory.isSome
      if taken then .error .unknownArgument
      else (settle state).map fun given =>
        { state with given := given, waiting := .directory word }
  | .lexicon => .error .unknownArgument

/-- A long option, with a value of its own if it holds an equals sign. -/
def takeLong (command : Command) (state : State) (body : Text) : Except Refusal State :=
  let name := body.takeWhile (· != '=')
  let value? : Option Text := match body.dropWhile (· != '=') with
    | [] => none
    | _ :: value => some value
  match longOption? command name, value? with
  | none, _ => .error .unknownArgument
  | some (.switch _), some _ => .error .surplusValue
  | some (.switch switch), none => applySwitch state switch
  | some (.key key), value => applyKey state key value

/-- A bundle of single letters. The first one that takes a value takes all that follows it,
less one leading equals sign. -/
def takeLetters (command : Command) (state : State) : Text → Except Refusal State
  | [] => .ok state
  | letter :: rest =>
      match shortOption? command letter with
      | none => .error .unknownArgument
      | some (.switch switch) =>
          match applySwitch state switch with
          | .error refusal => .error refusal
          | .ok next => takeLetters command next rest
      | some (.key key) =>
          match rest with
          | [] => applyKey state key none
          | '=' :: value => applyKey state key (some value)
          | value => applyKey state key (some value)

/-- A text that looks like no option is the value that waits, if one does, else a word. -/
def takePlain (command : Command) (state : State) (text : Text) : Except Refusal State :=
  match state.waiting with
  | .key key none => .ok { state with waiting := .key key (some text) }
  | _ => takeWord command state text

def takeArgument (command : Command) (state : State) (argument : Text) :
    Except Refusal State :=
  if state.wordsOnly then takeWord command state argument
  else match argument with
    | ['-', '-'] => .ok { state with wordsOnly := true }
    | '-' :: '-' :: body => takeLong command state body
    | ['-'] => takePlain command state argument
    | '-' :: letters => takeLetters command state letters
    | _ => takePlain command state argument

def takeArguments (command : Command) (state : State) : List Text → Except Refusal State
  | [] => .ok state
  | argument :: rest =>
      match takeArgument command state argument with
      | .error refusal => .error refusal
      | .ok next => takeArguments command next rest

/-- The environment's lexicon counts only when no option names one. -/
def withEnvironment (environment : Option Text) (given : Given) : Except Refusal Given :=
  match given.lexicon, environment with
  | none, some path => setKey given .lexicon path
  | _, _ => .ok given

def defaultDirectory : Text := "test".toList

def Given.reading (given : Given) : Reading :=
  { text := if given.words.isEmpty then none else some (Text.joinWith [' '] given.words)
    file := given.file
    json := given.json
    colour := given.colour.getD .automatic }

def Given.task (given : Given) : Command → Task
  | .tag => .tag given.reading
  | .parse => .parse given.reading
  | .run => .run (given.directory.getD defaultDirectory) (given.colour.getD .automatic)
  | .lexicon => .lexicon given.output

/-- A sentence in words and a sentence in a file exclude each other. -/
def conclude (command : Command) (given : Given) : Except Refusal Invocation :=
  if !given.words.isEmpty && given.file.isSome then .error .conflict
  else .ok ⟨given.task command, given.lexicon, given.verbosity⟩

def readCommand (environment : Option Text) (command : Command) (arguments : List Text) :
    Except Refusal Invocation :=
  match takeArguments command .start arguments with
  | .error refusal => .error refusal
  | .ok state =>
      match settle state with
      | .error refusal => .error refusal
      | .ok given =>
          match withEnvironment environment given with
          | .error refusal => .error refusal
          | .ok settled => conclude command settled

def helpName : Text := "help".toList

/-- Help is given on the program or on one command. -/
def helpTopic : List Text → Refusal
  | [] => .help
  | [name] => if (Command.ofName? name).isSome || name = helpName then .help else .unknownCommand
  | _ => .unknownCommand

/-- After `--` no command can follow; a command's name there is one argument too many. -/
def afterSeparator : List Text → Refusal
  | [] => .nothingAsked
  | name :: _ =>
      if (Command.ofName? name).isSome || name = helpName then .unknownArgument
      else .unknownCommand

/-- In front of the command only help can be asked for. -/
def leadingOption (argument : Text) : Refusal :=
  match argument with
  | '-' :: '-' :: body =>
      if body = helpName then .help
      else if body.takeWhile (· != '=') = helpName then .surplusValue
      else .unknownArgument
  | '-' :: 'h' :: _ => .help
  | ['-'] => .unknownCommand
  | '-' :: _ => .unknownArgument
  | _ => .unknownCommand

/-- Reads the arguments after the program's name, with the lexicon that the environment
names. -/
def read (environment : Option Text) : List Text → Except Refusal Invocation
  | [] => .error .nothingAsked
  | first :: rest =>
      match Command.ofName? first with
      | some command => readCommand environment command rest
      | none =>
          if first = helpName then .error (helpTopic rest)
          else if first = ['-', '-'] then .error (afterSeparator rest)
          else .error (leadingOption first)

end SimpleSentence.CommandLine
