import Mathlib.Algebra.Ring.Nat
import Mathlib.Data.List.Induction
import SimpleSentence.CommandLine.Parsing
import SimpleSentence.Session

/-!
The order of a command line. A line is a row of words and options, each option with its
value. While the row is read, what has been given and what waits come to what the parts
so far say, whatever their order: one part adds what it says, a row adds it part by part.
So only the words in their order and the set of options decide what a line asks for.
-/

namespace SimpleSentence

def ColourChoice.name : ColourChoice → Text
  | automatic => "auto".toList
  | always => "always".toList
  | never => "never".toList

theorem ColourChoice.ofText?_name (choice : ColourChoice) : ofText? choice.name = some choice := by
  cases choice <;> decide

namespace CommandLine

/-- The text cannot be taken for an option. -/
def IsPlain (text : Text) : Prop := text.head? ≠ some '-'

instance (text : Text) : Decidable (IsPlain text) :=
  inferInstanceAs (Decidable (text.head? ≠ some '-'))

/-- What can follow an option as its value. A lone hyphen is no option. -/
def IsValue (text : Text) : Prop := IsPlain text ∨ text = ['-']

instance (text : Text) : Decidable (IsValue text) := inferInstanceAs (Decidable (_ ∨ _))

/-! ### Reading one argument -/

section Argument

variable {command : Command} {state : State} {given : Given} {text name value : Text}

theorem takeArgument_value (opened : state.wordsOnly = false) (isValue : IsValue text) :
    takeArgument command state text = takePlain command state text := by
  unfold takeArgument
  rw [opened]
  rcases isValue with plain | rfl
  · have other (letters : Text) : text ≠ '-' :: letters := by
      rintro rfl
      exact plain rfl
    simp only [Bool.false_eq_true, ↓reduceIte]
    split
    · exact absurd rfl (other _)
    · exact absurd rfl (other _)
    · exact absurd rfl (other _)
    · exact absurd rfl (other _)
    · rfl
  · rfl

theorem takePlain_settled (settled : settle state = .ok given) :
    takePlain command state text = takeWord command state text := by
  unfold takePlain
  split
  · next key waiting =>
      rw [settle, waiting] at settled
      cases settled
  · rfl

theorem takeArgument_long (opened : state.wordsOnly = false) (named : name ≠ []) :
    takeArgument command state ('-' :: '-' :: name) = takeLong command state name := by
  unfold takeArgument
  rw [opened]
  cases name with
  | nil => exact absurd rfl named
  | cons first rest => rfl

theorem takeArgument_letters (opened : state.wordsOnly = false) {letter : Char}
    (isLetter : letter ≠ '-') (letters : Text) :
    takeArgument command state ('-' :: letter :: letters) =
      takeLetters command state (letter :: letters) := by
  unfold takeArgument
  rw [opened]
  simp only [Bool.false_eq_true, ↓reduceIte]
  split
  · next same =>
      cases same
      exact absurd rfl isLetter
  · next same =>
      cases same
      exact absurd rfl isLetter
  · next same => cases same
  · next same =>
      cases same
      rfl
  · next hyphen => exact absurd rfl (hyphen _)

theorem takeLong_name (noEquals : ∀ char ∈ name, (char != '=') = true) :
    takeLong command state name =
      match longOption? command name with
      | none => .error .unknownArgument
      | some (.switch switch) => applySwitch state switch
      | some (.key key) => applyKey state key none := by
  have whole := @Text.takeWhile_run _ name [] noEquals nofun
  have nothing := @Text.dropWhile_run _ name [] noEquals nofun
  rw [List.append_nil] at whole nothing
  rw [takeLong, whole, nothing]
  cases longOption? command name with
  | none => rfl
  | some known => cases known <;> rfl

theorem takeLong_joined (noEquals : ∀ char ∈ name, (char != '=') = true) {key : Key}
    (known : longOption? command name = some (.key key)) :
    takeLong command state (name ++ '=' :: value) = applyKey state key (some value) := by
  have ended : ∀ char ∈ ('=' :: value).head?, (char != '=') = false := by
    rintro _ ⟨⟩
    rfl
  rw [takeLong, Text.takeWhile_run noEquals ended, Text.dropWhile_run noEquals ended, known]

end Argument

/-! ### Parts of a line -/

-- A word of the sentence or an option. The options of more than one letter stand in front of
-- their value or are joined to it; the count has letters in a bundle, one and some more.
inductive Part where
  | word (text : Text)
  | json
  | verbose (more : Nat)
  | colour (choice : ColourChoice) (joined : Bool)
  | lexicon (path : Text) (joined : Bool)
  | file (path : Text)
  deriving DecidableEq, Repr

namespace Part

/-- An option and its value, in two arguments or in one. -/
def spelled (option value : Text) (joined : Bool) : List Text :=
  if joined then [option ++ '=' :: value] else [option, value]

def arguments : Part → List Text
  | word text => [text]
  | json => ["--json".toList]
  | verbose more => ['-' :: List.replicate (more + 1) 'v']
  | colour choice joined => spelled "--color".toList choice.name joined
  | lexicon path joined => spelled "--lexicon".toList path joined
  | file path => ["-f".toList, path]

def word? : Part → Option Text
  | word text => some text
  | _ => none

def colour? : Part → Option ColourChoice
  | colour choice _ => some choice
  | _ => none

def lexicon? : Part → Option Text
  | lexicon path _ => some path
  | _ => none

def file? : Part → Option Text
  | file path => some path
  | _ => none

def isJson : Part → Bool
  | json => true
  | _ => false

/-- How much the part adds to the count. -/
def letters : Part → Nat
  | verbose more => more + 1
  | _ => 0

end Part

abbrev Line := List Part

namespace Line

variable (line : Line)

def arguments : List Text := line.flatMap Part.arguments

def words : List Text := line.filterMap Part.word?

def colours : List ColourChoice := line.filterMap Part.colour?

def lexicons : List Text := line.filterMap Part.lexicon?

def files : List Text := line.filterMap Part.file?

def json : Bool := line.any Part.isJson

def verbosity : Nat := min maxVerbosity (line.map Part.letters).sum

/-- What a line gives, whatever the order of its options. -/
def given : Given :=
  { words := line.words
    directory := none
    file := line.files.head?
    lexicon := line.lexicons.head?
    output := none
    colour := line.colours.head?
    json := line.json
    verbosity := line.verbosity }

end Line

/-- No word can be taken for an option, no option but the count is repeated, and paths can be
taken for paths. -/
structure Line.Regular (line : Line) : Prop where
  plain : ∀ word ∈ line.words, IsPlain word
  json : line.countP Part.isJson ≤ 1
  colour : line.colours.length ≤ 1
  lexicon : line.lexicons.length ≤ 1
  lexiconPath : ∀ path ∈ line.lexicons, path ≠ [] ∧ IsPlain path
  file : line.files.length ≤ 1
  filePath : ∀ path ∈ line.files, path ≠ [] ∧ IsValue path

/-! ### What the arguments so far come to -/

/-- What was given, with what waits, is this, and options are still read. -/
structure State.Holds (state : State) (given : Given) : Prop where
  settled : settle state = .ok given
  opened : state.wordsOnly = false

section Holds

variable {command : Command} {state : State} {given added : Given} {option name value : Text}

theorem takeArguments_append (first second : List Text) :
    takeArguments command state (first ++ second) =
      match takeArguments command state first with
      | .error refusal => .error refusal
      | .ok next => takeArguments command next second := by
  induction first generalizing state with
  | nil => rfl
  | cons argument rest ih =>
      rw [List.cons_append, takeArguments, takeArguments]
      cases takeArgument command state argument with
      | error refusal => rfl
      | ok next => exact ih

theorem takeArguments_one (argument : Text) :
    takeArguments command state [argument] = takeArgument command state argument := by
  rw [takeArguments]
  cases takeArgument command state argument <;> rfl

theorem State.Holds.switch (holds : state.Holds given) {switch : Switch}
    (flipped : flip given switch = .ok added) :
    ∃ next, applySwitch state switch = .ok next ∧ next.Holds added := by
  refine ⟨{ state with given := added, waiting := .nothing }, ?_, rfl, holds.opened⟩
  rw [applySwitch, holds.settled]
  simp only [flipped]
  rfl

theorem State.Holds.word (holds : state.Holds given) (reads : readsSentence command = true)
    (plain : IsPlain value) :
    ∃ next, takeArguments command state [value] = .ok next ∧
      next.Holds { given with words := given.words ++ [value] } := by
  refine ⟨{ state with
    given := { given with words := given.words ++ [value] }, waiting := .nothing }, ?_, rfl,
    holds.opened⟩
  rw [takeArguments_one, takeArgument_value holds.opened (.inl plain),
    takePlain_settled holds.settled]
  cases command with
  | tag | parse =>
      rw [takeWord, holds.settled]
      rfl
  | run | lexicon => cases reads

/-- An option whose value is the next argument. -/
theorem State.Holds.keyApart (holds : state.Holds given) {key : Key}
    (begins : takeArgument command state option = applyKey state key none)
    (isValue : IsValue value) (set : setKey given key value = .ok added) :
    ∃ next, takeArguments command state [option, value] = .ok next ∧ next.Holds added := by
  let waiting : State := { state with given := given, waiting := .key key none }
  have begun : takeArgument command state option = .ok waiting := by
    rw [begins, applyKey, holds.settled]
  have ended : takeArgument command waiting value =
      .ok { waiting with waiting := .key key (some value) } :=
    takeArgument_value holds.opened isValue
  refine ⟨{ waiting with waiting := .key key (some value) }, ?_, set, holds.opened⟩
  rw [takeArguments, begun]
  exact (takeArguments_one value).trans ended

/-- An option that has its value in the same argument. -/
theorem State.Holds.keyJoined (holds : state.Holds given) {key : Key}
    (begins : takeArgument command state option = applyKey state key (some value))
    (set : setKey given key value = .ok added) :
    ∃ next, takeArguments command state [option] = .ok next ∧ next.Holds added := by
  refine ⟨{ state with given := added, waiting := .nothing }, ?_, rfl, holds.opened⟩
  rw [takeArguments_one, begins, applyKey, holds.settled]
  simp only [set]
  rfl

/-- An option of a long name with its value, written in either way. -/
theorem State.Holds.spelled (holds : state.Holds given) {key : Key} (named : name ≠ [])
    (noEquals : ∀ char ∈ name, (char != '=') = true)
    (known : longOption? command name = some (.key key)) (isValue : IsValue value)
    (set : setKey given key value = .ok added) (joined : Bool) :
    ∃ next, takeArguments command state (Part.spelled ('-' :: '-' :: name) value joined) = .ok next ∧
      next.Holds added := by
  cases joined with
  | false =>
      refine holds.keyApart ?_ isValue set
      rw [takeArgument_long holds.opened named, takeLong_name noEquals, known]
  | true =>
      refine holds.keyJoined ?_ set
      rw [List.cons_append, List.cons_append,
        takeArgument_long holds.opened (List.append_ne_nil_of_left_ne_nil named _),
        takeLong_joined noEquals known]

theorem takeLetters_verbose (letters : Text) :
    takeLetters command state ('v' :: letters) =
      match applySwitch state .verbose with
      | .error refusal => .error refusal
      | .ok next => takeLetters command next letters := rfl

/-- A bundle counts its letters; what is too much for the count at one letter is too much at all
that follow. -/
theorem State.Holds.letters (holds : state.Holds given) (more : Nat) :
    ∃ next, takeLetters command state (List.replicate (more + 1) 'v') = .ok next ∧
      next.Holds { given with verbosity := min maxVerbosity (given.verbosity + (more + 1)) } := by
  induction more generalizing state given with
  | zero =>
      obtain ⟨next, taken, held⟩ := @State.Holds.switch _ _ _ holds .verbose rfl
      refine ⟨next, ?_, held⟩
      rw [List.replicate_one, takeLetters_verbose, taken]
      rfl
  | succ more ih =>
      obtain ⟨next, taken, held⟩ := @State.Holds.switch _ _ _ holds .verbose rfl
      obtain ⟨last, rest, counted⟩ := ih held
      have sum : min maxVerbosity (min maxVerbosity (given.verbosity + 1) + (more + 1)) =
          min maxVerbosity (given.verbosity + (more + 1 + 1)) := by omega
      refine ⟨last, ?_, ?_⟩
      · rw [List.replicate_succ, takeLetters_verbose, taken]
        exact rest
      · rw [← sum]
        exact counted

end Holds

/-! ### One part and a whole line -/

/-- What is given once the part is given too. -/
def Part.addTo (given : Given) : Part → Given
  | word text => { given with words := given.words ++ [text] }
  | json => { given with json := true }
  | verbose more =>
      { given with verbosity := min maxVerbosity (given.verbosity + (more + 1)) }
  | colour choice _ => { given with colour := some choice }
  | lexicon path _ => { given with lexicon := some path }
  | file path => { given with file := some path }

/-- The part is read as what it is, and what it says has not been said before. -/
def Part.Fits (given : Given) : Part → Prop
  | word text => IsPlain text
  | json => given.json = false
  | verbose _ => True
  | colour _ _ => given.colour = none
  | lexicon path _ => given.lexicon = none ∧ path ≠ [] ∧ IsPlain path
  | file path => given.file = none ∧ path ≠ [] ∧ IsValue path

theorem checkPath_fresh {path : Text} (named : path ≠ []) : checkPath none path = .ok path := by
  cases path with
  | nil => exact absurd rfl named
  | cons first rest => rfl

theorem sentence_options {command : Command} (reads : readsSentence command = true) :
    longOption? command "json".toList = some (.switch .json) ∧
      longOption? command "color".toList = some (.key .colour) ∧
      shortOption? command 'f' = some (.key .file) := by
  cases command with
  | tag | parse => exact ⟨rfl, rfl, rfl⟩
  | run | lexicon => cases reads

/-- A part that fits is read after any others. -/
theorem takeArguments_part {command : Command} (reads : readsSentence command = true) {part : Part}
    {state : State} {given : Given} (fits : part.Fits given) (holds : state.Holds given) :
    ∃ next, takeArguments command state part.arguments = .ok next ∧
      next.Holds (part.addTo given) := by
  obtain ⟨jsonKnown, colourKnown, fileKnown⟩ := sentence_options reads
  cases part with
  | word text => exact holds.word reads fits
  | json =>
      have flipped : flip given .json = .ok { given with json := true } := by
        rw [flip, show given.json = false from fits]
        rfl
      obtain ⟨next, taken, held⟩ := holds.switch flipped
      refine ⟨next, ?_, held⟩
      rw [Part.arguments, takeArguments_one, ← taken]
      have long : takeArgument command state "--json".toList = takeLong command state "json".toList :=
        takeArgument_long holds.opened (by decide)
      rw [long, takeLong_name (List.all_eq_true.mp (by decide)), jsonKnown]
  | verbose more =>
      obtain ⟨next, taken, held⟩ := @State.Holds.letters command _ _ holds more
      refine ⟨next, ?_, held⟩
      rw [Part.arguments, takeArguments_one, ← taken]
      exact takeArgument_letters holds.opened (by decide) _
  | colour choice joined =>
      have set : setKey given .colour choice.name = .ok { given with colour := some choice } := by
        rw [setKey, show given.colour = none from fits, ColourChoice.ofText?_name]
        rfl
      have isValue : IsValue choice.name := .inl (by cases choice <;> decide)
      exact holds.spelled (by decide) (List.all_eq_true.mp (by decide)) colourKnown isValue set
        joined
  | lexicon path joined =>
      obtain ⟨first, named, plain⟩ := fits
      have set : setKey given .lexicon path = .ok { given with lexicon := some path } := by
        rw [setKey, first, checkPath_fresh named]
        rfl
      exact holds.spelled (by decide) (List.all_eq_true.mp (by decide)) rfl (.inl plain) set joined
  | file path =>
      obtain ⟨first, named, isValue⟩ := fits
      have set : setKey given .file path = .ok { given with file := some path } := by
        rw [setKey, first, checkPath_fresh named]
        rfl
      refine holds.keyApart ?_ isValue set
      have short : takeArgument command state "-f".toList = takeLetters command state ['f'] :=
        takeArgument_letters holds.opened (by decide) []
      rw [short, takeLetters, fileKnown]

section Reading

variable {command : Command} {line : Line} {part : Part}

theorem Line.Regular.front (regular : Line.Regular (line ++ [part])) : line.Regular where
  plain word member := regular.plain word (by simp_all [words])
  json := Nat.le_trans (by simp) regular.json
  colour := Nat.le_trans (by simp [colours]) regular.colour
  lexicon := Nat.le_trans (by simp [lexicons]) regular.lexicon
  lexiconPath path member := regular.lexiconPath path (by simp_all [lexicons])
  file := Nat.le_trans (by simp [files]) regular.file
  filePath path member := regular.filePath path (by simp_all [files])

/-- What is said once is not said before it is said last. -/
theorem unsaid {Value : Type} {read : Part → Option Value} {value : Value}
    (said : read part = some value) (once : ((line ++ [part]).filterMap read).length ≤ 1) :
    (line.filterMap read).head? = none := by
  rw [List.filterMap_append, List.length_append, List.filterMap_cons_some said,
    List.length_cons] at once
  rw [List.head?_eq_none_iff]
  exact List.eq_nil_of_length_eq_zero (by omega)

theorem Line.Regular.fits (regular : Line.Regular (line ++ [part])) : part.Fits line.given := by
  cases part with
  | word text => exact regular.plain text (by simp [words, Part.word?])
  | json =>
      have once := regular.json
      rw [List.countP_append, show [Part.json].countP Part.isJson = 1 from rfl] at once
      have nowhere : line.countP Part.isJson = 0 := by omega
      rw [List.countP_eq_zero] at nowhere
      exact List.any_eq_false.mpr nowhere
  | verbose more => trivial
  | colour choice joined => exact unsaid rfl regular.colour
  | lexicon path joined =>
      exact ⟨unsaid rfl regular.lexicon, regular.lexiconPath path (by simp [lexicons, Part.lexicon?])⟩
  | file path =>
      exact ⟨unsaid rfl regular.file, regular.filePath path (by simp [files, Part.file?])⟩

theorem filterMap_silent {Value : Type} {read : Part → Option Value} (silent : read part = none)
    (front back : Line) :
    (front ++ part :: back).filterMap read = (front ++ back).filterMap read := by
  rw [List.filterMap_append, List.filterMap_cons_none silent, List.filterMap_append]

/-- A file can be put anywhere in a line that has none. -/
theorem Line.Regular.withFile {front back : Line} {path : Text}
    (regular : Line.Regular (front ++ back)) (unfiled : Line.files (front ++ back) = [])
    (named : path ≠ []) (isValue : IsValue path) :
    Line.Regular (front ++ .file path :: back) := by
  have words : Line.words (front ++ .file path :: back) = Line.words (front ++ back) :=
    filterMap_silent rfl front back
  have colours : Line.colours (front ++ .file path :: back) = Line.colours (front ++ back) :=
    filterMap_silent rfl front back
  have lexicons : Line.lexicons (front ++ .file path :: back) = Line.lexicons (front ++ back) :=
    filterMap_silent rfl front back
  have files : Line.files (front ++ .file path :: back) = [path] := by
    obtain ⟨before, after⟩ :=
      List.append_eq_nil_iff.mp (List.filterMap_append.symm.trans unfiled)
    have told : Part.file? (.file path) = some path := rfl
    rw [Line.files, List.filterMap_append, List.filterMap_cons_some told, before, after,
      List.nil_append]
  exact
    { plain := words ▸ regular.plain
      json := by simpa [Part.isJson] using regular.json
      colour := colours ▸ regular.colour
      lexicon := lexicons ▸ regular.lexicon
      lexiconPath := lexicons ▸ regular.lexiconPath
      file := Nat.le_of_eq (congrArg List.length files)
      filePath := by simpa [files] using ⟨named, isValue⟩ }

theorem Line.given_append :
    Line.given (line ++ [part]) =
      { words := line.words ++ part.word?.toList
        directory := none
        file := line.files.head?.or part.file?
        lexicon := line.lexicons.head?.or part.lexicon?
        output := none
        colour := line.colours.head?.or part.colour?
        json := line.json || part.isJson
        verbosity := min maxVerbosity (line.verbosity + part.letters) } := by
  have sum : min maxVerbosity ((line.map Part.letters).sum + part.letters) =
      min maxVerbosity (line.verbosity + part.letters) := by
    rw [verbosity]
    omega
  have one {α : Type} (read : Part → Option α) : [part].filterMap read = (read part).toList := by
    cases found : read part <;> simp [found]
  rw [← sum]
  simp [given, words, files, lexicons, colours, json, verbosity, one, List.head?_append]

theorem Line.given_snoc (fits : part.Fits line.given) :
    Line.given (line ++ [part]) = part.addTo line.given := by
  have capped : min maxVerbosity line.verbosity = line.verbosity := by
    rw [verbosity]
    omega
  rw [given_append]
  cases part <;>
    simp_all [given, Part.addTo, Part.Fits, Part.word?, Part.file?, Part.lexicon?, Part.colour?,
      Part.isJson, Part.letters]

theorem takeArguments_line (reads : readsSentence command = true) (regular : line.Regular) :
    ∃ next, takeArguments command .start line.arguments = .ok next ∧ next.Holds line.given := by
  induction line using List.reverseRecOn with
  | nil => exact ⟨.start, rfl, rfl, rfl⟩
  | append_singleton front part ih =>
      obtain ⟨middle, before, held⟩ := ih regular.front
      obtain ⟨next, taken, added⟩ := takeArguments_part reads regular.fits held
      refine ⟨next, ?_, by rwa [Line.given_snoc regular.fits]⟩
      rw [Line.arguments, List.flatMap_append, takeArguments_append,
        show takeArguments command .start (front.flatMap Part.arguments) = .ok middle from before,
        List.flatMap_singleton]
      exact taken

end Reading

/-! ### What a line asks for -/

-- The commands on a sentence.
def sentenceCommands : List (Text × (Reading → Task)) :=
  [("tag".toList, .tag), ("parse".toList, .parse)]

theorem sentenceCommands_known {command : Text × (Reading → Task)}
    (listed : command ∈ sentenceCommands) :
    ∃ known, Command.ofName? command.1 = some known ∧ readsSentence known = true ∧
      ∀ given : Given, given.task known = command.2 given.reading := by
  rcases List.mem_cons.mp listed with rfl | rest
  · exact ⟨.tag, rfl, rfl, fun _ => rfl⟩
  obtain rfl := List.mem_singleton.mp rest
  exact ⟨.parse, rfl, rfl, fun _ => rfl⟩

/-- What a line without a file asks about. -/
def Line.reading (line : Line) : Reading :=
  { text := some (Text.joinWith [' '] line.words)
    file := none
    json := line.json
    colour := line.colours.head?.getD .automatic }

/-- The options say the same; how they are spelled and where they stand may differ. -/
structure Line.SameOptions (line other : Line) : Prop where
  json : line.countP Part.isJson = other.countP Part.isJson
  colours : line.colours = other.colours
  lexicons : line.lexicons = other.lexicons
  files : line.files = other.files
  verbosity : line.verbosity = other.verbosity

theorem Line.SameOptions.json_eq {line other : Line} (same : line.SameOptions other) :
    line.json = other.json := by
  have counted (parts : Line) : parts.json = true ↔ 0 < parts.countP Part.isJson :=
    List.any_eq_true.trans List.countP_pos_iff.symm
  rw [Bool.eq_iff_iff, counted, counted, same.json]

/-- Regularity is a matter of the words and of what the options say. -/
theorem Line.SameOptions.regular {line other : Line} (same : line.SameOptions other)
    (regular : line.Regular) (plain : ∀ word ∈ other.words, IsPlain word) : other.Regular where
  plain := plain
  json := same.json ▸ regular.json
  colour := same.colours ▸ regular.colour
  lexicon := same.lexicons ▸ regular.lexicon
  lexiconPath := same.lexicons ▸ regular.lexiconPath
  file := same.files ▸ regular.file
  filePath := same.files ▸ regular.filePath

theorem joinWith_plain {words : List Text} (plain : ∀ word ∈ words, IsPlain word) :
    IsPlain (Text.joinWith [' '] words) := by
  match words with
  | [] => exact nofun
  | [word] => exact plain word (List.mem_singleton_self word)
  | first :: second :: rest =>
      have front : IsPlain first := plain first List.mem_cons_self
      cases first with
      | nil => exact fun hyphen => absurd (Option.some.inj hyphen) (by decide)
      | cons letter letters => exact front

/-- What comes of a command line, if it is accepted. -/
def resultOf (setting : Setting) (host : Host) (environment : Option Text) (arguments : List Text) :
    Except Refusal Outcome :=
  (CommandLine.read environment arguments).map (setting.performOn host)

theorem withEnvironment_ok {environment : Option Text} (usable : environment ≠ some [])
    (given : Given) :
    withEnvironment environment given =
      .ok { given with lexicon := given.lexicon.or environment } := by
  obtain ⟨words, directory, file, lexicon, output, colour, json, verbosity⟩ := given
  cases lexicon with
  | some path => rfl
  | none =>
      cases environment with
      | none => rfl
      | some path =>
          have named : path ≠ [] := fun empty => usable (congrArg some empty)
          simp only [withEnvironment, setKey, checkPath_fresh named]
          rfl

section Asked

variable {line : Line} {environment : Option Text} (usable : environment ≠ some [])
include usable

theorem read_line (regular : line.Regular) {command : Text × (Reading → Task)}
    (listed : command ∈ sentenceCommands) :
    CommandLine.read environment (command.1 :: line.arguments) =
      if !line.words.isEmpty && line.files.head?.isSome then .error .conflict
      else .ok ⟨command.2 line.given.reading, line.lexicons.head?.or environment,
        line.verbosity⟩ := by
  obtain ⟨known, named, reads, task⟩ := sentenceCommands_known listed
  obtain ⟨state, taken, held⟩ := takeArguments_line reads regular
  rw [CommandLine.read, named]
  simp only [readCommand, taken, held.settled, withEnvironment_ok usable, conclude, task]
  rfl

/-- A line without a file asks for its words. -/
theorem read_words (regular : line.Regular) (worded : line.words ≠ []) (unfiled : line.files = [])
    {command : Text × (Reading → Task)} (listed : command ∈ sentenceCommands) :
    CommandLine.read environment (command.1 :: line.arguments) =
      .ok ⟨command.2 line.reading, line.lexicons.head?.or environment, line.verbosity⟩ := by
  have asked : line.given.reading = line.reading := by
    simp [Given.reading, Line.given, Line.reading, worded, unfiled]
  rw [read_line usable regular listed, unfiled, asked]
  simp

/-- A line with words and a file is refused. -/
theorem read_conflict (regular : line.Regular) (worded : line.words ≠ []) (filed : line.files ≠ [])
    {command : Text × (Reading → Task)} (listed : command ∈ sentenceCommands) :
    CommandLine.read environment (command.1 :: line.arguments) = .error .conflict := by
  rw [read_line usable regular listed]
  simp [worded, filed]

/-- Wherever the options stand and however they are spelled, a line with words is accepted and
asks for the words in their order and for what the options say. So a line with the same options
and words, or with the words quoted as one, has the same result. With a file anywhere in it the
line is refused. -/
theorem placement_irrelevant (regular : line.Regular) (worded : line.words ≠ [])
    (unfiled : line.files = []) {command : Text × (Reading → Task)}
    (listed : command ∈ sentenceCommands) :
    CommandLine.read environment (command.1 :: line.arguments) =
        .ok ⟨command.2 line.reading, line.lexicons.head?.or environment, line.verbosity⟩ ∧
      (∀ other : Line, line.SameOptions other →
        (other.words = line.words ∨ other.words = [Text.joinWith [' '] line.words]) →
        ∀ setting host,
          resultOf setting host environment (command.1 :: other.arguments) =
            resultOf setting host environment (command.1 :: line.arguments)) ∧
      ∀ front back path, line = front ++ back → path ≠ [] → IsValue path →
        CommandLine.read environment
            (command.1 :: Line.arguments (front ++ .file path :: back)) =
          .error .conflict := by
  refine ⟨read_words usable regular worded unfiled listed, ?_, ?_⟩
  · intro other same words setting host
    obtain ⟨plain, otherWorded, text⟩ : (∀ word ∈ other.words, IsPlain word) ∧ other.words ≠ [] ∧
        Text.joinWith [' '] other.words = Text.joinWith [' '] line.words := by
      rcases words with kept | quoted
      · rw [kept]
        exact ⟨regular.plain, worded, rfl⟩
      · rw [quoted, List.forall_mem_singleton]
        exact ⟨joinWith_plain regular.plain, List.cons_ne_nil _ _, rfl⟩
    have reading : other.reading = line.reading := by
      rw [Line.reading, Line.reading, text, same.json_eq, same.colours]
    rw [resultOf, resultOf,
      read_words usable (same.regular regular plain) otherWorded (same.files ▸ unfiled) listed,
      read_words usable regular worded unfiled listed, reading, same.lexicons, same.verbosity]
  · rintro front back path rfl named isValue
    refine read_conflict usable (regular.withFile unfiled named isValue) ?_ ?_ listed
    · rwa [Line.words, filterMap_silent rfl]
    · simp [Line.files, Part.file?]

end Asked

-- A sentence with options around and in it, and the same request with the sentence quoted.
def scatteredLine : Line :=
  [.verbose 1, .word "the".toList, .json, .word "cat".toList, .lexicon "own.csv".toList true,
    .word "ate".toList, .colour .never false]

def quotedLine : Line :=
  [.colour .never true, .lexicon "own.csv".toList false, .verbose 0, .word "the cat ate".toList,
    .verbose 0, .json]

theorem scatteredLine_placed :
    CommandLine.read (some "shared.csv".toList) ("parse".toList :: scatteredLine.arguments) =
        .ok ⟨.parse ⟨some "the cat ate".toList, none, true, .never⟩, some "own.csv".toList, 2⟩ ∧
      (∀ setting host,
        resultOf setting host (some "shared.csv".toList) ("parse".toList :: quotedLine.arguments) =
          resultOf setting host (some "shared.csv".toList)
            ("parse".toList :: scatteredLine.arguments)) ∧
      CommandLine.read (some "shared.csv".toList)
          ("parse".toList :: Line.arguments (scatteredLine.take 3 ++
            .file "words.txt".toList :: scatteredLine.drop 3)) =
        .error .conflict := by
  have regular : scatteredLine.Regular :=
    ⟨by decide, by decide, by decide, by decide, by decide, by decide, by decide⟩
  have usable : some "shared.csv".toList ≠ some [] := by decide
  obtain ⟨accepted, quoted, refused⟩ := placement_irrelevant usable regular (by decide) (by decide)
    (List.mem_cons_of_mem _ (List.mem_singleton_self ("parse".toList, Task.parse)))
  refine ⟨accepted, quoted quotedLine ?_ (.inr (by decide)), refused _ _ _ rfl ?_ ?_⟩
  · exact ⟨by decide, by decide, by decide, by decide, by decide⟩
  · decide
  · decide

end CommandLine

end SimpleSentence
