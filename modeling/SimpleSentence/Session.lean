import SimpleSentence.CommandLine.Parsing
import SimpleSentence.Disk
import SimpleSentence.Lexicon.Starter
import SimpleSentence.Report.Machine
import SimpleSentence.Report.Verdict

/-!
What a command does. It sees a disk, its standard input and whether it writes
to a terminal; it leaves an exit code, the text of its standard output, its
error messages in order and the disk afterwards. A command that cannot read
what it needs ends with one error message before it has written anything. One
that cannot make the report it is to print breaks off there, with a code of its
own and without a message. The system has a say in it: it can refuse a path that
leads somewhere, and a file that was created can still fail to take what is
written.

Left out are the log of a command, which goes to the error output but is no error
message, and what the program says there when it breaks off.
-/

namespace SimpleSentence

structure Setting where
  disk : Disk
  input : Bytes
  onTerminal : Bool
  deriving DecidableEq, Repr

structure Outcome where
  exitCode : Nat
  output : Text
  errors : List Text
  disk : Disk
  deriving DecidableEq, Repr

/-- What the system refuses, each with the cause: to read a path that leads somewhere, to read
the standard input, to create a file. A file that was created takes what is written as the
receiver does, and holds what is left once that has failed. -/
structure Host where
  reading : Text → Option Text
  input : Option Text
  creating : Text → Option Text
  receiver : Lexicon.Receiver
  left : Bytes

/-- The system that refuses nothing. -/
def Host.sound : Host := ⟨fun _ => none, none, fun _ => none, .willing, []⟩

inductive InputError where
  | missing
  | standardInput (cause : Text)
  | file (path cause : Text)
  deriving DecidableEq, Repr

def InputError.message : InputError → Text
  | .missing => "sentence is required: use positional TEXT or -f/--file".toList
  | .standardInput cause => "failed to read stdin: ".toList ++ cause
  | .file path cause => "failed to read '".toList ++ path ++ "': ".toList ++ cause

namespace Setting

def fail (setting : Setting) (message : Text) : Outcome := ⟨1, [], [message], setting.disk⟩

def succeed (setting : Setting) (output : Text) : Outcome := ⟨0, output, [], setting.disk⟩

/-- The end of a command that cannot make what it is to print. -/
def breakOff (setting : Setting) : Outcome := ⟨101, [], [], setting.disk⟩

/-- Prints what was made and ends with a code of its own. -/
def print (setting : Setting) (exitCode : Nat) : Option Text → Outcome
  | some output => { setting.succeed output with exitCode := exitCode }
  | none => setting.breakOff

def standardInput : Text := ['-']

/-- A sentence in words wins over a file; the file `-` is the standard input. -/
def loadTextOn (setting : Setting) (host : Host) (text file : Option Text) :
    Except InputError Text :=
  match text, file with
  | some text, _ => .ok text
  | none, none => .error .missing
  | none, some path =>
      if path = standardInput then
        match host.input, Disk.textOf setting.input with
        | some cause, _ => .error (.standardInput cause)
        | none, .ok text => .ok text
        | none, .error cause => .error (.standardInput cause)
      else
        match host.reading path, setting.disk.readText path with
        | some cause, _ => .error (.file path cause)
        | none, .ok text => .ok text
        | none, .error cause => .error (.file path cause)

def loadText (setting : Setting) (text file : Option Text) : Except InputError Text :=
  setting.loadTextOn .sound text file

/-- Without a path the starter lexicon is used. -/
def loadLexiconOn (setting : Setting) (host : Host) (path : Option Text) :
    Except LexiconError Lexicon :=
  match path with
  | none => .ok Lexicon.starter
  | some path =>
      match host.reading path, setting.disk.openTable path with
      | some cause, _ => .error (.unreadable path cause)
      | none, .error error => .error error
      | none, .ok input => Lexicon.load input

def loadLexicon (setting : Setting) (path : Option Text) : Except LexiconError Lexicon :=
  setting.loadLexiconOn .sound path

/-- A text that cannot be read is reported before a lexicon that cannot be loaded. -/
def withSentence (setting : Setting) (host : Host) (reading : Reading) (lexicon : Option Text)
    (go : Lexicon → Text → Outcome) : Outcome :=
  match setting.loadTextOn host reading.text reading.file with
  | .error error => setting.fail error.message
  | .ok text =>
      match setting.loadLexiconOn host lexicon with
      | .error error => setting.fail error.message
      | .ok lexicon => go lexicon text

def palette (setting : Setting) (choice : ColourChoice) : Palette :=
  .ofChoice (choice.coloured setting.onTerminal)

def tag (setting : Setting) (host : Host) (reading : Reading) (lexicon : Option Text) : Outcome :=
  setting.withSentence host reading lexicon fun lexicon text =>
    let words := (lexicon.tag text).words
    setting.print 0
      (if reading.json then some ((Report.tokensJson words).write ++ ['\n'])
      else Report.tagTable? (setting.palette reading.colour) words)

def parse (setting : Setting) (host : Host) (reading : Reading) (lexicon : Option Text) :
    Outcome :=
  setting.withSentence host reading lexicon fun lexicon text =>
    let analysis := lexicon.analyse text
    setting.print (if analysis.isAccepted then 0 else 1)
      (if reading.json then some ((Report.json analysis).write ++ ['\n'])
      else Report.ofAnalysis? (setting.palette reading.colour) analysis)

-- What one file adds to the output and to the error messages.
structure Section where
  output : Text
  errors : List Text
  deriving DecidableEq, Repr

def Section.unread (path cause : Text) : Section :=
  ⟨[], ["failed to read '".toList ++ path ++ "': ".toList ++ cause]⟩

/-- The section of a file depends on nothing but that file. There is none if no report can be
made. -/
def sectionOf? (lexicon : Lexicon) (palette : Palette) (file : Disk.SentenceFile) :
    Option Section :=
  match Disk.textOf file.content with
  | .ok text => (Report.ofFile? palette lexicon file.name text).map fun report => ⟨report, []⟩
  | .error cause => some (.unread file.path cause)

def sectionOn? (host : Host) (lexicon : Lexicon) (palette : Palette)
    (file : Disk.SentenceFile) : Option Section :=
  match host.reading file.path with
  | some cause => some (.unread file.path cause)
  | none => sectionOf? lexicon palette file

-- What files have added one after the other, and whether every one has.
structure Sections where
  done : List Section
  complete : Bool
  deriving DecidableEq, Repr

/-- The first file without a section stops the files behind it. -/
def sectionsOn (host : Host) (lexicon : Lexicon) (palette : Palette) :
    List Disk.SentenceFile → Sections
  | [] => ⟨[], true⟩
  | file :: rest =>
      match sectionOn? host lexicon palette file with
      | none => ⟨[], false⟩
      | some own =>
          let later := sectionsOn host lexicon palette rest
          { later with done := own :: later.done }

/-- What is printed file by file stays printed when the run breaks off. -/
def writeSections (setting : Setting) (sections : Sections) : Outcome :=
  { if sections.complete then setting.succeed [] else setting.breakOff with
    output := sections.done.flatMap Section.output
    errors := sections.done.flatMap Section.errors }

/-- A folder that is there can still refuse to be listed. -/
def sentenceFilesOn (setting : Setting) (host : Host) (directory : Text) :
    Except Text (List Disk.SentenceFile) :=
  if !setting.disk.isFolder directory then
    .error ("directory '".toList ++ directory ++ "' does not exist or is not a directory".toList)
  else
    let unread := fun cause =>
      "failed to read directory '".toList ++ directory ++ "': ".toList ++ cause
    match host.reading directory, setting.disk.sentenceFiles directory with
    | some cause, _ => .error (unread cause)
    | none, .error error => .error (unread error.message)
    | none, .ok files => .ok files

def runOn (setting : Setting) (host : Host) (directory : Text) (colour : ColourChoice)
    (lexicon : Option Text) : Outcome :=
  match setting.sentenceFilesOn host directory with
  | .error message => setting.fail message
  | .ok [] =>
      setting.succeed ("no .txt files found in '".toList ++ directory ++ ['\'', '\n'])
  | .ok files =>
      match setting.loadLexiconOn host lexicon with
      | .error error => setting.fail error.message
      | .ok lexicon =>
          setting.writeSections (sectionsOn host lexicon (setting.palette colour) files)

def run (setting : Setting) (directory : Text) (colour : ColourChoice)
    (lexicon : Option Text) : Outcome :=
  setting.runOn .sound directory colour lexicon

/-- The place of a file to be written, or the message that it cannot be created. -/
def createOn (setting : Setting) (host : Host) (path : Text) : Except Text Place :=
  let refused := fun cause => "failed to create '".toList ++ path ++ "': ".toList ++ cause
  match host.creating path, setting.disk.createPlace path with
  | some cause, _ => .error (refused cause)
  | none, .error error => .error (refused error.message)
  | none, .ok place => .ok place

/-- Exports the lexicon, or counts its entries. The file is touched only after the lexicon
was loaded, and the count is told only after the file was written. -/
def lexicon (setting : Setting) (host : Host) (output path : Option Text) : Outcome :=
  match setting.loadLexiconOn host path with
  | .error error => setting.fail error.message
  | .ok lexicon =>
      match output with
      | none => setting.succeed (Text.numeral lexicon.size ++ " entries\n".toList)
      | some output =>
          match setting.createOn host output with
          | .error message => setting.fail message
          | .ok place =>
              let writing := lexicon.writeTo host.receiver
              match writing.verdict with
              | .error error =>
                  { setting.fail error.message with
                    disk := setting.disk.write place host.left }
              | .ok () =>
                  { setting.succeed ("wrote ".toList ++ Text.numeral lexicon.size ++
                      " entries to ".toList ++ output ++ ['\n']) with
                    disk := setting.disk.write place writing.handed }

def performOn (setting : Setting) (host : Host) (invocation : Invocation) : Outcome :=
  match invocation.task with
  | .tag reading => setting.tag host reading invocation.lexicon
  | .parse reading => setting.parse host reading invocation.lexicon
  | .run directory colour => setting.runOn host directory colour invocation.lexicon
  | .lexicon output => setting.lexicon host output invocation.lexicon

def perform (setting : Setting) (invocation : Invocation) : Outcome :=
  setting.performOn .sound invocation

end Setting

end SimpleSentence
