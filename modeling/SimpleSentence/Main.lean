import SimpleSentence.CommandLine.Usage
import SimpleSentence.Session

/-!
The program. It looks up on the real disk the paths that a command line names,
performs the command on what it found there, and carries out what came of it.
-/

namespace SimpleSentence.Program

def lexiconVariable : String := "MINIGRAMMAR_LEXICON"

/-- The paths that an invocation can read or write. -/
def namedPaths (invocation : Invocation) : List Text :=
  let own := match invocation.task with
    | .tag reading | .parse reading => reading.file.toList
    | .run directory _ => [directory]
    | .lexicon output => output.toList
  own ++ invocation.lexicon.toList

/-- Where pieces lead from a place without looking at a disk. -/
def descend : Place → List Text → Place
  | place, [] => place
  | place, piece :: rest =>
      if piece.isEmpty || piece == Disk.here then descend place rest
      else if piece == Disk.above then descend place.dropLast rest
      else descend (place ++ [piece]) rest

def absolutePlace (current : Place) (path : Text) : Place :=
  match path with
  | '/' :: _ => descend [] (Disk.pieces path)
  | _ => descend current (Disk.pieces path)

def pathOf (place : Place) : String :=
  "/" ++ String.ofList (Text.joinWith ['/'] place)

/-- Every place on the way to a place, the place itself last. -/
def wayTo (done : Place) : Place → List Place
  | [] => []
  | name :: rest => (done ++ [name]) :: wayTo (done ++ [name]) rest

def folderNames? (place : Place) : IO (Option (List Text)) := do
  try
    let entries ← (← IO.FS.realPath (pathOf place)).readDir
    return some (entries.toList.map fun entry => entry.fileName.toList)
  catch _ => return none

def fileContent? (place : Place) : IO (Option Bytes) := do
  try
    let content ← IO.FS.readBinFile (pathOf place)
    return some content.toList
  catch _ => return none

/-- Adds what really stands at a place. -/
def lookUp (disk : Disk) (place : Place) : IO Disk := do
  match ← folderNames? place with
  | some _ => return { disk with folders := place :: disk.folders }
  | none =>
      match ← fileContent? place with
      | some content => return disk.write place content
      | none => return disk

/-- Adds the sentence files of a folder. -/
def lookInto (disk : Disk) (place : Place) : IO Disk := do
  match ← folderNames? place with
  | none => return disk
  | some names =>
      let look := fun (disk : Disk) (name : Text) => lookUp disk (place ++ [name])
      (names.filter Disk.isSentenceName).foldlM look disk

/-- The part of the real disk that an invocation can tell apart. -/
def survey (invocation : Invocation) : IO Disk := do
  let current := descend [] (Disk.pieces (← IO.currentDir).toString.toList)
  let places := (namedPaths invocation).map (absolutePlace current)
  let disk ← (places.flatMap (wayTo [])).foldlM lookUp ⟨[], [], current⟩
  match invocation.task with
  | .run directory _ => lookInto disk (absolutePlace current directory)
  | _ => return disk

partial def readAll (stream : IO.FS.Stream) (done : ByteArray) : IO ByteArray := do
  let block ← stream.read 65536
  if block.isEmpty then return done else readAll stream (done ++ block)

/-- The standard input, read only if the sentence comes from there. -/
def readInput (invocation : Invocation) : IO Bytes := do
  if (namedPaths invocation).contains Setting.standardInput then
    return (← readAll (← IO.getStdin) .empty).toList
  else return []

/-- Writes the files that the outcome added or changed; the cause if that fails. -/
def writeFiles? (before : Disk) (outcome : Outcome) : IO (Option Text) := do
  try
    for file in outcome.disk.files do
      if before.file? file.place != some file then
        IO.FS.writeBinFile (pathOf file.place) (ByteArray.mk file.content.toArray)
    return none
  catch error => return some error.toString.toList

/-- What comes of an invocation, once the files it writes have been written or have failed to
take what was written. -/
def carryOut (setting : Setting) (invocation : Invocation) : IO Outcome := do
  let outcome := setting.perform invocation
  match ← writeFiles? setting.disk outcome with
  | none => return outcome
  | some cause =>
      let host := { Host.sound with receiver := fun _ => some cause }
      return setting.performOn host invocation

def report (outcome : Outcome) : IO Unit := do
  IO.print (String.ofList outcome.output)
  for message in outcome.errors do
    IO.eprintln ("error: " ++ String.ofList message)

def refuse (refusal : Refusal) : IO UInt32 := do
  let text := String.ofList (CommandLine.refusalText refusal)
  if refusal == .help then IO.print text else IO.eprintln text
  return refusal.exitCode.toUInt32

def start (arguments : List String) : IO UInt32 := do
  let environment := (← IO.getEnv lexiconVariable).map String.toList
  match CommandLine.read environment (arguments.map String.toList) with
  | .error refusal => refuse refusal
  | .ok invocation =>
      let disk ← survey invocation
      let setting : Setting :=
        { disk := disk
          input := ← readInput invocation
          onTerminal := ← (← IO.getStdout).isTty }
      let outcome ← carryOut setting invocation
      report outcome
      return outcome.exitCode.toUInt32

end SimpleSentence.Program

def main (arguments : List String) : IO UInt32 := SimpleSentence.Program.start arguments
