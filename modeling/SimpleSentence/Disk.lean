import SimpleSentence.Lexicon.Table
import SimpleSentence.Text.Utf8

/-!
The files that a command can see. A file is its place, a list of names from the
top, with its bytes; every place above a file is a folder, and further folders
are listed. A written path is followed name by name from the current folder, or
from the top if it begins with a slash; what stops the way is the error.

Some things that a disk can have are left out. There are no links and no devices.
Names are texts, so there is no name whose bytes are no text, which would be shown
with replacement characters. And a folder can be searched whenever it can be listed,
so the files in it can be looked up by their paths unless these are too long.
-/

namespace SimpleSentence

inductive DiskError where
  | notFound
  | notFolder
  | isFolder
  | nameTooLong
  | badName
  deriving DecidableEq, Repr

def DiskError.message : DiskError → Text
  | .notFound => "No such file or directory (os error 2)".toList
  | .notFolder => "Not a directory (os error 20)".toList
  | .isFolder => "Is a directory (os error 21)".toList
  | .nameTooLong => "File name too long (os error 36)".toList
  | .badName => "file name contained an unexpected NUL byte".toList

abbrev Place := List Text

structure File where
  place : Place
  content : Bytes
  deriving DecidableEq, Repr

structure Disk where
  files : List File
  folders : List Place
  current : Place
  deriving DecidableEq, Repr

inductive Node where
  | file (file : File)
  | folder (place : Place)
  deriving DecidableEq, Repr

namespace Disk

def file? (disk : Disk) (place : Place) : Option File :=
  disk.files.find? fun file => file.place == place

def hasFolder (disk : Disk) (place : Place) : Bool :=
  place.isEmpty || place.isPrefixOf disk.current ||
    disk.folders.any (fun folder => place.isPrefixOf folder) ||
    disk.files.any (fun file => place.isPrefixOf file.place && place != file.place)

def node? (disk : Disk) (place : Place) : Option Node :=
  match disk.file? place with
  | some file => some (.file file)
  | none => if disk.hasFolder place then some (.folder place) else none

/-- The pieces of a written path between its slashes, empty ones included. -/
def pieces : Text → List Text
  | [] => [[]]
  | char :: rest =>
      if char = '/' then [] :: pieces rest
      else match pieces rest with
        | [] => [[char]]
        | piece :: more => (char :: piece) :: more

def here : Text := ['.']

def above : Text := ['.', '.']

def maxNameBytes : Nat := 255

/-- A path as written is at most this long, whatever it leads to. -/
def maxPathBytes : Nat := 4095

/-- Follows pieces from a node. Empty pieces and `.` stay, but only in a folder. -/
def follow (disk : Disk) : Node → List Text → Except DiskError Node
  | node, [] => .ok node
  | .file _, _ :: _ => .error .notFolder
  | .folder place, piece :: rest =>
      if piece.isEmpty || piece == here then follow disk (.folder place) rest
      else if piece == above then follow disk (.folder place.dropLast) rest
      else if maxNameBytes < Text.byteLength piece then .error .nameTooLong
      else match disk.node? (place ++ [piece]) with
        | none => .error .notFound
        | some node => follow disk node rest

/-- Where a written path starts. -/
def start (disk : Disk) : Text → Node
  | '/' :: _ => .folder []
  | _ => .folder disk.current

/-- A path is refused for what it looks like before anything is looked up. -/
def checkPath (path : Text) : Except DiskError Unit :=
  if path.contains '\x00' then .error .badName
  else if path.isEmpty then .error .notFound
  else if maxPathBytes < Text.byteLength path then .error .nameTooLong
  else .ok ()

def resolve (disk : Disk) (path : Text) : Except DiskError Node :=
  match checkPath path with
  | .error error => .error error
  | .ok () => disk.follow (disk.start path) (pieces path)

def isFolder (disk : Disk) (path : Text) : Bool :=
  match disk.resolve path with
  | .ok (.folder _) => true
  | _ => false

def notText : Text := "stream did not contain valid UTF-8".toList

/-- The text that bytes are, or the cause why they are none. -/
def textOf (content : Bytes) : Except Text Text :=
  match Utf8.decode content with
  | .ok text => .ok text
  | .error _ => .error notText

/-- The text of a file, or why there is none. -/
def readText (disk : Disk) (path : Text) : Except Text Text :=
  match disk.resolve path with
  | .error error => .error error.message
  | .ok (.folder _) => .error DiskError.isFolder.message
  | .ok (.file file) => textOf file.content

/-- A folder opens like a file and fails as soon as it is read. -/
def openTable (disk : Disk) (path : Text) : Except LexiconError Lexicon.Input :=
  match disk.resolve path with
  | .error error => .error (.unreadable path error.message)
  | .ok (.folder _) => .ok ⟨[], some DiskError.isFolder.message⟩
  | .ok (.file file) => .ok ⟨file.content, none⟩

def sentenceEnding : Text := ".txt".toList

/-- A name that ends in `.txt` and is more than that ending. -/
def isSentenceName (name : Text) : Bool :=
  sentenceEnding.isSuffixOf name && name != sentenceEnding

def bytesBefore : Bytes → Bytes → Bool
  | [], _ => true
  | _ :: _, [] => false
  | first :: rest, other :: others =>
      if first < other then true
      else if other < first then false
      else bytesBefore rest others

/-- The order of names by the bytes of their encoded form. -/
def nameBefore (first second : Text) : Bool :=
  bytesBefore (Utf8.encode first) (Utf8.encode second)

/-- The name of a file that lies directly in a folder. -/
def nameIn? (place : Place) (file : File) : Option Text :=
  if file.place.dropLast = place then file.place.getLast? else none

def join (directory name : Text) : Text :=
  if directory.getLast? = some '/' then directory ++ name else directory ++ '/' :: name

-- A sentence file: its name, its path as written, and its content.
structure SentenceFile where
  name : Text
  path : Text
  content : Bytes
  deriving DecidableEq, Repr

/-- The sentence file that a file is in a folder written as `directory`, if it is one. A file
whose path comes out too long cannot be reached that way and is none. -/
def sentenceFile? (place : Place) (directory : Text) (file : File) : Option SentenceFile :=
  match nameIn? place file with
  | none => none
  | some name =>
      let path := join directory name
      if isSentenceName name && Text.byteLength path ≤ maxPathBytes then
        some ⟨name, path, file.content⟩
      else none

/-- The sentence files directly in a directory, in the order of their names. -/
def sentenceFiles (disk : Disk) (directory : Text) : Except DiskError (List SentenceFile) :=
  match disk.resolve directory with
  | .error error => .error error
  | .ok (.file _) => .error .notFolder
  | .ok (.folder place) =>
      .ok ((disk.files.filterMap (sentenceFile? place directory)).mergeSort fun first second =>
        nameBefore first.name second.name)

/-- Replaces the content of a file, or adds the file behind the others. -/
def write (disk : Disk) (place : Place) (content : Bytes) : Disk :=
  match disk.file? place with
  | some _ =>
      { disk with
        files := disk.files.map fun file =>
          if file.place = place then ⟨place, content⟩ else file }
  | none => { disk with files := disk.files ++ [⟨place, content⟩] }

/-- The place of a file about to be written under a last name in a folder. -/
def newPlace (disk : Disk) (folder : Node) (name : Text) (slash : Bool) : Except DiskError Place :=
  match folder with
  | .file _ => .error .notFolder
  | .folder place =>
      if slash || name.isEmpty || name == here || name == above then .error .isFolder
      else if maxNameBytes < Text.byteLength name then .error .nameTooLong
      else match disk.node? (place ++ [name]) with
        | some (.folder _) => .error .isFolder
        | _ => .ok (place ++ [name])

/-- Finds the place of a file to be written; all but the last name must exist. -/
def createPlace (disk : Disk) (path : Text) : Except DiskError Place :=
  match checkPath path with
  | .error error => .error error
  | .ok () =>
      let written := (pieces path).reverse
      let names := written.dropWhile List.isEmpty
      match disk.follow (disk.start path) names.tail.reverse with
      | .error error => .error error
      | .ok folder => disk.newPlace folder (names.headD []) (names.length < written.length)

end Disk

end SimpleSentence
