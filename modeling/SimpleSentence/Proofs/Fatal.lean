import SimpleSentence.Proofs.Sections

/-!
Failures that end a command. What a command reads and the file it is to create
are settled before it writes anything, so a failure there is told in one message
and leaves the output empty and the disk as it was. Of several failures the one
in front is told: that of the text before that of the lexicon, that of the
directory before both, that of the file to be created last. A command to which
none of them happens ends well, unless it rejects its text, cannot write what it
has to write or breaks off before a report that cannot be made.
-/

namespace SimpleSentence

/-- What is to be read, where a task is about one text. -/
def Task.reading? : Task → Option Reading
  | .tag reading | .parse reading => some reading
  | .run _ _ | .lexicon _ => none

namespace Setting

/-- Only a run without sentence files has no use for a lexicon. -/
def NeedsLexicon (setting : Setting) (host : Host) : Task → Prop
  | .run directory _ => ∃ files, setting.sentenceFilesOn host directory = .ok files ∧ files ≠ []
  | .tag _ | .parse _ | .lexicon _ => True

/-- A failure that ends an invocation, with its message. -/
inductive Failure (setting : Setting) (host : Host) (invocation : Invocation) : Text → Prop where
  | text {reading : Reading} {error : InputError} (reads : invocation.task.reading? = some reading)
      (failed : setting.loadTextOn host reading.text reading.file = .error error) :
      Failure setting host invocation error.message
  | directory {directory message : Text} {colour : ColourChoice}
      (runs : invocation.task = .run directory colour)
      (failed : setting.sentenceFilesOn host directory = .error message) :
      Failure setting host invocation message
  | lexicon {error : LexiconError} (needed : setting.NeedsLexicon host invocation.task)
      (failed : setting.loadLexiconOn host invocation.lexicon = .error error) :
      Failure setting host invocation error.message
  | output {output message : Text} (exports : invocation.task = .lexicon (some output))
      (failed : setting.createOn host output = .error message) :
      Failure setting host invocation message

/-- The text of a `parse` was judged and rejected. -/
def Rejects (setting : Setting) (host : Host) (invocation : Invocation) : Prop :=
  ∃ reading text lexicon error, invocation.task = .parse reading ∧
    setting.loadTextOn host reading.text reading.file = .ok text ∧
    setting.loadLexiconOn host invocation.lexicon = .ok lexicon ∧
    lexicon.parse text = .error error

/-- Whatever lexicon is loaded to be exported, the created file takes it. -/
def Takes (setting : Setting) (host : Host) (invocation : Invocation) : Prop :=
  ∀ output lexicon, invocation.task = .lexicon (some output) →
    setting.loadLexiconOn host invocation.lexicon = .ok lexicon →
      (lexicon.writeTo host.receiver).verdict = .ok ()

/-- A report is asked for that cannot be made: one for readers on a text that is not narrow, or
that on a file that is read as such a text. -/
def Overflows (setting : Setting) (host : Host) (invocation : Invocation) : Prop :=
  match invocation.task with
  | .tag reading | .parse reading =>
      reading.json = false ∧ ∃ text,
        setting.loadTextOn host reading.text reading.file = .ok text ∧ ¬ text.Narrow
  | .run directory _ =>
      ∃ files, setting.sentenceFilesOn host directory = .ok files ∧
        ∃ file ∈ files, host.reading file.path = none ∧ ¬ file.Narrow
  | .lexicon _ => False

/-! ### What each failure ends with -/

section Stages

variable {setting : Setting} {host : Host} {path : Option Text}

theorem sentenceFilesOn_error_iff (directory : Text) :
    (∃ message, setting.sentenceFilesOn host directory = .error message) ↔
      setting.disk.isFolder directory = false ∨ ∃ cause, host.reading directory = some cause := by
  unfold sentenceFilesOn Disk.isFolder Disk.sentenceFiles
  cases host.reading directory with
  | some cause => split <;> simp
  | none =>
      cases setting.disk.resolve directory with
      | error error => simp
      | ok node => cases node <;> simp

section Reading

variable {reading : Reading} {text : Text}

theorem withSentence_text {error : InputError}
    (failed : setting.loadTextOn host reading.text reading.file = .error error)
    (go : Lexicon → Text → Outcome) :
    setting.withSentence host reading path go = setting.fail error.message := by
  rw [withSentence, failed]

theorem withSentence_lexicon {error : LexiconError}
    (read : setting.loadTextOn host reading.text reading.file = .ok text)
    (failed : setting.loadLexiconOn host path = .error error) (go : Lexicon → Text → Outcome) :
    setting.withSentence host reading path go = setting.fail error.message := by
  simp only [withSentence, read, failed]

theorem withSentence_ok {lexicon : Lexicon}
    (read : setting.loadTextOn host reading.text reading.file = .ok text)
    (loaded : setting.loadLexiconOn host path = .ok lexicon) (go : Lexicon → Text → Outcome) :
    setting.withSentence host reading path go = go lexicon text := by
  simp only [withSentence, read, loaded]

theorem exitCode_print (setting : Setting) (code : Nat) (printed : Option Text) :
    (setting.print code printed).exitCode = if printed = none then 101 else code := by
  cases printed <;> rfl

/-- The table is made for machines, or of a narrow text for readers. -/
theorem exitCode_tag {lexicon : Lexicon}
    (read : setting.loadTextOn host reading.text reading.file = .ok text)
    (loaded : setting.loadLexiconOn host path = .ok lexicon) :
    (setting.tag host reading path).exitCode =
      if reading.json = false ∧ ¬ text.Narrow then 101 else 0 := by
  rw [tag, withSentence_ok read loaded, exitCode_print]
  congr 1
  cases reading.json with
  | true => simp
  | false => simpa using Report.tagTable?_eq_none_iff lexicon (setting.palette reading.colour)

theorem exitCode_parse {lexicon : Lexicon}
    (read : setting.loadTextOn host reading.text reading.file = .ok text)
    (loaded : setting.loadLexiconOn host path = .ok lexicon) :
    (setting.parse host reading path).exitCode =
      if reading.json = false ∧ ¬ text.Narrow then 101
      else if (lexicon.analyse text).isAccepted then 0 else 1 := by
  rw [parse, withSentence_ok read loaded, exitCode_print]
  congr 1
  cases reading.json with
  | true => simp
  | false => simpa using Report.ofAnalysis?_eq_none_iff lexicon (setting.palette reading.colour)

end Reading

theorem exitCode_runOn {directory : Text} {files : List Disk.SentenceFile} {lexicon : Lexicon}
    (listed : setting.sentenceFilesOn host directory = .ok files) (some : files ≠ [])
    (loaded : setting.loadLexiconOn host path = .ok lexicon) (colour : ColourChoice) :
    (setting.runOn host directory colour path).exitCode =
      if ∀ file ∈ files, host.reading file.path = none → file.Narrow then 0 else 101 := by
  have complete := @complete_iff lexicon (setting.palette colour) host files
  cases files with
  | nil => exact absurd rfl some
  | cons first rest =>
      simp only [runOn, listed, loaded, writeSections, ← complete]
      split <;> rfl

theorem runOn_lexicon {directory : Text} {files : List Disk.SentenceFile} {error : LexiconError}
    (listed : setting.sentenceFilesOn host directory = .ok files) (some : files ≠ [])
    (failed : setting.loadLexiconOn host path = .error error) (colour : ColourChoice) :
    setting.runOn host directory colour path = setting.fail error.message := by
  cases files with
  | nil => exact absurd rfl some
  | cons first rest => simp only [runOn, listed, failed]

end Stages

section Invocation

variable {setting : Setting} {host : Host} {invocation : Invocation}

theorem performOn_text {reading : Reading} {error : InputError}
    (reads : invocation.task.reading? = some reading)
    (failed : setting.loadTextOn host reading.text reading.file = .error error) :
    setting.performOn host invocation = setting.fail error.message := by
  obtain ⟨task, path, verbosity⟩ := invocation
  cases task with
  | tag own =>
      cases reads
      exact withSentence_text failed _
  | parse own =>
      cases reads
      exact withSentence_text failed _
  | run directory colour => cases reads
  | lexicon output => cases reads

theorem performOn_directory {directory message : Text} {colour : ColourChoice}
    (runs : invocation.task = .run directory colour)
    (failed : setting.sentenceFilesOn host directory = .error message) :
    setting.performOn host invocation = setting.fail message := by
  simp only [performOn, runs, runOn, failed]

/-- A lexicon that cannot be loaded is told of unless the text could not be read. -/
theorem performOn_lexicon {error : LexiconError}
    (needed : setting.NeedsLexicon host invocation.task)
    (failed : setting.loadLexiconOn host invocation.lexicon = .error error)
    (read : ∀ reading, invocation.task.reading? = some reading →
      ∃ text, setting.loadTextOn host reading.text reading.file = .ok text) :
    setting.performOn host invocation = setting.fail error.message := by
  obtain ⟨task, path, verbosity⟩ := invocation
  cases task with
  | tag reading =>
      obtain ⟨text, read⟩ := read reading rfl
      exact withSentence_lexicon read failed _
  | parse reading =>
      obtain ⟨text, read⟩ := read reading rfl
      exact withSentence_lexicon read failed _
  | run directory colour =>
      obtain ⟨files, listed, some⟩ := needed
      exact runOn_lexicon listed some failed colour
  | lexicon output => simp only [performOn, lexicon, failed]

theorem performOn_output {output message : Text} {loaded : Lexicon}
    (exports : invocation.task = .lexicon (some output))
    (read : setting.loadLexiconOn host invocation.lexicon = .ok loaded)
    (failed : setting.createOn host output = .error message) :
    setting.performOn host invocation = setting.fail message := by
  simp only [performOn, exports, lexicon, read, failed]

theorem text_fails_or_read (setting : Setting) (host : Host) (invocation : Invocation) :
    (∃ reading error, invocation.task.reading? = some reading ∧
      setting.loadTextOn host reading.text reading.file = .error error) ∨
      ∀ reading, invocation.task.reading? = some reading →
        ∃ text, setting.loadTextOn host reading.text reading.file = .ok text := by
  cases reads : invocation.task.reading? with
  | none => exact .inr nofun
  | some reading =>
      cases read : setting.loadTextOn host reading.text reading.file with
      | error error => exact .inl ⟨reading, error, rfl, read⟩
      | ok text =>
          refine .inr fun own same => ?_
          rw [← Option.some.inj same]
          exact ⟨text, read⟩

/-- Where something fails, a failure is all that comes of the command. -/
theorem Failure.ends {message : Text} (failure : Failure setting host invocation message) :
    ∃ first, Failure setting host invocation first ∧
      setting.performOn host invocation = setting.fail first := by
  cases failure with
  | text reads failed => exact ⟨_, .text reads failed, performOn_text reads failed⟩
  | directory runs failed => exact ⟨_, .directory runs failed, performOn_directory runs failed⟩
  | lexicon needed failed =>
      rcases text_fails_or_read setting host invocation with ⟨_, _, reads, failed⟩ | read
      · exact ⟨_, .text reads failed, performOn_text reads failed⟩
      · exact ⟨_, .lexicon needed failed, performOn_lexicon needed failed read⟩
  | output exports failed =>
      cases loaded : setting.loadLexiconOn host invocation.lexicon with
      | ok lexicon => exact ⟨_, .output exports failed, performOn_output exports loaded failed⟩
      | error error =>
          have needed : setting.NeedsLexicon host invocation.task := by
            rw [exports]
            trivial
          have readsNothing : invocation.task.reading? = none := by
            rw [exports]
            rfl
          refine ⟨_, .lexicon needed loaded, performOn_lexicon needed loaded ?_⟩
          intro reading reads
          cases readsNothing.symm.trans reads

/-! ### What is left where nothing fails -/

section Sound

variable (sound : ∀ message, ¬ Failure setting host invocation message)
include sound

theorem read_of_sound (reading : Reading)
    (reads : invocation.task.reading? = some reading) :
    ∃ text, setting.loadTextOn host reading.text reading.file = .ok text := by
  cases read : setting.loadTextOn host reading.text reading.file with
  | ok text => exact ⟨text, rfl⟩
  | error error => exact absurd (.text reads read) (sound _)

theorem loaded_of_sound (needed : setting.NeedsLexicon host invocation.task) :
    ∃ lexicon, setting.loadLexiconOn host invocation.lexicon = .ok lexicon := by
  cases loaded : setting.loadLexiconOn host invocation.lexicon with
  | ok lexicon => exact ⟨lexicon, rfl⟩
  | error error => exact absurd (.lexicon needed loaded) (sound _)

theorem exitCode_of_overflow (overflows : setting.Overflows host invocation) :
    (setting.performOn host invocation).exitCode = 101 := by
  obtain ⟨task, path, verbosity⟩ := invocation
  cases task with
  | tag reading =>
      obtain ⟨forReaders, text, read, wide⟩ := overflows
      obtain ⟨lexicon, loaded⟩ := loaded_of_sound sound trivial
      exact (exitCode_tag read loaded).trans (if_pos ⟨forReaders, wide⟩)
  | parse reading =>
      obtain ⟨forReaders, text, read, wide⟩ := overflows
      obtain ⟨lexicon, loaded⟩ := loaded_of_sound sound trivial
      exact (exitCode_parse read loaded).trans (if_pos ⟨forReaders, wide⟩)
  | run directory colour =>
      obtain ⟨files, listed, file, member, read, wide⟩ := overflows
      have some : files ≠ [] := List.ne_nil_of_mem member
      obtain ⟨lexicon, loaded⟩ := loaded_of_sound sound ⟨files, listed, some⟩
      exact (exitCode_runOn listed some loaded colour).trans
        (if_neg fun narrow => wide (narrow file member read))
  | lexicon output => exact overflows.elim

theorem exitCode_of_sound (fits : ¬ setting.Overflows host invocation)
    (accepts : ¬ setting.Rejects host invocation) (takes : setting.Takes host invocation) :
    (setting.performOn host invocation).exitCode = 0 := by
  obtain ⟨task, path, verbosity⟩ := invocation
  cases task with
  | tag reading =>
      obtain ⟨text, read⟩ := read_of_sound sound reading rfl
      obtain ⟨lexicon, loaded⟩ := loaded_of_sound sound trivial
      exact (exitCode_tag read loaded).trans
        (if_neg fun wide => fits ⟨wide.1, text, read, wide.2⟩)
  | parse reading =>
      obtain ⟨text, read⟩ := read_of_sound sound reading rfl
      obtain ⟨lexicon, loaded⟩ := loaded_of_sound sound trivial
      have judged : (lexicon.analyse text).isAccepted = true := by
        cases parsed : lexicon.parse text with
        | ok tree => exact (lexicon.isAccepted_iff text).mpr ⟨tree, parsed⟩
        | error error =>
            exact absurd ⟨reading, text, lexicon, error, rfl, read, loaded, parsed⟩ accepts
      refine (exitCode_parse read loaded).trans ?_
      rw [if_neg fun wide => fits ⟨wide.1, text, read, wide.2⟩, if_pos judged]
  | run directory colour =>
      cases listed : setting.sentenceFilesOn host directory with
      | error message => exact absurd (.directory rfl listed) (sound message)
      | ok files =>
          by_cases none : files = []
          · subst none
            simp only [performOn, runOn, listed, succeed]
          · obtain ⟨lexicon, loaded⟩ := loaded_of_sound sound ⟨files, listed, none⟩
            refine (exitCode_runOn listed none loaded colour).trans (if_pos ?_)
            intro file member read
            by_contra wide
            exact fits ⟨files, listed, file, member, read, wide⟩
  | lexicon output =>
      obtain ⟨lexicon, loaded⟩ := loaded_of_sound sound trivial
      cases output with
      | none => simp only [performOn, Setting.lexicon, loaded, succeed]
      | some output =>
          cases created : setting.createOn host output with
          | error message => exact absurd (.output rfl created) (sound message)
          | ok place =>
              have taken := takes output lexicon rfl loaded
              simp only [performOn, Setting.lexicon, loaded, created, taken, succeed]

end Sound

/-- What ends badly with something written is a `parse` that rejects its text. -/
theorem rejects_of_output (ended : (setting.performOn host invocation).exitCode = 1)
    (wrote : (setting.performOn host invocation).output ≠ []) :
    setting.Rejects host invocation := by
  have sound : ∀ message, ¬ Failure setting host invocation message := by
    intro message failure
    obtain ⟨first, _, ends⟩ := failure.ends
    rw [ends] at wrote
    exact wrote rfl
  have takes : setting.Takes host invocation := by
    intro output lexicon exports loaded
    cases taken : (lexicon.writeTo host.receiver).verdict with
    | ok _ => rfl
    | error error =>
        cases created : setting.createOn host output with
        | error message => exact absurd (.output exports created) (sound message)
        | ok place =>
            have nothing : (setting.performOn host invocation).output = [] := by
              simp only [performOn, exports, Setting.lexicon, loaded, created, taken, fail]
            exact absurd nothing wrote
  have fits : ¬ setting.Overflows host invocation := fun overflows =>
    nomatch ended.symm.trans (exitCode_of_overflow sound overflows)
  by_contra accepts
  cases ended.symm.trans (exitCode_of_sound sound fits accepts takes)

end Invocation

/-- A failure ends a command with the message of a failure, the code 1 and nothing else: that of
the text if that cannot be read, and that of the directory for a run, which without sentence files
ends well whatever its lexicon. What ends with the code 1 and some output has rejected its text,
and where nothing fails, is rejected or stays unwritten, the command ends well unless a report that
it is to print cannot be made: then it breaks off with a code of its own. -/
theorem failures_leave_no_trace (setting : Setting) (host : Host) (invocation : Invocation) :
    (∀ message, Failure setting host invocation message →
      ∃ first, Failure setting host invocation first ∧
        setting.performOn host invocation = ⟨1, [], [first], setting.disk⟩) ∧
      (∀ reading error, invocation.task.reading? = some reading →
        setting.loadTextOn host reading.text reading.file = .error error →
          (setting.performOn host invocation).errors = [error.message]) ∧
      (∀ directory colour, invocation.task = .run directory colour →
        ((∃ message, setting.sentenceFilesOn host directory = .error message) ↔
          setting.disk.isFolder directory = false ∨ ∃ cause, host.reading directory = some cause) ∧
        (∀ message, setting.sentenceFilesOn host directory = .error message →
          (setting.performOn host invocation).errors = [message]) ∧
        (setting.sentenceFilesOn host directory = .ok [] →
          setting.performOn host invocation =
            ⟨0, "no .txt files found in '".toList ++ directory ++ ['\'', '\n'], [],
              setting.disk⟩)) ∧
      ((setting.performOn host invocation).exitCode = 1 →
        (setting.performOn host invocation).output ≠ [] → setting.Rejects host invocation) ∧
      ((∀ message, ¬ Failure setting host invocation message) →
        (setting.Overflows host invocation → (setting.performOn host invocation).exitCode = 101) ∧
          (¬ setting.Overflows host invocation → ¬ setting.Rejects host invocation →
            setting.Takes host invocation → (setting.performOn host invocation).exitCode = 0)) := by
  refine ⟨fun _ failure => failure.ends, ?_, ?_, rejects_of_output,
    fun sound => ⟨exitCode_of_overflow sound, exitCode_of_sound sound⟩⟩
  · intro reading error reads failed
    rw [performOn_text reads failed, fail]
  · intro directory colour runs
    refine ⟨sentenceFilesOn_error_iff directory, ?_, ?_⟩
    · intro message failed
      rw [performOn_directory runs failed, fail]
    · intro listed
      simp only [performOn, runs, runOn, listed, succeed]

-- A folder without files next to a table without a column for words.
def wordless : Setting :=
  { disk :=
      { files := [⟨["x.csv".toList], Utf8.encode "pos\n".toList⟩]
        folders := [["d".toList]]
        current := [] }
    input := []
    onTerminal := false }

def tagMissing : Invocation :=
  ⟨.tag ⟨none, some "x.txt".toList, true, .always⟩, some "x.csv".toList, 0⟩

def runEmpty : Invocation := ⟨.run "d".toList .never, some "x.csv".toList, 0⟩

def exportOver : Invocation := ⟨.lexicon (some "x.csv".toList), some "x.csv".toList, 0⟩

theorem wordless_left_alone :
    (wordless.performOn .sound tagMissing).errors =
        ["failed to read 'x.txt': No such file or directory (os error 2)".toList] ∧
      (wordless.performOn .sound runEmpty).exitCode = 0 ∧
        ∃ message, wordless.performOn .sound exportOver = ⟨1, [], [message], wordless.disk⟩ := by
  have unread : wordless.loadTextOn .sound none (some "x.txt".toList) =
      .error (.file "x.txt".toList DiskError.notFound.message) := rfl
  have unloaded : wordless.loadLexiconOn .sound (some "x.csv".toList) =
      .error (.missingColumn Lexicon.wordColumn) := by rfl
  have listed : wordless.disk.sentenceFiles "d".toList = .ok [] :=
    congrArg Except.ok (@List.mergeSort_nil _ _)
  have folder : wordless.disk.isFolder "d".toList = true := rfl
  have empty : wordless.sentenceFilesOn .sound "d".toList = .ok [] := by
    rw [sentenceFilesOn, folder, listed]
    rfl
  refine ⟨?_, ?_, ?_⟩
  · exact (failures_leave_no_trace wordless .sound tagMissing).2.1 _ _ rfl unread
  · obtain ⟨_, _, notice⟩ := (failures_leave_no_trace wordless .sound runEmpty).2.2.1 _ _ rfl
    rw [notice empty]
  · obtain ⟨first, _, ends⟩ := (failures_leave_no_trace wordless .sound exportOver).1 _
      (.lexicon trivial unloaded)
    exact ⟨first, ends⟩

/-- A table of a word, asked for by readers and without a lexicon of its own. -/
def tagWord (word : Text) : Invocation := ⟨.tag ⟨some word, none, false, .never⟩, none, 0⟩

/-- Nothing fails, is rejected or stays unwritten, and yet the command does not end well. -/
theorem longWord_breaks_off :
    (∀ message, ¬ Failure wordless .sound (tagWord Report.longWord) message) ∧
      ¬ wordless.Rejects .sound (tagWord Report.longWord) ∧
      wordless.Takes .sound (tagWord Report.longWord) ∧
      (wordless.performOn .sound (tagWord Report.longWord)).exitCode = 101 := by
  have read : wordless.loadTextOn .sound (some Report.longWord) none = .ok Report.longWord := rfl
  have loaded : wordless.loadLexiconOn .sound none = .ok Lexicon.starter := rfl
  refine ⟨?_, ?_, ?_, ?_⟩
  · rintro message (⟨reads, failed⟩ | ⟨runs, _⟩ | ⟨_, failed⟩ | ⟨exports, _⟩)
    · cases reads
      cases read.symm.trans failed
    · cases runs
    · cases loaded.symm.trans failed
    · cases exports
  · rintro ⟨reading, text, lexicon, error, parses, _⟩
    cases parses
  · intro output lexicon exports
    cases exports
  · exact (exitCode_tag read loaded).trans (if_pos ⟨rfl, Report.not_narrow_longWord⟩)

end Setting

end SimpleSentence
