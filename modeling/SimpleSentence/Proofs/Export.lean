import SimpleSentence.Proofs.Lexicon.RoundTrip
import SimpleSentence.Proofs.Writing
import SimpleSentence.Session

/-!
An exported lexicon stands in for its source. Whatever the target held before, it
holds the written table afterwards and is loaded as the lexicon that was exported;
so is the source, also where it is the target itself. A command sees of a lexicon
path no more than the lexicon that is loaded from it, so it cannot tell the two
paths apart, and what it exports is the same table again.
-/

namespace SimpleSentence

namespace Setting

/-! ### What a command sees of a lexicon path -/

theorem performOn_congr {setting : Setting} {host : Host} {first second : Option Text}
    (same : setting.loadLexiconOn host first = setting.loadLexiconOn host second) (task : Task)
    (verbosity : Nat) :
    setting.performOn host ⟨task, first, verbosity⟩ =
      setting.performOn host ⟨task, second, verbosity⟩ := by
  cases task with
  | tag reading => simp only [performOn, tag, withSentence, same]
  | parse reading => simp only [performOn, parse, withSentence, same]
  | run directory colour => simp only [performOn, runOn, same]
  | lexicon output => simp only [performOn, lexicon, same]

theorem load_folder (cause : Text) :
    Lexicon.load ⟨[], some cause⟩ = .error (.malformed (.failed cause)) := rfl

/-- Only a file that may be read is loaded. -/
theorem loadLexiconOn_ok {setting : Setting} {host : Host} {path : Text} {lexicon : Lexicon}
    (loaded : setting.loadLexiconOn host (some path) = .ok lexicon) :
    host.reading path = none ∧ ∃ file, setting.disk.resolve path = .ok (.file file) ∧
      Lexicon.load ⟨file.content, none⟩ = .ok lexicon := by
  rw [loadLexiconOn] at loaded
  cases allowed : host.reading path with
  | some cause =>
      rw [allowed] at loaded
      cases loaded
  | none =>
      rw [allowed, Disk.openTable] at loaded
      cases found : setting.disk.resolve path with
      | error error =>
          rw [found] at loaded
          cases loaded
      | ok node =>
          rw [found] at loaded
          cases node with
          | folder place => cases (load_folder _).symm.trans loaded
          | file file => exact ⟨rfl, file, rfl, loaded⟩

theorem built_of_loadLexiconOn {setting : Setting} {host : Host} {path : Option Text}
    {lexicon : Lexicon} (loaded : setting.loadLexiconOn host path = .ok lexicon) :
    lexicon.Built := by
  cases path with
  | none =>
      have same : Lexicon.starter = lexicon := Except.ok.inj loaded
      rw [← same]
      exact .starter
  | some path =>
      obtain ⟨_, file, _, read⟩ := loadLexiconOn_ok loaded
      exact .loaded _ read

/-! ### An export -/

/-- The source is loaded, and the target can be created and takes what is written. -/
structure Exports (setting : Setting) (host : Host) (source : Option Text) (target : Text)
    (lexicon : Lexicon) (place : Place) : Prop where
  loaded : setting.loadLexiconOn host source = .ok lexicon
  created : setting.createOn host target = .ok place
  taken : (lexicon.writeTo host.receiver).verdict = .ok ()

/-- The notice that an export ends with. -/
def exportNotice (lexicon : Lexicon) (target : Text) : Text :=
  "wrote ".toList ++ Text.numeral lexicon.size ++ " entries to ".toList ++ target ++ ['\n']

/-- The path may be read and opens as it did on the disk. -/
structure Finds (later : Setting) (host : Host) (disk : Disk) (path : Text) : Prop where
  allowed : host.reading path = none
  opened : later.disk.openTable path = disk.openTable path

theorem createOn_ok {setting : Setting} {host : Host} {path : Text} {place : Place}
    (created : setting.createOn host path = .ok place) :
    setting.disk.createPlace path = .ok place := by
  unfold createOn at created
  simp only at created
  split at created
  · cases created
  · cases created
  · next found =>
      cases created
      exact found

theorem Finds.loadLexiconOn_eq {later : Setting} {host : Host} {disk : Disk} {path : Text}
    (finds : later.Finds host disk path) {file : File}
    (found : disk.resolve path = .ok (.file file)) :
    later.loadLexiconOn host (some path) = Lexicon.load ⟨file.content, none⟩ := by
  have opened : later.disk.openTable path = .ok ⟨file.content, none⟩ := by
    rw [finds.opened, Disk.openTable, found]
  rw [loadLexiconOn, finds.allowed, opened]

section Export

variable {setting : Setting} {host : Host} {source : Option Text} {target : Text}
  {lexicon : Lexicon} {place : Place}

theorem performOn_export_ok (exports : setting.Exports host source target lexicon place)
    (verbosity : Nat) :
    setting.performOn host ⟨.lexicon (some target), source, verbosity⟩ =
      ⟨0, exportNotice lexicon target, [], setting.disk.write place lexicon.written⟩ := by
  simp only [performOn, Setting.lexicon, exports.loaded, exports.created, exports.taken,
    Lexicon.handed_of_ok exports.taken]
  rfl

/-- Once the source is loaded and the target created, only writing can still fail. -/
theorem exitCode_export_iff (loaded : setting.loadLexiconOn host source = .ok lexicon)
    (created : setting.createOn host target = .ok place) (verbosity : Nat) :
    (setting.performOn host ⟨.lexicon (some target), source, verbosity⟩).exitCode = 0 ↔
      (lexicon.writeTo host.receiver).verdict = .ok () := by
  cases taken : (lexicon.writeTo host.receiver).verdict with
  | ok _ => simp only [performOn_export_ok ⟨loaded, created, taken⟩]
  | error error => simp [performOn, Setting.lexicon, loaded, created, taken, fail]

variable (exports : setting.Exports host source target lexicon place)
include exports

theorem Exports.load_written : Lexicon.load ⟨lexicon.written, none⟩ = .ok lexicon :=
  Lexicon.load_written (built_of_loadLexiconOn exports.loaded).sound

theorem Exports.resolve_target :
    (setting.disk.write place lexicon.written).resolve target =
      .ok (.file ⟨place, lexicon.written⟩) :=
  Disk.resolve_written (createOn_ok exports.created) lexicon.written

theorem Exports.open_target :
    (setting.disk.write place lexicon.written).openTable target = .ok ⟨lexicon.written, none⟩ := by
  rw [Disk.openTable, exports.resolve_target]

theorem Exports.load_target {later : Setting} {laterHost : Host}
    (finds : later.Finds laterHost (setting.disk.write place lexicon.written) target) :
    later.loadLexiconOn laterHost (some target) = .ok lexicon :=
  (finds.loadLexiconOn_eq exports.resolve_target).trans exports.load_written

/-- The source is loaded as before, be it the target or not. -/
theorem Exports.load_source {later : Setting} {laterHost : Host}
    (finds : ∀ path ∈ source,
      later.Finds laterHost (setting.disk.write place lexicon.written) path) :
    later.loadLexiconOn laterHost source = .ok lexicon := by
  cases source with
  | none => exact exports.loaded
  | some path =>
      obtain ⟨_, file, found, loaded⟩ := loadLexiconOn_ok exports.loaded
      have creatable := Disk.creatable_of_createPlace (createOn_ok exports.created)
      have kept := creatable.resolve_write lexicon.written found
      rw [Disk.overwritten] at kept
      rw [(finds path rfl).loadLexiconOn_eq kept]
      split
      · exact exports.load_written
      · exact loaded

/-- What the target exports is the same table again, wherever it goes. -/
theorem Exports.again {later : Setting} {laterHost : Host}
    (finds : later.Finds laterHost (setting.disk.write place lexicon.written) target)
    {third : Text} {other : Place} (created : later.createOn laterHost third = .ok other)
    (taken : (lexicon.writeTo laterHost.receiver).verdict = .ok ()) :
    later.Exports laterHost (some target) third lexicon other :=
  ⟨exports.load_target finds, created, taken⟩

end Export

/-- Whatever the target held, an export that ends well leaves in it the bytes that were handed over,
which are those of the written table, and changes no other file. From then on, source and target
are loaded as the lexicon that was exported, every command does the same with either, and exporting
the target gives the same table again. -/
theorem export_replaces_source {setting : Setting} {host : Host} {source : Option Text}
    {target : Text} {lexicon : Lexicon} {place : Place} {verbosity : Nat} {outcome : Outcome}
    (loaded : setting.loadLexiconOn host source = .ok lexicon)
    (created : setting.createOn host target = .ok place)
    (performed : setting.performOn host ⟨.lexicon (some target), source, verbosity⟩ = outcome) :
    (outcome.exitCode = 0 ↔ (lexicon.writeTo host.receiver).verdict = .ok ()) ∧
      (outcome.exitCode = 0 →
        outcome.output = exportNotice lexicon target ∧ outcome.errors = [] ∧
          outcome.disk.resolve target =
            .ok (.file ⟨place, (lexicon.writeTo host.receiver).handed⟩) ∧
          (lexicon.writeTo host.receiver).handed = Utf8.encode (Csv.writeRows lexicon.table) ∧
          (∀ other, other ≠ place → outcome.disk.file? other = setting.disk.file? other) ∧
          ∀ (later : Setting) (laterHost : Host), later.Finds laterHost outcome.disk target →
            (∀ path ∈ source, later.Finds laterHost outcome.disk path) →
              later.loadLexiconOn laterHost source = .ok lexicon ∧
                (∀ (task : Task) (volume : Nat),
                  later.performOn laterHost ⟨task, some target, volume⟩ =
                    later.performOn laterHost ⟨task, source, volume⟩) ∧
                ∀ (third : Text) (other : Place) (volume : Nat),
                  later.createOn laterHost third = .ok other →
                    (lexicon.writeTo laterHost.receiver).verdict = .ok () →
                      ∃ last, later.performOn laterHost
                          ⟨.lexicon (some third), some target, volume⟩ =
                            ⟨0, exportNotice lexicon third, [], last⟩ ∧
                        last.resolve third =
                            .ok (.file ⟨other, Utf8.encode (Csv.writeRows lexicon.table)⟩) ∧
                          last.openTable third = last.openTable target) := by
  subst outcome
  refine ⟨exitCode_export_iff loaded created verbosity, ?_⟩
  intro ended
  have exports : setting.Exports host source target lexicon place :=
    ⟨loaded, created, (exitCode_export_iff loaded created verbosity).mp ended⟩
  have handed := Lexicon.handed_of_ok exports.taken
  rw [performOn_export_ok exports, handed]
  refine ⟨rfl, rfl, exports.resolve_target, lexicon.written_eq_encode, ?_, ?_⟩
  · intro other different
    rw [Disk.file?_write, if_neg different]
  · intro later laterHost findsTarget findsSource
    have source := exports.load_source findsSource
    refine ⟨source, ?_, ?_⟩
    · intro task volume
      exact performOn_congr ((exports.load_target findsTarget).trans source.symm) task volume
    · intro third other volume created taken
      have again := exports.again findsTarget created taken
      rw [← lexicon.written_eq_encode]
      refine ⟨_, performOn_export_ok again volume, again.resolve_target, ?_⟩
      have creatable := Disk.creatable_of_createPlace (createOn_ok created)
      have opened := findsTarget.opened.trans exports.open_target
      rw [again.open_target, creatable.openTable_write _ opened]

-- A table with other columns, a word again and a hyphenated word, and a longer file to be written
-- over in a folder of its own.
def tables : Setting :=
  { disk :=
      { files :=
          [⟨["a.csv".toList], Utf8.encode "Word,Count,POS\r\nAte,1,v.\nate,2,n.\no-o,,a.\n".toList⟩,
            ⟨["d".toList, "b.csv".toList], Utf8.encode (List.replicate 60 '"')⟩]
        folders := []
        current := [] }
    input := []
    onTerminal := false }

def tablesLexicon : Lexicon :=
  ⟨[⟨"ate".toList, "v.".toList, .verb⟩, ⟨"o-o".toList, "a.".toList, .adjective⟩]⟩

def tablesExported : Text := "word,raw_pos,coarse_pos\nate,v.,V\no-o,a.,ADJ\n".toList

theorem tables_exported :
    ∃ outcome : Outcome,
      tables.performOn .sound ⟨.lexicon (some "d/b.csv".toList), some "a.csv".toList, 0⟩ =
          outcome ∧
        outcome.output = exportNotice tablesLexicon "d/b.csv".toList ∧
          outcome.disk.resolve "d/b.csv".toList =
              .ok (.file ⟨["d".toList, "b.csv".toList], Utf8.encode tablesExported⟩) ∧
            ∀ (input : Bytes) (task : Task),
              Setting.performOn ⟨outcome.disk, input, true⟩ .sound
                  ⟨task, some "d/b.csv".toList, 0⟩ =
                Setting.performOn ⟨outcome.disk, input, true⟩ .sound
                  ⟨task, some "a.csv".toList, 0⟩ := by
  have loaded : tables.loadLexiconOn .sound (some "a.csv".toList) = .ok tablesLexicon := by
    decide +kernel
  have created : tables.createOn .sound "d/b.csv".toList = .ok ["d".toList, "b.csv".toList] := by
    decide +kernel
  have taken : (tablesLexicon.writeTo Host.sound.receiver).verdict = .ok () :=
    congrArg Lexicon.Writing.verdict tablesLexicon.writeTo_willing
  have written : Csv.writeRows tablesLexicon.table = tablesExported := by decide +kernel
  obtain ⟨outcome, performed⟩ : ∃ outcome, tables.performOn .sound
      ⟨.lexicon (some "d/b.csv".toList), some "a.csv".toList, 0⟩ = outcome := ⟨_, rfl⟩
  obtain ⟨ends, after⟩ := export_replaces_source loaded created performed
  obtain ⟨output, _, resolved, handed, _, alike⟩ := after (ends.mpr taken)
  rw [handed, written] at resolved
  refine ⟨outcome, performed, output, resolved, ?_⟩
  intro input task
  have finds (path : Text) :
      Setting.Finds ⟨outcome.disk, input, true⟩ .sound outcome.disk path := ⟨rfl, rfl⟩
  exact (alike _ _ (finds _) fun path _ => finds path).2.1 task 0

end Setting

end SimpleSentence
