import SimpleSentence.Proofs.Directory
import SimpleSentence.Proofs.Sections

/-!
A run over a directory takes every file on its own. The files are taken in the
order of their names, and each adds a section that no other file has a part in:
the report on its text, or one error message if its bytes are no text. So where
one file of a directory is changed, added or removed, the sections in front of it
and behind it are the ones from before. All this holds as long as the texts are
narrow; at the first one that is not, the run breaks off.
-/

namespace SimpleSentence.Setting

open Disk (SentenceFile)

/-- What a file adds: the report on the text that its bytes encode, or one message if they
encode none. -/
inductive Adds (lexicon : Lexicon) (palette : Palette) (file : SentenceFile) : Section → Prop where
  | report {text report : Text} (encoded : Utf8.encode text = file.content)
      (made : Report.ofFile? palette lexicon file.name text = some report) :
      Adds lexicon palette file ⟨report, []⟩
  | unreadable (invalid : ¬ Utf8.Valid file.content) :
      Adds lexicon palette file
        ⟨[], ["failed to read '".toList ++ file.path ++ "': ".toList ++ Disk.notText]⟩

/-- The command ended with this code and wrote these sections one behind the other. -/
structure Wrote (outcome : Outcome) (exitCode : Nat) (sections : List Section) : Prop where
  exitCode : outcome.exitCode = exitCode
  output : outcome.output = sections.flatMap Section.output
  errors : outcome.errors = sections.flatMap Section.errors

section Added

variable {lexicon : Lexicon} {palette : Palette}

theorem adds_iff (file : SentenceFile) (own : Section) :
    Adds lexicon palette file own ↔ sectionOf? lexicon palette file = some own := by
  constructor
  · rintro (⟨encoded, made⟩ | invalid)
    · rw [sectionOf?_of_text encoded, made, Option.map_some]
    · exact sectionOf?_of_invalid invalid
  · intro made
    by_cases valid : Utf8.Valid file.content
    · obtain ⟨text, encoded⟩ := valid
      rw [sectionOf?_of_text encoded, Option.map_eq_some_iff] at made
      obtain ⟨report, found, rfl⟩ := made
      exact .report encoded found
    · rw [sectionOf?_of_invalid valid, Option.some.injEq] at made
      subst made
      exact .unreadable valid

theorem Adds.unique {file : SentenceFile} {own other : Section}
    (adds : Adds lexicon palette file own) (addsOther : Adds lexicon palette file other) :
    own = other :=
  Option.some.inj (((adds_iff file own).mp adds).symm.trans ((adds_iff file other).mp addsOther))

theorem exists_adds_iff (file : SentenceFile) :
    (∃ own, Adds lexicon palette file own) ↔ file.Narrow := by
  have missing := @sectionOf?_eq_none_iff lexicon palette file
  rw [← not_iff_not, ← missing, Option.eq_none_iff_forall_ne_some, not_exists]
  exact forall_congr' fun own => not_congr (adds_iff file own)

theorem exists_sections {files : List SentenceFile} (narrow : ∀ file ∈ files, file.Narrow) :
    ∃ sections, List.Forall₂ (Adds lexicon palette) files sections := by
  induction files with
  | nil => exact ⟨[], .nil⟩
  | cons file rest ih =>
      obtain ⟨here, later⟩ := List.forall_mem_cons.mp narrow
      obtain ⟨own, adds⟩ := (exists_adds_iff file).mpr here
      obtain ⟨sections, all⟩ := ih later
      exact ⟨own :: sections, .cons adds all⟩

/-- A run goes past files that add their sections. -/
theorem sectionsOn_added {front : List SentenceFile} {sections : List Section}
    (added : List.Forall₂ (Adds lexicon palette) front sections) (back : List SentenceFile) :
    sectionsOn .sound lexicon palette (front ++ back) =
      { sectionsOn .sound lexicon palette back with
        done := sections ++ (sectionsOn .sound lexicon palette back).done } :=
  @sectionsOn_append lexicon palette .sound front sections
    (added.imp fun file own => (adds_iff file own).mp) back

theorem sectionsOn_all {files : List SentenceFile} {sections : List Section}
    (added : List.Forall₂ (Adds lexicon palette) files sections) :
    sectionsOn .sound lexicon palette files = ⟨sections, true⟩ := by
  have taken := sectionsOn_added added []
  rw [List.append_nil] at taken
  rw [taken, sectionsOn, List.append_nil]

end Added

section Run

variable {directory : Text} {path : Option Text} {lexicon : Lexicon}

theorem run_wrote {setting : Setting} {files : List SentenceFile}
    (listed : setting.disk.sentenceFiles directory = .ok files) (some : files ≠ [])
    (loaded : setting.loadLexicon path = .ok lexicon) {colour : ColourChoice}
    {sections : Sections}
    (taken : sectionsOn .sound lexicon (setting.palette colour) files = sections) :
    Wrote (setting.run directory colour path) (if sections.complete then 0 else 101)
      sections.done := by
  have folder := (Disk.sentenceFiles_eq listed).1
  have found : setting.sentenceFilesOn .sound directory = .ok files := by
    rw [sentenceFilesOn, folder, listed]
    rfl
  cases files with
  | nil => exact absurd rfl some
  | cons first rest =>
      unfold loadLexicon at loaded
      simp only [run, runOn, found, loaded, taken, writeSections]
      refine ⟨?_, rfl, rfl⟩
      cases sections.complete <;> rfl

/-- Disks that differ at one place run with the same sections but for what the file at this place
adds. -/
theorem run_wrote_but {first second : Setting} {place : Place}
    (agree : first.disk.AgreeBut place second.disk)
    (terminal : first.onTerminal = second.onTerminal) {files others : List SentenceFile}
    (listed : first.disk.sentenceFiles directory = .ok files) (some : files ≠ [])
    (otherListed : second.disk.sentenceFiles directory = .ok others) (otherSome : others ≠ [])
    (loaded : first.loadLexicon path = .ok lexicon)
    (otherLoaded : second.loadLexicon path = .ok lexicon) (colour : ColourChoice)
    (narrow : ∀ file ∈ files ++ others, file.Narrow) :
    ∃ front own other back : List Section,
      List.Forall₂ (Adds lexicon (first.palette colour))
          (first.disk.sentenceFileAt? directory place).toList own ∧
        List.Forall₂ (Adds lexicon (first.palette colour))
          (second.disk.sentenceFileAt? directory place).toList other ∧
        Wrote (first.run directory colour path) 0 (front ++ own ++ back) ∧
        Wrote (second.run directory colour path) 0 (front ++ other ++ back) := by
  have palette : second.palette colour = first.palette colour := by
    rw [Setting.palette, Setting.palette, terminal]
  obtain ⟨front, back, rfl, rfl⟩ := agree.sentenceFiles_split listed otherListed
  simp only [List.forall_mem_append] at narrow
  obtain ⟨⟨⟨frontNarrow, ownNarrow⟩, backNarrow⟩, ⟨_, otherNarrow⟩, _⟩ := narrow
  obtain ⟨frontSections, inFront⟩ :=
    @exists_sections lexicon (first.palette colour) front frontNarrow
  obtain ⟨backSections, behind⟩ :=
    @exists_sections lexicon (first.palette colour) back backNarrow
  obtain ⟨own, adds⟩ := @exists_sections lexicon (first.palette colour) _ ownNarrow
  obtain ⟨other, otherAdds⟩ := @exists_sections lexicon (first.palette colour) _ otherNarrow
  refine ⟨frontSections, own, other, backSections, adds, otherAdds, ?_, ?_⟩
  · exact run_wrote listed some loaded
      (sectionsOn_all (List.rel_append (List.rel_append inFront adds) behind))
  · rw [← palette] at inFront otherAdds behind
    exact run_wrote otherListed otherSome otherLoaded
      (sectionsOn_all (List.rel_append (List.rel_append inFront otherAdds) behind))

end Run

/-- A file adds its report, or one message if it is no text, as long as its text is narrow. Where
all texts are, a run writes what the files add in the order of their names and ends well, and disks
that differ at one place run alike but for what the file at this place adds. The first text that is
not narrow breaks the run off behind the sections of the files in front of it. -/
theorem run_takes_each_file_alone (directory : Text) (path : Option Text) (lexicon : Lexicon)
    (colour : ColourChoice) :
    (∀ (palette : Palette) (file : SentenceFile),
      ((∃ own, Adds lexicon palette file own) ↔ file.Narrow) ∧
        ∀ own other, Adds lexicon palette file own → Adds lexicon palette file other →
          own = other) ∧
      (∀ (setting : Setting) (files : List SentenceFile),
        setting.disk.sentenceFiles directory = .ok files → files ≠ [] →
          setting.loadLexicon path = .ok lexicon →
            files.Pairwise SentenceFile.Before ∧
              ((∀ file ∈ files, file.Narrow) → ∃ sections,
                List.Forall₂ (Adds lexicon (setting.palette colour)) files sections ∧
                  Wrote (setting.run directory colour path) 0 sections) ∧
              ∀ (front : List SentenceFile) (file : SentenceFile) (back : List SentenceFile),
                files = front ++ file :: back → (∀ other ∈ front, other.Narrow) →
                  ¬ file.Narrow → ∃ sections,
                    List.Forall₂ (Adds lexicon (setting.palette colour)) front sections ∧
                      Wrote (setting.run directory colour path) 101 sections) ∧
      ∀ (first second : Setting) (place : Place) (files others : List SentenceFile),
        first.disk.AgreeBut place second.disk → first.onTerminal = second.onTerminal →
          first.disk.sentenceFiles directory = .ok files → files ≠ [] →
            second.disk.sentenceFiles directory = .ok others → others ≠ [] →
              first.loadLexicon path = .ok lexicon → second.loadLexicon path = .ok lexicon →
                (∀ file ∈ files ++ others, file.Narrow) →
                  ∃ front own other back : List Section,
                    List.Forall₂ (Adds lexicon (first.palette colour))
                        (first.disk.sentenceFileAt? directory place).toList own ∧
                      List.Forall₂ (Adds lexicon (first.palette colour))
                        (second.disk.sentenceFileAt? directory place).toList other ∧
                      Wrote (first.run directory colour path) 0 (front ++ own ++ back) ∧
                      Wrote (second.run directory colour path) 0 (front ++ other ++ back) := by
  constructor
  · exact fun palette file => ⟨exists_adds_iff file, fun _ _ => Adds.unique⟩
  constructor
  · intro setting files listed some loaded
    constructor
    · rw [(Disk.sentenceFiles_eq listed).2]
      exact Disk.sorted_pairwise _
    constructor
    · intro narrow
      obtain ⟨sections, added⟩ :=
        @exists_sections lexicon (setting.palette colour) files narrow
      exact ⟨sections, added, run_wrote listed some loaded (sectionsOn_all added)⟩
    · rintro front file back rfl narrow wide
      obtain ⟨sections, added⟩ :=
        @exists_sections lexicon (setting.palette colour) front narrow
      have without : sectionOn? .sound lexicon (setting.palette colour) file = none :=
        (sectionOn?_eq_none_iff .sound file).mpr ⟨rfl, wide⟩
      have missing := sectionsOn_stopped without back
      have taken := sectionsOn_added added (file :: back)
      rw [missing, List.append_nil] at taken
      exact ⟨sections, added, run_wrote listed some loaded taken⟩
  · intro first second place files others agree terminal listed some otherListed otherSome
      loaded otherLoaded
    exact run_wrote_but agree terminal listed some otherListed otherSome loaded otherLoaded colour

-- A file that is no text, one with a word and one with a blank; then the disk without the second,
-- listed the other way round.
def threeFiles : Setting :=
  { disk :=
      { files :=
          [⟨["d".toList, "b.txt".toList], [0x68, 0x69]⟩, ⟨["d".toList, "a.txt".toList], [0xFF]⟩,
            ⟨["d".toList, "c.txt".toList], [0x20]⟩]
        folders := []
        current := [] }
    input := []
    onTerminal := true }

def twoFiles : Setting :=
  { threeFiles with
    disk :=
      { files :=
          [⟨["d".toList, "c.txt".toList], [0x20]⟩, ⟨["d".toList, "a.txt".toList], [0xFF]⟩]
        folders := []
        current := [] } }

def fileNamed (name : Text) (content : Bytes) : SentenceFile :=
  ⟨name, "d/".toList ++ name, content⟩

theorem threeFiles_listed : threeFiles.disk.sentenceFiles "d".toList =
    .ok [fileNamed "a.txt".toList [0xFF], fileNamed "b.txt".toList [0x68, 0x69],
      fileNamed "c.txt".toList [0x20]] := by
  apply @Disk.sentenceFiles_of_perm _ _ ["d".toList]
  · decide
  · decide
  · decide +kernel
  · decide +kernel

theorem twoFiles_listed : twoFiles.disk.sentenceFiles "d".toList =
    .ok [fileNamed "a.txt".toList [0xFF], fileNamed "c.txt".toList [0x20]] := by
  apply @Disk.sentenceFiles_of_perm _ _ ["d".toList]
  · decide
  · decide
  · decide +kernel
  · decide +kernel

theorem threeFiles_agreeBut :
    threeFiles.disk.AgreeBut ["d".toList, "b.txt".toList] twoFiles.disk := by
  constructor
  · rfl
  · decide
  · decide
  · intro file other
    constructor
    · intro member
      simp only [threeFiles, List.mem_cons, List.not_mem_nil, or_false] at member
      rcases member with rfl | rfl | rfl
      · exact absurd rfl other
      · decide
      · decide
    · intro member
      simp only [twoFiles, List.mem_cons, List.not_mem_nil, or_false] at member
      rcases member with rfl | rfl <;> decide

theorem threeFiles_taken_alone :
    ∃ word blank : Text,
      Report.ofFile? .colourless Lexicon.starter "b.txt".toList "hi".toList = some word ∧
        Report.ofFile? .colourless Lexicon.starter "c.txt".toList " ".toList = some blank ∧
        Wrote (threeFiles.run "d".toList .never none) 0
          [⟨[], ["failed to read 'd/a.txt': stream did not contain valid UTF-8".toList]⟩,
            ⟨word, []⟩, ⟨blank, []⟩] ∧
        ∃ front back : List Section,
          Wrote (threeFiles.run "d".toList .never none) 0 (front ++ [⟨word, []⟩] ++ back) ∧
            Wrote (twoFiles.run "d".toList .never none) 0 (front ++ [] ++ back) := by
  have some : [fileNamed "a.txt".toList [0xFF], fileNamed "b.txt".toList [0x68, 0x69],
      fileNamed "c.txt".toList [0x20]] ≠ [] := List.cons_ne_nil _ _
  have otherSome : [fileNamed "a.txt".toList [0xFF], fileNamed "c.txt".toList [0x20]] ≠ [] :=
    List.cons_ne_nil _ _
  have narrow : ∀ file ∈ [fileNamed "a.txt".toList [0xFF], fileNamed "b.txt".toList [0x68, 0x69],
      fileNamed "c.txt".toList [0x20]] ++ [fileNamed "a.txt".toList [0xFF],
        fileNamed "c.txt".toList [0x20]], file.Narrow := by decide +kernel
  obtain ⟨adds, whole, frame⟩ :=
    run_takes_each_file_alone "d".toList none Lexicon.starter ColourChoice.never
  obtain ⟨_, wrote, _⟩ := whole threeFiles _ threeFiles_listed some rfl
  obtain ⟨sections, added, wrote⟩ := wrote fun file member =>
    narrow file (List.mem_append_left _ member)
  obtain ⟨front, own, other, back, addsOwn, addsOther, first, second⟩ :=
    frame threeFiles twoFiles _ _ _ threeFiles_agreeBut rfl threeFiles_listed some
      twoFiles_listed otherSome rfl rfl narrow
  obtain ⟨word, wordMade⟩ := Report.exists_ofFile Lexicon.starter .colourless "b.txt".toList
    (by decide : Text.Narrow "hi".toList)
  obtain ⟨blank, blankMade⟩ := Report.exists_ofFile Lexicon.starter .colourless "c.txt".toList
    (by decide : Text.Narrow " ".toList)
  have addsInvalid : Adds Lexicon.starter .colourless (fileNamed "a.txt".toList [0xFF]) _ :=
    .unreadable (@Utf8.not_valid_of_error _ 0 rfl)
  have addsWord : Adds Lexicon.starter .colourless (fileNamed "b.txt".toList [0x68, 0x69])
    ⟨word, []⟩ := .report rfl wordMade
  have addsBlank : Adds Lexicon.starter .colourless (fileNamed "c.txt".toList [0x20])
    ⟨blank, []⟩ := .report rfl blankMade
  have unique : Relator.RightUnique (Adds Lexicon.starter .colourless) := fun _ _ _ => Adds.unique
  have sectionsEq := List.right_unique_forall₂' unique added
    (.cons addsInvalid (.cons addsWord (.cons addsBlank .nil)))
  have ownEq := List.right_unique_forall₂' unique addsOwn (.cons addsWord .nil)
  have otherEq := List.right_unique_forall₂' unique addsOther .nil
  subst sectionsEq ownEq otherEq
  exact ⟨word, blank, wordMade, blankMade, wrote, front, back, first, second⟩

-- Two files, of which the first one is open.
def twoTexts (content : Bytes) : Setting :=
  { disk :=
      { files :=
          [⟨["d".toList, "a.txt".toList], content⟩, ⟨["d".toList, "b.txt".toList], [0x68, 0x69]⟩]
        folders := []
        current := [] }
    input := []
    onTerminal := true }

theorem twoTexts_listed (content : Bytes) : (twoTexts content).disk.sentenceFiles "d".toList =
    .ok [fileNamed "a.txt".toList content, fileNamed "b.txt".toList [0x68, 0x69]] := by
  apply @Disk.sentenceFiles_of_perm _ _ ["d".toList]
  · rfl
  · show [["d".toList, "a.txt".toList], ["d".toList, "b.txt".toList]].Nodup
    decide
  · exact .refl _
  · have before : Utf8.encode "a.txt".toList ≤ Utf8.encode "b.txt".toList := by decide
    exact List.pairwise_pair.mpr before

theorem twoTexts_stopped {content : Bytes}
    (wide : ¬ (fileNamed "a.txt".toList content).Narrow) :
    Wrote ((twoTexts content).run "d".toList .never none) 101 [] := by
  have missing : sectionOn? .sound Lexicon.starter ((twoTexts content).palette .never)
      (fileNamed "a.txt".toList content) = none := (sectionOn?_eq_none_iff _ _).mpr ⟨rfl, wide⟩
  have loaded : (twoTexts content).loadLexicon none = .ok Lexicon.starter := rfl
  have wrote := run_wrote (twoTexts_listed content) (List.cons_ne_nil _ _) loaded
    (sectionsOn_stopped missing [fileNamed "b.txt".toList [0x68, 0x69]])
  exact wrote

/-- A file with a word that is too long stops the run, and the file behind it adds nothing. -/
theorem longWord_stops_run :
    (twoTexts (Utf8.encode Report.longWord)).disk.sentenceFiles "d".toList =
        .ok [fileNamed "a.txt".toList (Utf8.encode Report.longWord),
          fileNamed "b.txt".toList [0x68, 0x69]] ∧
      Wrote ((twoTexts (Utf8.encode Report.longWord)).run "d".toList .never none) 101 [] := by
  refine ⟨twoTexts_listed _, twoTexts_stopped fun narrow => ?_⟩
  exact Report.not_narrow_longWord (narrow Report.longWord rfl)

end SimpleSentence.Setting
