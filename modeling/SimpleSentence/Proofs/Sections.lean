import SimpleSentence.Proofs.Report.Limit
import SimpleSentence.Session
import SimpleSentence.Text.Utf8.Lemmas

/-!
How far a run over files gets. A file has a section unless it is read as a text that
is not narrow. The first file without a section ends the run, and what the files in
front of it have added stays; a run over files that all have one takes every file.
-/

namespace SimpleSentence

open Disk (SentenceFile)

/-- The text of the file, if it is one, has no word that is too long for a report. -/
def Disk.SentenceFile.Narrow (file : SentenceFile) : Prop :=
  ∀ text, Utf8.encode text = file.content → text.Narrow

theorem Disk.SentenceFile.narrow_iff {file : SentenceFile} {text : Text}
    (encoded : Utf8.encode text = file.content) : file.Narrow ↔ text.Narrow := by
  constructor
  · exact fun narrow => narrow text encoded
  · intro narrow other same
    rwa [Utf8.encode_injective (same.trans encoded.symm)]

theorem Disk.SentenceFile.narrow_iff_decoded (file : SentenceFile) :
    (∀ text ∈ (Utf8.decode file.content).toOption, text.Narrow) ↔ file.Narrow := by
  cases read : Utf8.decode file.content with
  | ok text =>
      rw [narrow_iff (Utf8.encode_of_decode read)]
      simp [Except.toOption]
  | error valid =>
      have invalid := Utf8.not_valid_of_error read
      have narrow : file.Narrow := fun text encoded => absurd ⟨text, encoded⟩ invalid
      simpa [Except.toOption] using narrow

instance (file : SentenceFile) : Decidable file.Narrow :=
  decidable_of_iff _ file.narrow_iff_decoded

namespace Setting

variable {lexicon : Lexicon} {palette : Palette}

/-! ### One file -/

theorem sectionOf?_of_text {file : SentenceFile} {text : Text}
    (encoded : Utf8.encode text = file.content) :
    sectionOf? lexicon palette file =
      (Report.ofFile? palette lexicon file.name text).map fun report => ⟨report, []⟩ := by
  rw [sectionOf?, Disk.textOf, ← encoded, Utf8.decode_encode]

theorem sectionOf?_of_invalid {file : SentenceFile} (invalid : ¬ Utf8.Valid file.content) :
    sectionOf? lexicon palette file = some (.unread file.path Disk.notText) := by
  cases read : Utf8.decode file.content with
  | ok text => exact absurd ⟨text, Utf8.encode_of_decode read⟩ invalid
  | error valid => rw [sectionOf?, Disk.textOf, read]

theorem sectionOf?_eq_none_iff (file : SentenceFile) :
    sectionOf? lexicon palette file = none ↔ ¬ file.Narrow := by
  by_cases valid : Utf8.Valid file.content
  · obtain ⟨text, encoded⟩ := valid
    rw [sectionOf?_of_text encoded, Option.map_eq_none_iff, Report.ofFile?_eq_none_iff,
      SentenceFile.narrow_iff encoded]
  · rw [sectionOf?_of_invalid valid]
    refine iff_of_false (Option.some_ne_none _) (not_not.mpr fun text encoded => ?_)
    exact absurd ⟨text, encoded⟩ valid

theorem sectionOn?_eq_none_iff (host : Host) (file : SentenceFile) :
    sectionOn? host lexicon palette file = none ↔
      host.reading file.path = none ∧ ¬ file.Narrow := by
  rw [sectionOn?]
  cases host.reading file.path with
  | some cause => simp
  | none => simpa using sectionOf?_eq_none_iff file

/-! ### All files -/

section Run

variable {host : Host} {front : List SentenceFile}

theorem sectionsOn_cons {file : SentenceFile} {own : Section}
    (made : sectionOn? host lexicon palette file = some own) (rest : List SentenceFile) :
    sectionsOn host lexicon palette (file :: rest) =
      { sectionsOn host lexicon palette rest with
        done := own :: (sectionsOn host lexicon palette rest).done } := by
  rw [sectionsOn, made]

theorem sectionsOn_stopped {file : SentenceFile}
    (missing : sectionOn? host lexicon palette file = none) (rest : List SentenceFile) :
    sectionsOn host lexicon palette (file :: rest) = ⟨[], false⟩ := by
  rw [sectionsOn, missing]

/-- Files that all have sections are taken one after the other, and then the files behind them. -/
theorem sectionsOn_append {sections : List Section}
    (made : List.Forall₂ (fun file own => sectionOn? host lexicon palette file = some own) front
      sections) (back : List SentenceFile) :
    sectionsOn host lexicon palette (front ++ back) =
      { sectionsOn host lexicon palette back with
        done := sections ++ (sectionsOn host lexicon palette back).done } := by
  induction made with
  | nil => rfl
  | cons first rest ih => rw [List.cons_append, sectionsOn_cons first, ih, List.cons_append]

/-- A run takes every file exactly if every file has a section. -/
theorem complete_iff (files : List SentenceFile) :
    (sectionsOn host lexicon palette files).complete = true ↔
      ∀ file ∈ files, host.reading file.path = none → file.Narrow := by
  induction files with
  | nil => simp [sectionsOn]
  | cons file rest ih =>
      have own := @sectionOn?_eq_none_iff lexicon palette host file
      rw [List.forall_mem_cons, ← ih]
      cases made : sectionOn? host lexicon palette file with
      | none =>
          rw [sectionsOn_stopped made]
          obtain ⟨read, wide⟩ := own.mp made
          simp [read, wide]
      | some found =>
          rw [sectionsOn_cons made]
          have narrow : host.reading file.path = none → file.Narrow := by
            intro read
            by_contra wide
            rw [own.mpr ⟨read, wide⟩] at made
            cases made
          exact (and_iff_right narrow).symm

end Run

end Setting

end SimpleSentence
