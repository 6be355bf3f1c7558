import Mathlib.Data.List.Nodup
import SimpleSentence.Main
import SimpleSentence.Text.Utf8.Lemmas

/-!
The sentence files of a directory. They are sorted by the bytes of their names,
and no two have one name, so how a disk lists its files does not matter: two
sorted lists of the same files are equal. Two disks that differ at one place have
the same sentence files elsewhere; the file at this place, if it is a sentence
file, stands at the place of its name among them.
-/

namespace SimpleSentence.Disk

/-! ### The order of names -/

theorem bytesBefore_iff (first second : Bytes) :
    bytesBefore first second = true ↔ first ≤ second := by
  induction first generalizing second with
  | nil => simp [bytesBefore]
  | cons byte rest ih =>
      cases second with
      | nil => simp [bytesBefore]
      | cons other others =>
          rw [bytesBefore, List.cons_le_cons_iff]
          split
          · next less => simp [less]
          · next notLess =>
              split
              · next more =>
                  have different : byte ≠ other := (UInt8.ne_of_lt more).symm
                  simp [notLess, different]
              · next notMore =>
                  have same : byte = other :=
                    UInt8.le_antisymm (UInt8.not_lt.mp notMore) (UInt8.not_lt.mp notLess)
                  simp [ih, same]

theorem nameBefore_iff (first second : Text) :
    nameBefore first second = true ↔ Utf8.encode first ≤ Utf8.encode second :=
  bytesBefore_iff _ _

namespace SentenceFile

/-- The order of sentence files by the bytes of their names. -/
def Before (first second : SentenceFile) : Prop :=
  Utf8.encode first.name ≤ Utf8.encode second.name

instance (first second : SentenceFile) : Decidable (first.Before second) :=
  inferInstanceAs (Decidable (_ ≤ _))

theorem Before.name_eq {first second : SentenceFile} (before : first.Before second)
    (behind : second.Before first) : first.name = second.name :=
  Utf8.encode_injective (List.le_antisymm before behind)

end SentenceFile

/-- The files in ascending order of their names. -/
def sorted (files : List SentenceFile) : List SentenceFile :=
  files.mergeSort fun first second => nameBefore first.name second.name

theorem sorted_perm (files : List SentenceFile) : (sorted files).Perm files :=
  List.mergeSort_perm files _

theorem sorted_pairwise (files : List SentenceFile) :
    (sorted files).Pairwise SentenceFile.Before := by
  have ordered := @List.pairwise_mergeSort _
    (fun first second : SentenceFile => nameBefore first.name second.name) ?_ ?_ files
  · exact ordered.imp fun before => (nameBefore_iff _ _).mp before
  · intro first second third before later
    rw [nameBefore_iff] at before later ⊢
    exact List.le_trans before later
  · intro first second
    rw [Bool.or_eq_true, nameBefore_iff, nameBefore_iff]
    exact List.le_total _ _

/-- Sorted lists of the same files, no two of one name, are equal. -/
theorem sorted_unique {files others : List SentenceFile} (distinct : (files.map (·.name)).Nodup)
    (perm : files.Perm others) (ordered : files.Pairwise SentenceFile.Before)
    (otherOrdered : others.Pairwise SentenceFile.Before) : files = others := by
  apply List.Perm.eq_of_pairwise ?_ ordered otherOrdered perm
  intro file other member otherMember before behind
  exact List.inj_on_of_nodup_map distinct member (perm.mem_iff.mpr otherMember)
    (before.name_eq behind)

section Place

variable {files : List SentenceFile} (name : Text)

/-- The files that are sorted in front of a name, and those that are sorted behind it. -/
def upTo (files : List SentenceFile) : List SentenceFile :=
  files.filter fun file => nameBefore file.name name

def beyond (files : List SentenceFile) : List SentenceFile :=
  files.filter fun file => !nameBefore file.name name

theorem le_of_mem_upTo {file : SentenceFile} (member : file ∈ upTo name files) :
    Utf8.encode file.name ≤ Utf8.encode name :=
  (nameBefore_iff _ _).mp (List.mem_filter.mp member).2

theorem le_of_mem_beyond {file : SentenceFile} (member : file ∈ beyond name files) :
    Utf8.encode name ≤ Utf8.encode file.name := by
  have notBefore := (List.mem_filter.mp member).2
  rw [Bool.not_eq_true', Bool.eq_false_iff, Ne, nameBefore_iff] at notBefore
  exact (List.le_total _ _).resolve_right notBefore

/-- A file put at the place of its name keeps sorted files sorted. -/
theorem pairwise_put (ordered : files.Pairwise SentenceFile.Before) {own : Option SentenceFile}
    (named : ∀ file ∈ own, file.name = name) :
    (upTo name files ++ own.toList ++ beyond name files).Pairwise SentenceFile.Before := by
  have alone : own.toList.Pairwise SentenceFile.Before := by
    cases own with
    | none => exact .nil
    | some file => exact List.pairwise_singleton _ _
  have front := ordered.sublist (List.filter_sublist (p := fun file => nameBefore file.name name))
  have back := ordered.sublist (List.filter_sublist (p := fun file => !nameBefore file.name name))
  rw [List.append_assoc, List.pairwise_append, List.pairwise_append]
  refine ⟨front, ⟨alone, back, ?_⟩, ?_⟩
  · intro file member other otherMember
    rw [Option.mem_toList] at member
    rw [SentenceFile.Before, named file member]
    exact le_of_mem_beyond name otherMember
  · intro file member other otherMember
    have first := le_of_mem_upTo name member
    rcases List.mem_append.mp otherMember with inOwn | inBack
    · rw [Option.mem_toList] at inOwn
      rwa [SentenceFile.Before, named other inOwn]
    · exact List.le_trans first (le_of_mem_beyond name inBack)

theorem put_perm (own : Option SentenceFile) :
    (upTo name files ++ own.toList ++ beyond name files).Perm (own.toList ++ files) := by
  have parts : (upTo name files ++ beyond name files).Perm files :=
    List.filter_append_perm _ files
  have swapped := (@List.perm_append_comm _ (upTo name files) own.toList).append_right
    (beyond name files)
  rw [List.append_assoc own.toList] at swapped
  exact swapped.trans (parts.append_left _)

end Place

/-! ### The selected files -/

/-- No two files of the disk are at one place. -/
def Distinct (disk : Disk) : Prop := (disk.files.map File.place).Nodup

instance (disk : Disk) : Decidable disk.Distinct := inferInstanceAs (Decidable (List.Nodup _))

theorem nameIn?_eq_some_iff (folder : Place) (file : File) (name : Text) :
    nameIn? folder file = some name ↔ file.place = folder ++ [name] := by
  unfold nameIn?
  constructor
  · intro found
    split at found
    · next same => rw [← same, List.dropLast_append_getLast? name found]
    · cases found
  · intro own
    rw [own, List.dropLast_concat, if_pos rfl, List.getLast?_concat]

/-- A file directly inside is a sentence file by its name and the length of its path. -/
theorem sentenceFile?_eq_some_iff (folder : Place) (directory : Text) (file : File)
    (selected : SentenceFile) :
    sentenceFile? folder directory file = some selected ↔
      file = ⟨folder ++ [selected.name], selected.content⟩ ∧
        isSentenceName selected.name = true ∧ selected.path = join directory selected.name ∧
          Text.byteLength selected.path ≤ maxPathBytes := by
  unfold sentenceFile?
  constructor
  · intro found
    split at found
    · cases found
    · next name inside =>
        rw [Option.ite_none_right_eq_some, Bool.and_eq_true, decide_eq_true_iff] at found
        obtain ⟨⟨named, fits⟩, same⟩ := found
        cases same
        have place := (nameIn?_eq_some_iff folder file name).mp inside
        exact ⟨by rw [← place], named, rfl, fits⟩
  · rintro ⟨rfl, named, written, fits⟩
    have inside := (nameIn?_eq_some_iff folder ⟨folder ++ [selected.name], selected.content⟩
      selected.name).mpr rfl
    simp only [inside, ← written, named, fits, decide_true, Bool.and_self, ↓reduceIte]

theorem place_of_sentenceFile? {folder : Place} {directory : Text} {file : File}
    {selected : SentenceFile} (found : sentenceFile? folder directory file = some selected) :
    file.place = folder ++ [selected.name] := by
  rw [((sentenceFile?_eq_some_iff folder directory file selected).mp found).1]

/-- The sentence files of a folder, in the order in which the disk lists them. -/
def selected (disk : Disk) (folder : Place) (directory : Text) : List SentenceFile :=
  disk.files.filterMap (sentenceFile? folder directory)

theorem selected_distinct {disk : Disk} (distinct : disk.Distinct) (folder : Place)
    (directory : Text) : ((disk.selected folder directory).map (·.name)).Nodup := by
  unfold Distinct at distinct
  unfold selected
  generalize disk.files = files at distinct
  induction files with
  | nil => exact List.nodup_nil
  | cons first rest ih =>
      rw [List.map_cons, List.nodup_cons] at distinct
      rw [List.filterMap_cons]
      cases found : sentenceFile? folder directory first with
      | none => exact ih distinct.2
      | some file =>
          rw [List.map_cons, List.nodup_cons]
          refine ⟨fun again => distinct.1 ?_, ih distinct.2⟩
          obtain ⟨other, member, same⟩ := List.mem_map.mp again
          obtain ⟨source, inside, otherFound⟩ := List.mem_filterMap.mp member
          refine List.mem_map.mpr ⟨source, inside, ?_⟩
          rw [place_of_sentenceFile? found, place_of_sentenceFile? otherFound, same]

/-- The disks have the same files but for a place, and no two at one place, however listed. -/
structure AgreeBut (place : Place) (first second : Disk) : Prop where
  current : first.current = second.current
  distinct : first.Distinct
  otherDistinct : second.Distinct
  files : ∀ file : File, file.place ≠ place → (file ∈ first.files ↔ file ∈ second.files)

/-- The sentence file that a folder has at a place. -/
def sentenceFileIn? (disk : Disk) (folder : Place) (directory : Text) (place : Place) :
    Option SentenceFile := (disk.file? place).bind (sentenceFile? folder directory)

/-- The files at other places. -/
def elsewhere (disk : Disk) (place : Place) : List File :=
  disk.files.filter fun file => file.place != place

theorem files_perm {disk : Disk} (distinct : disk.Distinct) (place : Place) :
    disk.files.Perm ((disk.file? place).toList ++ disk.elsewhere place) := by
  have here : disk.files.filter (fun file => file.place == place) = (disk.file? place).toList := by
    unfold Distinct at distinct
    unfold file?
    generalize disk.files = files at distinct
    induction files with
    | nil => rfl
    | cons first rest ih =>
        rw [List.map_cons, List.nodup_cons] at distinct
        rw [List.filter_cons, List.find?_cons]
        cases own : first.place == place with
        | false => exact ih distinct.2
        | true =>
            have none : rest.filter (fun file => file.place == place) = [] := by
              rw [List.filter_eq_nil_iff]
              intro file member same
              apply distinct.1
              rw [beq_iff_eq.mp own, ← beq_iff_eq.mp same]
              exact List.mem_map_of_mem member
            simp [none]
  rw [← here]
  exact (List.filter_append_perm _ disk.files).symm

theorem AgreeBut.elsewhere_perm {place : Place} {first second : Disk}
    (agree : first.AgreeBut place second) :
    (first.elsewhere place).Perm (second.elsewhere place) := by
  have nodup {disk : Disk} (distinct : disk.Distinct) : (disk.elsewhere place).Nodup :=
    (List.Nodup.of_map _ distinct).filter _
  rw [List.perm_ext_iff_of_nodup (nodup agree.distinct) (nodup agree.otherDistinct)]
  intro file
  rw [elsewhere, elsewhere, List.mem_filter, List.mem_filter]
  constructor
  · rintro ⟨member, other⟩
    exact ⟨(agree.files file (by simpa using other)).mp member, other⟩
  · rintro ⟨member, other⟩
    exact ⟨(agree.files file (by simpa using other)).mpr member, other⟩

/-- A sorted list of sentence files is the file at a place put among the others. -/
theorem sorted_selected {disk : Disk} (distinct : disk.Distinct) (folder place : Place)
    (directory : Text) {others : List SentenceFile} (ordered : others.Pairwise SentenceFile.Before)
    (perm : others.Perm ((disk.elsewhere place).filterMap (sentenceFile? folder directory))) :
    sorted (disk.selected folder directory) =
      upTo (place.getLast?.getD []) others ++
        (disk.sentenceFileIn? folder directory place).toList ++
          beyond (place.getLast?.getD []) others := by
  have named : ∀ file ∈ disk.sentenceFileIn? folder directory place,
      file.name = place.getLast?.getD [] := by
    intro file member
    obtain ⟨source, found, isSelected⟩ := Option.bind_eq_some_iff.mp member
    have own : source.place = place := by
      have same := List.find?_some (p := fun file : File => file.place == place) found
      exact beq_iff_eq.mp same
    rw [← own, place_of_sentenceFile? isSelected, List.getLast?_concat, Option.getD_some]
  have parts : (disk.selected folder directory).Perm
      ((disk.sentenceFileIn? folder directory place).toList ++ others) := by
    have split := (files_perm distinct place).filterMap (sentenceFile? folder directory)
    rw [List.filterMap_append] at split
    have own : (disk.file? place).toList.filterMap (sentenceFile? folder directory) =
        (disk.sentenceFileIn? folder directory place).toList := by
      unfold sentenceFileIn?
      cases disk.file? place with
      | none => rfl
      | some file =>
          cases found : sentenceFile? folder directory file <;> simp [found]
    rw [own] at split
    exact split.trans (perm.symm.append_left _)
  have sortedPerm := sorted_perm (disk.selected folder directory)
  apply sorted_unique
  · exact (sortedPerm.map _).nodup_iff.mpr (selected_distinct distinct folder directory)
  · exact (sortedPerm.trans parts).trans (put_perm _ _).symm
  · exact sorted_pairwise _
  · exact pairwise_put _ ordered named

/-! ### The files of a directory -/

theorem node?_folder {disk : Disk} {place folder : Place}
    (found : disk.node? place = some (.folder folder)) : folder = place := by
  unfold node? at found
  split at found
  · cases found
  · split at found
    · cases found
      rfl
    · cases found

/-- A way that leads to a folder leads where the written path says, whatever stands elsewhere. -/
theorem follow_folder {disk : Disk} {place folder : Place} {names : List Text}
    (found : disk.follow (.folder place) names = .ok (.folder folder)) :
    folder = Program.descend place names := by
  induction names generalizing place with
  | nil =>
      cases found
      rfl
  | cons name rest ih =>
      rw [follow] at found
      rw [Program.descend]
      split at found
      · next stays => rw [if_pos stays, ih found]
      · next moves =>
          rw [if_neg moves]
          split at found
          · next up => rw [if_pos up, ih found]
          · next down =>
              rw [if_neg down]
              split at found
              · cases found
              · split at found
                · cases found
                · next node there =>
                    cases node with
                    | file file =>
                        cases rest with
                        | nil => cases found
                        | cons next more => cases found
                    | folder below =>
                        rw [node?_folder there] at found
                        exact ih found

theorem head_ne_slash {path : Text} (notTop : ∀ rest, path ≠ '/' :: rest) :
    path.head? ≠ some '/' := by
  intro top
  obtain ⟨rest, rfl⟩ := List.head?_eq_some_iff.mp top
  exact notTop rest rfl

theorem start_eq (disk : Disk) (path : Text) :
    disk.start path = .folder (if path.head? = some '/' then [] else disk.current) := by
  unfold start
  split
  · rfl
  · next notTop => rw [if_neg (head_ne_slash notTop)]

theorem absolutePlace_eq (current : Place) (path : Text) :
    Program.absolutePlace current path =
      Program.descend (if path.head? = some '/' then [] else current) (pieces path) := by
  unfold Program.absolutePlace
  split
  · rfl
  · next notTop => rw [if_neg (head_ne_slash notTop)]

/-- A written path that leads to a folder leads where the program looks the folder up. -/
theorem resolve_folder {disk : Disk} {path : Text} {folder : Place}
    (found : disk.resolve path = .ok (.folder folder)) :
    folder = Program.absolutePlace disk.current path := by
  unfold resolve at found
  split at found
  · cases found
  · rw [start_eq] at found
    rw [absolutePlace_eq]
    exact follow_folder found

theorem sentenceFiles_eq {disk : Disk} {directory : Text} {files : List SentenceFile}
    (listed : disk.sentenceFiles directory = .ok files) :
    disk.isFolder directory = true ∧
      files = sorted (disk.selected (Program.absolutePlace disk.current directory) directory) := by
  unfold sentenceFiles at listed
  split at listed
  · cases listed
  · cases listed
  · next folder found =>
      cases listed
      rw [← resolve_folder found]
      exact ⟨by rw [isFolder, found], rfl⟩

/-- However the disk lists the files, the directory has them sorted. -/
theorem sentenceFiles_of_perm {disk : Disk} {directory : Text} {folder : Place}
    {files : List SentenceFile} (found : disk.resolve directory = .ok (.folder folder))
    (distinct : disk.Distinct) (perm : files.Perm (disk.selected folder directory))
    (ordered : files.Pairwise SentenceFile.Before) : disk.sentenceFiles directory = .ok files := by
  have names := (perm.map (·.name)).nodup_iff.mpr (selected_distinct distinct folder directory)
  have same := sorted_unique names (perm.trans (sorted_perm _).symm) ordered (sorted_pairwise _)
  rw [sentenceFiles, found, same]
  rfl

/-- The sentence file that a directory has at a place. -/
def sentenceFileAt? (disk : Disk) (directory : Text) (place : Place) : Option SentenceFile :=
  disk.sentenceFileIn? (Program.absolutePlace disk.current directory) directory place

/-- Disks that differ at one place list the same sentence files, in the same order, in front of
the file at this place and behind it. -/
theorem AgreeBut.sentenceFiles_split {place : Place} {first second : Disk}
    (agree : first.AgreeBut place second) {directory : Text} {files others : List SentenceFile}
    (listed : first.sentenceFiles directory = .ok files)
    (otherListed : second.sentenceFiles directory = .ok others) :
    ∃ front back, files = front ++ (first.sentenceFileAt? directory place).toList ++ back ∧
      others = front ++ (second.sentenceFileAt? directory place).toList ++ back := by
  obtain ⟨_, rfl⟩ := sentenceFiles_eq listed
  obtain ⟨_, rfl⟩ := sentenceFiles_eq otherListed
  unfold sentenceFileAt?
  rw [← agree.current]
  generalize Program.absolutePlace first.current directory = folder
  have rest := (sorted_perm ((first.elsewhere place).filterMap (sentenceFile? folder directory)))
  have ordered := sorted_pairwise
    ((first.elsewhere place).filterMap (sentenceFile? folder directory))
  have otherRest := rest.trans (agree.elsewhere_perm.filterMap _)
  exact ⟨_, _, sorted_selected agree.distinct folder place directory ordered rest,
    sorted_selected agree.otherDistinct folder place directory ordered otherRest⟩

end SimpleSentence.Disk
