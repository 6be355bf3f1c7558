import Mathlib.Data.List.Sort
import SimpleSentence.Proofs.Directory

/-!
Which files of a directory are sentence files. They are the files directly inside
with the extension `txt`, in strictly ascending order of the bytes of their names,
each written behind the directory. The order in which the disk lists its files
does not matter, nor do folders or what lies inside them. A file is looked up by
its written path, so one whose path comes out too long is passed over.
-/

namespace SimpleSentence.Disk

/-! ### The extension of a name -/

/-- What stands behind the last dot of a name, if something stands in front of that dot. The name
of the folder above has none. -/
def extension? (name : Text) : Option Text :=
  if name = above then none
  else match name.reverse.dropWhile (· != '.') with
    | _ :: _ :: _ => some (name.reverse.takeWhile (· != '.')).reverse
    | _ => none

/-- A name that ends in `.txt` with something in front. -/
def IsTextName (name : Text) : Prop := ∃ stem, stem ≠ [] ∧ name = stem ++ ".txt".toList

theorem isSentenceName_iff (name : Text) : isSentenceName name = true ↔ IsTextName name := by
  have ending : sentenceEnding = ".txt".toList := rfl
  rw [isSentenceName, Bool.and_eq_true, List.isSuffixOf_iff_suffix, bne_iff_ne, ending]
  constructor
  · rintro ⟨⟨stem, rfl⟩, other⟩
    exact ⟨stem, fun nothing => other (by rw [nothing]; rfl), rfl⟩
  · rintro ⟨stem, some, rfl⟩
    exact ⟨⟨stem, rfl⟩, by simpa using some⟩

-- The last dot of a name divides it.
theorem split_last_dot {name front : Text} {dot : Char}
    (behind : name.reverse.dropWhile (· != '.') = dot :: front) :
    name = front.reverse ++ '.' :: (name.reverse.takeWhile (· != '.')).reverse := by
  have failed := List.head?_dropWhile_not (fun char : Char => char != '.') name.reverse
  rw [behind] at failed
  have isDot : dot = '.' := by simpa using failed
  have whole := @List.takeWhile_append_dropWhile _ (fun char : Char => char != '.') name.reverse
  rw [behind, isDot] at whole
  have again := congrArg List.reverse whole
  rw [List.reverse_append, List.reverse_reverse, List.reverse_cons, List.append_assoc] at again
  exact again.symm

theorem isTextName_iff (name : Text) : IsTextName name ↔ extension? name = some "txt".toList := by
  unfold extension?
  constructor
  · rintro ⟨stem, some, rfl⟩
    obtain ⟨front, last, rfl⟩ := stem.eq_nil_or_concat.resolve_left some
    have notAbove : front.concat last ++ ".txt".toList ≠ above := by
      intro same
      have lengths := congrArg List.length same
      simp [above] at lengths
    rw [if_neg notAbove]
    simp
  · intro found
    split at found
    · cases found
    · split at found
      · next dot last front behind =>
          have divided := split_last_dot behind
          rw [Option.some.inj found] at divided
          exact ⟨(last :: front).reverse, by simp, divided⟩
      · cases found

/-! ### The files of a folder -/

/-- The strict order of sentence files by the bytes of their names. -/
def SentenceFile.InFront (first second : SentenceFile) : Prop :=
  Utf8.encode first.name < Utf8.encode second.name

instance : Std.Irrefl SentenceFile.InFront := ⟨fun _ => List.lt_irrefl _⟩

instance : Std.Antisymm SentenceFile.InFront :=
  ⟨fun _ _ before behind => absurd behind (List.lt_asymm before)⟩

-- The sentence files of a folder: which they are, in which order, and that none is there twice.
structure Selects (disk : Disk) (folder : Place) (directory : Text)
    (files : List SentenceFile) : Prop where
  exact : ∀ file, file ∈ files ↔
    ⟨folder ++ [file.name], file.content⟩ ∈ disk.files ∧ IsTextName file.name ∧
      file.path = join directory file.name ∧ Text.byteLength file.path ≤ maxPathBytes
  ascending : files.Pairwise SentenceFile.InFront
  once : (files.map SentenceFile.path).Nodup

/-- The disks have the same files directly inside a folder. -/
def SameInside (folder : Place) (first second : Disk) : Prop :=
  ∀ name content, ⟨folder ++ [name], content⟩ ∈ first.files ↔
    ⟨folder ++ [name], content⟩ ∈ second.files

theorem join_injective (directory : Text) : Function.Injective (join directory) := by
  intro first second same
  unfold join at same
  split at same
  · exact List.append_cancel_left same
  · exact (List.cons.inj (List.append_cancel_left same)).2

variable {disk : Disk} {folder : Place} {directory : Text}

theorem mem_selected_iff (file : SentenceFile) :
    file ∈ disk.selected folder directory ↔
      ⟨folder ++ [file.name], file.content⟩ ∈ disk.files ∧ IsTextName file.name ∧
        file.path = join directory file.name ∧ Text.byteLength file.path ≤ maxPathBytes := by
  rw [selected, List.mem_filterMap]
  constructor
  · rintro ⟨source, member, found⟩
    obtain ⟨rfl, named, written, fits⟩ := (sentenceFile?_eq_some_iff _ _ _ _).mp found
    exact ⟨member, (isSentenceName_iff _).mp named, written, fits⟩
  · rintro ⟨member, named, written, fits⟩
    exact ⟨_, member, (sentenceFile?_eq_some_iff _ _ _ _).mpr
      ⟨rfl, (isSentenceName_iff _).mpr named, written, fits⟩⟩

theorem sorted_selects (distinct : disk.Distinct) :
    disk.Selects folder directory (sorted (disk.selected folder directory)) := by
  have perm := sorted_perm (disk.selected folder directory)
  have names := (perm.map (·.name)).nodup_iff.mpr (selected_distinct distinct folder directory)
  have exactly : ∀ file, file ∈ sorted (disk.selected folder directory) ↔ _ := fun file =>
    perm.mem_iff.trans (mem_selected_iff file)
  refine ⟨exactly, ?_, ?_⟩
  · have ordered := (sorted_pairwise (disk.selected folder directory)).and
      (List.pairwise_map.mp names)
    refine ordered.imp fun ⟨before, other⟩ => ?_
    exact Std.lt_of_le_of_ne before fun same => other (Utf8.encode_injective same)
  · have paths : (sorted (disk.selected folder directory)).map SentenceFile.path =
        ((sorted (disk.selected folder directory)).map (·.name)).map (join directory) := by
      rw [List.map_map]
      exact List.map_congr_left fun file member => ((exactly file).mp member).2.2.1
    rw [paths]
    exact names.map (join_injective directory)

/-- Disks with the same files directly inside a folder have the same sentence files there. -/
theorem Selects.unique {other : Disk} {files others : List SentenceFile}
    (selects : disk.Selects folder directory files)
    (otherSelects : other.Selects folder directory others)
    (same : disk.SameInside folder other) : files = others := by
  apply List.Pairwise.eq_of_mem_iff selects.ascending otherSelects.ascending
  intro file
  rw [selects.exact, otherSelects.exact, same]

theorem sentenceFiles_of_folder (there : disk.resolve directory = .ok (.folder folder)) :
    disk.sentenceFiles directory = .ok (sorted (disk.selected folder directory)) := by
  rw [sentenceFiles, there]
  rfl

theorem Selects.no_folder {files : List SentenceFile}
    (selects : disk.Selects folder directory files) {name : Text} {below : Place}
    (isFolder : disk.node? (folder ++ [name]) = some (.folder below)) :
    join directory name ∉ files.map SentenceFile.path := by
  intro listed
  obtain ⟨file, member, written⟩ := List.mem_map.mp listed
  obtain ⟨inside, _, own, _⟩ := (selects.exact file).mp member
  have named : file.name = name := join_injective directory (own.symm.trans written)
  rw [named] at inside
  have found : (disk.file? (folder ++ [name])).isSome = true :=
    List.find?_isSome.mpr ⟨_, inside, beq_self_eq_true _⟩
  obtain ⟨source, there⟩ := Option.isSome_iff_exists.mp found
  rw [node?, there] at isFolder
  cases isFolder

/-- The sentence files of a directory are the files directly inside whose names end in `.txt`
with something in front and whose paths can be looked up, each once and in strictly ascending
order of their names. No folder is among them, and neither the order in which the disk lists its
files nor what lies deeper makes a difference. -/
theorem sentenceFiles_exact (disk : Disk) (directory : Text) (folder : Place)
    (distinct : disk.Distinct) (there : disk.resolve directory = .ok (.folder folder)) :
    ∃ files, disk.sentenceFiles directory = .ok files ∧
      disk.Selects folder directory files ∧
      (∀ name, IsTextName name ↔ extension? name = some "txt".toList) ∧
      (∀ name below, disk.node? (folder ++ [name]) = some (.folder below) →
        join directory name ∉ files.map SentenceFile.path) ∧
      ∀ other : Disk, other.Distinct → other.resolve directory = .ok (.folder folder) →
        disk.SameInside folder other → other.sentenceFiles directory = .ok files := by
  have selects := @sorted_selects disk folder directory distinct
  refine ⟨_, sentenceFiles_of_folder there, selects, isTextName_iff, ?_, ?_⟩
  · intro name below isFolder
    exact selects.no_folder isFolder
  · intro other otherDistinct otherThere same
    rw [sentenceFiles_of_folder otherThere, selects.unique (sorted_selects otherDistinct) same]

-- A folder with two sentence files, two names that only look like it, and a folder named like one.
def lookalikes : Disk :=
  { files :=
      [⟨["d".toList, "b.txt".toList], [0x62]⟩, ⟨["d".toList, ".txt".toList], []⟩,
        ⟨["d".toList, "a.b.txt".toList], [0x61]⟩, ⟨["d".toList, "c.TXT".toList], []⟩,
        ⟨["d".toList, "sub.txt".toList, "e.txt".toList], []⟩]
    folders := []
    current := [] }

theorem lookalikes_selected :
    lookalikes.Distinct ∧ lookalikes.resolve "d".toList = .ok (.folder ["d".toList]) ∧
      ∃ files, lookalikes.sentenceFiles "d".toList = .ok files ∧
        lookalikes.Selects ["d".toList] "d".toList files ∧
        "d/sub.txt".toList ∉ files.map SentenceFile.path := by
  have distinct : lookalikes.Distinct := by decide
  have there : lookalikes.resolve "d".toList = .ok (.folder ["d".toList]) := by decide
  have isFolder : lookalikes.node? (["d".toList] ++ ["sub.txt".toList]) =
      some (.folder ["d".toList, "sub.txt".toList]) := by decide
  obtain ⟨files, listed, selects, _, noFolder, _⟩ :=
    sentenceFiles_exact lookalikes "d".toList ["d".toList] distinct there
  exact ⟨distinct, there, files, listed, selects, noFolder _ _ isFolder⟩

/-! ### A path that comes out too long -/

/-- The folder `d` written with detours that do not leave the current folder. -/
def detour : Nat → Text
  | 0 => ['d']
  | more + 1 => '.' :: '/' :: detour more

theorem pieces_detour (count : Nat) :
    pieces (detour count) = List.replicate count here ++ [['d']] := by
  induction count with
  | zero => rfl
  | succ count ih => simp [detour, pieces, ih, List.replicate_succ, here]

theorem follow_detour (disk : Disk) (place : Place) (count : Nat) (names : List Text) :
    disk.follow (.folder place) (List.replicate count here ++ names) =
      disk.follow (.folder place) names := by
  induction count with
  | zero => rfl
  | succ count ih => simp [List.replicate_succ, follow, ih]

theorem byteLength_detour (count : Nat) : Text.byteLength (detour count) = 2 * count + 1 := by
  induction count with
  | zero => rfl
  | succ count ih =>
      have dot : '.'.utf8Size = 1 := rfl
      have slash : '/'.utf8Size = 1 := rfl
      rw [detour, Text.byteLength, Text.byteLength, ih, dot, slash]
      omega

theorem checkPath_detour {count : Nat} (fits : 2 * count + 1 ≤ maxPathBytes) :
    checkPath (detour count) = .ok () := by
  have noNul : (detour count).contains '\x00' = false := by
    clear fits
    induction count with
    | zero => rfl
    | succ count ih => simpa [detour] using ih
  have filled : (detour count).isEmpty = false := by cases count <;> rfl
  rw [checkPath, noNul, filled, byteLength_detour]
  simp [Nat.not_lt.mpr fits]

theorem byteLength_le_join (directory name : Text) :
    Text.byteLength directory + Text.byteLength name ≤ Text.byteLength (join directory name) := by
  unfold join
  split
  · rw [Text.byteLength_append]
  · rw [Text.byteLength_append, Text.byteLength]
    omega

/-- One sentence file in the folder `d`. -/
def farFile : Disk := ⟨[⟨["d".toList, "a.txt".toList], [0x78]⟩], [], []⟩

theorem resolve_detour {count : Nat} (fits : 2 * count + 1 ≤ maxPathBytes) :
    farFile.resolve (detour count) = .ok (.folder ["d".toList]) := by
  have begins : farFile.start (detour count) = .folder [] := by cases count <;> rfl
  rw [resolve, checkPath_detour fits, begins, pieces_detour]
  exact follow_detour farFile [] count _

/-- Written with so many detours the folder can be listed, but the path of its file is too long to
be looked up, and the file is passed over. -/
theorem farFile_passed_over :
    farFile.Distinct ∧ farFile.resolve (detour 2045) = .ok (.folder ["d".toList]) ∧
      ⟨["d".toList, "a.txt".toList], [0x78]⟩ ∈ farFile.files ∧ IsTextName "a.txt".toList ∧
      ∃ files, farFile.sentenceFiles (detour 2045) = .ok files ∧
        join (detour 2045) "a.txt".toList ∉ files.map SentenceFile.path := by
  have there := @resolve_detour 2045 (by decide)
  refine ⟨by decide, there, by decide, ⟨['a'], by decide, rfl⟩, _, sentenceFiles_of_folder there, ?_⟩
  intro listed
  obtain ⟨file, member, written⟩ := List.mem_map.mp listed
  obtain ⟨_, _, _, fits⟩ := (mem_selected_iff file).mp ((sorted_perm _).mem_iff.mp member)
  have long := byteLength_le_join (detour 2045) "a.txt".toList
  rw [← written, byteLength_detour] at long
  exact absurd (long.trans fits) (by decide)

end SimpleSentence.Disk
