import SimpleSentence.Disk

/-!
Writing a file. The place found for it lies in a folder that is there and is no
folder itself, so no folder comes or goes: what is written changes the file at
this place, and each written path that led somewhere leads there again, at most
to other content.
-/

namespace SimpleSentence.Disk

/-! ### Folders -/

theorem isPrefix_dropLast {upper lower : Place} (above : upper <+: lower) (other : upper ≠ lower) :
    upper <+: lower.dropLast := by
  rcases List.eq_nil_or_concat lower with rfl | ⟨front, name, rfl⟩
  · exact above
  · rw [List.concat_eq_append] at above other ⊢
    rw [List.dropLast_concat]
    exact (List.prefix_concat_iff.mp above).resolve_left other

def places (disk : Disk) : List Place := disk.files.map File.place

theorem hasFolder_iff (disk : Disk) (place : Place) :
    disk.hasFolder place = true ↔
      place = [] ∨ place <+: disk.current ∨ (∃ folder ∈ disk.folders, place <+: folder) ∨
        ∃ file ∈ disk.places, place <+: file ∧ place ≠ file := by
  have below : disk.files.any (fun file => place.isPrefixOf file.place && place != file.place) =
      disk.places.any (fun file => place.isPrefixOf file && place != file) := by
    rw [places, List.any_map]
    rfl
  rw [hasFolder, below]
  simp [or_assoc]

/-- Above a folder there are folders only. -/
theorem hasFolder_of_isPrefix {disk : Disk} {upper lower : Place} (above : upper <+: lower)
    (there : disk.hasFolder lower = true) : disk.hasFolder upper = true := by
  rw [hasFolder_iff] at there ⊢
  rcases there with rfl | current | ⟨folder, listed, under⟩ | ⟨file, listed, under, other⟩
  · exact .inl (List.prefix_nil.mp above)
  · exact .inr (.inl (above.trans current))
  · exact .inr (.inr (.inl ⟨folder, listed, above.trans under⟩))
  · refine .inr (.inr (.inr ⟨file, listed, above.trans under, ?_⟩))
    rintro rfl
    exact other (under.eq_of_length_le above.length_le)

theorem place_of_file? {disk : Disk} {place : Place} {file : File}
    (found : disk.file? place = some file) : file.place = place :=
  beq_iff_eq.mp (List.find?_some (p := fun file : File => file.place == place) found)

/-- What stands at a place is the file there, or else the folder there. -/
theorem node?_eq_some {disk : Disk} {place : Place} {node : Node}
    (found : disk.node? place = some node) :
    (∃ file, node = .file file ∧ disk.file? place = some file) ∨
      (node = .folder place ∧ disk.file? place = none ∧ disk.hasFolder place = true) := by
  unfold node? at found
  cases there : disk.file? place with
  | some file =>
      rw [there] at found
      cases found
      exact .inl ⟨file, rfl, rfl⟩
  | none =>
      rw [there] at found
      cases folder : disk.hasFolder place with
      | false => simp [folder] at found
      | true =>
          simp only [folder, ↓reduceIte, Option.some.injEq] at found
          exact .inr ⟨found.symm, rfl, rfl⟩

/-! ### One step of a written path -/

def enter (disk : Disk) : Node → Text → Except DiskError Node
  | .file _, _ => .error .notFolder
  | .folder place, piece =>
      if piece.isEmpty || piece == here then .ok (.folder place)
      else if piece == above then .ok (.folder place.dropLast)
      else if maxNameBytes < Text.byteLength piece then .error .nameTooLong
      else match disk.node? (place ++ [piece]) with
        | none => .error .notFound
        | some node => .ok node

/-- The step from a folder stays, goes up, or goes down to what stands there. -/
theorem enter_ok_iff {disk : Disk} {node next : Node} {piece : Text} :
    disk.enter node piece = .ok next ↔
      ∃ place, node = .folder place ∧
        ((piece.isEmpty || piece == here) = true ∧ next = .folder place ∨
          (piece.isEmpty || piece == here) = false ∧ piece = above ∧
            next = .folder place.dropLast ∨
          (piece.isEmpty || piece == here) = false ∧ piece ≠ above ∧
            Text.byteLength piece ≤ maxNameBytes ∧
              disk.node? (place ++ [piece]) = some next) := by
  cases node with
  | file file => simp [enter]
  | folder place =>
      cases stays : piece.isEmpty || piece == here with
      | true => simp [enter, stays, eq_comm]
      | false =>
          by_cases up : piece = above
          · subst up
            simp [enter, stays, eq_comm]
          · by_cases short : Text.byteLength piece ≤ maxNameBytes
            · cases below : disk.node? (place ++ [piece]) <;>
                simp [enter, stays, up, Nat.not_lt.mpr short, short, below]
            · simp [enter, stays, up, Nat.lt_of_not_le short, short]

theorem follow_nil (disk : Disk) (node : Node) : disk.follow node [] = .ok node := by
  cases node <;> rfl

theorem follow_cons (disk : Disk) (node : Node) (piece : Text) (rest : List Text) :
    disk.follow node (piece :: rest) = (disk.enter node piece).bind (disk.follow · rest) := by
  cases node with
  | file file => rfl
  | folder place =>
      rw [follow, enter]
      split
      · rfl
      · split
        · rfl
        · split
          · rfl
          · cases disk.node? (place ++ [piece]) <;> rfl

theorem follow_eq_foldlM (disk : Disk) (node : Node) (names : List Text) :
    disk.follow node names = names.foldlM disk.enter node := by
  induction names generalizing node with
  | nil => exact disk.follow_nil node
  | cons piece rest ih => exact (disk.follow_cons node piece rest).trans (by simp only [ih]; rfl)

theorem follow_append {disk : Disk} {node folder : Node} {front : List Text}
    (found : disk.follow node front = .ok folder) (back : List Text) :
    disk.follow node (front ++ back) = disk.follow folder back := by
  simp only [follow_eq_foldlM, List.foldlM_append] at found ⊢
  rw [found]
  rfl

/-- A property that no step loses holds wherever a written path leads. -/
theorem follow_induction {disk : Disk} {motive : Node → Prop}
    (step : ∀ node piece next, motive node → disk.enter node piece = .ok next → motive next)
    {node last : Node} {names : List Text} (holds : motive node)
    (found : disk.follow node names = .ok last) : motive last := by
  induction names generalizing node with
  | nil =>
      rw [follow_nil] at found
      cases found
      exact holds
  | cons piece rest ih =>
      rw [follow_cons] at found
      cases entered : disk.enter node piece with
      | error error =>
          rw [entered] at found
          cases found
      | ok next =>
          rw [entered] at found
          exact ih (step node piece next holds entered) found

/-- The node is a file or a folder that is there. -/
def Stands (disk : Disk) : Node → Prop
  | .file _ => True
  | .folder place => disk.hasFolder place = true

theorem stands_start (disk : Disk) (path : Text) : disk.Stands (disk.start path) := by
  unfold start
  split
  · exact (disk.hasFolder_iff _).mpr (.inl rfl)
  · exact (disk.hasFolder_iff _).mpr (.inr (.inl (List.prefix_refl _)))

theorem Stands.enter {disk : Disk} {node next : Node} {piece : Text} (stands : disk.Stands node)
    (entered : disk.enter node piece = .ok next) : disk.Stands next := by
  obtain ⟨place, rfl, ⟨_, rfl⟩ | ⟨_, _, rfl⟩ | ⟨_, _, _, below⟩⟩ := enter_ok_iff.mp entered
  · exact stands
  · exact hasFolder_of_isPrefix (List.dropLast_prefix place) stands
  · rcases node?_eq_some below with ⟨file, rfl, _⟩ | ⟨rfl, _, there⟩
    · trivial
    · exact there

theorem Stands.follow {disk : Disk} {node last : Node} {names : List Text}
    (stands : disk.Stands node) (found : disk.follow node names = .ok last) :
    disk.Stands last :=
  follow_induction (fun _ _ _ => Stands.enter) stands found

/-! ### The written file -/

/-- The place lies in a folder and is no folder itself. -/
structure Creatable (disk : Disk) (place : Place) : Prop where
  upper : disk.hasFolder place.dropLast = true
  free : ∀ folder, disk.node? place ≠ some (.folder folder)

/-- The node once a file has been written. -/
def overwritten (place : Place) (content : Bytes) : Node → Node
  | .file file => .file (if file.place = place then ⟨place, content⟩ else file)
  | .folder folder => .folder folder

section Write

variable {disk : Disk} {place : Place} (content : Bytes)

theorem current_write : (disk.write place content).current = disk.current := by
  unfold write
  split <;> rfl

theorem folders_write : (disk.write place content).folders = disk.folders := by
  unfold write
  split <;> rfl

theorem mem_places_write (other : Place) :
    other ∈ (disk.write place content).places ↔ other = place ∨ other ∈ disk.places := by
  unfold write
  split
  · next file there =>
      have member : place ∈ disk.places := by
        rw [← place_of_file? there]
        exact List.mem_map_of_mem (List.mem_of_find?_eq_some there)
      have kept : (disk.files.map fun file =>
          if file.place = place then ⟨place, content⟩ else file).map File.place = disk.places := by
        rw [List.map_map, places]
        apply List.map_congr_left
        intro file _
        rw [Function.comp]
        split
        · next same => exact same.symm
        · rfl
      rw [places, kept]
      constructor
      · exact .inr
      · rintro (rfl | listed)
        · exact member
        · exact listed
  · simp [places, or_comm]

theorem file?_write (other : Place) :
    (disk.write place content).file? other =
      if other = place then some ⟨place, content⟩ else disk.file? other := by
  cases there : disk.file? place with
  | none =>
      rw [write, there, file?, List.find?_append]
      split
      · next same =>
          subst other
          unfold file? at there
          simp [there]
      · next different =>
          have apart : (place == other) = false := beq_false_of_ne (Ne.symm different)
          simp [file?, apart]
  | some file =>
      have sameTest : (fun file : File => file.place == other) ∘
          (fun file : File => if file.place = place then ⟨place, content⟩ else file) =
            fun file => file.place == other := by
        funext file
        rw [Function.comp]
        split
        · next same => rw [same]
        · rfl
      rw [write, there, file?, List.find?_map, sameTest, ← file?]
      split
      · next same =>
          subst other
          rw [there, Option.map_some, if_pos (place_of_file? there)]
      · next different =>
          cases found : disk.file? other with
          | none => rfl
          | some file => rw [Option.map_some, if_neg (place_of_file? found ▸ different)]

theorem overwritten_start (path : Text) :
    overwritten place content (disk.start path) = disk.start path := by
  unfold start
  split <;> rfl

theorem start_write (path : Text) : (disk.write place content).start path = disk.start path := by
  unfold start
  split
  · rfl
  · rw [current_write]

variable (creatable : disk.Creatable place)
include creatable

theorem Creatable.hasFolder_write (other : Place) :
    (disk.write place content).hasFolder other = disk.hasFolder other := by
  rw [Bool.eq_iff_iff, hasFolder_iff, hasFolder_iff, current_write, folders_write]
  simp only [mem_places_write, or_and_right, exists_or, exists_eq_left]
  constructor
  · rintro (top | current | listed | ⟨under, different⟩ | below)
    · exact .inl top
    · exact .inr (.inl current)
    · exact .inr (.inr (.inl listed))
    · have above : other <+: place.dropLast := isPrefix_dropLast under different
      exact (disk.hasFolder_iff _).mp (hasFolder_of_isPrefix above creatable.upper)
    · exact .inr (.inr (.inr below))
  · rintro (top | current | listed | below)
    · exact .inl top
    · exact .inr (.inl current)
    · exact .inr (.inr (.inl listed))
    · exact .inr (.inr (.inr (.inr below)))

theorem Creatable.node?_write {other : Place} {node : Node} (found : disk.node? other = some node) :
    (disk.write place content).node? other = some (overwritten place content node) := by
  rw [node?, file?_write]
  rcases node?_eq_some found with ⟨file, rfl, there⟩ | ⟨rfl, nothing, folder⟩
  · rw [overwritten, place_of_file? there]
    by_cases same : other = place
    · rw [if_pos same, if_pos same]
    · rw [if_neg same, if_neg same, there]
  · have different : other ≠ place := by
      rintro rfl
      exact creatable.free other found
    rw [if_neg different, nothing, creatable.hasFolder_write content, folder]
    rfl

theorem Creatable.enter_write {node next : Node} {piece : Text}
    (entered : disk.enter node piece = .ok next) :
    (disk.write place content).enter (overwritten place content node) piece =
      .ok (overwritten place content next) := by
  rw [enter_ok_iff] at entered ⊢
  obtain ⟨folder, rfl, ⟨stays, rfl⟩ | ⟨moves, up, rfl⟩ | ⟨moves, down, short, below⟩⟩ := entered
  · exact ⟨folder, rfl, .inl ⟨stays, rfl⟩⟩
  · exact ⟨folder, rfl, .inr (.inl ⟨moves, up, rfl⟩)⟩
  · exact ⟨folder, rfl, .inr (.inr ⟨moves, down, short, creatable.node?_write content below⟩)⟩

theorem Creatable.follow_write {node last : Node} {names : List Text}
    (found : disk.follow node names = .ok last) :
    (disk.write place content).follow (overwritten place content node) names =
      .ok (overwritten place content last) := by
  induction names generalizing node with
  | nil =>
      rw [follow_nil] at found ⊢
      cases found
      rfl
  | cons piece rest ih =>
      rw [follow_cons] at found ⊢
      cases entered : disk.enter node piece with
      | error error =>
          rw [entered] at found
          cases found
      | ok next =>
          rw [entered] at found
          rw [creatable.enter_write content entered]
          exact ih found

theorem Creatable.resolve_write {path : Text} {node : Node} (found : disk.resolve path = .ok node) :
    (disk.write place content).resolve path = .ok (overwritten place content node) := by
  unfold resolve at found ⊢
  cases checked : checkPath path with
  | error error =>
      rw [checked] at found
      cases found
  | ok _ =>
      rw [checked] at found
      have followed := creatable.follow_write content found
      rw [start_write]
      rwa [overwritten_start] at followed

/-- A path that already leads to what is written goes on to do so. -/
theorem Creatable.openTable_write {path : Text}
    (opened : disk.openTable path = .ok ⟨content, none⟩) :
    (disk.write place content).openTable path = .ok ⟨content, none⟩ := by
  rw [openTable] at opened ⊢
  cases found : disk.resolve path with
  | error error =>
      rw [found] at opened
      cases opened
  | ok node =>
      rw [found] at opened
      rw [creatable.resolve_write content found]
      cases node with
      | folder folder => exact absurd (congrArg Lexicon.Input.failure (Except.ok.inj opened)) nofun
      | file file =>
          have same : file.content = content :=
            congrArg Lexicon.Input.bytes (Except.ok.inj opened)
          have either : (if file.place = place then ⟨place, content⟩ else file).content =
              content := by
            split
            · rfl
            · exact same
          simp only [overwritten, either]

end Write

/-! ### The place of a new file -/

/-- The name can be that of a new file in the folder. -/
structure Fresh (disk : Disk) (folder : Place) (name : Text) : Prop where
  filled : name.isEmpty = false
  moves : name ≠ here ∧ name ≠ above
  short : Text.byteLength name ≤ maxNameBytes
  free : ∀ other, disk.node? (folder ++ [name]) ≠ some (.folder other)

theorem newPlace_ok {disk : Disk} {node : Node} {name : Text} {slash : Bool} {place : Place}
    (found : disk.newPlace node name slash = .ok place) :
    slash = false ∧ ∃ folder, node = .folder folder ∧ place = folder ++ [name] ∧
      disk.Fresh folder name := by
  cases node with
  | file file => cases found
  | folder folder =>
      rw [newPlace] at found
      split at found
      · cases found
      · next usual =>
          simp only [Bool.or_eq_true, beq_iff_eq, not_or, Bool.not_eq_true] at usual
          obtain ⟨⟨⟨noSlash, filled⟩, notHere⟩, notAbove⟩ := usual
          split at found
          · cases found
          · next short =>
              split at found
              · cases found
              · next free =>
                  cases found
                  exact ⟨noSlash, folder, rfl, rfl, filled, ⟨notHere, notAbove⟩,
                    Nat.le_of_not_lt short, free⟩

/-- A file is created under the last name of its path, in the folder to which the names in front
of it lead. -/
theorem createPlace_ok {disk : Disk} {path : Text} {place : Place}
    (found : disk.createPlace path = .ok place) :
    checkPath path = .ok () ∧ ∃ front name folder, pieces path = front ++ [name] ∧
      disk.follow (disk.start path) front = .ok (.folder folder) ∧ place = folder ++ [name] ∧
        disk.Fresh folder name := by
  unfold createPlace at found
  split at found
  · cases found
  · next checked =>
      simp only at found
      split at found
      · cases found
      · next node followed =>
          obtain ⟨whole, folder, rfl, placed, fresh⟩ := newPlace_ok found
          have suffix := List.dropWhile_suffix List.isEmpty (l := (pieces path).reverse)
          have names := suffix.eq_of_length_le (Nat.le_of_not_lt (of_decide_eq_false whole))
          rw [names] at followed placed fresh
          cases written : (pieces path).reverse with
          | nil =>
              rw [written] at fresh
              exact absurd fresh.filled (by decide)
          | cons name rest =>
              rw [written] at followed placed fresh
              have cut : pieces path = rest.reverse ++ [name] := by
                rw [← List.reverse_cons, ← written, List.reverse_reverse]
              exact ⟨checked, rest.reverse, name, folder, cut, followed, placed, fresh⟩

theorem creatable_of_createPlace {disk : Disk} {path : Text} {place : Place}
    (found : disk.createPlace path = .ok place) : disk.Creatable place := by
  obtain ⟨_, front, name, folder, _, followed, rfl, fresh⟩ := createPlace_ok found
  have stands : disk.Stands (.folder folder) := (disk.stands_start path).follow followed
  constructor
  · rw [List.dropLast_concat]
    exact stands
  · exact fresh.free

/-- The path under which a file was created leads to what was written. -/
theorem resolve_written {disk : Disk} {path : Text} {place : Place}
    (found : disk.createPlace path = .ok place) (content : Bytes) :
    (disk.write place content).resolve path = .ok (.file ⟨place, content⟩) := by
  have creatable := creatable_of_createPlace found
  obtain ⟨checked, front, name, folder, cut, followed, rfl, fresh⟩ := createPlace_ok found
  have reached := creatable.follow_write content followed
  rw [overwritten_start, overwritten] at reached
  have there : (disk.write (folder ++ [name]) content).node? (folder ++ [name]) =
      some (.file ⟨folder ++ [name], content⟩) := by
    rw [node?, file?_write, if_pos rfl]
  have stays : (name.isEmpty || name == here) = false := by simp [fresh.filled, fresh.moves.1]
  have entered : (disk.write (folder ++ [name]) content).enter (.folder folder) name =
      .ok (.file ⟨folder ++ [name], content⟩) :=
    enter_ok_iff.mpr ⟨folder, rfl, .inr (.inr ⟨stays, fresh.moves.2, fresh.short, there⟩)⟩
  rw [resolve, checked, start_write, cut]
  calc
    (disk.write (folder ++ [name]) content).follow (disk.start path) (front ++ [name])
        = (disk.write (folder ++ [name]) content).follow (.folder folder) [name] :=
          follow_append reached [name]
    _ = .ok (.file ⟨folder ++ [name], content⟩) := by
          rw [follow_cons, entered]
          exact (disk.write (folder ++ [name]) content).follow_nil _

end SimpleSentence.Disk
