import SimpleSentence.Proofs.Lexicon.RoundTrip

/-!
What is told when a lexicon cannot be written. The table leaves in blocks, and
the first operation that fails ends the writing with its cause. Failures at the
last block and at the flush behind it are told as faults of writing; a failure at
an earlier block is told as a fault of the table. So every failure is told as a
fault of writing exactly where the whole table fits one block.
-/

namespace SimpleSentence

namespace Csv

theorem blocksFrom_ne_nil (capacity : Nat) (filled : Bytes) (count : Nat) (pieces : List Bytes) :
    blocksFrom capacity filled count pieces ≠ [] := by
  induction pieces generalizing filled count with
  | nil => exact List.cons_ne_nil _ _
  | cons piece rest ih =>
      rw [blocksFrom]
      split
      · exact ih _ _
      · exact List.cons_ne_nil _ _

theorem length_blocksFrom_eq_one_iff {capacity count : Nat} (within : count ≤ capacity)
    (filled : Bytes) (pieces : List Bytes) :
    (blocksFrom capacity filled count pieces).length = 1 ↔
      count + pieces.flatten.length ≤ capacity := by
  induction pieces generalizing filled count with
  | nil => simpa [blocksFrom] using within
  | cons piece rest ih =>
      rw [blocksFrom, List.flatten_cons, List.length_append]
      split
      · next fits =>
          rw [ih fits]
          omega
      · next full =>
          have more := List.length_pos_of_ne_nil
            (blocksFrom_ne_nil capacity piece.reverse piece.length rest)
          rw [List.length_cons]
          omega

/-- One block is enough exactly for the rows that fit it. -/
theorem length_blocks_eq_one_iff (capacity : Nat) (rows : List (List Text)) :
    (blocks capacity rows).length = 1 ↔ (blocks capacity rows).flatten.length ≤ capacity := by
  rw [blocks, blocksFrom_flatten, length_blocksFrom_eq_one_iff (Nat.zero_le capacity)]
  simp

end Csv

namespace Lexicon

-- The first operation of a receiver that fails, and the cause.
structure FailsAt (receiver : Receiver) (operation : Nat) (cause : Text) : Prop where
  fails : receiver operation = some cause
  first : ∀ earlier < operation, receiver earlier = none

/-- What a failure is told as, by the number of blocks and the operation that failed. -/
def failureAt (count operation : Nat) (cause : Text) : LexiconError :=
  if operation + 1 < count then .malformed (.failed cause) else .unwritable cause

section Failure

variable {receiver : Receiver} {operation : Nat} {cause : Text}

theorem exists_failsAt {last : Nat} (fails : ∃ operation ≤ last, receiver operation ≠ none) :
    ∃ operation ≤ last, ∃ cause, FailsAt receiver operation cause := by
  classical
  obtain ⟨some, within, refused⟩ := fails
  have exists_refused : ∃ operation, receiver operation ≠ none := ⟨some, refused⟩
  obtain ⟨cause, found⟩ := Option.ne_none_iff_exists'.mp (Nat.find_spec exists_refused)
  refine ⟨Nat.find exists_refused, (Nat.find_min' exists_refused refused).trans within, cause,
    found, fun earlier before => ?_⟩
  by_contra refusedEarlier
  exact Nat.find_min exists_refused before refusedEarlier

theorem FailsAt.here (failing : FailsAt receiver operation cause) {start : Nat} {other : Text}
    (begun : start ≤ operation) (refused : receiver start = some other) :
    start = operation ∧ other = cause := by
  rcases Nat.eq_or_lt_of_le begun with rfl | before
  · rw [failing.fails] at refused
    exact ⟨rfl, (Option.some.inj refused).symm⟩
  · rw [failing.first start before] at refused
    cases refused

theorem FailsAt.later (failing : FailsAt receiver operation cause) {start : Nat}
    (begun : start ≤ operation) (taken : receiver start = none) : start + 1 ≤ operation := by
  rcases Nat.eq_or_lt_of_le begun with rfl | before
  · rw [failing.fails] at taken
    cases taken
  · exact before

theorem handed_behind {start : Nat} (later : start + 1 ≤ operation) (block : Bytes)
    (rest : List Bytes) :
    ((block :: rest).take (operation - start)).flatten =
      block ++ (rest.take (operation - (start + 1))).flatten := by
  have count : operation - start = operation - (start + 1) + 1 := by omega
  rw [count, List.take_succ_cons, List.flatten_cons]

/-- What is handed over are the blocks in front of the operation that fails. -/
theorem handOver_failed (failing : FailsAt receiver operation cause) (blocks : List Bytes)
    (start : Nat) (begun : start ≤ operation) (reached : operation ≤ start + blocks.length) :
    handOver receiver start blocks =
      ⟨(blocks.take (operation - start)).flatten,
        .error (failureAt (start + blocks.length) operation cause)⟩ := by
  fun_induction handOver receiver start blocks with
  | case1 start other refused =>
      obtain ⟨rfl, rfl⟩ := failing.here begun refused
      simp [failureAt]
  | case2 start taken =>
      have later := failing.later begun taken
      rw [List.length_nil] at reached
      omega
  | case3 start last other refused =>
      obtain ⟨rfl, rfl⟩ := failing.here begun refused
      simp [failureAt]
  | case4 start last taken ih =>
      have later := failing.later begun taken
      rw [ih later (by simpa using reached), handed_behind later]
      rfl
  | case5 start block rest more other refused =>
      obtain ⟨rfl, rfl⟩ := failing.here begun refused
      have inside := List.length_pos_of_ne_nil more
      rw [failureAt, if_pos (by rw [List.length_cons]; omega), Nat.sub_self]
      rfl
  | case6 start block rest more taken ih =>
      have later := failing.later begun taken
      have count : start + (block :: rest).length = start + 1 + rest.length := by
        rw [List.length_cons]
        omega
      rw [count] at reached ⊢
      rw [ih later reached, handed_behind later]
      rfl

end Failure

theorem blocks_pos (lexicon : Lexicon) : 0 < lexicon.blocks.length :=
  List.length_pos_of_ne_nil (Csv.blocksFrom_ne_nil _ _ _ _)

theorem one_block_iff (lexicon : Lexicon) :
    lexicon.blocks.length = 1 ↔ lexicon.written.length ≤ blockCapacity := by
  rw [written_eq_blocks]
  exact Csv.length_blocks_eq_one_iff _ _

theorem writeTo_failed (lexicon : Lexicon) {receiver : Receiver} {operation : Nat} {cause : Text}
    (failing : FailsAt receiver operation cause) (reached : operation ≤ lexicon.blocks.length) :
    lexicon.writeTo receiver = ⟨(lexicon.blocks.take operation).flatten,
      .error (failureAt lexicon.blocks.length operation cause)⟩ := by
  have failed := handOver_failed failing lexicon.blocks 0 (Nat.zero_le _) (by rwa [Nat.zero_add])
  rwa [Nat.zero_add, Nat.sub_zero] at failed

/-- Whatever operation fails first, writing fails with its cause as a fault of writing. -/
def TellsWriteFailures (lexicon : Lexicon) : Prop :=
  ∀ (receiver : Receiver) (operation : Nat) (cause : Text), FailsAt receiver operation cause →
    operation ≤ lexicon.blocks.length →
      (lexicon.writeTo receiver).verdict = .error (.unwritable cause)

-- The receiver that refuses everything fails at the first block.
theorem failsAt_zero (cause : Text) : FailsAt (fun _ => some cause) 0 cause :=
  ⟨rfl, fun _ before => absurd before (Nat.not_lt_zero _)⟩

theorem writeTo_refused {lexicon : Lexicon} (large : blockCapacity < lexicon.written.length)
    (cause : Text) :
    (lexicon.writeTo fun _ => some cause).verdict = .error (.malformed (.failed cause)) := by
  have several : 0 + 1 < lexicon.blocks.length := by
    have positive := lexicon.blocks_pos
    have notOne := mt lexicon.one_block_iff.mp (Nat.not_le.mpr large)
    omega
  rw [lexicon.writeTo_failed (failsAt_zero cause) (Nat.zero_le _), failureAt, if_pos several]

theorem tellsWriteFailures_iff (lexicon : Lexicon) :
    lexicon.TellsWriteFailures ↔ lexicon.written.length ≤ blockCapacity := by
  constructor
  · intro tells
    by_contra large
    have told := tells _ 0 [] (failsAt_zero []) (Nat.zero_le _)
    rw [writeTo_refused (Nat.not_le.mp large)] at told
    cases told
  · intro small receiver operation cause failing reached
    rw [lexicon.writeTo_failed failing reached, lexicon.one_block_iff.mpr small, failureAt,
      if_neg (by omega)]

/-- A receiver that fails makes writing fail with the cause of its first failure. The last block
and the flush are told as faults of writing and the blocks before as faults of the table, so all
failures are told as faults of writing exactly if the whole table fits one block. -/
theorem failed_writing_told (lexicon : Lexicon) :
    (∀ receiver : Receiver, (∃ operation ≤ lexicon.blocks.length, receiver operation ≠ none) →
      ∃ operation cause, FailsAt receiver operation cause ∧
        (lexicon.blocks.length ≤ operation + 1 →
          (lexicon.writeTo receiver).verdict = .error (.unwritable cause)) ∧
        (operation + 1 < lexicon.blocks.length →
          (lexicon.writeTo receiver).verdict = .error (.malformed (.failed cause)))) ∧
      (lexicon.TellsWriteFailures ↔ lexicon.written.length ≤ blockCapacity) := by
  refine ⟨fun receiver fails => ?_, lexicon.tellsWriteFailures_iff⟩
  obtain ⟨operation, reached, cause, failing⟩ := exists_failsAt fails
  have failed := lexicon.writeTo_failed failing reached
  refine ⟨operation, cause, failing, fun behind => ?_, fun before => ?_⟩
  · rw [failed, failureAt, if_neg (by omega)]
  · rw [failed, failureAt, if_pos before]

-- A receiver that takes the only block and fails at the flush behind it.
def failingFlush : Receiver := fun operation =>
  if operation = 1 then some "no space left".toList else none

/-- A lexicon of one word. -/
def dogAlone : Lexicon := ofRecords [⟨"dog".toList, "n.".toList⟩]

theorem dogAlone_failing_flush_told :
    dogAlone.TellsWriteFailures ∧
      (dogAlone.writeTo failingFlush).verdict = .error (.unwritable "no space left".toList) := by
  obtain ⟨told, small⟩ := failed_writing_told dogAlone
  have fits : dogAlone.written.length ≤ blockCapacity := by decide +kernel
  have oneBlock := dogAlone.one_block_iff.mpr fits
  have fails : ∃ operation ≤ dogAlone.blocks.length, failingFlush operation ≠ none :=
    ⟨1, dogAlone.blocks_pos, by decide⟩
  obtain ⟨operation, cause, failing, behind, _⟩ := told failingFlush fails
  have refused := failing.fails
  rw [failingFlush] at refused
  split at refused
  · next flush =>
      cases refused
      exact ⟨small.mpr fits, behind (by rw [oneBlock, flush]; decide)⟩
  · cases refused

/-- A record whose word has a given number of letters. -/
def longRecord (size : Nat) : Record := ⟨List.replicate size 'w', "n.".toList⟩

theorem isSimpleWord_longRecord {size : Nat} (positive : 0 < size) :
    isSimpleWord (longRecord size).word = true := by
  rw [isSimpleWord_iff]
  constructor
  · simpa [longRecord] using Nat.ne_of_gt positive
  · intro char member
    rw [List.eq_of_mem_replicate member]
    decide

theorem ofRecords_longRecord {size : Nat} (positive : 0 < size) :
    ofRecords [longRecord size] = ⟨[⟨List.replicate size 'w', "n.".toList, .noun⟩]⟩ := by
  have simple := isSimpleWord_longRecord positive
  have word : Text.lower (longRecord size).word = List.replicate size 'w' := by
    rw [Text.lower_of_letters ((isSimpleWord_iff _).mp simple).2, longRecord, List.map_replicate]
    rfl
  have noun : Category.ofMarking (longRecord size).marking = .noun := by
    show Category.ofMarking "n.".toList = .noun
    decide +kernel
  have stands : Record.entry? (longRecord size) =
      some ⟨List.replicate size 'w', "n.".toList, .noun⟩ := by
    rw [Record.entry?_eq_some_iff, Text.trim_of_isSimpleWord simple, word, noun]
    exact ⟨simple, by decide, rfl⟩
  exact insert_of_fresh stands (by simp [empty])

theorem size_lt_written {size : Nat} (positive : 0 < size) :
    size < (ofRecords [longRecord size]).written.length := by
  have bare : Csv.needsQuotes (List.replicate size 'w') = false := by
    simp [Csv.needsQuotes]
  rw [written_eq_encode, Utf8.length_encode, ofRecords_longRecord positive]
  refine Nat.lt_of_lt_of_le ?_ (Text.length_le_byteLength _)
  simp only [table, List.map_cons, List.map_nil, Csv.writeRows, entryRow, Csv.writeRow,
    Csv.writeField, bare, Text.joinWith, List.length_append, List.length_replicate,
    Bool.false_eq_true, ↓reduceIte, List.length_cons]
  omega

/-- A table that fills a block fails while it is written, and the failure is told as a fault of
the table. -/
theorem longRecord_failure_misnamed :
    (ofRecords [longRecord blockCapacity]).Built ∧
      ((ofRecords [longRecord blockCapacity]).writeTo fun _ => some "write failure".toList).verdict =
        .error (.malformed (.failed "write failure".toList)) ∧
      ¬ (ofRecords [longRecord blockCapacity]).TellsWriteFailures := by
  have large : blockCapacity < (ofRecords [longRecord blockCapacity]).written.length :=
    size_lt_written (by decide)
  refine ⟨.listed _, writeTo_refused large _, ?_⟩
  rw [tellsWriteFailures_iff]
  exact Nat.not_le.mpr large

end Lexicon

end SimpleSentence
