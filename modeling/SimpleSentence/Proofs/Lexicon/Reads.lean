import SimpleSentence.Lexicon.Table
import SimpleSentence.Proofs.Csv.Faults

/-!
Where one read of an input ends and the next begins. What is seen of an input is
what its reads give in order, so only the first read matters for itself: one that
gives a byte order mark and nothing else ends the input, whatever comes behind it.
Any other input can be looked at as a whole, however its bytes are read.
-/

namespace SimpleSentence

namespace Csv

/-- Every read gives something, and the first one gives more than a byte order mark or all there
is. -/
structure Steady (reads : List Bytes) : Prop where
  filled : ∀ read ∈ reads, read ≠ []
  begins : ∀ first rest, reads = first :: rest →
    byteOrderMark.length < first.length ∨ rest = []

section Seen

variable {reads : List Bytes}

theorem takeIn_filled (filled : ∀ read ∈ reads, read ≠ []) (mark : Bytes)
    (failure : Option Text) : takeIn mark reads failure = ⟨mark, reads.flatten, failure⟩ := by
  induction reads with
  | nil => rfl
  | cons read rest ih =>
      obtain ⟨some, later⟩ := List.forall_mem_cons.mp filled
      cases read with
      | nil => exact absurd rfl some
      | cons byte more =>
          have step : takeIn mark ((byte :: more) :: rest) failure =
              { takeIn mark rest failure with
                bytes := byte :: more ++ (takeIn mark rest failure).bytes } := rfl
          rw [step, ih later, List.flatten_cons]

/-- A byte order mark in front is not torn apart by steady reads. -/
theorem Steady.marked_first {first : Bytes} {rest : List Bytes} (steady : Steady (first :: rest))
    (marked : byteOrderMark <+: (first :: rest).flatten) : byteOrderMark <+: first := by
  rcases steady.begins first rest rfl with long | rfl
  · exact List.prefix_of_prefix_length_le marked (List.prefix_append _ _) (Nat.le_of_lt long)
  · simpa using marked

theorem see_marked {tail : Bytes} (more : tail ≠ []) {rest : List Bytes}
    (filled : ∀ read ∈ rest, read ≠ []) (failure : Option Text) :
    see ((byteOrderMark ++ tail) :: rest) failure =
      ⟨byteOrderMark, tail ++ rest.flatten, failure⟩ := by
  have marked : byteOrderMark.isPrefixOf (byteOrderMark ++ tail) = true :=
    List.isPrefixOf_iff_prefix.mpr (List.prefix_append _ _)
  rw [see, if_pos marked, List.drop_left, takeIn_filled (List.forall_mem_cons.mpr ⟨more, filled⟩),
    List.flatten_cons]

theorem see_unmarked (steady : Steady reads) (unmarked : ¬ byteOrderMark <+: reads.flatten)
    (failure : Option Text) : see reads failure = ⟨[], reads.flatten, failure⟩ := by
  cases reads with
  | nil => rfl
  | cons first rest =>
      have begins : ¬ byteOrderMark <+: first := fun marked =>
        unmarked (marked.trans (List.prefix_append _ _))
      rw [see, if_neg (mt List.isPrefixOf_iff_prefix.mp begins), takeIn_filled steady.filled]

theorem rows_of_marked (bytes : Bytes) (failure : Option Text) :
    Seen.rows ⟨byteOrderMark, bytes, failure⟩ =
      match failure with
      | none => records (byteOrderMark ++ bytes)
      | some _ => (scan (byteOrderMark ++ bytes)).rows := by
  have marked : byteOrderMark.isPrefixOf (byteOrderMark ++ bytes) = true :=
    List.isPrefixOf_iff_prefix.mpr (List.prefix_append _ _)
  have whole : scan (byteOrderMark ++ bytes) =
      scanFrom .rowStart ⟨byteOrderMark.reverse, [], []⟩ bytes := by
    rw [scan, if_pos marked, List.drop_left]
  rw [records, whole]
  rfl

theorem rows_of_unmarked {bytes : Bytes} (unmarked : ¬ byteOrderMark <+: bytes)
    (failure : Option Text) :
    Seen.rows ⟨[], bytes, failure⟩ =
      match failure with
      | none => records bytes
      | some _ => (scan bytes).rows := by
  rw [records, scan, if_neg (mt List.isPrefixOf_iff_prefix.mp unmarked)]
  rfl

end Seen

end Csv

namespace Lexicon

/-- The failure that is seen: none behind bytes that are a byte order mark and nothing else. -/
def Input.cause? (input : Input) : Option Text :=
  if input.bytes = Csv.byteOrderMark then none else input.failure

/-- The rows that an input gives: only its end closes a row that no line end closes. -/
def Input.delivered (input : Input) : List Csv.Row :=
  match input.cause? with
  | none => Csv.records input.bytes
  | some _ => (Csv.scan input.bytes).rows

/-- An input that is looked at as a whole. -/
def loadWhole (input : Input) : Except LexiconError Lexicon :=
  loadRows (Csv.placeRows .first input.delivered) input.cause?

/-- Behind a first read that gives a byte order mark and nothing else, neither bytes nor failures
are seen. -/
theorem loadReads_mark (rest : List Bytes) (failure : Option Text) :
    loadReads (Csv.byteOrderMark :: rest) failure = .error (.missingColumn wordColumn) := rfl

theorem loadReads_marked {tail : Bytes} {rest : List Bytes}
    (steady : Csv.Steady ((Csv.byteOrderMark ++ tail) :: rest)) (failure : Option Text) :
    loadReads ((Csv.byteOrderMark ++ tail) :: rest) failure =
      loadWhole ⟨Csv.byteOrderMark ++ (tail ++ rest.flatten), failure⟩ := by
  cases tail with
  | nil =>
      rcases steady.begins _ _ rfl with long | rfl
      · exact absurd long (by decide)
      · rfl
  | cons byte more =>
      have seen := Csv.see_marked (List.cons_ne_nil byte more)
        (List.forall_mem_cons.mp steady.filled).2 failure
      have cause : Input.cause? ⟨Csv.byteOrderMark ++ (byte :: more ++ rest.flatten), failure⟩ =
          failure := if_neg (by simp)
      rw [loadReads, seen, Csv.rows_of_marked, loadWhole, Input.delivered, cause]

theorem loadReads_unmarked {reads : List Bytes} (steady : Csv.Steady reads)
    (unmarked : ¬ Csv.byteOrderMark <+: reads.flatten) (failure : Option Text) :
    loadReads reads failure = loadWhole ⟨reads.flatten, failure⟩ := by
  have other : reads.flatten ≠ Csv.byteOrderMark := by
    intro same
    rw [same] at unmarked
    exact unmarked List.prefix_rfl
  have cause : Input.cause? ⟨reads.flatten, failure⟩ = failure := if_neg other
  rw [loadReads, Csv.see_unmarked steady unmarked, Csv.rows_of_unmarked unmarked, loadWhole,
    Input.delivered, cause]

/-- Of an input that is read steadily the bytes alone decide, and the failure behind them. -/
theorem loadReads_eq_loadWhole {reads : List Bytes} (steady : Csv.Steady reads)
    (failure : Option Text) : loadReads reads failure = loadWhole ⟨reads.flatten, failure⟩ := by
  by_cases marked : Csv.byteOrderMark <+: reads.flatten
  · cases reads with
    | nil => exact absurd marked (by decide)
    | cons first rest =>
        obtain ⟨tail, rfl⟩ := steady.marked_first marked
        rw [loadReads_marked steady, List.flatten_cons, List.append_assoc]
  · exact loadReads_unmarked steady marked failure

/-! ### The reads of an input -/

theorem readsFrom_flatten (filled : Bytes) (room : Nat) (bytes : Bytes) :
    (readsFrom filled room bytes).flatten = filled.reverse ++ bytes := by
  induction bytes generalizing filled room with
  | nil => cases filled <;> simp [readsFrom]
  | cons byte rest ih =>
      cases room with
      | zero => rw [readsFrom, List.flatten_cons, ih, List.reverse_singleton, List.singleton_append]
      | succ room => rw [readsFrom, ih, List.reverse_cons, List.append_assoc, List.singleton_append]

theorem readsFrom_filled {filled : Bytes} {room : Nat} (begun : filled ≠ [] ∨ 0 < room)
    (bytes : Bytes) : ∀ read ∈ readsFrom filled room bytes, read ≠ [] := by
  induction bytes generalizing filled room with
  | nil =>
      cases filled with
      | nil => exact fun _ member => absurd member List.not_mem_nil
      | cons last before => simp [readsFrom]
  | cons byte rest ih =>
      cases room with
      | zero =>
          have some : filled ≠ [] := begun.resolve_right (Nat.lt_irrefl 0)
          rw [readsFrom, List.forall_mem_cons]
          exact ⟨by simpa using some, ih (.inl (List.cons_ne_nil _ _))⟩
      | succ room => exact ih (.inl (List.cons_ne_nil _ _))

/-- A read that is not the last one is full. -/
theorem readsFrom_first {filled : Bytes} {room : Nat} {bytes first : Bytes} {rest : List Bytes}
    (reads : readsFrom filled room bytes = first :: rest) :
    first.length = filled.length + room ∨ rest = [] := by
  induction bytes generalizing filled room with
  | nil =>
      cases filled with
      | nil => cases reads
      | cons last before => exact .inr (List.cons.inj reads).2.symm
  | cons byte more ih =>
      cases room with
      | zero =>
          have same := (List.cons.inj reads).1
          exact .inl (by rw [← same, List.length_reverse, Nat.add_zero])
      | succ room =>
          refine (ih reads).imp_left fun full => ?_
          rw [full, List.length_cons]
          omega

theorem Input.reads_flatten (input : Input) : input.reads.flatten = input.bytes :=
  readsFrom_flatten [] readCapacity input.bytes

theorem Input.reads_steady (input : Input) : Csv.Steady input.reads where
  filled := readsFrom_filled (.inr (by decide)) input.bytes
  begins := by
    intro first rest reads
    refine (readsFrom_first reads).imp_left fun full => ?_
    rw [full]
    decide

theorem load_eq_loadWhole (input : Input) : load input = loadWhole input := by
  rw [load, loadReads_eq_loadWhole input.reads_steady, input.reads_flatten]

/-- It does not matter in what other steady reads an input comes. -/
theorem loadReads_eq_load {reads : List Bytes} (steady : Csv.Steady reads)
    (failure : Option Text) : loadReads reads failure = load ⟨reads.flatten, failure⟩ := by
  rw [load_eq_loadWhole, loadReads_eq_loadWhole steady]

end Lexicon

end SimpleSentence
