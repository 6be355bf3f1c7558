import SimpleSentence.Proofs.Text.Normal

/-!
What is true of every lexicon. Its words are distinct, and each entry is the one
that its own word and marking stand for. A record adds at most one entry, and an
entry that it adds is new, so the invariant is kept by every record; and because
of it the records of a lexicon build the same lexicon again.
-/

namespace SimpleSentence

theorem Record.entry?_eq_some_iff (record : Record) (entry : Entry) :
    record.entry? = some entry ↔
      isSimpleWord (Text.trim record.word) = true ∧
      Category.ofMarking record.marking ≠ .unknown ∧
      entry = ⟨Text.lower (Text.trim record.word), Text.trim record.marking,
        Category.ofMarking record.marking⟩ := by
  simp only [Record.entry?, Option.ite_none_right_eq_some, Bool.and_eq_true, bne_iff_ne,
    Option.some.injEq, and_assoc, @eq_comm Entry entry]

/-- The record that an entry stands for. -/
def Entry.record (entry : Entry) : Record := ⟨entry.word, entry.marking⟩

-- Trimming and lowercasing have been done, and the category was read from the trimmed marking.
theorem Entry.entry?_record {record : Record} {entry : Entry}
    (stands : record.entry? = some entry) : entry.record.entry? = some entry := by
  rcases (record.entry?_eq_some_iff entry).mp stands with ⟨simple, known, rfl⟩
  have again := (isSimpleWord_lower simple).1
  have word := Text.trim_of_isSimpleWord again
  have marking := Text.trim_trim record.marking
  have category := Category.ofMarking_trim record.marking
  apply (Record.entry?_eq_some_iff _ _).mpr
  refine ⟨?_, ?_, ?_⟩
  · show isSimpleWord (Text.trim (Text.lower (Text.trim record.word))) = true
    rw [word]
    exact again
  · show Category.ofMarking (Text.trim record.marking) ≠ .unknown
    rw [category]
    exact known
  · simp only [Entry.record, word, marking, category, Text.lower_lower simple]

namespace Lexicon

/-- Distinct words, and entries that their own records stand for. -/
structure Sound (lexicon : Lexicon) : Prop where
  distinct : (lexicon.entries.map Entry.word).Nodup
  stable : ∀ entry ∈ lexicon.entries, entry.record.entry? = some entry

theorem contains_iff (lexicon : Lexicon) (word : Text) :
    lexicon.contains word = true ↔ word ∈ lexicon.entries.map Entry.word := by
  simp [contains, get?, List.find?_isSome]

theorem insert_of_none {lexicon : Lexicon} {record : Record} (nothing : record.entry? = none) :
    lexicon.insert record = lexicon := by
  rw [insert, nothing]

theorem insert_of_fresh {lexicon : Lexicon} {record : Record} {entry : Entry}
    (stands : record.entry? = some entry)
    (fresh : entry.word ∉ lexicon.entries.map Entry.word) :
    lexicon.insert record = ⟨lexicon.entries ++ [entry]⟩ := by
  have absent : ¬ lexicon.contains entry.word = true := fun held =>
    fresh ((contains_iff lexicon entry.word).mp held)
  rw [insert, stands]
  exact if_neg absent

/-- All that a record can do: nothing, or add one entry with a word that is not there yet. -/
theorem insert_cases (lexicon : Lexicon) (record : Record) :
    lexicon.insert record = lexicon ∨
      ∃ entry, record.entry? = some entry ∧
        entry.word ∉ lexicon.entries.map Entry.word ∧
        lexicon.insert record = ⟨lexicon.entries ++ [entry]⟩ := by
  cases stands : record.entry? with
  | none => exact .inl (insert_of_none stands)
  | some entry =>
      by_cases held : entry.word ∈ lexicon.entries.map Entry.word
      · have present := (contains_iff lexicon entry.word).mpr held
        rw [insert, stands]
        exact .inl (if_pos present)
      · exact .inr ⟨entry, rfl, held, insert_of_fresh stands held⟩

theorem insert_sound {lexicon : Lexicon} (sound : lexicon.Sound) (record : Record) :
    (lexicon.insert record).Sound := by
  rcases insert_cases lexicon record with same | ⟨entry, stands, fresh, added⟩
  · rw [same]
    exact sound
  · rw [added]
    constructor
    · rw [List.map_append, List.nodup_append]
      refine ⟨sound.distinct, List.pairwise_singleton _ _, ?_⟩
      rintro word member other only rfl
      rw [List.map_singleton, List.mem_singleton] at only
      exact fresh (only ▸ member)
    · intro other member
      rcases List.mem_append.mp member with old | new
      · exact sound.stable other old
      · rw [List.mem_singleton.mp new]
        exact Entry.entry?_record stands

theorem foldl_insert_sound (records : List Record) {lexicon : Lexicon} (sound : lexicon.Sound) :
    (records.foldl insert lexicon).Sound := by
  induction records generalizing lexicon with
  | nil => exact sound
  | cons record rest ih => exact ih (insert_sound sound record)

theorem empty_sound : empty.Sound := ⟨List.nodup_nil, fun _ member => nomatch member⟩

theorem ofRecords_sound (records : List Record) : (ofRecords records).Sound :=
  foldl_insert_sound records empty_sound

-- Induction on the entries still to be added; each is new to those before it.
theorem foldl_insert_records (entries : List Entry) (lexicon : Lexicon)
    (sound : Sound ⟨lexicon.entries ++ entries⟩) :
    (entries.map Entry.record).foldl insert lexicon = ⟨lexicon.entries ++ entries⟩ := by
  induction entries generalizing lexicon with
  | nil => rw [List.append_nil]; rfl
  | cons entry rest ih =>
      have stands : entry.record.entry? = some entry := sound.stable entry (by simp)
      have fresh : entry.word ∉ lexicon.entries.map Entry.word := by
        intro member
        have distinct := sound.distinct
        rw [List.map_append, List.map_cons] at distinct
        exact (List.nodup_append.mp distinct).2.2 _ member _ List.mem_cons_self rfl
      have added := insert_of_fresh stands fresh
      have whole : (⟨lexicon.entries ++ [entry]⟩ : Lexicon).entries ++ rest =
          lexicon.entries ++ entry :: rest := by simp
      rw [List.map_cons, List.foldl_cons, added, ih ⟨lexicon.entries ++ [entry]⟩ (whole ▸ sound),
        whole]

/-- The records of a sound lexicon build it again. -/
theorem ofRecords_records {lexicon : Lexicon} (sound : lexicon.Sound) :
    ofRecords lexicon.records = lexicon :=
  foldl_insert_records lexicon.entries empty sound

end Lexicon

end SimpleSentence
