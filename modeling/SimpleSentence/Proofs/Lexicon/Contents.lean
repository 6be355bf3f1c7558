import Mathlib.Data.List.Nodup
import SimpleSentence.Proofs.Lexicon.RoundTrip

/-!
What a lexicon holds. From a list of records it holds one entry for each record
that leads: an acceptable one with no acceptable record about the same word
before it. A record that is passed over blocks nothing, so only acceptable
records count as being before. Every lexicon comes from records, hence its
entries are in normal form, each found by its own word, and the lexicon can be
built again from what it holds.
-/

namespace SimpleSentence

namespace Category

theorem ofMarking_mem (marking : Text) : ofMarking marking ∈ unknown :: signs.map Prod.fst := by
  simp only [ofMarking]
  split
  · next row found =>
      exact List.mem_cons_of_mem _ (List.mem_map_of_mem (List.mem_of_find?_eq_some found))
  · exact List.mem_cons_self

/-- A marking names no category that the table does not list. -/
theorem ofMarking_ne {category : Category} (unlisted : category ∉ unknown :: signs.map Prod.fst)
    (marking : Text) : ofMarking marking ≠ category := by
  intro equal
  exact unlisted (equal ▸ ofMarking_mem marking)

end Category

namespace Record

/-- A record from which an entry can be made. -/
def Acceptable (record : Record) : Prop :=
  Text.trim record.word ≠ [] ∧
    (∀ char ∈ Text.trim record.word, char.isAlpha = true ∨ char = '\'' ∨ char = '-') ∧
    Category.ofMarking record.marking ≠ .unknown

theorem acceptable_iff (record : Record) :
    record.Acceptable ↔ isSimpleWord (Text.trim record.word) = true ∧
      Category.ofMarking record.marking ≠ .unknown := by
  simp [Acceptable, isSimpleWord_iff, isSimpleLetter, and_assoc, or_assoc]

instance (record : Record) : Decidable record.Acceptable :=
  decidable_of_iff _ record.acceptable_iff.symm

/-- The word that a record is about. -/
def key (record : Record) : Text := Text.lower (Text.trim record.word)

def entry (record : Record) : Entry :=
  ⟨record.key, Text.trim record.marking, Category.ofMarking (Text.trim record.marking)⟩

/-- An acceptable record that no acceptable one precedes with the same word. -/
def Leads (record : Record) (earlier : List Record) : Prop :=
  record.Acceptable ∧ ∀ other ∈ earlier, other.Acceptable → other.key ≠ record.key

instance (record : Record) (earlier : List Record) : Decidable (record.Leads earlier) :=
  inferInstanceAs (Decidable (_ ∧ _))

/-- The records that lead, in order; the number beside a record counts those before it. -/
def leading (records : List Record) : List Record :=
  (records.zipIdx.filter fun numbered => numbered.1.Leads (records.take numbered.2)).map Prod.fst

theorem leading_append_singleton (records : List Record) (last : Record) :
    leading (records ++ [last]) =
      leading records ++ if last.Leads records then [last] else [] := by
  have before : ∀ numbered ∈ records.zipIdx,
      decide (numbered.1.Leads ((records ++ [last]).take numbered.2)) =
        decide (numbered.1.Leads (records.take numbered.2)) := by
    intro numbered member
    have bound := (List.mem_zipIdx' member).1
    rw [List.take_append_of_le_length (Nat.le_of_lt bound)]
  unfold leading
  rw [List.zipIdx_append, List.filter_append, List.filter_congr before, List.map_append]
  congr 1
  by_cases leads : last.Leads records <;> simp [leads]

theorem entry?_eq (record : Record) :
    record.entry? = if record.Acceptable then some record.entry else none := by
  have category := Category.ofMarking_trim record.marking
  simp only [Record.entry?, entry, key, category, acceptable_iff, Bool.and_eq_true, bne_iff_ne]

end Record

namespace Lexicon

theorem insert_entries (lexicon : Lexicon) (record : Record) :
    (lexicon.insert record).entries = lexicon.entries ++
      if record.Acceptable ∧ record.key ∉ lexicon.entries.map Entry.word then [record.entry]
      else [] := by
  by_cases acceptable : record.Acceptable
  · have stands : record.entry? = some record.entry := by rw [record.entry?_eq, if_pos acceptable]
    by_cases held : record.key ∈ lexicon.entries.map Entry.word
    · have present : lexicon.contains record.entry.word = true := (contains_iff _ _).mpr held
      rw [insert, stands]
      simp [acceptable, held, present]
    · rw [insert_of_fresh stands held]
      simp [acceptable, held]
  · have nothing : record.entry? = none := by rw [record.entry?_eq, if_neg acceptable]
    rw [insert_of_none nothing]
    simp [acceptable]

theorem ofRecords_append_singleton (records : List Record) (last : Record) :
    ofRecords (records ++ [last]) = (ofRecords records).insert last := by
  rw [ofRecords, List.foldl_append]
  rfl

/-- A word is held exactly when some acceptable record is about it. -/
theorem mem_words_ofRecords (records : List Record) (word : Text) :
    word ∈ (ofRecords records).entries.map Entry.word ↔
      ∃ record ∈ records, record.Acceptable ∧ record.key = word := by
  induction records using List.reverseRecOn with
  | nil => simp [ofRecords, empty]
  | append_singleton records last ih =>
      rw [ofRecords_append_singleton, insert_entries, List.map_append, List.mem_append, ih]
      constructor
      · rintro (⟨record, member, acceptable, same⟩ | added)
        · exact ⟨record, List.mem_append_left _ member, acceptable, same⟩
        · split at added
          · next new =>
              have same : word = last.key := by simpa [Record.entry] using added
              exact ⟨last, by simp, new.1, same.symm⟩
          · cases added
      · rintro ⟨record, member, acceptable, rfl⟩
        rcases List.mem_append.mp member with old | new
        · exact .inl ⟨record, old, acceptable, rfl⟩
        · obtain rfl := List.mem_singleton.mp new
          by_cases held : record.key ∈ (ofRecords records).entries.map Entry.word
          · exact .inl (ih.mp held)
          · rw [if_pos ⟨acceptable, held⟩]
            exact .inr (List.mem_singleton_self _)

theorem leads_iff (records : List Record) (last : Record) :
    last.Leads records ↔
      last.Acceptable ∧ last.key ∉ (ofRecords records).entries.map Entry.word := by
  rw [mem_words_ofRecords]
  simp [Record.Leads]

/-- One entry for each record that leads, in the order of the records. -/
theorem entries_ofRecords (records : List Record) :
    (ofRecords records).entries = (Record.leading records).map Record.entry := by
  induction records using List.reverseRecOn with
  | nil => rfl
  | append_singleton records last ih =>
      have leads := leads_iff records last
      rw [ofRecords_append_singleton, insert_entries, Record.leading_append_singleton,
        List.map_append, ← ih]
      by_cases new : last.Leads records
      · rw [if_pos new, if_pos (leads.mp new)]
        rfl
      · rw [if_neg new, if_neg (mt leads.mpr new)]
        rfl

theorem entries_insert_extend (lexicon : Lexicon) (record : Record) :
    lexicon.entries <+: (lexicon.insert record).entries := by
  rw [insert_entries]
  exact List.prefix_append _ _

theorem entries_foldl_extend (records : List Record) (lexicon : Lexicon) :
    lexicon.entries <+: (records.foldl insert lexicon).entries := by
  induction records generalizing lexicon with
  | nil => exact List.prefix_rfl
  | cons record rest ih => exact (lexicon.entries_insert_extend record).trans (ih _)

theorem entries_ofRecords_append (first second : List Record) :
    (ofRecords first).entries <+: (ofRecords (first ++ second)).entries := by
  rw [ofRecords, ofRecords, List.foldl_append]
  exact entries_foldl_extend second _

/-- A lexicon whose entries are in normal form, distinct, and all that its look-ups tell. -/
structure Consistent (lexicon : Lexicon) : Prop where
  distinct : (lexicon.entries.map Entry.word).Nodup
  lowercase : ∀ entry ∈ lexicon.entries, entry.word ≠ [] ∧
    ∀ char ∈ entry.word, char.isLower = true ∨ char = '\'' ∨ char = '-'
  resolved : ∀ entry ∈ lexicon.entries, entry.category = Category.ofMarking entry.marking ∧
    entry.category ≠ .unknown ∧ entry.category ≠ .determiner ∧ entry.category ≠ .endOfInput
  get : ∀ word entry, lexicon.get? word = some entry ↔
    entry ∈ lexicon.entries ∧ entry.word = word
  lookup : ∀ word category, lexicon.lookup? word = some category ↔
    ∃ entry ∈ lexicon.entries, entry.word = word ∧ entry.category = category
  contains : ∀ word, lexicon.contains word = true ↔ ∃ entry ∈ lexicon.entries, entry.word = word
  rebuilt : ofRecords lexicon.records = lexicon

section Sound

variable {lexicon : Lexicon} (sound : lexicon.Sound)
include sound

theorem Sound.lowercase {entry : Entry} (member : entry ∈ lexicon.entries) :
    entry.word ≠ [] ∧ ∀ char ∈ entry.word, char.isLower = true ∨ char = '\'' ∨ char = '-' := by
  obtain ⟨simple, _, same⟩ := (Record.entry?_eq_some_iff _ _).mp (sound.stable entry member)
  have word : entry.word = Text.lower (Text.trim entry.record.word) := congrArg Entry.word same
  obtain ⟨again, small⟩ := isSimpleWord_lower simple
  rw [← word] at again small
  obtain ⟨some, letters⟩ := (isSimpleWord_iff _).mp again
  refine ⟨some, fun char inside => ?_⟩
  rcases (isSimpleLetter_iff char).mp (letters char inside) with upper | other
  · exact absurd upper (small char inside)
  · exact other

theorem Sound.resolved {entry : Entry} (member : entry ∈ lexicon.entries) :
    entry.category = Category.ofMarking entry.marking ∧
      entry.category ≠ .unknown ∧ entry.category ≠ .determiner ∧ entry.category ≠ .endOfInput := by
  obtain ⟨_, known, same⟩ := (Record.entry?_eq_some_iff _ _).mp (sound.stable entry member)
  have category : entry.category = Category.ofMarking entry.marking := congrArg Entry.category same
  rw [category]
  exact ⟨rfl, known, Category.ofMarking_ne (by decide) _, Category.ofMarking_ne (by decide) _⟩

theorem Sound.get?_eq_some_iff (word : Text) (entry : Entry) :
    lexicon.get? word = some entry ↔ entry ∈ lexicon.entries ∧ entry.word = word := by
  constructor
  · intro found
    exact ⟨List.mem_of_find?_eq_some found, by simpa using List.find?_some found⟩
  · rintro ⟨member, rfl⟩
    have present : (lexicon.get? entry.word).isSome = true :=
      (contains_iff lexicon entry.word).mpr (List.mem_map_of_mem member)
    obtain ⟨found, equal⟩ := Option.isSome_iff_exists.mp present
    have inside := List.mem_of_find?_eq_some equal
    have same : found.word = entry.word := by simpa using List.find?_some equal
    rw [equal, List.inj_on_of_nodup_map sound.distinct inside member same]

theorem Sound.consistent : lexicon.Consistent where
  distinct := sound.distinct
  lowercase _ member := sound.lowercase member
  resolved _ member := sound.resolved member
  get := sound.get?_eq_some_iff
  lookup word category := by
    simp only [lookup?, Option.map_eq_some_iff, sound.get?_eq_some_iff, and_assoc]
  contains word := by simp [contains_iff]
  rebuilt := ofRecords_records sound

end Sound

/-- A lexicon of records holds the records that lead and grows only at its end; and every
lexicon, however it comes about, is consistent. -/
theorem holds_leading_records :
    (∀ records, (ofRecords records).entries = (Record.leading records).map Record.entry) ∧
      (∀ first second, (ofRecords first).entries <+: (ofRecords (first ++ second)).entries) ∧
      ∀ lexicon : Lexicon, lexicon.Built → lexicon.Consistent :=
  ⟨entries_ofRecords, entries_ofRecords_append, fun _ built => built.sound.consistent⟩

-- An unknown marking blocks nothing, case does not tell words apart, a digit is no letter.
def dogRecords : List Record :=
  [⟨"dog".toList, "x.".toList⟩, ⟨" Dog\t".toList, "\"n.\" ".toList⟩, ⟨"R2".toList, "n.".toList⟩,
    ⟨"DOG".toList, "v.".toList⟩, ⟨"Ate".toList, "imp.".toList⟩]

theorem dogRecords_held :
    (ofRecords dogRecords).entries =
        [⟨"dog".toList, "\"n.\"".toList, .noun⟩, ⟨"ate".toList, "imp.".toList, .verb⟩] ∧
      (ofRecords dogRecords).Built ∧ (ofRecords dogRecords).Consistent := by
  have leading : Record.leading dogRecords =
      [⟨" Dog\t".toList, "\"n.\" ".toList⟩, ⟨"Ate".toList, "imp.".toList⟩] := by decide +kernel
  have built : (ofRecords dogRecords).Built := .listed dogRecords
  refine ⟨?_, built, holds_leading_records.2.2 _ built⟩
  rw [holds_leading_records.1, leading]
  decide +kernel

end Lexicon

end SimpleSentence
