import Mathlib.Data.List.Basic
import SimpleSentence.Proofs.Words

/-!
The words of a text are its longest runs of letters. Every text is divided in one way
into runs of letters and what stands before, between and behind them, with something
between any two. The words found in a text are the runs of its division, in order, and
the span of each counts the bytes in front of the run and up to its end.
-/

namespace SimpleSentence

-- A run of letters and what stands behind it.
structure Stretch where
  word : Text
  gap : Text
  deriving DecidableEq, Repr

def Stretch.text (stretch : Stretch) : Text := stretch.word ++ stretch.gap

/-- Runs of letters with separators behind them; no separator may be missing but the last. -/
structure Alternates (stretches : List Stretch) : Prop where
  words : ∀ stretch ∈ stretches, stretch.word.IsWord
  gaps : ∀ stretch ∈ stretches, ∀ char ∈ stretch.gap, isWordLetter char = false
  apart : ∀ stretch ∈ stretches.dropLast, stretch.gap ≠ []

structure Division where
  lead : Text
  stretches : List Stretch
  separates : ∀ char ∈ lead, isWordLetter char = false
  alternates : Alternates stretches

namespace Division

def text (division : Division) : Text :=
  division.lead ++ division.stretches.flatMap Stretch.text

def words (division : Division) : List Text := division.stretches.map Stretch.word

/-- The text in front of the word at a place. -/
def before (division : Division) (place : Nat) : Text :=
  division.lead ++ (division.stretches.take place).flatMap Stretch.text

/-- The bytes that the words take. -/
def spans (division : Division) : List Span :=
  division.stretches.mapIdx fun place stretch =>
    ⟨Text.byteLength (division.before place),
      Text.byteLength (division.before place ++ stretch.word)⟩

theorem eq_of_parts {division other : Division} (lead : division.lead = other.lead)
    (stretches : division.stretches = other.stretches) : division = other := by
  cases division
  cases other
  obtain rfl := lead
  obtain rfl := stretches
  rfl

end Division

section Alternates

variable {first : Stretch} {rest stretches others : List Stretch}

theorem Alternates.tail (alternates : Alternates (first :: rest)) : Alternates rest where
  words stretch member := alternates.words stretch (List.mem_cons_of_mem first member)
  gaps stretch member := alternates.gaps stretch (List.mem_cons_of_mem first member)
  apart stretch member := by
    cases rest with
    | nil => cases member
    | cons second more =>
        exact alternates.apart stretch (List.mem_cons_of_mem first member)

theorem Alternates.begins (alternates : Alternates (first :: rest)) :
    ∃ letter more, (first :: rest).flatMap Stretch.text = letter :: more ∧
      isWordLetter letter = true := by
  obtain ⟨some, letters⟩ := alternates.words first List.mem_cons_self
  obtain ⟨letter, more, shape⟩ := List.exists_cons_of_ne_nil some
  refine ⟨letter, more ++ first.gap ++ rest.flatMap Stretch.text, ?_, ?_⟩
  · rw [List.flatMap_cons, Stretch.text, shape]
    rfl
  · exact letters letter (by rw [shape]; exact List.mem_cons_self)

/-- What goes on with runs begins with a letter, if it goes on. -/
theorem Alternates.head_letter (alternates : Alternates stretches) :
    ∀ char ∈ (stretches.flatMap Stretch.text).head?, isWordLetter char = true := by
  cases stretches with
  | nil => nofun
  | cons first rest =>
      obtain ⟨letter, more, shape, isLetter⟩ := alternates.begins
      rw [shape]
      rintro _ ⟨⟩
      exact isLetter

-- A missing separator is the last one, and nothing stands behind it.
theorem Alternates.ended (alternates : Alternates (first :: rest)) :
    ∀ char ∈ (first.gap ++ rest.flatMap Stretch.text).head?, isWordLetter char = false := by
  have gap := alternates.gaps first List.mem_cons_self
  cases rest with
  | nil =>
      rw [List.flatMap_nil, List.append_nil]
      exact fun char head => gap char (List.mem_of_mem_head? head)
  | cons second more =>
      have separates : first.gap.Separates := ⟨alternates.apart first List.mem_cons_self, gap⟩
      exact separates.head _

/-- What is no letter goes on up to the next run. -/
theorem lead_unique {lead other : Text} (separates : ∀ char ∈ lead, isWordLetter char = false)
    (otherSeparates : ∀ char ∈ other, isWordLetter char = false)
    (alternates : Alternates stretches) (otherAlternates : Alternates others)
    (same : lead ++ stretches.flatMap Stretch.text = other ++ others.flatMap Stretch.text) :
    lead = other ∧ stretches.flatMap Stretch.text = others.flatMap Stretch.text := by
  refine @Text.run_unique (fun char => !isWordLetter char) _ _ _ _ ?_ ?_ ?_ ?_ same
  · exact fun char member => by rw [separates char member, Bool.not_false]
  · exact fun char member => by rw [otherSeparates char member, Bool.not_false]
  · exact fun char head => by rw [alternates.head_letter char head, Bool.not_true]
  · exact fun char head => by rw [otherAlternates.head_letter char head, Bool.not_true]

theorem Alternates.unique (alternates : Alternates stretches) (otherAlternates : Alternates others)
    (same : stretches.flatMap Stretch.text = others.flatMap Stretch.text) :
    stretches = others := by
  induction stretches generalizing others with
  | nil =>
      cases others with
      | nil => rfl
      | cons other more =>
          obtain ⟨letter, behind, shape, _⟩ := otherAlternates.begins
          cases same.trans shape
  | cons first rest ih =>
      cases others with
      | nil =>
          obtain ⟨letter, behind, shape, _⟩ := alternates.begins
          cases same.symm.trans shape
      | cons other more =>
          simp only [List.flatMap_cons, Stretch.text, List.append_assoc] at same
          obtain ⟨word, behind⟩ := Text.run_unique
            (alternates.words first List.mem_cons_self).2
            (otherAlternates.words other List.mem_cons_self).2
            alternates.ended otherAlternates.ended same
          obtain ⟨gap, later⟩ := lead_unique (alternates.gaps first List.mem_cons_self)
            (otherAlternates.gaps other List.mem_cons_self) alternates.tail otherAlternates.tail
            behind
          have alike : first = other := congrArg₂ Stretch.mk word gap
          rw [alike, ih alternates.tail otherAlternates.tail later]

/-- The words of runs in a row, each counted from the bytes in front of it. -/
theorem Word.allFrom_stretches (alternates : Alternates stretches) (offset : Nat) :
    allFrom offset (stretches.flatMap Stretch.text) =
      stretches.mapIdx fun place stretch =>
        let start := offset + Text.byteLength ((stretches.take place).flatMap Stretch.text)
        ⟨stretch.word, ⟨start, start + Text.byteLength stretch.word⟩⟩ := by
  induction stretches generalizing offset with
  | nil => rfl
  | cons first rest ih =>
      rw [List.flatMap_cons, Stretch.text, List.append_assoc,
        allFrom_run (alternates.words first List.mem_cons_self) alternates.ended,
        allFrom_separators (alternates.gaps first List.mem_cons_self), ih alternates.tail,
        List.mapIdx_cons]
      simp [Stretch.text, Text.byteLength_append, Text.byteLength, Nat.add_assoc]

end Alternates

namespace Division

theorem exists_division (text : Text) : ∃ division : Division, division.text = text := by
  induction Word.cut text with
  | nothing => exact ⟨⟨[], [], nofun, ⟨nofun, nofun, nofun⟩⟩, rfl⟩
  | separator separator _ ih =>
      obtain ⟨⟨lead, stretches, separates, alternates⟩, rfl⟩ := ih
      exact ⟨⟨_ :: lead, stretches, List.forall_mem_cons.mpr ⟨separator, separates⟩, alternates⟩,
        rfl⟩
  | @run run rest word ended _ ih =>
      -- What led to the first run of the rest is now the gap behind the new run.
      obtain ⟨⟨lead, stretches, separates, alternates⟩, rfl⟩ := ih
      refine ⟨⟨[], ⟨run, lead⟩ :: stretches, nofun, ?_, ?_, ?_⟩, ?_⟩
      · exact List.forall_mem_cons.mpr ⟨word, alternates.words⟩
      · exact List.forall_mem_cons.mpr ⟨separates, alternates.gaps⟩
      · cases stretches with
        | nil => nofun
        | cons second more =>
            refine List.forall_mem_cons.mpr ⟨?_, alternates.apart⟩
            rintro rfl
            obtain ⟨letter, behind, shape, isLetter⟩ := alternates.begins
            rw [ended letter (by rw [Division.text, List.nil_append, shape]; rfl)] at isLetter
            cases isLetter
      · simp [Division.text, Stretch.text]

theorem unique {division other : Division} (same : division.text = other.text) :
    division = other := by
  obtain ⟨lead, behind⟩ := lead_unique division.separates other.separates division.alternates
    other.alternates same
  exact eq_of_parts lead (division.alternates.unique other.alternates behind)

theorem allIn_text (division : Division) :
    Word.allIn division.text =
      division.stretches.mapIdx fun place stretch =>
        ⟨stretch.word, ⟨Text.byteLength (division.before place),
          Text.byteLength (division.before place ++ stretch.word)⟩⟩ := by
  have found := Word.allFrom_stretches division.alternates (Text.byteLength division.lead)
  calc
    Word.allIn division.text
        = Word.allFrom (0 + Text.byteLength division.lead)
            (division.stretches.flatMap Stretch.text) := Word.allFrom_separators division.separates
    _ = _ := by
      rw [Nat.zero_add, found]
      simp [before, Text.byteLength_append, Nat.add_assoc]

/-- Every text has one division, and the words of a text are those of its division: their spans
are the bytes of its runs, from one character's start to another's, and their texts the runs. -/
theorem words_of_division :
    (∀ text : Text, ∃! division : Division, division.text = text) ∧
      ∀ division : Division,
        (Word.allIn division.text).map Word.span = division.spans ∧
        Word.textsIn division.text = division.words ∧
        ∀ word ∈ Word.allIn division.text, word.span.Holds division.text word.text := by
  constructor
  · intro text
    obtain ⟨division, rfl⟩ := exists_division text
    exact ⟨division, rfl, fun other same => unique same⟩
  · intro division
    refine ⟨?_, ?_, fun word => Word.holds_of_mem⟩
    · apply List.ext_getElem?
      intro place
      rw [allIn_text, spans, List.getElem?_map, List.getElem?_mapIdx, List.getElem?_mapIdx,
        Option.map_map]
      rfl
    · apply List.ext_getElem?
      intro place
      rw [Word.textsIn, allIn_text, words, List.getElem?_map, List.getElem?_mapIdx,
        List.getElem?_map, Option.map_map]
      rfl

-- Separators of two, three and four bytes, and a word at the very end.
example :
    Word.allIn "\u00C9 don't\u20AC3x\uD7FF😀'".toList =
      [⟨"don't".toList, ⟨3, 8⟩⟩, ⟨"x".toList, ⟨12, 13⟩⟩, ⟨"'".toList, ⟨20, 21⟩⟩] := by
  decide +kernel

end Division

end SimpleSentence
