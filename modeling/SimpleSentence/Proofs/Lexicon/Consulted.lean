import SimpleSentence.Parsing
import SimpleSentence.Proofs.Tagging
import SimpleSentence.Proofs.Text.Folding

/-!
Which entries of a lexicon a text can depend on. A text consults the lexicon on
its words in lowercase, but not on those of a closed class, and no word of a text
holds a hyphen. So the entries of hyphenated and of closed words are dead: without
them every text is tagged and judged alike. Each other entry decides the texts that
hold its word and no other.
-/

namespace SimpleSentence

def hyphen : Char := '-'

/-- A word on which a text can consult the lexicon. -/
def isConsulted (word : Text) : Bool :=
  !word.contains hyphen && !(determiners ++ pronouns ++ prepositions).contains word

theorem closedClass?_eq_none_iff (word : Text) :
    closedClass? word = none ↔ word ∉ determiners ++ pronouns ++ prepositions := by
  simp only [closedClass?, List.contains_iff_mem, List.mem_append, not_or]
  split
  · next listed => simp [listed]
  · next notDeterminer =>
      split
      · next listed => simp [listed]
      · next notPronoun =>
          split
          · next listed => simp [listed]
          · next notPreposition => simp [notDeterminer, notPronoun, notPreposition]

theorem isConsulted_iff (word : Text) :
    isConsulted word = true ↔ hyphen ∉ word ∧ closedClass? word = none := by
  rw [closedClass?_eq_none_iff]
  simp [isConsulted]

theorem isSimpleLetter_of_isWordLetter {char : Char} (letter : isWordLetter char = true) :
    isSimpleLetter char = true := Bool.or_eq_true_iff.mpr (.inl letter)

theorem Text.IsWord.hyphen_not_mem_lower {word : Text} (isWord : word.IsWord) :
    hyphen ∉ Text.lower word := by
  have letters : ∀ char ∈ word, isSimpleLetter char = true :=
    fun char member => isSimpleLetter_of_isWordLetter (isWord.2 char member)
  rw [Text.lower_of_letters letters]
  intro member
  obtain ⟨char, inside, same⟩ := List.mem_map.mp member
  have letter : isWordLetter char.toLower = true :=
    (congrFun isWordLetter_toLower char).trans (isWord.2 char inside)
  rw [same] at letter
  exact absurd letter (by decide)

/-- A text that spells a word of lowercase letters in any case is itself a word. -/
theorem Text.isWord_of_sameAscii {word lowered : Text} (isWord : lowered.IsWord)
    (same : Text.sameAscii word lowered = true) : word.IsWord := by
  have folded : Text.foldAscii word = Text.foldAscii lowered := beq_iff_eq.mp same
  constructor
  · rintro rfl
    exact isWord.1 (List.map_eq_nil_iff.mp folded.symm)
  · apply List.all_eq_true.mp
    rw [← Text.all_foldAscii isWordLetter_toLower, folded, Text.all_foldAscii isWordLetter_toLower]
    exact List.all_eq_true.mpr isWord.2

namespace Word

/-- A word between separators is all that is found. -/
theorem allIn_alone {before word after : Text}
    (front : ∀ char ∈ before, isWordLetter char = false) (isWord : word.IsWord)
    (back : ∀ char ∈ after, isWordLetter char = false) :
    allIn (before ++ word ++ after) =
      [⟨word, ⟨Text.byteLength before, Text.byteLength before + Text.byteLength word⟩⟩] := by
  have ended : ∀ char ∈ after.head?, isWordLetter char = false :=
    fun char head => back char (List.mem_of_head? head)
  have nothing (offset : Nat) : allFrom offset after = [] := by
    have passed := @allFrom_separators offset [] after back
    rwa [List.append_nil] at passed
  calc
    allIn (before ++ word ++ after)
        = allFrom (0 + Text.byteLength before) (word ++ after) := by
          rw [List.append_assoc]
          exact allFrom_separators front
    _ = _ := by rw [allFrom_run isWord ended, nothing, Nat.zero_add]

end Word

namespace Lexicon

/-- The lexicon without the entries that no text consults. -/
def consulted (lexicon : Lexicon) : Lexicon :=
  ⟨lexicon.entries.filter fun entry => isConsulted entry.word⟩

theorem lookup?_consulted (lexicon : Lexicon) {word : Text} (asked : isConsulted word = true) :
    lexicon.consulted.lookup? word = lexicon.lookup? word := by
  have kept : ∀ entry ∈ lexicon.entries, (entry.word == word) = true →
      isConsulted entry.word = true := by
    intro entry _ same
    rw [beq_iff_eq.mp same]
    exact asked
  have found : lexicon.consulted.get? word = lexicon.get? word := by
    rw [get?, get?, consulted, List.find?_filter]
    apply List.find?_congr
    intro entry member
    cases same : entry.word == word with
    | false => simp
    | true => simp [kept entry member same]
  rw [lookup?, lookup?, found]

section Agree

variable {first second : Lexicon}

theorem categoryOf_congr {word : Text}
    (agree : closedClass? (Text.lower word) = none →
      first.lookup? (Text.lower word) = second.lookup? (Text.lower word)) :
    first.categoryOf word = second.categoryOf word := by
  simp only [categoryOf]
  cases closed : closedClass? (Text.lower word) with
  | some category => rfl
  | none => simp only [agree closed]

theorem tokensFrom_congr {words : List Word}
    (agree : ∀ word ∈ words, first.categoryOf word.text = second.categoryOf word.text)
    (index : Nat) : first.tokensFrom index words = second.tokensFrom index words := by
  induction words generalizing index with
  | nil => rfl
  | cons word rest ih =>
      have later := ih fun other member => agree other (List.mem_cons_of_mem word member)
      rw [tokensFrom, tokensFrom, token, token, agree word List.mem_cons_self, later]

/-- Lexicons that answer alike on what a text asks for tag it alike. -/
theorem tag_congr {text : Text}
    (agree : ∀ word ∈ Word.textsIn text, closedClass? (Text.lower word) = none →
      first.lookup? (Text.lower word) = second.lookup? (Text.lower word)) :
    first.tag text = second.tag text := by
  have words : ∀ word ∈ Word.allIn text,
      first.categoryOf word.text = second.categoryOf word.text :=
    fun word member => categoryOf_congr (agree word.text (List.mem_map_of_mem member))
  rw [tag, tag, tokensFrom_congr words]

end Agree

theorem tag_consulted (lexicon : Lexicon) (text : Text) :
    lexicon.tag text = lexicon.consulted.tag text := by
  apply tag_congr
  intro word member unlisted
  have asked : isConsulted (Text.lower word) = true :=
    (isConsulted_iff _).mpr ⟨(Word.isWord_of_mem member).hyphen_not_mem_lower, unlisted⟩
  rw [lookup?_consulted lexicon asked]

section Sound

variable {lexicon : Lexicon} (sound : lexicon.Sound)
include sound

theorem Sound.consulted : lexicon.consulted.Sound where
  distinct := sound.distinct.sublist (List.filter_sublist.map _)
  stable entry member := sound.stable entry (List.mem_of_mem_filter member)

theorem Sound.consulted_built : lexicon.consulted.Built := by
  rw [← ofRecords_records sound.consulted]
  exact .listed _

theorem Sound.lower_word {entry : Entry} (member : entry ∈ lexicon.entries) :
    Text.lower entry.word = entry.word := by
  obtain ⟨simple, _, same⟩ := (Record.entry?_eq_some_iff _ _).mp (sound.stable entry member)
  have word : entry.word = Text.lower (Text.trim entry.record.word) := congrArg Entry.word same
  rw [word, Text.lower_lower simple]

theorem Sound.isWord_of_consulted {entry : Entry} (member : entry ∈ lexicon.consulted.entries) :
    entry.word.IsWord := by
  obtain ⟨inside, asked⟩ := List.mem_filter.mp member
  obtain ⟨some, letters⟩ := sound.lowercase inside
  refine ⟨some, fun char held => ?_⟩
  rcases letters char held with lower | rfl | rfl
  · simp [isWordLetter, Char.isAlpha, lower]
  · rfl
  · exact absurd held ((isConsulted_iff _).mp asked).1

/-- The entry of a consulted word decides the category of the word in any case. -/
theorem Sound.categoryOf_consulted {entry : Entry} (member : entry ∈ lexicon.consulted.entries)
    {word : Text} (same : Text.sameAscii word entry.word = true) :
    lexicon.categoryOf word = entry.category := by
  obtain ⟨inside, asked⟩ := List.mem_filter.mp member
  have lowered : Text.lower word = entry.word := by
    rw [← Text.lower_foldAscii, beq_iff_eq.mp same, Text.lower_foldAscii, sound.lower_word inside]
  have unlisted := ((isConsulted_iff _).mp asked).2
  have held : lexicon.lookup? entry.word = some entry.category :=
    (sound.consistent.lookup _ _).mpr ⟨entry, inside, rfl, rfl⟩
  have known := (sound.resolved inside).2.1
  simp only [categoryOf, lowered, unlisted, held]

end Sound

/-- The entries of hyphenated and of closed words change nothing; each other entry, as the word
of a text, is the one token of the text with its category; and lexicons that answer alike on what
a text asks for tag and judge it alike. -/
theorem only_consulted_entries_matter :
    (∀ (lexicon : Lexicon) (text : Text),
      lexicon.tag text = lexicon.consulted.tag text ∧
        lexicon.parse text = lexicon.consulted.parse text) ∧
      (∀ lexicon : Lexicon, lexicon.Built →
        lexicon.consulted.Built ∧
          ∀ entry ∈ lexicon.consulted.entries, ∀ before word after : Text,
            Text.sameAscii word entry.word = true →
              (∀ char ∈ before ++ after, isWordLetter char = false) →
                (lexicon.tag (before ++ word ++ after)).words =
                  [⟨word, entry.category, 0,
                    ⟨Text.byteLength before, Text.byteLength before + Text.byteLength word⟩⟩]) ∧
      ∀ (first second : Lexicon) (text : Text),
        (∀ word ∈ Word.textsIn text, closedClass? (Text.lower word) = none →
          first.lookup? (Text.lower word) = second.lookup? (Text.lower word)) →
            first.tag text = second.tag text ∧ first.parse text = second.parse text := by
  refine ⟨?_, ?_, ?_⟩
  · intro lexicon text
    have tagged := lexicon.tag_consulted text
    exact ⟨tagged, congrArg Tagged.parse tagged⟩
  · intro lexicon built
    refine ⟨built.sound.consulted_built, ?_⟩
    intro entry member before word after same separators
    obtain ⟨front, back⟩ := List.forall_mem_append.mp separators
    have isWord := Text.isWord_of_sameAscii (built.sound.isWord_of_consulted member) same
    have category := built.sound.categoryOf_consulted member same
    rw [tag, Word.allIn_alone front isWord back, tokensFrom, token, category]
    rfl
  · intro first second text agree
    have tagged := tag_congr agree
    exact ⟨tagged, congrArg Tagged.parse tagged⟩

-- A hyphenated word, a word of a closed class, and one that a text can ask for.
def mixedRecords : List Record :=
  [⟨"over-all".toList, "a.".toList⟩, ⟨"The".toList, "n.".toList⟩, ⟨"Don't".toList, "v.".toList⟩]

theorem mixedRecords_consulted :
    (ofRecords mixedRecords).Built ∧
      (ofRecords mixedRecords).consulted.entries = [⟨"don't".toList, "v.".toList, .verb⟩] ∧
      ((ofRecords mixedRecords).tag "3\u00E9-DON't\n".toList).words =
        [⟨"DON't".toList, .verb, 0, ⟨4, 9⟩⟩] ∧
      (ofRecords mixedRecords).parse "the over-all don't".toList =
        (ofRecords mixedRecords).consulted.parse "the over-all don't".toList := by
  have built : (ofRecords mixedRecords).Built := .listed mixedRecords
  have entries : (ofRecords mixedRecords).consulted.entries =
      [⟨"don't".toList, "v.".toList, .verb⟩] := by decide +kernel
  obtain ⟨dead, live, alike⟩ := only_consulted_entries_matter
  refine ⟨built, entries, ?_, ?_⟩
  · apply (live _ built).2 ⟨"don't".toList, "v.".toList, .verb⟩ ?_ "3\u00E9-".toList "DON't".toList
      "\n".toList
    · decide
    · exact (by decide : Text.Separates "3\u00E9-\n".toList).2
    · rw [entries]
      exact List.mem_singleton_self _
  · apply (alike _ _ _ ?_).2
    decide +kernel

end Lexicon

end SimpleSentence
