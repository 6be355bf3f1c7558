import SimpleSentence.Proofs.Relabelling
import SimpleSentence.Proofs.Text.Folding
import SimpleSentence.Proofs.Words

/-!
The case of ASCII letters matters nowhere. Each stage is shown to take a folded
input to the folded result: records to entries with a folded marking, a lexicon
to one with the same answers, a text to words with the same spans. The parser
commutes with folding as with every relabelling. So inputs that fold to the same
are tagged and judged alike.
-/

namespace SimpleSentence

/-- The relabelling that folds the case of words. -/
def folding : Relabelling := ⟨Text.foldAscii, id⟩

namespace Text

theorem IsWord.foldAscii {run : Text} (word : run.IsWord) : (Text.foldAscii run).IsWord := by
  refine ⟨by simpa [Text.foldAscii] using word.1, ?_⟩
  intro char member
  obtain ⟨source, inside, rfl⟩ := List.mem_map.mp member
  exact (congrFun isWordLetter_toLower source).trans (word.2 source inside)

theorem head_foldAscii {rest : Text} (ended : ∀ char ∈ rest.head?, isWordLetter char = false) :
    ∀ char ∈ (Text.foldAscii rest).head?, isWordLetter char = false := by
  cases rest with
  | nil => exact fun char member => nomatch member
  | cons first more =>
      intro char member
      obtain rfl : first.toLower = char := Option.some.inj member
      exact (congrFun isWordLetter_toLower first).trans (ended first rfl)

end Text

namespace Word

def folded (word : Word) : Word := ⟨Text.foldAscii word.text, word.span⟩

theorem allFrom_foldAscii (offset : Nat) (text : Text) :
    allFrom offset (Text.foldAscii text) = (allFrom offset text).map folded := by
  induction cut text generalizing offset with
  | nothing => rfl
  | @separator char rest separator _ ih =>
      have same : isWordLetter char.toLower = false :=
        (congrFun isWordLetter_toLower char).trans separator
      have size : char.toLower.utf8Size = char.utf8Size := congrFun utf8Size_toLower char
      have shape : Text.foldAscii (char :: rest) = char.toLower :: Text.foldAscii rest := rfl
      rw [shape, allFrom_separator same, allFrom_separator separator, size, ih]
  | @run run rest word ended _ ih =>
      rw [Text.foldAscii_append, allFrom_run word.foldAscii (Text.head_foldAscii ended),
        allFrom_run word ended, Text.byteLength_foldAscii, ih]
      rfl

end Word

/-- Records that differ in the case of ASCII letters at most. -/
def Record.SameButCase (record other : Record) : Prop :=
  Text.sameAscii record.word other.word = true ∧ Text.sameAscii record.marking other.marking = true

instance (record other : Record) : Decidable (record.SameButCase other) :=
  inferInstanceAs (Decidable (_ ∧ _))

def Token.SameButCase (token other : Token) : Prop :=
  Text.sameAscii token.text other.text = true ∧ token.category = other.category ∧
    token.index = other.index ∧ token.span = other.span

/-- Trees that are equal once the case of their leaf texts is folded. -/
def Tree.SameButCase (tree other : Tree) : Prop := folding.tree tree = folding.tree other

def Record.folded (record : Record) : Record :=
  ⟨Text.foldAscii record.word, Text.foldAscii record.marking⟩

def Entry.folded (entry : Entry) : Entry :=
  ⟨entry.word, Text.foldAscii entry.marking, entry.category⟩

theorem Record.entry?_folded (record : Record) :
    record.folded.entry? = record.entry?.map Entry.folded := by
  simp only [Record.entry?, Record.folded, Text.trim_foldAscii, isSimpleWord_foldAscii,
    Category.ofMarking_foldAscii, Text.lower_foldAscii]
  split <;> rfl

namespace Lexicon

def folded (lexicon : Lexicon) : Lexicon := ⟨lexicon.entries.map Entry.folded⟩

theorem get?_folded (lexicon : Lexicon) (word : Text) :
    lexicon.folded.get? word = (lexicon.get? word).map Entry.folded := by
  rw [get?, folded, List.find?_map]
  rfl

theorem contains_folded (lexicon : Lexicon) (word : Text) :
    lexicon.folded.contains word = lexicon.contains word := by
  rw [contains, get?_folded, Option.isSome_map]
  rfl

theorem lookup?_folded (lexicon : Lexicon) (word : Text) :
    lexicon.folded.lookup? word = lexicon.lookup? word := by
  rw [lookup?, get?_folded, Option.map_map]
  rfl

theorem insert_folded (lexicon : Lexicon) (record : Record) :
    lexicon.folded.insert record.folded = (lexicon.insert record).folded := by
  rw [insert, insert, record.entry?_folded]
  cases record.entry? with
  | none => rfl
  | some entry =>
      have present : lexicon.folded.contains entry.folded.word = lexicon.contains entry.word :=
        lexicon.contains_folded entry.word
      simp only [Option.map_some, present]
      split
      · rfl
      · simp [folded]

theorem ofRecords_folded (records : List Record) :
    ofRecords (records.map Record.folded) = (ofRecords records).folded := by
  have step : ∀ lexicon : Lexicon, (records.map Record.folded).foldl insert lexicon.folded =
      (records.foldl insert lexicon).folded := by
    induction records with
    | nil => exact fun lexicon => rfl
    | cons record rest ih =>
        intro lexicon
        rw [List.map_cons, List.foldl_cons, insert_folded, ih, List.foldl_cons]
  exact step empty

theorem categoryOf_folded (lexicon : Lexicon) (word : Text) :
    lexicon.folded.categoryOf (Text.foldAscii word) = lexicon.categoryOf word := by
  simp only [categoryOf, Text.lower_foldAscii, lookup?_folded]

theorem token_folded (lexicon : Lexicon) (index : Nat) (word : Word) :
    folding.token (lexicon.folded.token index word.folded) =
      folding.token (lexicon.token index word) := by
  simp [token, Word.folded, Relabelling.token, folding, categoryOf_folded,
    Text.foldAscii_foldAscii]

theorem tokensFrom_folded (lexicon : Lexicon) (index : Nat) (words : List Word) :
    (lexicon.folded.tokensFrom index (words.map Word.folded)).map folding.token =
      (lexicon.tokensFrom index words).map folding.token := by
  rw [tokensFrom_eq_map, tokensFrom_eq_map, List.zipIdx_map, List.map_map, List.map_map,
    List.map_map]
  exact List.map_congr_left fun numbered _ => lexicon.token_folded numbered.2 numbered.1

theorem tag_folded (lexicon : Lexicon) (text : Text) :
    folding.tagged (lexicon.folded.tag (Text.foldAscii text)) =
      folding.tagged (lexicon.tag text) := by
  have words : Word.allIn (Text.foldAscii text) = (Word.allIn text).map Word.folded :=
    Word.allFrom_foldAscii 0 text
  rw [tag, words, tag, Relabelling.tagged, Relabelling.tagged, tokensFrom_folded,
    Text.byteLength_foldAscii, List.length_map]

section SameButCase

variable {records others : List Record} {text other : Text}

theorem ofRecords_folded_eq (sameRecords : List.Forall₂ Record.SameButCase records others) :
    (ofRecords records).folded = (ofRecords others).folded := by
  have same : records.map Record.folded = others.map Record.folded := by
    induction sameRecords with
    | nil => rfl
    | cons first _ ih =>
        have word := beq_iff_eq.mp first.1
        have marking := beq_iff_eq.mp first.2
        rw [List.map_cons, List.map_cons, ih, Record.folded, Record.folded, word, marking]
  rw [← ofRecords_folded, ← ofRecords_folded, same]

theorem folded_tag_eq (sameRecords : List.Forall₂ Record.SameButCase records others)
    (sameText : Text.sameAscii text other = true) :
    folding.tagged ((ofRecords records).tag text) = folding.tagged ((ofRecords others).tag other) := by
  rw [← tag_folded, ofRecords_folded_eq sameRecords, beq_iff_eq.mp sameText, tag_folded]

theorem sameButCase_of_folded {found other : Token}
    (same : folding.token found = folding.token other) : found.SameButCase other := by
  obtain ⟨texts, category, index, span⟩ := Token.mk.inj same
  exact ⟨beq_iff_eq.mpr texts, category, index, span⟩

/-- Inputs that differ in the case of ASCII letters only, in the text as in the records, give
tokens that differ in the case of their texts only and are judged alike. -/
theorem case_ignored (sameRecords : List.Forall₂ Record.SameButCase records others)
    (sameText : Text.sameAscii text other = true) :
    List.Forall₂ Token.SameButCase
        ((ofRecords records).tag text).tokens ((ofRecords others).tag other).tokens ∧
      JudgedAlike Tree.SameButCase Token.SameButCase
        ((ofRecords records).parse text) ((ofRecords others).parse other) := by
  have folded := folded_tag_eq sameRecords sameText
  constructor
  · exact (folding.tokens_alike folded).imp fun _ _ => sameButCase_of_folded
  · exact (folding.parse_alike folded).imp (fun _ _ => id) fun _ _ => sameButCase_of_folded

end SameButCase

-- The Kelvin sign is no ASCII letter and stays, and blanks and quotes do not hide the case.
def gladlyRecords : List Record :=
  [⟨" Sings ".toList, "\"V. i.\"".toList⟩, ⟨"\u212Aey".toList, "n.".toList⟩,
    ⟨"old".toList, "a.".toList⟩, ⟨"OLD".toList, "n.".toList⟩]

def gladlyOthers : List Record :=
  [⟨" sINGS ".toList, "\"v. I.\"".toList⟩, ⟨"\u212AEY".toList, "N.".toList⟩,
    ⟨"OLD".toList, "A.".toList⟩, ⟨"old".toList, "n.".toList⟩]

theorem gladly_case_ignored :
    List.Forall₂ Record.SameButCase gladlyRecords gladlyOthers ∧
      Text.sameAscii "The old man sings gladly".toList "tHE OLD mAN SingS gladLY".toList = true ∧
      JudgedAlike Tree.SameButCase Token.SameButCase
        ((ofRecords gladlyRecords).parse "The old man sings gladly".toList)
        ((ofRecords gladlyOthers).parse "tHE OLD mAN SingS gladLY".toList) := by
  have sameRecords : List.Forall₂ Record.SameButCase gladlyRecords gladlyOthers := by
    decide +kernel
  have sameText : Text.sameAscii "The old man sings gladly".toList
      "tHE OLD mAN SingS gladLY".toList = true := by decide +kernel
  exact ⟨sameRecords, sameText, (case_ignored sameRecords sameText).2⟩

end Lexicon

end SimpleSentence
