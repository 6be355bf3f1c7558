import SimpleSentence.Proofs.Text.Printed
import SimpleSentence.Proofs.Trimming
import SimpleSentence.Report.Verdict

/-!
What fits the columns of a report. The column of tags is always narrow enough, so
there is a table exactly if no word is longer than a column can be wide, whatever
the palette. A report on a text needs its table and nothing else that could be too
wide: the trees that are drawn below it are only a few levels deep.
-/

namespace SimpleSentence

open Text (PadWidth padLimit)

/-- No word of the text is longer than a column can be wide. -/
def Text.Narrow (text : Text) : Prop := ∀ word ∈ Word.textsIn text, word.length ≤ padLimit

instance (text : Text) : Decidable text.Narrow :=
  inferInstanceAs (Decidable (∀ word ∈ Word.textsIn text, word.length ≤ padLimit))

theorem Text.narrow_trim (text : Text) : (Text.trim text).Narrow ↔ text.Narrow := by
  rw [Narrow, Word.textsIn_trim, Narrow]

namespace Report

/-! ### The widths of the columns -/

theorem foldl_max_le_iff {widths : List Nat} {start limit : Nat} :
    widths.foldl max start ≤ limit ↔ start ≤ limit ∧ ∀ width ∈ widths, width ≤ limit := by
  induction widths generalizing start with
  | nil => simp
  | cons width rest ih =>
      rw [List.foldl_cons, ih, Nat.max_le, List.forall_mem_cons, and_assoc]

theorem tagWidth_le (tokens : List Token) : tagWidth tokens ≤ padLimit := by
  apply foldl_max_le_iff.mpr
  refine ⟨by decide, ?_⟩
  intro width member
  obtain ⟨token, _, rfl⟩ := List.mem_map.mp member
  cases token.category <;> decide

theorem wordWidth_le_iff (tokens : List Token) :
    wordWidth tokens ≤ padLimit ↔ ∀ token ∈ tokens, Text.byteLength token.text ≤ padLimit := by
  rw [wordWidth, columnWidth, foldl_max_le_iff, List.forall_mem_map]
  exact and_iff_right (by decide)

section Table

variable {palette : Palette} {tokens : List Token} {table : Text}

theorem tagTable?_narrow (palette : Palette) (narrow : wordWidth tokens ≤ padLimit) :
    tagTable? palette tokens =
      some (tagRows palette ⟨wordWidth tokens, narrow⟩ ⟨tagWidth tokens, tagWidth_le tokens⟩
        tokens) := by
  rw [tagTable?, PadWidth.of?_bounded narrow, PadWidth.of?_bounded (tagWidth_le tokens)]

theorem tagTable?_wide (palette : Palette) (wide : padLimit < wordWidth tokens) :
    tagTable? palette tokens = none := by
  rw [tagTable?, PadWidth.of?_eq_none wide]

/-- A table that is there has columns of the widths that its tokens ask for. -/
theorem tagTable?_eq_some (made : tagTable? palette tokens = some table) :
    ∃ words tags : PadWidth, words.columns = wordWidth tokens ∧ tags.columns = tagWidth tokens ∧
      table = tagRows palette words tags tokens := by
  rcases Nat.lt_or_ge padLimit (wordWidth tokens) with wide | narrow
  · rw [tagTable?_wide palette wide] at made
    cases made
  · rw [tagTable?_narrow palette narrow] at made
    exact ⟨_, _, rfl, rfl, (Option.some.inj made).symm⟩

end Table

/-! ### Tables and reports of texts -/

section Text

variable (lexicon : Lexicon) {text : Text}

theorem wordWidth_tag_le_iff : wordWidth (lexicon.tag text).words ≤ padLimit ↔ text.Narrow := by
  have texts : (lexicon.tag text).words.map Token.text = Word.textsIn text :=
    Lexicon.map_tokensFrom (fun _ _ => rfl) 0 (Word.allIn text)
  have lengths : (∀ word ∈ Word.textsIn text, Text.byteLength word ≤ padLimit) ↔ text.Narrow := by
    refine forall₂_congr fun word member => ?_
    rw [Text.byteLength_printed (Word.isWord_of_mem member).printed]
  rw [wordWidth_le_iff, ← lengths, ← texts, List.forall_mem_map]

theorem tagTable?_eq_none_iff (palette : Palette) :
    tagTable? palette (lexicon.tag text).words = none ↔ ¬ text.Narrow := by
  rw [← wordWidth_tag_le_iff lexicon, Nat.not_le]
  constructor
  · intro missing
    by_contra narrow
    rw [tagTable?_narrow palette (Nat.not_lt.mp narrow)] at missing
    cases missing
  · exact tagTable?_wide palette

theorem exists_tagTable (palette : Palette) (narrow : text.Narrow) :
    ∃ table, tagTable? palette (lexicon.tag text).words = some table :=
  ⟨_, tagTable?_narrow palette ((wordWidth_tag_le_iff lexicon).mpr narrow)⟩

theorem ofAnalysis?_eq_some {palette : Palette} {table : Text}
    (made : tagTable? palette (lexicon.tag text).words = some table) :
    ofAnalysis? palette (lexicon.analyse text) =
      some (table ++ '\n' :: verdict palette (lexicon.analyse text)) := by
  have found : tagTable? palette (lexicon.analyse text).tagged.words = some table := made
  rw [ofAnalysis?, found, Option.map_some]

theorem ofAnalysis?_eq_none_iff (palette : Palette) :
    ofAnalysis? palette (lexicon.analyse text) = none ↔ ¬ text.Narrow := by
  rw [ofAnalysis?, Option.map_eq_none_iff]
  exact tagTable?_eq_none_iff lexicon palette

theorem narrow_of_trim_nil (nothing : Text.trim text = []) : text.Narrow := by
  rw [← Text.narrow_trim, nothing]
  exact fun word member => nomatch member

/-- Only a text that is not narrow makes a file without a report. -/
theorem ofFile?_eq_none_iff (palette : Palette) (name : Text) :
    ofFile? palette lexicon name text = none ↔ ¬ text.Narrow := by
  by_cases nothing : Text.trim text = []
  · have made : ofFile? palette lexicon name text ≠ none := by
      rw [ofFile?, nothing]
      exact Option.some_ne_none _
    exact iff_of_false made (not_not.mpr (narrow_of_trim_nil nothing))
  · rw [ofFile?, if_neg (by simpa using nothing), Option.map_eq_none_iff,
      ofAnalysis?_eq_none_iff, Text.narrow_trim]

theorem exists_ofFile (palette : Palette) (name : Text) (narrow : text.Narrow) :
    ∃ report, ofFile? palette lexicon name text = some report :=
  Option.ne_none_iff_exists'.mp (mt (ofFile?_eq_none_iff lexicon palette name).mp
    (not_not.mpr narrow))

end Text

/-! ### The depth of the trees -/

/-- The levels that a phrase takes at most. -/
def height : PhraseKind → Nat
  | .sentence => 5
  | .verbPhrase => 4
  | .prepPhrase => 3
  | .nounPhrase => 2

theorem depthOf_le {trees : List Tree} {bound : Nat} (within : ∀ tree ∈ trees, tree.depth ≤ bound) :
    Tree.depthOf trees ≤ bound := by
  induction trees with
  | nil => exact Nat.zero_le bound
  | cons first rest ih =>
      obtain ⟨own, later⟩ := List.forall_mem_cons.mp within
      exact Nat.max_le.mpr ⟨own, ih later⟩

theorem depthOf_leaves (tokens : List Token) : Tree.depthOf (tokens.map Token.leaf) ≤ 1 := by
  apply depthOf_le
  intro tree member
  obtain ⟨token, _, rfl⟩ := List.mem_map.mp member
  exact Nat.le_refl 1

theorem depth_of_derives {kind : PhraseKind} {words : List Token} {tree : Tree}
    (derived : Derives kind words tree) : tree.depth ≤ height kind := by
  induction derived with
  | pronoun isPronoun => exact Nat.add_le_add_left (depthOf_leaves [_]) 1
  | nominal isDeterminer areAdjectives isNoun => exact Nat.add_le_add_left (depthOf_leaves _) 1
  | @prep word object isPreposition derived within =>
      have children := @depthOf_le [word.leaf, object.tree] 2 (by
        simp only [List.forall_mem_cons]
        exact ⟨Nat.le_succ 1, within, nofun⟩)
      exact Nat.add_le_add_left children 1
  | @verbal verb object modifiers isVerb objectDerived modifiersDerived objectWithin
      modifiersWithin =>
      have parts : ∀ tree ∈ (object.toList ++ modifiers).map Derivation.tree, tree.depth ≤ 3 := by
        intro tree member
        obtain ⟨part, inside, rfl⟩ := List.mem_map.mp member
        rcases List.mem_append.mp inside with inObject | inModifiers
        · exact Nat.le_succ_of_le (objectWithin part (Option.mem_toList.mp inObject))
        · exact modifiersWithin part inModifiers
      have leaf : verb.leaf.depth ≤ 3 := Nat.le_add_left 1 2
      have children := depthOf_le (List.forall_mem_cons.mpr ⟨leaf, parts⟩)
      exact Nat.add_le_add_left children 1
  | @sentence subject predicate subjectDerived predicateDerived subjectWithin predicateWithin =>
      have children := @depthOf_le [subject.tree, predicate.tree] 4 (by
        simp only [List.forall_mem_cons]
        exact ⟨Nat.le_trans subjectWithin (by decide), predicateWithin, nofun⟩)
      exact Nat.add_le_add_left children 1

/-- No outline that a report shows is indented by more than eight columns. -/
theorem depth_of_parse {lexicon : Lexicon} {text : Text} {tree : Tree}
    (parsed : lexicon.parse text = .ok tree) : tree.depth ≤ 5 :=
  depth_of_derives (Tagged.parse_sound parsed)

/-! ### A text that is not narrow -/

/-- A word that is one letter too long for a column. -/
def longWord : Text := List.replicate (padLimit + 1) 'a'

theorem isWord_longWord : longWord.IsWord := by
  constructor
  · exact List.ne_nil_of_length_pos (by rw [longWord, List.length_replicate]; exact Nat.succ_pos _)
  · intro char member
    rw [List.eq_of_mem_replicate member]
    decide

theorem not_narrow_longWord : ¬ longWord.Narrow := by
  intro narrow
  have alone : Word.textsIn (longWord ++ []) = longWord :: Word.textsIn [] :=
    Word.textsIn_run isWord_longWord (by simp)
  rw [List.append_nil] at alone
  have short := narrow longWord (by rw [alone]; exact List.mem_cons_self)
  rw [longWord, List.length_replicate] at short
  exact Nat.not_succ_le_self padLimit short

end Report

end SimpleSentence
