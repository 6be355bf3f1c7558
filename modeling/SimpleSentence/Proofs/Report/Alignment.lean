import SimpleSentence.Proofs.Report.Colour
import SimpleSentence.Proofs.Report.Listing
import SimpleSentence.Proofs.Text.Printed

/-!
The columns of the tag table. A column is as wide as its longest cell, the header's among
them, so no cell reaches into the gap behind its column and every line has its cells
at the same columns. The words are printed text, for which bytes and characters are
the same count. What the lines list is the words with their tags, so a table
belongs to one row of words and categories only.
-/

namespace SimpleSentence

namespace Report

/-- The length of the longest cell, zero if there is none. -/
def longest (cells : List Text) : Nat := (cells.map List.length).max?.getD 0

/-- Three cells begin at the columns 0, `second` and `third` of a line, with nothing but spaces
between them and nothing behind them. -/
structure Aligned (second third : Nat) (word tag meaning line : Text) : Prop where
  apart : word.length < second ∧ second + tag.length < third
  first : line.take second = word ++ List.replicate (second - word.length) ' '
  middle : (line.drop second).take (third - second) =
    tag ++ List.replicate (third - second - tag.length) ' '
  last : line.drop third = meaning ++ ['\n']

theorem columnWidth_eq {header : Text} {cells : List Text}
    (printedHeader : header.all isPrinted = true)
    (printed : ∀ cell ∈ cells, cell.all isPrinted = true) :
    columnWidth header (cells.map Text.byteLength) = max header.length (longest cells) := by
  have lengths : cells.map Text.byteLength = cells.map List.length :=
    List.map_congr_left fun cell member => Text.byteLength_printed (printed cell member)
  rw [columnWidth, lengths, Text.byteLength_printed printedHeader, List.foldl_max, longest]
  cases (cells.map List.length).max? with
  | none => simp
  | some width => rfl

theorem length_le_longest {cell : Text} {cells : List Text} (member : cell ∈ cells) :
    cell.length ≤ longest cells :=
  List.le_max?_getD_of_mem (List.mem_map_of_mem member)

theorem padRight_gap {cell : Text} {width : Text.PadWidth} (fits : cell.length ≤ width.columns) :
    Text.padRight width cell ++ gap =
      cell ++ List.replicate (width.columns + 2 - cell.length) ' ' := by
  have spaces : width.columns + 2 - cell.length = (width.columns - cell.length) + 2 := by omega
  rw [Text.padRight, spaces, ← List.replicate_append_replicate, List.append_assoc]
  rfl

section Line

variable {words tags : Text.PadWidth}

/-- A line whose first two cells fit their columns is aligned. -/
theorem aligned_of_fits {word tag : Text} (wordFits : word.length ≤ words.columns)
    (tagFits : tag.length ≤ tags.columns) (meaning : Text) :
    Aligned (words.columns + 2) (words.columns + tags.columns + 4) word tag meaning
      (Text.padRight words word ++ gap ++ (Text.padRight tags tag ++ gap ++
        (meaning ++ ['\n']))) := by
  rw [padRight_gap wordFits, padRight_gap tagFits]
  generalize words.columns = first at *
  generalize tags.columns = second at *
  have wordWidth : (word ++ List.replicate (first + 2 - word.length) ' ').length = first + 2 := by
    rw [List.length_append, List.length_replicate]
    omega
  have tagWidth : (tag ++ List.replicate (second + 2 - tag.length) ' ').length = second + 2 := by
    rw [List.length_append, List.length_replicate]
    omega
  have widths : first + second + 4 = first + 2 + (second + 2) := by omega
  have between : first + second + 4 - (first + 2) = second + 2 := by omega
  refine ⟨by omega, List.take_left' wordWidth, ?_, ?_⟩
  · rw [List.drop_left' wordWidth, between, List.take_left' tagWidth]
  · rw [widths, ← List.drop_drop, List.drop_left' wordWidth, List.drop_left' tagWidth]

theorem headerRow_aligned (wordFits : 4 ≤ words.columns) (tagFits : 3 ≤ tags.columns) :
    Aligned (words.columns + 2) (words.columns + tags.columns + 4) wordHeader tagHeader
      meaningHeader (headerRow .colourless words tags) := by
  have row := @aligned_of_fits words tags wordHeader tagHeader wordFits tagFits meaningHeader
  simpa only [headerRow, Palette.mark_colourless, List.append_assoc] using row

theorem tokenRow_aligned {token : Token} (wordFits : token.text.length ≤ words.columns)
    (tagFits : token.category.code.length ≤ tags.columns) :
    Aligned (words.columns + 2) (words.columns + tags.columns + 4) token.text token.category.code
      token.category.description (tokenRow .colourless words tags token) := by
  have row := aligned_of_fits wordFits tagFits token.category.description
  simpa only [tokenRow, Palette.mark_colourless, List.append_assoc] using row

end Line

/-! ### The lines of a table -/

section Table

variable {tokens others : List Token}

theorem wordWidth_eq (isWord : ∀ token ∈ tokens, token.text.IsWord) :
    wordWidth tokens = max 4 (longest (tokens.map Token.text)) := by
  have printed : ∀ cell ∈ tokens.map Token.text, cell.all isPrinted = true := by
    intro cell member
    obtain ⟨token, inside, rfl⟩ := List.mem_map.mp member
    exact (isWord token inside).printed
  have width := columnWidth_eq (by decide : wordHeader.all isPrinted = true) printed
  rw [List.map_map] at width
  exact width

theorem tagWidth_eq (tokens : List Token) :
    tagWidth tokens = max 3 (longest (tokens.map fun token => token.category.code)) := by
  have printed : ∀ cell ∈ tokens.map (fun token => token.category.code),
      cell.all isPrinted = true := by
    intro cell member
    obtain ⟨token, _, rfl⟩ := List.mem_map.mp member
    exact token.category.isWord_code.printed
  have width := columnWidth_eq (by decide : tagHeader.all isPrinted = true) printed
  rw [List.map_map] at width
  exact width

theorem listing_of_tagTable (isWord : ∀ token ∈ tokens, token.text.IsWord)
    (otherIsWord : ∀ token ∈ others, token.text.IsWord) {table : Text}
    (made : tagTable? .colourless tokens = some table)
    (otherMade : tagTable? .colourless others = some table) :
    tokens.map listing = others.map listing := by
  obtain ⟨header, rows, lines, listed, _⟩ := linesOf_tagTable isWord made []
  obtain ⟨otherHeader, otherRows, otherLines, otherListed, _⟩ :=
    linesOf_tagTable otherIsWord otherMade []
  have same : header :: rows = otherHeader :: otherRows := by
    rw [lines] at otherLines
    exact List.append_cancel_right otherLines
  rw [(List.cons.inj same).2, otherListed] at listed
  have pairs : (others.map listing).map some = (tokens.map listing).map some := by
    rw [List.map_map, List.map_map]
    exact listed
  exact ((Option.some_injective _).list_map pairs).symm

end Table

/-- The table of a text is its header and a line for each of its words, aligned at two columns
that the longest word and the longest tag decide. The words with their categories are read back
from the lines, and another text has this table exactly if these are the same. There is no table
at all if a word is longer than a column can be wide. -/
theorem tagTable_aligned (lexicon : Lexicon) (text : Text) :
    let tokens := (lexicon.tag text).words
    let words := max 4 (longest (tokens.map Token.text))
    let tags := max 3 (longest (tokens.map fun token => token.category.code))
    (text.Narrow → ∃ table, tagTable? .colourless tokens = some table ∧
      (∃ header rows, Text.linesOf table = header :: rows ∧
        Aligned (words + 2) (words + tags + 4) "WORD".toList "TAG".toList "DESCRIPTION".toList
          header ∧
        List.Forall₂ (fun token line => Aligned (words + 2) (words + tags + 4) token.text
          token.category.code token.category.description line) tokens rows ∧
        rows.map listed? = tokens.map fun token => some (listing token)) ∧
      ∀ (other : Lexicon) (otherText : Text),
        tagTable? .colourless (other.tag otherText).words = some table ↔
          tokens.map listing = (other.tag otherText).words.map listing) ∧
      (¬ text.Narrow → tagTable? .colourless tokens = none) := by
  intro tokens words tags
  have isWord : ∀ token ∈ tokens, token.text.IsWord :=
    fun token member => Lexicon.isWord_of_mem_tag member
  refine ⟨fun narrow => ?_, (tagTable?_eq_none_iff lexicon .colourless).mpr⟩
  obtain ⟨table, made⟩ := exists_tagTable lexicon .colourless narrow
  refine ⟨table, made, ?_, fun other otherText => ⟨?_, ?_⟩⟩
  · obtain ⟨wordColumn, tagColumn, wordColumns, tagColumns, rfl⟩ := tagTable?_eq_some made
    rw [wordWidth_eq isWord] at wordColumns
    rw [tagWidth_eq] at tagColumns
    have lines := linesOf_tagRows isWord wordColumn tagColumn []
    rw [Text.linesOf, List.append_nil, List.append_nil] at lines
    have widths : wordColumn.columns = words ∧ tagColumn.columns = tags :=
      ⟨wordColumns, tagColumns⟩
    rw [← widths.1, ← widths.2]
    refine ⟨_, _, lines, ?_, ?_, listed?_rows isWord wordColumn tagColumn⟩
    · apply headerRow_aligned
      · rw [wordColumns]
        exact Nat.le_max_left _ _
      · rw [tagColumns]
        exact Nat.le_max_left _ _
    · rw [List.forall₂_map_right_iff, List.forall₂_same]
      intro token member
      have wordFits := length_le_longest (List.mem_map_of_mem (f := Token.text) member)
      have tagFits := length_le_longest
        (List.mem_map_of_mem (f := fun token : Token => token.category.code) member)
      apply tokenRow_aligned
      · rw [wordColumns]
        exact Nat.le_trans wordFits (Nat.le_max_right _ _)
      · rw [tagColumns]
        exact Nat.le_trans tagFits (Nat.le_max_right _ _)
  · intro otherMade
    exact listing_of_tagTable isWord (fun token member => Lexicon.isWord_of_mem_tag member) made
      otherMade
  · intro same
    rw [← tagTable?_congr .colourless same]
    exact made

-- A word that is longer than its header beside one with an apostrophe.
theorem quickly_aligned :
    Text.Narrow "It's quickly".toList ∧
      ∃ table, tagTable? .colourless (Lexicon.starter.tag "It's quickly".toList).words =
          some table ∧
        ∃ header rows, Text.linesOf table = header :: rows ∧
          rows.map listed? =
            [some ("It's".toList, .noun), some ("quickly".toList, .adverb)] := by
  have narrow : Text.Narrow "It's quickly".toList := by decide
  obtain ⟨table, made, ⟨header, rows, lines, _, _, listed⟩, _⟩ :=
    (tagTable_aligned Lexicon.starter "It's quickly".toList).1 narrow
  have words : (Lexicon.starter.tag "It's quickly".toList).words.map
      (fun token => some (listing token)) =
        [some ("It's".toList, Category.noun), some ("quickly".toList, Category.adverb)] := by
    decide +kernel
  exact ⟨narrow, table, made, header, rows, lines, listed.trans words⟩

/-- There are texts that have no table. -/
theorem longWord_not_tabled :
    ¬ ∀ (lexicon : Lexicon) (text : Text),
      ∃ table, tagTable? .colourless (lexicon.tag text).words = some table := by
  intro always
  obtain ⟨table, made⟩ := always Lexicon.starter longWord
  rw [(tagTable?_eq_none_iff _ _).mpr not_narrow_longWord] at made
  cases made

end Report

end SimpleSentence
