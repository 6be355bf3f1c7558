import SimpleSentence.Proofs.Report.Limit
import SimpleSentence.Proofs.Tree.Legible

/-!
Reading the tag table back. The table shows the words of its tokens with their
categories and depends on nothing else of them. The cells of a row are runs without
a blank, so the word and the tag are cut off its front; what fills the columns are
blanks. No line of the table holds a line feed or a colon of its own.
-/

namespace SimpleSentence

theorem Category.ofCode?_code (category : Category) : ofCode? category.code = some category := by
  cases category <;> decide

theorem Text.IsWord.dense {word : Text} (isWord : word.IsWord) :
    ∀ char ∈ word, (char != ' ') = true := by
  intro char member
  have letter := isWord.2 char member
  rw [bne_iff_ne]
  rintro rfl
  cases letter

theorem Palette.mark_colourless (role : Role) (text : Text) :
    colourless.mark role text = text := List.append_nil text

namespace Report

/-- The first cell of a line, and the line behind it and the blanks after it. -/
def cutCell (line : Text) : Text × Text :=
  (line.takeWhile (· != ' '), (line.dropWhile (· != ' ')).dropWhile (· == ' '))

theorem cutCell_padded {cell rest : Text} (dense : ∀ char ∈ cell, (char != ' ') = true)
    (begins : ∀ char ∈ rest.head?, (char == ' ') = false) (width : Text.PadWidth) :
    cutCell (Text.padRight width cell ++ gap ++ rest) = (cell, rest) := by
  have parts : Text.padRight width cell ++ gap ++ rest =
      cell ++ (List.replicate (width.columns - cell.length + 2) ' ' ++ rest) := by
    rw [Text.padRight, ← List.replicate_append_replicate]
    simp only [List.append_assoc]
    rfl
  have filled : ∀ char ∈ List.replicate (width.columns - cell.length + 2) ' ',
      (char == ' ') = true :=
    fun char member => beq_iff_eq.mpr (List.mem_replicate.mp member).2
  have ended : ∀ char ∈ (List.replicate (width.columns - cell.length + 2) ' ' ++ rest).head?,
      (char != ' ') = false := by
    rintro _ ⟨⟩
    rfl
  rw [parts, cutCell, Text.takeWhile_run dense ended, Text.dropWhile_run dense ended,
    Text.dropWhile_run filled begins]

/-- The word and the category that a row of the table lists. -/
def listed? (line : Text) : Option (Text × Category) :=
  let (word, rest) := cutCell line
  (Category.ofCode? (cutCell rest).1).map fun category => (word, category)

theorem listed?_tokenRow {token : Token} (isWord : token.text.IsWord)
    (words tags : Text.PadWidth) :
    listed? (tokenRow .colourless words tags token) = some (token.text, token.category) := by
  have code := token.category.isWord_code
  have row : tokenRow .colourless words tags token =
      Text.padRight words token.text ++ gap ++
        (Text.padRight tags token.category.code ++ gap ++
          (token.category.description ++ ['\n'])) := by
    simp only [tokenRow, Palette.mark_colourless, List.append_assoc]
  have tagBegins : ∀ char ∈ (Text.padRight tags token.category.code ++ gap ++
      (token.category.description ++ ['\n'])).head?, (char == ' ') = false := by
    generalize token.category.description ++ ['\n'] = rest
    cases token.category <;> rintro _ ⟨⟩ <;> rfl
  have meaningBegins : ∀ char ∈ (token.category.description ++ ['\n']).head?,
      (char == ' ') = false := by
    cases token.category <;> rintro _ ⟨⟩ <;> rfl
  simp only [listed?, row, cutCell_padded isWord.dense tagBegins,
    cutCell_padded code.dense meaningBegins, Category.ofCode?_code, Option.map_some]

/-! ### What the table shows -/

/-- What the table shows of a token. -/
def listing (token : Token) : Text × Category := (token.text, token.category)

/-- The table depends on what is shown of its tokens, in their order. -/
theorem tagTable?_congr (palette : Palette) {tokens others : List Token}
    (same : tokens.map listing = others.map listing) :
    tagTable? palette tokens = tagTable? palette others := by
  have shown {Part : Type} (part : Text × Category → Part) :
      tokens.map (fun token => part (listing token)) =
        others.map (fun token => part (listing token)) := by
    have parts := congrArg (List.map part) same
    rw [List.map_map, List.map_map] at parts
    exact parts
  have words : wordWidth tokens = wordWidth others :=
    congrArg (columnWidth wordHeader) (shown fun pair => Text.byteLength pair.1)
  have tags : tagWidth tokens = tagWidth others :=
    congrArg (columnWidth tagHeader) (shown fun pair => Text.byteLength pair.2.code)
  have rows (wordColumn tagColumn : Text.PadWidth) :
      tagRows palette wordColumn tagColumn tokens =
        tagRows palette wordColumn tagColumn others := by
    rw [tagRows, tagRows, List.flatMap_def, List.flatMap_def]
    exact congrArg (fun lines => _ ++ lines.flatten)
      (shown fun pair => tokenRow palette wordColumn tagColumn ⟨pair.1, pair.2, 0, .empty 0⟩)
  simp only [tagTable?, words, tags, rows]

/-! ### The lines of the table -/

/-- What a line of the table is made of. -/
def isTableChar (char : Char) : Bool :=
  isWordLetter char || char == ' ' || char == '/' || char == '(' || char == ')'

/-- The text is a line of table characters with its line feed. -/
def IsTableLine (text : Text) : Prop :=
  ∃ line, text = line ++ ['\n'] ∧ ∀ char ∈ line, isTableChar char = true

theorem isTableChar_padRight {text : Text} (made : ∀ char ∈ text, isTableChar char = true)
    (width : Text.PadWidth) : ∀ char ∈ Text.padRight width text, isTableChar char = true := by
  intro char member
  rcases Text.mem_padRight member with inText | rfl
  · exact made char inText
  · rfl

theorem isTableChar_of_isWord {word : Text} (isWord : word.IsWord) :
    ∀ char ∈ word, isTableChar char = true := by
  intro char member
  simp [isTableChar, isWord.2 char member]

theorem isTableChar_gap : ∀ char ∈ gap, isTableChar char = true :=
  List.all_eq_true.mp (by decide)

theorem isTableChar_description (category : Category) :
    ∀ char ∈ category.description, isTableChar char = true := by
  apply List.all_eq_true.mp
  cases category <;> decide

theorem isTableLine_headerRow (words tags : Text.PadWidth) :
    IsTableLine (headerRow .colourless words tags) := by
  refine ⟨_, by rw [headerRow, Palette.mark_colourless], ?_⟩
  have titles : ∀ title ∈ [wordHeader, tagHeader, meaningHeader],
      ∀ char ∈ title, isTableChar char = true := by
    simp only [← List.all_eq_true]
    decide
  have word := isTableChar_padRight (titles wordHeader (by simp)) words
  have tag := isTableChar_padRight (titles tagHeader (by simp)) tags
  simp only [List.forall_mem_append]
  exact ⟨⟨⟨⟨word, isTableChar_gap⟩, tag⟩, isTableChar_gap⟩, titles meaningHeader (by simp)⟩

theorem isTableLine_tokenRow {token : Token} (isWord : token.text.IsWord)
    (words tags : Text.PadWidth) :
    IsTableLine (tokenRow .colourless words tags token) := by
  refine ⟨_, by rw [tokenRow, Palette.mark_colourless], ?_⟩
  have word := isTableChar_padRight (isTableChar_of_isWord isWord) words
  have tag := isTableChar_padRight (isTableChar_of_isWord token.category.isWord_code) tags
  simp only [List.forall_mem_append]
  exact ⟨⟨⟨⟨word, isTableChar_gap⟩, tag⟩, isTableChar_gap⟩,
    isTableChar_description token.category⟩

theorem IsTableLine.linesOf_append {text : Text} (isLine : IsTableLine text) (rest : Text) :
    Text.linesOf (text ++ rest) = text :: Text.linesOf rest := by
  obtain ⟨line, rfl, made⟩ := isLine
  have single : '\n' ∉ line := fun member => absurd (made _ member) (by decide)
  rw [List.append_assoc]
  exact Text.linesOf_line single rest

section Table

variable {tokens : List Token} (isWord : ∀ token ∈ tokens, token.text.IsWord)
include isWord

theorem linesOf_rows (words tags : Text.PadWidth) (rest : Text) :
    Text.linesOf (tokens.flatMap (tokenRow .colourless words tags) ++ rest) =
      tokens.map (tokenRow .colourless words tags) ++ Text.linesOf rest := by
  induction tokens with
  | nil => rfl
  | cons first more ih =>
      obtain ⟨own, later⟩ := List.forall_mem_cons.mp isWord
      have line := isTableLine_tokenRow own words tags
      rw [List.flatMap_cons, List.append_assoc, line.linesOf_append, ih later, List.map_cons,
        List.cons_append]

theorem linesOf_tagRows (words tags : Text.PadWidth) (rest : Text) :
    Text.linesOf (tagRows .colourless words tags tokens ++ rest) =
      headerRow .colourless words tags :: tokens.map (tokenRow .colourless words tags) ++
        Text.linesOf rest := by
  have header := isTableLine_headerRow words tags
  rw [tagRows, List.append_assoc, header.linesOf_append, linesOf_rows isWord, List.cons_append]

theorem listed?_rows (words tags : Text.PadWidth) :
    (tokens.map (tokenRow .colourless words tags)).map listed? =
      tokens.map fun token => some (listing token) := by
  rw [List.map_map]
  exact List.map_congr_left fun token member => listed?_tokenRow (isWord token member) words tags

/-- The table is its header and a line for each token, which lists the token. -/
theorem linesOf_tagTable {table : Text} (made : tagTable? .colourless tokens = some table)
    (rest : Text) :
    ∃ header rows, Text.linesOf (table ++ rest) = header :: rows ++ Text.linesOf rest ∧
      rows.map listed? = tokens.map (fun token => some (listing token)) ∧
      ∀ line ∈ header :: rows, IsTableLine line := by
  obtain ⟨words, tags, _, _, rfl⟩ := tagTable?_eq_some made
  refine ⟨_, _, linesOf_tagRows isWord words tags rest, listed?_rows isWord _ _, ?_⟩
  intro line member
  rcases List.mem_cons.mp member with rfl | inRows
  · exact isTableLine_headerRow _ _
  · obtain ⟨token, inside, rfl⟩ := List.mem_map.mp inRows
    exact isTableLine_tokenRow (isWord token inside) _ _

end Table

end Report

end SimpleSentence
