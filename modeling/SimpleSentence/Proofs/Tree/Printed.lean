import SimpleSentence.Proofs.Tagging
import SimpleSentence.Proofs.Tree.Legible

/-!
The printed forms of a tree show the tree, all but the numbers of its leaves. In
the bracketed form a row of children ends at the first closing bracket, in the
outline at the first line that is not indented as deep. The leaves of a parsed
tree are numbered from left to right, so there the numbers are known as well.
-/

namespace SimpleSentence

namespace Tree

/-! ### The bracketed form -/

/-- Where the bracketed form of a tree can stop. -/
def NoLetter (text : Text) : Prop := ∀ char ∈ text.head?, isWordLetter char = false

def inBrackets (children : List Tree) : Text := '(' :: (bracketedOf children ++ [')'])

theorem bracketed_eq_shownWith : bracketed = shownWith inBrackets := by
  funext tree
  cases tree with
  | phrase kind children => rfl
  | word text category index => rfl

theorem bracketedOf_cons (first : Tree) (later : List Tree) :
    bracketedOf (first :: later) = bracketed first ++ row [' '] bracketed later := by
  induction later generalizing first with
  | nil => simp [bracketedOf, row]
  | cons second rest ih =>
      rw [bracketedOf, ih, row, row, List.flatMap_cons, List.singleton_append, List.cons_append]

theorem noLetter_space (tree : Tree) (more : Text) :
    NoLetter ([' '] ++ (bracketed tree ++ more)) := by
  rintro char ⟨⟩
  rfl

theorem noLetter_closing (rest : Text) : NoLetter (')' :: rest) := by
  rintro char ⟨⟩
  rfl

-- No tree begins with the bracket that closes a row.
theorem Lettered.bracketed_ne_closing {tree : Tree} (lettered : tree.Lettered) {more rest : Text} :
    bracketed tree ++ more ≠ ')' :: rest := by
  intro same
  obtain ⟨char, behind, shown, letter⟩ := @Lettered.shownWith_head inBrackets _ lettered
  rw [bracketed_eq_shownWith, shown] at same
  cases same
  cases letter

theorem inBrackets_legible {children others : List Tree} {rest left : Text}
    (legible : ∀ tree ∈ children, tree.Legible bracketed NoLetter)
    (lettered : ∀ tree ∈ children, tree.Lettered) (otherLettered : ∀ tree ∈ others, tree.Lettered)
    (same : inBrackets children ++ rest = inBrackets others ++ left) :
    children.map withoutIndices = others.map withoutIndices ∧ rest = left := by
  simp only [inBrackets, List.append_assoc, List.cons_append, List.cons.injEq, List.nil_append,
    true_and] at same
  cases children with
  | nil =>
      cases others with
      | nil => exact ⟨rfl, (List.cons.inj same).2⟩
      | cons other more =>
          rw [bracketedOf_cons, List.append_assoc] at same
          exact absurd same.symm (otherLettered other List.mem_cons_self).bracketed_ne_closing
  | cons tree later =>
      cases others with
      | nil =>
          rw [bracketedOf_cons, List.append_assoc] at same
          exact absurd same (lettered tree List.mem_cons_self).bracketed_ne_closing
      | cons other more =>
          obtain ⟨_, laterLettered⟩ := List.forall_mem_cons.mp lettered
          obtain ⟨otherTree, moreLettered⟩ := List.forall_mem_cons.mp otherLettered
          obtain ⟨treeLegible, laterLegible⟩ := List.forall_mem_cons.mp legible
          have further (tree : Tree) (more : Text) (_ : tree.Lettered) := noLetter_space tree more
          rw [bracketedOf_cons, bracketedOf_cons, List.append_assoc, List.append_assoc] at same
          obtain ⟨alike, behind⟩ := treeLegible other _ _ otherTree
            (row_stops further laterLettered (noLetter_closing rest))
            (row_stops further moreLettered (noLetter_closing left)) same
          obtain ⟨row, ends⟩ := row_legible further laterLegible laterLettered moreLettered
            (noLetter_closing rest) (noLetter_closing left) (by simp) (by simp) behind
          rw [List.map_cons, List.map_cons, show tree.withoutIndices = _ from alike, row]
          exact ⟨rfl, (List.cons.inj ends).2⟩

theorem Lettered.bracketed_legible (tree : Tree) :
    tree.Lettered → tree.Legible bracketed NoLetter := by
  have opens (children : List Tree) (rest : Text) (_ : NoLetter rest) :
      ∀ char ∈ (inBrackets children ++ rest).head?, isWordLetter char = false ∧ char ≠ '/' := by
    rintro char ⟨⟩
    decide
  rw [bracketed_eq_shownWith]
  induction tree using forall_of_children with
  | phrase kind children ih =>
      intro lettered
      apply phrase_legible opens
      intro others rest left otherLettered _ _ same
      have legible : ∀ tree ∈ children, tree.Legible bracketed NoLetter := by
        intro tree member
        rw [bracketed_eq_shownWith]
        exact ih tree member (lettered.children tree member)
      exact inBrackets_legible legible lettered.children otherLettered same
  | word text category index =>
      intro lettered
      exact word_legible opens (fun _ stops => stops) lettered

/-! ### The outline -/

/-- Where the lines of a tree at a level can stop: at the end or at a line not indented deeper. -/
structure NoDeeperLine (level : Nat) (text : Text) : Prop where
  feed : ∀ char ∈ text.head?, char = '\n'
  shallow : ¬ '\n' :: indent (level + 1) <+: text

theorem indent_succ (level : Nat) : indent (level + 1) = indent level ++ [' ', ' '] := by
  rw [indent, indent, Nat.mul_succ, List.replicate_add]
  rfl

theorem NoDeeperLine.succ {level : Nat} {text : Text} (stops : NoDeeperLine level text) :
    NoDeeperLine (level + 1) text := by
  refine ⟨stops.feed, fun deeper => stops.shallow ?_⟩
  rw [indent_succ (level + 1)] at deeper
  exact (List.prefix_append ('\n' :: indent (level + 1)) _).trans deeper

/-- A tree at a level without the indentation of its first line. -/
def lines (level : Nat) : Tree → Text := shownWith (outlineOf (level + 1))

theorem outlineAt_eq (level : Nat) (tree : Tree) :
    tree.outlineAt level = indent level ++ tree.lines level := by
  cases tree with
  | phrase kind children => rw [outlineAt, lines, shownWith, List.append_assoc]
  | word text category index => rw [outlineAt, lines, shownWith]

theorem outlineOf_eq_row (level : Nat) (trees : List Tree) :
    outlineOf level trees = row ('\n' :: indent level) (lines level) trees := by
  induction trees with
  | nil => rfl
  | cons first rest ih => rw [outlineOf, ih, outlineAt_eq, row, row, List.flatMap_cons]; rfl

-- A line at a level is indented by that level and no deeper, for it begins with a letter.
theorem Lettered.noDeeperLine {tree : Tree} (lettered : tree.Lettered) (level : Nat)
    (more : Text) : NoDeeperLine level ('\n' :: indent level ++ (tree.lines level ++ more)) := by
  obtain ⟨char, behind, shown, letter⟩ :=
    @Lettered.shownWith_head (outlineOf (level + 1)) _ lettered
  constructor
  · rintro char ⟨⟩
    rfl
  · intro deeper
    rw [indent_succ, ← List.cons_append, List.prefix_append_right_inj, lines, shown,
      List.cons_append, List.cons_prefix_cons] at deeper
    rw [← deeper.1] at letter
    cases letter

theorem Lettered.lines_legible (tree : Tree) : ∀ level : Nat,
    tree.Lettered → tree.Legible (lines level) (NoDeeperLine level) := by
  have opens (level : Nat) (children : List Tree) (rest : Text) (stops : NoDeeperLine level rest) :
      ∀ char ∈ (outlineOf (level + 1) children ++ rest).head?,
        isWordLetter char = false ∧ char ≠ '/' := by
    have feed : ∀ char ∈ (outlineOf (level + 1) children ++ rest).head?, char = '\n' := by
      cases children with
      | nil => exact stops.feed
      | cons first later =>
          rintro char ⟨⟩
          rfl
    intro char head
    obtain rfl := feed char head
    decide
  induction tree using forall_of_children with
  | phrase kind children ih =>
      intro level lettered
      apply phrase_legible (opens level)
      intro others rest left otherLettered stops otherStops same
      rw [outlineOf_eq_row, outlineOf_eq_row] at same
      exact row_legible (fun tree more lettered => lettered.noDeeperLine (level + 1) more)
        (fun tree member => ih tree member (level + 1) (lettered.children tree member))
        lettered.children otherLettered stops.succ otherStops.succ stops.shallow
        otherStops.shallow same
  | word text category index =>
      intro level lettered
      apply word_legible (opens level) ?_ lettered
      intro rest stops char head
      obtain rfl := stops.feed char head
      rfl

/-! ### Equal forms -/

theorem row_withoutIndices {mark : Text} {shown : Tree → Text} {trees : List Tree}
    (kept : ∀ tree ∈ trees, shown tree.withoutIndices = shown tree) :
    row mark shown (trees.map withoutIndices) = row mark shown trees := by
  induction trees with
  | nil => rfl
  | cons first later ih =>
      obtain ⟨own, others⟩ := List.forall_mem_cons.mp kept
      have rest := ih others
      rw [row] at rest
      simp only [row, List.map_cons, List.flatMap_cons, own, rest]

theorem bracketed_withoutIndices (tree : Tree) :
    tree.withoutIndices.bracketed = tree.bracketed := by
  induction tree using forall_of_children with
  | word text category index => rfl
  | phrase kind children ih =>
      rw [withoutIndices_phrase, bracketed, bracketed]
      cases children with
      | nil => rfl
      | cons first later =>
          obtain ⟨own, others⟩ := List.forall_mem_cons.mp ih
          rw [List.map_cons, bracketedOf_cons, bracketedOf_cons, own, row_withoutIndices others]

theorem outlineAt_withoutIndices (tree : Tree) : ∀ level : Nat,
    tree.withoutIndices.outlineAt level = tree.outlineAt level := by
  induction tree using forall_of_children with
  | word text category index => exact fun _ => rfl
  | phrase kind children ih =>
      intro level
      have below (child : Tree) (member : child ∈ children) :
          child.withoutIndices.lines (level + 1) = child.lines (level + 1) := by
        have same := ih child member (level + 1)
        rw [outlineAt_eq, outlineAt_eq] at same
        exact List.append_cancel_left same
      rw [withoutIndices_phrase, outlineAt, outlineAt, outlineOf_eq_row, outlineOf_eq_row,
        row_withoutIndices below]

section Forms

variable {first second : Tree} (lettered : first.Lettered) (otherLettered : second.Lettered)
include lettered otherLettered

theorem bracketed_eq_iff : first.bracketed = second.bracketed ↔ first.SameButIndices second := by
  have nothing : NoLetter [] := by
    rintro char ⟨⟩
  constructor
  · intro same
    exact (lettered.bracketed_legible first second [] [] otherLettered nothing nothing
      (congrArg (· ++ []) same)).1
  · intro alike
    rw [← bracketed_withoutIndices, show first.withoutIndices = _ from alike,
      bracketed_withoutIndices]

theorem outline_eq_iff : first.outline = second.outline ↔ first.SameButIndices second := by
  have nothing : NoDeeperLine 0 [] := by
    constructor
    · rintro char ⟨⟩
    · simp
  constructor
  · intro same
    rw [outline, outline, outlineAt_eq, outlineAt_eq] at same
    exact (lettered.lines_legible first 0 second [] [] otherLettered nothing nothing
      (congrArg (· ++ []) (List.append_cancel_left same))).1
  · intro alike
    rw [outline, outline, ← outlineAt_withoutIndices, show first.withoutIndices = _ from alike,
      outlineAt_withoutIndices]

end Forms

/-! ### Parsed trees -/

theorem leaves_withoutIndices (tree : Tree) :
    tree.withoutIndices.leaves = tree.leaves.map withoutIndices := by
  induction tree using forall_of_children with
  | word text category index => rfl
  | phrase kind children ih =>
      rw [withoutIndices_phrase, leaves_phrase, leaves_phrase, List.map_flatMap, List.flatMap_map]
      exact List.flatMap_congr ih

end Tree

-- Numbered alike, tokens are known from their leaves without the numbers, all but their spans.
theorem Token.unplaced_eq_of_leaves {tokens others : List Token}
    (leaves : (tokens.map Token.leaf).map Tree.withoutIndices =
      (others.map Token.leaf).map Tree.withoutIndices)
    (numbers : tokens.map Token.index = others.map Token.index) :
    tokens.map unplaced.token = others.map unplaced.token := by
  induction tokens generalizing others with
  | nil =>
      cases others with
      | nil => rfl
      | cons other more => cases leaves
  | cons token rest ih =>
      cases others with
      | nil => cases leaves
      | cons other more =>
          obtain ⟨leaf, laterLeaves⟩ := List.cons.inj leaves
          obtain ⟨number, laterNumbers⟩ := List.cons.inj numbers
          obtain ⟨text, category, _⟩ := Tree.word.inj leaf
          have same : unplaced.token token = unplaced.token other :=
            (unplaced_token_eq_iff token other).mpr ⟨text, category, number⟩
          rw [List.map_cons, List.map_cons, same, ih laterLeaves laterNumbers]

namespace Lexicon

theorem lettered_of_parse {lexicon : Lexicon} {text : Text} {tree : Tree}
    (parsed : lexicon.parse text = .ok tree) : tree.Lettered := by
  intro word member
  rw [words_of_parse parsed] at member
  exact Word.isWord_of_mem member

/-- Parsed trees that are equal up to the numbers of their leaves are equal. -/
theorem parsed_eq {lexicon other : Lexicon} {text otherText : Text} {first second : Tree}
    (parsed : lexicon.parse text = .ok first) (otherParsed : other.parse otherText = .ok second)
    (alike : first.SameButIndices second) : first = second := by
  have leaves : ((lexicon.tag text).words.map Token.leaf).map Tree.withoutIndices =
      ((other.tag otherText).words.map Token.leaf).map Tree.withoutIndices := by
    rw [← (Tagged.parse_sound parsed).leaves, ← (Tagged.parse_sound otherParsed).leaves,
      ← Tree.leaves_withoutIndices, ← Tree.leaves_withoutIndices,
      show first.withoutIndices = _ from alike]
  have count : (Word.allIn text).length = (Word.allIn otherText).length := by
    have lengths := congrArg List.length leaves
    simpa [tag, tokensFrom_eq_map] using lengths
  have numbers : (lexicon.tag text).words.map Token.index =
      (other.tag otherText).words.map Token.index := by
    rw [tag, tag, index_tokensFrom, index_tokensFrom, count]
  have same : unplaced.tagged (lexicon.tag text) = unplaced.tagged (other.tag otherText) := by
    have words := Token.unplaced_eq_of_leaves leaves numbers
    rw [Relabelling.tagged, Relabelling.tagged, words]
    simp [tag, count, unplaced, Relabelling.token]
  have judged := unplaced.parse_alike same
  rw [show (lexicon.tag text).parse = _ from parsed,
    show (other.tag otherText).parse = _ from otherParsed] at judged
  cases judged with
  | accepted equal => rwa [unplaced_tree, unplaced_tree] at equal

end Lexicon

namespace Tree

/-- Trees with words for leaves have the same outline exactly if they have the same bracketed form,
and exactly if they are equal up to the numbers of their leaves; and parsed trees with the same
outline or the same bracketed form are equal. -/
theorem printed_forms_unambiguous :
    (∀ first second : Tree, first.Lettered → second.Lettered →
      (first.outline = second.outline ↔ first.bracketed = second.bracketed) ∧
        (first.bracketed = second.bracketed ↔ first.SameButIndices second)) ∧
      ∀ (lexicon other : Lexicon) (text otherText : Text) (first second : Tree),
        lexicon.parse text = .ok first → other.parse otherText = .ok second →
          (first.outline = second.outline ∨ first.bracketed = second.bracketed) →
            first = second := by
  constructor
  · intro first second lettered otherLettered
    have brackets := bracketed_eq_iff lettered otherLettered
    exact ⟨(outline_eq_iff lettered otherLettered).trans brackets.symm, brackets⟩
  · intro lexicon other text otherText first second parsed otherParsed same
    have lettered := Lexicon.lettered_of_parse parsed
    have otherLettered := Lexicon.lettered_of_parse otherParsed
    apply Lexicon.parsed_eq parsed otherParsed
    rcases same with outlines | brackets
    · exact (outline_eq_iff lettered otherLettered).mp outlines
    · exact (bracketed_eq_iff lettered otherLettered).mp brackets

-- Two trees that only the place of a phrase without children tells apart from their leaves on.
def besideEmpty : Tree :=
  .phrase .verbPhrase [.phrase .sentence [], .word "it's".toList .pronoun 7]

def insidePhrase : Tree :=
  .phrase .verbPhrase [.phrase .sentence [.word "it's".toList .pronoun 2]]

theorem ate_printed :
    besideEmpty.Lettered ∧ insidePhrase.Lettered ∧ ¬ besideEmpty.SameButIndices insidePhrase ∧
      besideEmpty.outline ≠ insidePhrase.outline ∧
      besideEmpty.bracketed ≠ insidePhrase.bracketed ∧
      ∃ tree, (Lexicon.ofRecords Lexicon.ateRecords).parse "The dog's ate".toList = .ok tree ∧
        (Lexicon.ofRecords Lexicon.ateRecords).parse "3The,\ndog's\u00E9ate!".toList =
          .ok Lexicon.ateTree ∧
        tree.outline = "S\n  NP\n    The/DET\n    dog's/N\n  VP\n    ate/V".toList ∧
        tree = Lexicon.ateTree := by
  have word : Text.IsWord "it's".toList := ⟨by decide, List.all_eq_true.mp (by decide)⟩
  have beside : besideEmpty.Lettered := List.forall_mem_singleton.mpr word
  have inside : insidePhrase.Lettered := List.forall_mem_singleton.mpr word
  have parsed : (Lexicon.ofRecords Lexicon.ateRecords).parse "The dog's ate".toList =
      .ok Lexicon.ateTree := by decide +kernel
  have otherParsed : (Lexicon.ofRecords Lexicon.ateRecords).parse
      "3The,\ndog's\u00E9ate!".toList = .ok Lexicon.ateTree := by decide +kernel
  obtain ⟨forms, trees⟩ := printed_forms_unambiguous
  obtain ⟨outlines, brackets⟩ := forms besideEmpty insidePhrase beside inside
  have different : ¬ besideEmpty.SameButIndices insidePhrase := by decide
  have apart : besideEmpty.bracketed ≠ insidePhrase.bracketed := fun same =>
    different (brackets.mp same)
  exact ⟨beside, inside, different, fun same => apart (outlines.mp same), apart, _, parsed,
    otherParsed, by decide, trees _ _ _ _ _ _ parsed otherParsed (.inl rfl)⟩

end Tree

end SimpleSentence
