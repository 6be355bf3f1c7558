import SimpleSentence.Proofs.Respacing

/-!
Reading trees off the front of a text. A node begins with a run of letters, and
what follows the run tells whether it is a leaf, so a node is legible if its
children are: they are what the text shows, all but the numbers of the leaves,
and it is known where the tree stops. For trees in a row each tree has the same
mark in front, and the row ends where no mark follows.
-/

namespace SimpleSentence

theorem PhraseKind.isWord_label (kind : PhraseKind) : kind.label.IsWord := by
  constructor
  · cases kind <;> decide
  · apply List.all_eq_true.mp
    cases kind <;> decide

theorem PhraseKind.label_injective {kind other : PhraseKind} (same : kind.label = other.label) :
    kind = other := by
  revert same
  cases kind <;> cases other <;> decide

theorem Category.isWord_code (category : Category) : category.code.IsWord := by
  constructor
  · cases category <;> decide
  · apply List.all_eq_true.mp
    cases category <;> decide

theorem Category.code_injective {category other : Category} (same : category.code = other.code) :
    category = other := by
  revert same
  cases category <;> cases other <;> decide

namespace Tree

mutual

theorem forall_of_children {motive : Tree → Prop}
    (phrase : ∀ kind children, (∀ child ∈ children, motive child) →
      motive (.phrase kind children))
    (word : ∀ text category index, motive (.word text category index)) :
    ∀ tree : Tree, motive tree
  | .phrase kind children => phrase kind children (forall_of_children_row phrase word children)
  | .word text category index => word text category index

theorem forall_of_children_row {motive : Tree → Prop}
    (phrase : ∀ kind children, (∀ child ∈ children, motive child) →
      motive (.phrase kind children))
    (word : ∀ text category index, motive (.word text category index)) :
    ∀ trees : List Tree, ∀ tree ∈ trees, motive tree
  | [] => fun _ member => nomatch member
  | first :: rest =>
      List.forall_mem_cons.mpr
        ⟨forall_of_children phrase word first, forall_of_children_row phrase word rest⟩

end

mutual

/-- The tree with all its leaves numbered zero. -/
def withoutIndices : Tree → Tree
  | phrase kind children => .phrase kind (withoutIndicesOf children)
  | word text category _ => .word text category 0

def withoutIndicesOf : List Tree → List Tree
  | [] => []
  | tree :: rest => withoutIndices tree :: withoutIndicesOf rest

end

theorem withoutIndicesOf_eq_map (trees : List Tree) :
    withoutIndicesOf trees = trees.map withoutIndices := by
  induction trees with
  | nil => rfl
  | cons first rest ih => rw [withoutIndicesOf, ih, List.map_cons]

theorem withoutIndices_phrase (kind : PhraseKind) (children : List Tree) :
    withoutIndices (.phrase kind children) = .phrase kind (children.map withoutIndices) := by
  rw [withoutIndices, withoutIndicesOf_eq_map]

/-- Trees that are equal up to the numbers of their leaves. -/
def SameButIndices (tree other : Tree) : Prop := tree.withoutIndices = other.withoutIndices

instance (tree other : Tree) : Decidable (tree.SameButIndices other) :=
  inferInstanceAs (Decidable (_ = _))

/-- The text of each leaf is a word. -/
def Lettered (tree : Tree) : Prop := ∀ word ∈ tree.words, word.IsWord

theorem mem_wordsOf {trees : List Tree} {word : Text} :
    word ∈ wordsOf trees ↔ ∃ tree ∈ trees, word ∈ tree.words := by
  induction trees with
  | nil => simp [wordsOf]
  | cons first rest ih => simp [wordsOf, ih]

theorem Lettered.children {kind : PhraseKind} {children : List Tree}
    (lettered : (phrase kind children).Lettered) : ∀ child ∈ children, child.Lettered := by
  intro child member word inside
  exact lettered word (mem_wordsOf.mpr ⟨child, member, inside⟩)

theorem Lettered.text {text : Text} {category : Category} {index : Nat}
    (lettered : (word text category index).Lettered) : text.IsWord :=
  lettered text List.mem_cons_self

/-- What is printed of the tree, in front of a text where it can stop, is printed of no other
tree, and where it stops is known. -/
def Legible (shown : Tree → Text) (Stops : Text → Prop) (tree : Tree) : Prop :=
  ∀ (other : Tree) (rest left : Text), other.Lettered → Stops rest → Stops left →
    shown tree ++ rest = shown other ++ left → tree.SameButIndices other ∧ rest = left

/-- Trees in a row with a mark in front of each. -/
def row (mark : Text) (shown : Tree → Text) (trees : List Tree) : Text :=
  trees.flatMap fun tree => mark ++ shown tree

section Row

variable {mark : Text} {shown : Tree → Text} {Stops : Text → Prop}

theorem row_cons (first : Tree) (later : List Tree) (rest : Text) :
    row mark shown (first :: later) ++ rest =
      mark ++ (shown first ++ (row mark shown later ++ rest)) := by
  simp [row]

variable (further : ∀ (tree : Tree) (more : Text), tree.Lettered →
  Stops (mark ++ (shown tree ++ more)))
include further

theorem row_stops {trees : List Tree} (lettered : ∀ tree ∈ trees, tree.Lettered) {rest : Text}
    (stops : Stops rest) : Stops (row mark shown trees ++ rest) := by
  cases trees with
  | nil => exact stops
  | cons first later =>
      rw [row_cons]
      exact further first _ (lettered first List.mem_cons_self)

/-- If each tree is legible, and if the end of a row cannot be taken for a mark, then rows of
trees are legible. -/
theorem row_legible {trees others : List Tree} {rest left : Text}
    (legible : ∀ tree ∈ trees, tree.Legible shown Stops)
    (lettered : ∀ tree ∈ trees, tree.Lettered) (otherLettered : ∀ tree ∈ others, tree.Lettered)
    (stops : Stops rest) (otherStops : Stops left) (ended : ¬ mark <+: rest)
    (otherEnded : ¬ mark <+: left)
    (same : row mark shown trees ++ rest = row mark shown others ++ left) :
    trees.map withoutIndices = others.map withoutIndices ∧ rest = left := by
  induction trees generalizing others with
  | nil =>
      cases others with
      | nil => exact ⟨rfl, same⟩
      | cons other more =>
          rw [row_cons] at same
          exact absurd ⟨_, same.symm⟩ ended
  | cons tree later ih =>
      cases others with
      | nil =>
          rw [row_cons] at same
          exact absurd ⟨_, same⟩ otherEnded
      | cons other more =>
          obtain ⟨treeLettered, laterLettered⟩ := List.forall_mem_cons.mp lettered
          obtain ⟨otherTree, moreLettered⟩ := List.forall_mem_cons.mp otherLettered
          obtain ⟨treeLegible, laterLegible⟩ := List.forall_mem_cons.mp legible
          rw [row_cons, row_cons] at same
          obtain ⟨alike, behind⟩ := treeLegible other _ _ otherTree
            (row_stops further laterLettered stops) (row_stops further moreLettered otherStops)
            (List.append_cancel_left same)
          obtain ⟨rest, ends⟩ := ih laterLegible laterLettered moreLettered behind
          rw [List.map_cons, List.map_cons, show tree.withoutIndices = _ from alike, rest]
          exact ⟨rfl, ends⟩

end Row

/-! ### A node in front of its children -/

/-- A node with its children printed behind it, in some way. -/
def shownWith (below : List Tree → Text) : Tree → Text
  | phrase kind children => kind.label ++ below children
  | word text category _ => text ++ '/' :: category.code

theorem slash_head (text : Text) : ∀ char ∈ ('/' :: text).head?, isWordLetter char = false := by
  rintro char ⟨⟩
  rfl

section Node

variable {below : List Tree → Text} {Stops : Text → Prop}

theorem Lettered.shownWith_head {tree : Tree} (lettered : tree.Lettered) :
    ∃ char more, tree.shownWith below = char :: more ∧ isWordLetter char = true := by
  have begun {run : Text} (word : run.IsWord) (behind : Text) :
      ∃ char more, run ++ behind = char :: more ∧ isWordLetter char = true := by
    cases run with
    | nil => exact absurd rfl word.1
    | cons char rest => exact ⟨char, rest ++ behind, rfl, word.2 char List.mem_cons_self⟩
  cases tree with
  | phrase kind children => exact begun kind.isWord_label _
  | word text category index => exact begun lettered.text _

variable (opens : ∀ (children : List Tree) (rest : Text), Stops rest →
  ∀ char ∈ (below children ++ rest).head?, isWordLetter char = false ∧ char ≠ '/')
include opens

-- A leaf has a slash behind its first run of letters, and a phrase has none there.
theorem phrase_ne_word {kind : PhraseKind} {children : List Tree} {text : Text}
    {category : Category} {rest left : Text} (word : text.IsWord) (stops : Stops rest) :
    kind.label ++ below children ++ rest ≠ text ++ '/' :: category.code ++ left := by
  intro same
  have opened := opens children rest stops
  rw [List.append_assoc, List.append_assoc] at same
  obtain ⟨_, behind⟩ := Text.run_unique kind.isWord_label.2 word.2
    (fun char head => (opened char head).1) (slash_head _) same
  exact (opened '/' (by rw [behind]; rfl)).2 rfl

theorem word_legible (stopped : ∀ rest, Stops rest → ∀ char ∈ rest.head?, isWordLetter char = false)
    {text : Text} {category : Category} {index : Nat}
    (lettered : (word text category index).Lettered) :
    (word text category index).Legible (shownWith below) Stops := by
  intro other rest left otherLettered stops otherStops same
  cases other with
  | phrase kind children => exact absurd same.symm (phrase_ne_word opens lettered.text otherStops)
  | word otherText otherCategory otherIndex =>
      simp only [shownWith, List.append_assoc, List.cons_append] at same
      obtain ⟨rfl, behind⟩ := Text.run_unique lettered.text.2 otherLettered.text.2 (slash_head _)
        (slash_head _) same
      obtain ⟨code, ends⟩ := Text.run_unique category.isWord_code.2 otherCategory.isWord_code.2
        (stopped rest stops) (stopped left otherStops) (List.cons.inj behind).2
      obtain rfl := Category.code_injective code
      exact ⟨rfl, ends⟩

/-- A phrase is legible if its children are, printed in a row behind it. -/
theorem phrase_legible {kind : PhraseKind} {children : List Tree}
    (row : ∀ (others : List Tree) (rest left : Text), (∀ tree ∈ others, tree.Lettered) →
      Stops rest → Stops left → below children ++ rest = below others ++ left →
        children.map withoutIndices = others.map withoutIndices ∧ rest = left) :
    (phrase kind children).Legible (shownWith below) Stops := by
  intro other rest left otherLettered stops otherStops same
  cases other with
  | word text category index => exact absurd same (phrase_ne_word opens otherLettered.text stops)
  | phrase otherKind others =>
      simp only [shownWith, List.append_assoc] at same
      obtain ⟨label, behind⟩ := Text.run_unique kind.isWord_label.2 otherKind.isWord_label.2
        (fun char head => (opens children rest stops char head).1)
        (fun char head => (opens others left otherStops char head).1) same
      obtain rfl := PhraseKind.label_injective label
      obtain ⟨alike, ends⟩ := row others rest left otherLettered.children stops otherStops behind
      refine ⟨?_, ends⟩
      rw [SameButIndices, withoutIndices_phrase, withoutIndices_phrase, alike]

end Node

end Tree

end SimpleSentence
