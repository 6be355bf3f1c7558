import SimpleSentence.Category

/-!
Parse trees. A leaf is a word with its category and its place among the words;
every other node is a phrase of one of four kinds over its children in order.
The outline gives one label a line, two spaces deeper at each level, and the
bracketed form the whole tree in one line.
-/

namespace SimpleSentence

inductive PhraseKind where
  | sentence
  | nounPhrase
  | verbPhrase
  | prepPhrase
  deriving DecidableEq, Repr

def PhraseKind.label : PhraseKind → Text
  | sentence => "S".toList
  | nounPhrase => "NP".toList
  | verbPhrase => "VP".toList
  | prepPhrase => "PP".toList

inductive Tree where
  | phrase (kind : PhraseKind) (children : List Tree)
  | word (text : Text) (category : Category) (index : Nat)
  deriving Repr

namespace Tree

def label : Tree → Text
  | phrase kind _ => kind.label
  | word text category _ => text ++ '/' :: category.code

def kind? : Tree → Option PhraseKind
  | phrase kind _ => some kind
  | word _ _ _ => none

def children : Tree → List Tree
  | phrase _ children => children
  | word _ _ _ => []

def isWord : Tree → Bool
  | phrase _ _ => false
  | word _ _ _ => true

mutual

/-- The word nodes from left to right. -/
def leaves : Tree → List Tree
  | phrase _ children => leavesOf children
  | word text category index => [word text category index]

def leavesOf : List Tree → List Tree
  | [] => []
  | tree :: rest => leaves tree ++ leavesOf rest

end

mutual

/-- The texts of the word nodes from left to right. -/
def words : Tree → List Text
  | phrase _ children => wordsOf children
  | word text _ _ => [text]

def wordsOf : List Tree → List Text
  | [] => []
  | tree :: rest => words tree ++ wordsOf rest

end

mutual

/-- The number of nodes on the longest way down. -/
def depth : Tree → Nat
  | phrase _ children => 1 + depthOf children
  | word _ _ _ => 1

def depthOf : List Tree → Nat
  | [] => 0
  | tree :: rest => max (depth tree) (depthOf rest)

end

/-- Indentation is padding of nothing, so it ends at `Text.padLimit` columns: an outline is meant
for trees of at most 32768 levels. -/
def indent (level : Nat) : Text := List.replicate (2 * level) ' '

mutual

def outlineAt (level : Nat) : Tree → Text
  | phrase kind children => indent level ++ kind.label ++ outlineOf (level + 1) children
  | word text category _ => indent level ++ (text ++ '/' :: category.code)

def outlineOf (level : Nat) : List Tree → Text
  | [] => []
  | tree :: rest => '\n' :: (outlineAt level tree ++ outlineOf level rest)

end

def outline (tree : Tree) : Text := outlineAt 0 tree

mutual

def bracketed : Tree → Text
  | phrase kind children => kind.label ++ '(' :: (bracketedOf children ++ [')'])
  | word text category _ => text ++ '/' :: category.code

/-- The bracketed forms with a space between neighbours. -/
def bracketedOf : List Tree → Text
  | [] => []
  | [only] => bracketed only
  | first :: second :: rest => bracketed first ++ ' ' :: bracketedOf (second :: rest)

end

mutual

/-- Whether two trees agree in every node. -/
def same : Tree → Tree → Bool
  | phrase kind children, phrase otherKind otherChildren =>
      kind == otherKind && sameOf children otherChildren
  | word text category index, word otherText otherCategory otherIndex =>
      text == otherText && category == otherCategory && index == otherIndex
  | _, _ => false

def sameOf : List Tree → List Tree → Bool
  | [], [] => true
  | tree :: rest, other :: otherRest => same tree other && sameOf rest otherRest
  | _, _ => false

end

mutual

theorem eq_of_same : ∀ tree other : Tree, same tree other = true → tree = other
  | phrase kind children, phrase otherKind otherChildren, agree => by
      simp only [same, Bool.and_eq_true, beq_iff_eq] at agree
      rw [agree.1, eq_of_sameOf children otherChildren agree.2]
  | word text category index, word otherText otherCategory otherIndex, agree => by
      simp only [same, Bool.and_eq_true, beq_iff_eq] at agree
      rw [agree.1.1, agree.1.2, agree.2]
  | phrase _ _, word _ _ _, agree => by simp [same] at agree
  | word _ _ _, phrase _ _, agree => by simp [same] at agree

theorem eq_of_sameOf : ∀ trees others : List Tree, sameOf trees others = true → trees = others
  | [], [], _ => rfl
  | tree :: rest, other :: otherRest, agree => by
      simp only [sameOf, Bool.and_eq_true] at agree
      rw [eq_of_same tree other agree.1, eq_of_sameOf rest otherRest agree.2]
  | [], _ :: _, agree => by simp [sameOf] at agree
  | _ :: _, [], agree => by simp [sameOf] at agree

end

mutual

theorem same_refl : ∀ tree : Tree, same tree tree = true
  | phrase _ children => by simp [same, sameOf_refl children]
  | word _ _ _ => by simp [same]

theorem sameOf_refl : ∀ trees : List Tree, sameOf trees trees = true
  | [] => rfl
  | tree :: rest => by simp [sameOf, same_refl tree, sameOf_refl rest]

end

instance : DecidableEq Tree := fun tree other =>
  if agree : same tree other = true then .isTrue (eq_of_same tree other agree)
  else .isFalse fun equal => agree (equal ▸ same_refl tree)

end Tree

end SimpleSentence
