import SimpleSentence.Proofs.Acceptance
import SimpleSentence.Proofs.Relabelling
import SimpleSentence.Proofs.Words

/-!
Only the words of a text matter. Without their spans the tokens of a text are
made from its words alone, so texts with the same words are judged alike and
their trees are equal. The leaves of a tree are the words of the text, and words
with any separators between them are cut into the same words again; so an
accepted text may be spaced anew in any way and keeps its tree.
-/

namespace SimpleSentence

/-- Texts in a row with something between neighbours that may be different each time. -/
def Text.joinBy (between : Nat → Text) : List Text → Text
  | [] => []
  | [only] => only
  | first :: second :: rest =>
      first ++ between 0 ++ joinBy (fun place => between (place + 1)) (second :: rest)

theorem Text.joinBy_const (between : Text) (texts : List Text) :
    joinBy (fun _ => between) texts = joinWith between texts := by
  fun_induction joinWith between texts with
  | case1 => rfl
  | case2 only => rfl
  | case3 first rest more ih =>
      cases rest with
      | nil => exact (more rfl).elim
      | cons second others => rw [joinBy, ih]

/-- Words with separators between them are cut into the same words again. -/
theorem Word.textsIn_joinBy {between : Nat → Text} {words : List Text}
    (separated : ∀ place, (between place).Separates) (areWords : ∀ word ∈ words, word.IsWord) :
    textsIn (Text.joinBy between words) = words := by
  fun_induction Text.joinBy between words with
  | case1 between => rfl
  | case2 between only =>
      have alone := @textsIn_run only [] (areWords only List.mem_cons_self) (by simp)
      rwa [List.append_nil] at alone
  | case3 between first second rest ih =>
      have later := ih (fun place => separated (place + 1)) fun word member =>
        areWords word (List.mem_cons_of_mem first member)
      have gap := separated 0
      rw [List.append_assoc, textsIn_run (areWords first List.mem_cons_self) (gap.head _),
        textsIn_separators gap.2, later]

/-- Tokens that differ in their spans at most. -/
def Token.SameWord (token other : Token) : Prop :=
  token.text = other.text ∧ token.category = other.category ∧ token.index = other.index

/-- The relabelling that keeps all but the spans. -/
def unplaced : Relabelling := ⟨id, fun _ => .empty 0⟩

theorem unplaced_token_eq_iff (token other : Token) :
    unplaced.token token = unplaced.token other ↔ token.SameWord other := by
  simp [Relabelling.token, unplaced, Token.SameWord]

mutual

theorem unplaced_tree : ∀ tree : Tree, unplaced.tree tree = tree
  | .phrase kind children => by rw [Relabelling.tree, unplaced_trees children]
  | .word _ _ _ => rfl

theorem unplaced_trees : ∀ trees : List Tree, unplaced.trees trees = trees
  | [] => rfl
  | first :: rest => by rw [Relabelling.trees, unplaced_tree first, unplaced_trees rest]

end

mutual

theorem Tree.flatMap_words_leaves : ∀ tree : Tree, tree.leaves.flatMap Tree.words = tree.words
  | .phrase _ children => Tree.flatMap_words_leavesOf children
  | .word _ _ _ => rfl

theorem Tree.flatMap_words_leavesOf : ∀ trees : List Tree,
    (Tree.leavesOf trees).flatMap Tree.words = Tree.wordsOf trees
  | [] => rfl
  | first :: rest => by
      rw [Tree.leavesOf, List.flatMap_append, Tree.flatMap_words_leaves first,
        Tree.flatMap_words_leavesOf rest]
      rfl

end

theorem Token.flatMap_words (tokens : List Token) :
    (tokens.map Token.leaf).flatMap Tree.words = tokens.map Token.text := by
  induction tokens with
  | nil => rfl
  | cons token rest ih => exact congrArg (List.cons token.text) ih

namespace Lexicon

/-- The tokens that words are given wherever they stand. -/
def tagWords (lexicon : Lexicon) (words : List Text) : Tagged :=
  { words := words.zipIdx.map fun numbered =>
      ⟨numbered.1, lexicon.categoryOf numbered.1, numbered.2, .empty 0⟩
    sentinel := ⟨sentinelText, .endOfInput, words.length, .empty 0⟩ }

theorem unplaced_tokensFrom (lexicon : Lexicon) (index : Nat) (words : List Word) :
    (lexicon.tokensFrom index words).map unplaced.token =
      ((words.map Word.text).zipIdx index).map fun numbered =>
        ⟨numbered.1, lexicon.categoryOf numbered.1, numbered.2, .empty 0⟩ := by
  rw [tokensFrom_eq_map, List.zipIdx_map, List.map_map, List.map_map]
  rfl

theorem unplaced_tag (lexicon : Lexicon) (text : Text) :
    unplaced.tagged (lexicon.tag text) = lexicon.tagWords (Word.textsIn text) := by
  have words := lexicon.unplaced_tokensFrom 0 (Word.allIn text)
  rw [Relabelling.tagged, tag, words, tagWords]
  simp [Word.textsIn, Relabelling.token, unplaced, Span.empty]

section SameWords

variable {first second : Text} (same : Word.textsIn first = Word.textsIn second)
include same

theorem unplaced_tag_eq (lexicon : Lexicon) :
    unplaced.tagged (lexicon.tag first) = unplaced.tagged (lexicon.tag second) := by
  rw [unplaced_tag, unplaced_tag, same]

theorem tag_sameWords (lexicon : Lexicon) :
    List.Forall₂ Token.SameWord (lexicon.tag first).tokens (lexicon.tag second).tokens := by
  refine (unplaced.tokens_alike (lexicon.unplaced_tag_eq same)).imp ?_
  intro token other
  exact (unplaced_token_eq_iff token other).mp

theorem parse_sameWords (lexicon : Lexicon) :
    JudgedAlike Eq Token.SameWord (lexicon.parse first) (lexicon.parse second) := by
  refine (unplaced.parse_alike (lexicon.unplaced_tag_eq same)).imp ?_ ?_
  · intro tree other alike
    rwa [unplaced_tree, unplaced_tree] at alike
  · intro found other
    exact (unplaced_token_eq_iff found other).mp

end SameWords

/-- The tree of a text has the words of the text. -/
theorem words_of_parse {lexicon : Lexicon} {text : Text} {tree : Tree}
    (parsed : lexicon.parse text = .ok tree) : tree.words = Word.textsIn text := by
  have derived := Tagged.parse_sound parsed
  calc
    tree.words
        = ((lexicon.tag text).words.map Token.leaf).flatMap Tree.words := by
          rw [← Tree.flatMap_words_leaves, derived.leaves]
    _ = (lexicon.tag text).words.map Token.text := Token.flatMap_words _
    _ = Word.textsIn text := map_tokensFrom (fun _ _ => rfl) 0 (Word.allIn text)

/-- Respaced words are accepted with the same tree. -/
theorem parse_joinBy {lexicon : Lexicon} {text : Text} {tree : Tree}
    (parsed : lexicon.parse text = .ok tree) {between : Nat → Text}
    (separated : ∀ place, (between place).Separates) :
    lexicon.parse (Text.joinBy between tree.words) = .ok tree := by
  have words := words_of_parse parsed
  have same : Word.textsIn text = Word.textsIn (Text.joinBy between tree.words) := by
    rw [words, Word.textsIn_joinBy separated fun word => Word.isWord_of_mem]
  have judged := lexicon.parse_sameWords same
  rw [parsed] at judged
  generalize lexicon.parse (Text.joinBy between tree.words) = outcome at judged
  cases judged with
  | accepted alike => rw [alike]

theorem separates_space : Text.Separates [' '] := by decide

/-- Texts with the same words have the same tokens and are judged alike, spans aside; and an
accepted text keeps its tree however its words are spaced. -/
theorem only_words_matter (lexicon : Lexicon) :
    (∀ first second : Text, Word.textsIn first = Word.textsIn second →
      List.Forall₂ Token.SameWord (lexicon.tag first).tokens (lexicon.tag second).tokens ∧
        JudgedAlike Eq Token.SameWord (lexicon.parse first) (lexicon.parse second)) ∧
      ∀ (text : Text) (tree : Tree), lexicon.parse text = .ok tree →
        lexicon.parse (Text.joinWith [' '] tree.words) = .ok tree ∧
          ∀ between : Nat → Text, (∀ place, (between place).Separates) →
            lexicon.parse (Text.joinBy between tree.words) = .ok tree := by
  constructor
  · intro first second same
    exact ⟨lexicon.tag_sameWords same, lexicon.parse_sameWords same⟩
  · intro text tree parsed
    constructor
    · rw [← Text.joinBy_const]
      exact parse_joinBy parsed fun _ => separates_space
    · intro between separated
      exact parse_joinBy parsed separated

-- Commas, a line feed and a character of two bytes in the place of the spaces.
def ateRecords : List Record := [⟨"ate".toList, "imp.".toList⟩]

def ateTree : Tree :=
  .phrase .sentence
    [.phrase .nounPhrase [.word "The".toList .determiner 0, .word "dog's".toList .noun 1],
      .phrase .verbPhrase [.word "ate".toList .verb 2]]

theorem ate_respaced :
    Word.textsIn "The dog's ate".toList = Word.textsIn "3The,\ndog's\u00E9ate!".toList ∧
      (ofRecords ateRecords).parse "The dog's ate".toList = .ok ateTree ∧
      JudgedAlike Eq Token.SameWord ((ofRecords ateRecords).parse "The dog's ate".toList)
        ((ofRecords ateRecords).parse "3The,\ndog's\u00E9ate!".toList) ∧
      (ofRecords ateRecords).parse (Text.joinBy (fun _ => "-\u00E9".toList) ateTree.words) =
        .ok ateTree := by
  have same : Word.textsIn "The dog's ate".toList =
      Word.textsIn "3The,\ndog's\u00E9ate!".toList := by decide +kernel
  have parsed : (ofRecords ateRecords).parse "The dog's ate".toList = .ok ateTree := by
    decide +kernel
  have separates : Text.Separates "-\u00E9".toList := by decide
  obtain ⟨alike, respaced⟩ := only_words_matter (ofRecords ateRecords)
  exact ⟨same, parsed, (alike _ _ same).2, (respaced _ _ parsed).2 _ fun _ => separates⟩

end Lexicon

end SimpleSentence
