import SimpleSentence.Word

/-!
How a text is cut into words. Read from the left, a text goes on with a
separator or with a run of letters that ends: a separator is passed over, and the
run is a word in front of the words of the rest. So every word is a run of
letters and stands in the text under its span, and the texts of the words do not
depend on where the text begins.
-/

namespace SimpleSentence

/-- A run of letters. -/
def Text.IsWord (text : Text) : Prop := text ≠ [] ∧ ∀ char ∈ text, isWordLetter char = true

/-- What can stand between two words. -/
def Text.Separates (gap : Text) : Prop := gap ≠ [] ∧ ∀ char ∈ gap, isWordLetter char = false

-- The characters of the gap are checked and not, as a search over the type would, all there are.
instance (gap : Text) : Decidable gap.Separates :=
  haveI := List.decidableBAll (fun char => isWordLetter char = false) gap
  instDecidableAnd

theorem Text.Separates.head {gap : Text} (separates : gap.Separates) (rest : Text) :
    ∀ char ∈ (gap ++ rest).head?, isWordLetter char = false := by
  intro char member
  cases gap with
  | nil => exact absurd rfl separates.1
  | cons first more =>
      obtain rfl : first = char := Option.some.inj member
      exact separates.2 first List.mem_cons_self

/-- The span of bytes holds this part of the source, from one character's start to another's. -/
def Span.Holds (span : Span) (source part : Text) : Prop :=
  ∃ before after, source = before ++ part ++ after ∧
    span.start = Text.byteLength before ∧ span.stop = Text.byteLength (before ++ part)

namespace Word

/-- The words of a text that begins at an offset. -/
def allFrom (offset : Nat) (text : Text) : List Word :=
  (ofRun? offset (ahead offset text).run).toList ++ (ahead offset text).later

variable {offset : Nat} {char : Char} {run rest : Text}

theorem allFrom_separator (separator : isWordLetter char = false) :
    allFrom offset (char :: rest) = allFrom (offset + char.utf8Size) rest := by
  simp [allFrom, ahead, separator, ofRun?]

theorem allFrom_separators {gap : Text}
    (separators : ∀ char ∈ gap, isWordLetter char = false) :
    allFrom offset (gap ++ rest) = allFrom (offset + Text.byteLength gap) rest := by
  induction gap generalizing offset with
  | nil => rfl
  | cons first more ih =>
      have later := @ih (offset + first.utf8Size) fun char member =>
        separators char (List.mem_cons_of_mem first member)
      rw [List.cons_append, allFrom_separator (separators first List.mem_cons_self), later,
        Text.byteLength, Nat.add_assoc]

theorem ahead_letters (letters : ∀ char ∈ run, isWordLetter char = true) :
    ahead offset (run ++ rest) =
      ⟨run ++ (ahead (offset + Text.byteLength run) rest).run,
        (ahead (offset + Text.byteLength run) rest).later⟩ := by
  induction run generalizing offset with
  | nil => rfl
  | cons first more ih =>
      have later := @ih (offset + first.utf8Size) fun char member =>
        letters char (List.mem_cons_of_mem first member)
      simp [ahead, letters first List.mem_cons_self, later, Text.byteLength, Nat.add_assoc]

theorem allFrom_run (word : run.IsWord) (ended : ∀ char ∈ rest.head?, isWordLetter char = false) :
    allFrom offset (run ++ rest) =
      ⟨run, ⟨offset, offset + Text.byteLength run⟩⟩ ::
        allFrom (offset + Text.byteLength run) rest := by
  have closed : (ahead (offset + Text.byteLength run) rest).run = [] := by
    rw [ahead_run]
    cases rest with
    | nil => rfl
    | cons next more => simp [ended next rfl]
  have shape : ofRun? offset run = some ⟨run, ⟨offset, offset + Text.byteLength run⟩⟩ := by
    cases run with
    | nil => exact absurd rfl word.1
    | cons first more => rfl
  rw [allFrom, allFrom, ahead_letters word.2, closed, List.append_nil, shape]
  rfl

/-- A text from the left: nothing, or a separator, or a run of letters that ends. -/
inductive Cut : Text → Prop where
  | nothing : Cut []
  | separator {char : Char} {rest : Text} (separator : isWordLetter char = false)
      (later : Cut rest) : Cut (char :: rest)
  | run {run rest : Text} (word : run.IsWord)
      (ended : ∀ char ∈ rest.head?, isWordLetter char = false) (later : Cut rest) :
      Cut (run ++ rest)

theorem isWord_singleton (letter : isWordLetter char = true) : Text.IsWord [char] :=
  ⟨List.cons_ne_nil _ _, by simpa using letter⟩

-- A letter in front of a run makes the run longer, and otherwise begins one.
theorem cut (text : Text) : Cut text := by
  induction text with
  | nil => exact .nothing
  | cons first rest ih =>
      cases letter : isWordLetter first with
      | false => exact .separator letter ih
      | true =>
          cases ih with
          | nothing => exact .run (isWord_singleton letter) (by simp) .nothing
          | separator separator later =>
              exact .run (isWord_singleton letter) (by simpa using separator)
                (.separator separator later)
          | run word ended later =>
              exact @Cut.run (first :: _) _
                ⟨List.cons_ne_nil _ _, by simpa using ⟨letter, word.2⟩⟩ ended later

/-- Every word is a run of letters and stands under its span, counted from the offset. -/
theorem allFrom_word (offset : Nat) (text : Text) :
    ∀ word ∈ allFrom offset text, word.text.IsWord ∧
      ∃ before after, text = before ++ word.text ++ after ∧
        word.span.start = offset + Text.byteLength before ∧
        word.span.stop = offset + Text.byteLength (before ++ word.text) := by
  induction cut text generalizing offset with
  | nothing =>
      intro word member
      cases member
  | @separator char rest separator _ ih =>
      intro word member
      rw [allFrom_separator separator] at member
      obtain ⟨isWord, before, after, whole, start, stop⟩ := ih _ word member
      refine ⟨isWord, char :: before, after, ?_, ?_, ?_⟩
      · rw [whole]; rfl
      · rw [start, Text.byteLength, Nat.add_assoc]
      · rw [stop, List.cons_append, Text.byteLength, Nat.add_assoc]
  | @run run rest isRun ended _ ih =>
      intro word member
      rw [allFrom_run isRun ended] at member
      rcases List.mem_cons.mp member with rfl | later
      · exact ⟨isRun, [], rest, rfl, rfl, rfl⟩
      · obtain ⟨isWord, before, after, whole, start, stop⟩ := ih _ word later
        refine ⟨isWord, run ++ before, after, ?_, ?_, ?_⟩
        · rw [whole]; simp
        · rw [start, Text.byteLength_append, Nat.add_assoc]
        · rw [stop, List.append_assoc, Text.byteLength_append run, Nat.add_assoc]

theorem holds_of_mem {text : Text} {word : Word} (member : word ∈ allIn text) :
    word.span.Holds text word.text := by
  obtain ⟨_, before, after, whole, start, stop⟩ := allFrom_word 0 text word member
  rw [Nat.zero_add] at start stop
  exact ⟨before, after, whole, start, stop⟩

theorem isWord_of_mem {text word : Text} (member : word ∈ textsIn text) : word.IsWord := by
  obtain ⟨found, inside, rfl⟩ := List.mem_map.mp member
  exact (allFrom_word 0 text found inside).1

-- Where a text begins moves its words and changes none of them.
theorem texts_allFrom (first second : Nat) (text : Text) :
    (allFrom first text).map Word.text = (allFrom second text).map Word.text := by
  induction cut text generalizing first second with
  | nothing => rfl
  | separator separator _ ih =>
      rw [allFrom_separator separator, allFrom_separator separator]
      exact ih _ _
  | run word ended _ ih =>
      rw [allFrom_run word ended, allFrom_run word ended, List.map_cons, List.map_cons]
      exact congrArg _ (ih _ _)

theorem textsIn_separator (separator : isWordLetter char = false) :
    textsIn (char :: rest) = textsIn rest := by
  calc
    textsIn (char :: rest)
        = (allFrom (0 + char.utf8Size) rest).map Word.text :=
          congrArg (List.map Word.text) (allFrom_separator separator)
    _ = textsIn rest := texts_allFrom _ 0 rest

theorem textsIn_run (word : run.IsWord) (ended : ∀ char ∈ rest.head?, isWordLetter char = false) :
    textsIn (run ++ rest) = run :: textsIn rest := by
  calc
    textsIn (run ++ rest)
        = run :: (allFrom (0 + Text.byteLength run) rest).map Word.text :=
          congrArg (List.map Word.text) (allFrom_run word ended)
    _ = run :: textsIn rest := congrArg (List.cons run) (texts_allFrom _ 0 rest)

theorem textsIn_separators {gap : Text} (separators : ∀ char ∈ gap, isWordLetter char = false) :
    textsIn (gap ++ rest) = textsIn rest := by
  induction gap with
  | nil => rfl
  | cons first more ih =>
      rw [List.cons_append, textsIn_separator (separators first List.mem_cons_self)]
      exact ih fun char member => separators char (List.mem_cons_of_mem first member)

end Word

end SimpleSentence
