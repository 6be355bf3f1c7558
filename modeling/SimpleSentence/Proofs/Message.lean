import SimpleSentence.Proofs.Report.Lossless

/-!
What a message tells of an error. The expected codes stand between slashes and end at
the first comma, the code of the token ends at a blank, its quoted text at the first
quote that is no escape, and its number with the message. So the message determines
all of an error but the span of its token, whatever the text of the token imitates.
-/

namespace SimpleSentence

namespace Text

open Json (hexValue)

/-! ### Quoted texts -/

theorem hexValue_digitChar : ∀ number < 16, hexValue (Nat.digitChar number) = number := by decide

def hexadecimalValue (digits : Text) : Nat :=
  digits.foldl (fun sum digit => 16 * sum + hexValue digit) 0

-- Induction over the number: its digits are those of its sixteenth part and one more.
theorem hexadecimalValue_hexadecimal (number : Nat) :
    hexadecimalValue (hexadecimal number) = number := by
  induction number using Nat.strongRecOn with
  | ind number ih =>
      rw [hexadecimal, Nat.toDigits_eq_if (by decide)]
      split
      · next small =>
          have value := hexValue_digitChar number small
          simp [hexadecimalValue, value]
      · next large =>
          have front := ih (number / 16) (by omega)
          have last := hexValue_digitChar (number % 16) (Nat.mod_lt _ (by decide))
          rw [hexadecimalValue, hexadecimal] at front
          rw [hexadecimalValue, List.foldl_append, front, List.foldl_cons, List.foldl_nil, last]
          omega

theorem closing_not_mem_hexadecimal (number : Nat) :
    ∀ digit ∈ hexadecimal number, (digit != '\x7d') = true := by
  have other : ∀ value < 16, (Nat.digitChar value != '\x7d') = true := by decide
  induction number using Nat.strongRecOn with
  | ind number ih =>
      rw [hexadecimal, Nat.toDigits_eq_if (by decide)]
      split
      · next small =>
          intro digit member
          rw [List.mem_singleton.mp member]
          exact other number small
      · next large =>
          have front := ih (number / 16) (by omega)
          have last := other (number % 16) (Nat.mod_lt _ (by decide))
          exact List.forall_mem_append.mpr ⟨front, List.forall_mem_singleton.mpr last⟩

/-- Reads back what stands behind a backslash. -/
def readEscape? : Text → Option (Char × Text)
  | [] => none
  | 'n' :: rest => some ('\n', rest)
  | 'r' :: rest => some ('\r', rest)
  | 't' :: rest => some ('\t', rest)
  | '0' :: rest => some ('\x00', rest)
  | 'u' :: '\x7b' :: rest =>
      some (Char.ofNat (hexadecimalValue (rest.takeWhile (· != '\x7d'))),
        (rest.dropWhile (· != '\x7d')).drop 1)
  | char :: rest => some (char, rest)

/-- Reads one character of a quoted text back; the closing quote is none. -/
def readChar? : Text → Option (Char × Text)
  | [] => none
  | char :: rest =>
      if char = '"' then none else if char = '\\' then readEscape? rest else some (char, rest)

theorem readChar?_escapeChar (char : Char) (rest : Text) :
    readChar? (escapeChar char ++ rest) = some (char, rest) := by
  unfold escapeChar
  split
  · next marked =>
      rw [Bool.or_eq_true, decide_eq_true_iff, decide_eq_true_iff] at marked
      rcases marked with rfl | rfl <;> rfl
  · next unmarked =>
      repeat' split
      -- The characters with a name of their own are read back by evaluation.
      any_goals (subst_vars; rfl)
      · have ended : ∀ char ∈ ('\x7d' :: rest).head?, (char != '\x7d') = false := by
          rintro _ ⟨⟩
          rfl
        have digits := closing_not_mem_hexadecimal char.toNat
        show readEscape? ('u' :: '\x7b' :: ((hexadecimal char.toNat ++ ['\x7d']) ++ rest)) = _
        rw [List.append_assoc, readEscape?, List.singleton_append, takeWhile_run digits ended,
          dropWhile_run digits ended, hexadecimalValue_hexadecimal, Char.ofNat_toNat]
        rfl
      · rw [Bool.or_eq_true, decide_eq_true_iff, decide_eq_true_iff, not_or] at unmarked
        show (if char = '"' then none else _) = _
        rw [if_neg unmarked.1, if_neg unmarked.2]
        rfl

theorem escape_eq_flatMap (text : Text) : escape text = text.flatMap escapeChar := by
  induction text with
  | nil => rfl
  | cons first rest ih => rw [escape, ih, List.flatMap_cons]

theorem quote_legible {text other rest left : Text}
    (same : quote text ++ rest = quote other ++ left) : text = other ∧ rest = left := by
  simp only [quote, List.cons_append, List.append_assoc, List.nil_append, List.cons.injEq,
    true_and, escape_eq_flatMap] at same
  exact escaped_legible readChar?_escapeChar (fun _ => rfl) same

/-! ### Parts between marks -/

section Marked

variable {mark : Char} {parts others : List Text}

theorem joinWith_cons (first : Text) (rest : List Text) :
    joinWith [mark] (first :: rest) = first ++ rest.flatMap (mark :: ·) := by
  induction rest generalizing first with
  | nil => rw [joinWith, List.flatMap_nil, List.append_nil]
  | cons second more ih =>
      rw [joinWith, ih, List.flatMap_cons]
      · simp
      · exact List.cons_ne_nil _ _

theorem marked_head (parts : List Text) :
    ∀ char ∈ (parts.flatMap (mark :: ·)).head?, (char != mark) = false := by
  cases parts with
  | nil => nofun
  | cons first rest =>
      rintro _ ⟨⟩
      exact bne_self_eq_false _

theorem marked_injective (unmarked : ∀ part ∈ parts, ∀ char ∈ part, (char != mark) = true)
    (otherUnmarked : ∀ part ∈ others, ∀ char ∈ part, (char != mark) = true)
    (same : parts.flatMap (mark :: ·) = others.flatMap (mark :: ·)) : parts = others := by
  induction parts generalizing others with
  | nil =>
      cases others with
      | nil => rfl
      | cons other more => cases same
  | cons first rest ih =>
      cases others with
      | nil => cases same
      | cons other more =>
          obtain ⟨own, later⟩ := List.forall_mem_cons.mp unmarked
          obtain ⟨otherOwn, otherLater⟩ := List.forall_mem_cons.mp otherUnmarked
          obtain ⟨rfl, behind⟩ := run_unique own otherOwn (marked_head rest) (marked_head more)
            (List.cons.inj same).2
          rw [ih later otherLater behind]

/-- Parts that are not empty and hold no mark are told apart by the marks between them. -/
theorem joinWith_injective (unmarked : ∀ part ∈ parts, ∀ char ∈ part, (char != mark) = true)
    (otherUnmarked : ∀ part ∈ others, ∀ char ∈ part, (char != mark) = true)
    (filled : [] ∉ parts) (otherFilled : [] ∉ others)
    (same : joinWith [mark] parts = joinWith [mark] others) : parts = others := by
  have joined (first : Text) (rest : List Text) (some : [] ∉ first :: rest) :
      joinWith [mark] (first :: rest) ≠ [] := by
    rw [joinWith_cons]
    rintro none
    rw [(List.append_eq_nil_iff.mp none).1] at some
    exact some List.mem_cons_self
  cases parts with
  | nil =>
      cases others with
      | nil => rfl
      | cons other more => exact absurd same.symm (joined other more otherFilled)
  | cons first rest =>
      cases others with
      | nil => exact absurd same (joined first rest filled)
      | cons other more =>
          rw [joinWith_cons, joinWith_cons] at same
          obtain ⟨own, later⟩ := List.forall_mem_cons.mp unmarked
          obtain ⟨otherOwn, otherLater⟩ := List.forall_mem_cons.mp otherUnmarked
          obtain ⟨rfl, behind⟩ := run_unique own otherOwn (marked_head rest) (marked_head more) same
          rw [marked_injective later otherLater behind]

end Marked

end Text

namespace CategorySet

theorem codes_injective {set other : CategorySet} (same : set.codes = other.codes) :
    set = other := by
  have unmarked (set : CategorySet) :
      ∀ code ∈ set.members.map Category.code, ∀ char ∈ code, (char != '/') = true := by
    intro code listed char member
    obtain ⟨category, _, rfl⟩ := List.mem_map.mp listed
    rw [bne_iff_ne]
    rintro rfl
    exact absurd (category.isWord_code.2 '/' member) (by decide)
  have filled (set : CategorySet) : [] ∉ set.members.map Category.code := by
    intro listed
    obtain ⟨category, _, none⟩ := List.mem_map.mp listed
    exact category.isWord_code.1 none
  have codes := Text.joinWith_injective (unmarked set) (unmarked other) (filled set)
    (filled other) same
  have members : set.members = other.members :=
    (show Function.Injective Category.code from fun _ _ => Category.code_injective).list_map codes
  exact members_injective members

/-- The codes of a set end where something else than a letter and a slash stands. -/
theorem codes_legible {set other : CategorySet} {rest left : Text}
    (ended : ∀ char ∈ rest.head?, (isWordLetter char || char == '/') = false)
    (otherEnded : ∀ char ∈ left.head?, (isWordLetter char || char == '/') = false)
    (same : set.codes ++ rest = other.codes ++ left) : set = other ∧ rest = left := by
  have inside (set : CategorySet) :
      ∀ char ∈ set.codes, (isWordLetter char || char == '/') = true := by
    intro char member
    rcases Text.mem_joinWith member with inBetween | ⟨part, listed, inPart⟩
    · rw [List.mem_singleton.mp inBetween]
      decide
    · obtain ⟨category, _, rfl⟩ := List.mem_map.mp listed
      rw [category.isWord_code.2 char inPart, Bool.true_or]
  obtain ⟨codes, behind⟩ := Text.run_unique (inside set) (inside other) ended otherEnded same
  exact ⟨codes_injective codes, behind⟩

end CategorySet

namespace ParseError

theorem foundText_legible {token other : Token} (same : foundText token = foundText other) :
    token.category = other.category ∧ token.text = other.text ∧ token.index = other.index := by
  have opened (rest : Text) :
      ∀ char ∈ (" (".toList ++ rest).head?, isWordLetter char = false := by
    rintro _ ⟨⟩
    rfl
  simp only [foundText, List.append_assoc] at same
  obtain ⟨code, behind⟩ := Text.run_unique token.category.isWord_code.2
    other.category.isWord_code.2 (opened _) (opened _) same
  obtain ⟨text, number⟩ := Text.quote_legible (List.append_cancel_left behind)
  exact ⟨Category.code_injective code, text,
    Json.numeral_injective (List.append_cancel_left number)⟩

/-- Whether a whole sentence was read in front of the token. -/
def isTrailing : ParseError → Bool
  | unexpected _ _ => false
  | trailing _ => true

-- The code behind `found ` begins with a capital and cannot be taken for the word `unconsumed`.
theorem foundText_not_unconsumed (token : Token) (rest : Text) :
    foundText token ≠ "unconsumed ".toList ++ rest := by
  intro same
  have capital : token.category.code.head? ≠ "unconsumed ".toList.head? := by
    cases token.category <;> decide
  have heads := congrArg List.head? same
  simp only [foundText, List.append_assoc] at heads
  rw [List.head?_append_of_ne_nil _ token.category.isWord_code.1,
    List.head?_append_of_ne_nil _ (by decide)] at heads
  exact capital heads

theorem joint_legible {error other : ParseError}
    (same : error.joint ++ foundText error.found = other.joint ++ foundText other.found) :
    error.isTrailing = other.isTrailing ∧ foundText error.found = foundText other.found := by
  have unconsumed (rest : Text) : ", found unconsumed ".toList ++ rest =
      ", found ".toList ++ ("unconsumed ".toList ++ rest) := by
    have split : ", found unconsumed ".toList = ", found ".toList ++ "unconsumed ".toList := by
      decide
    exact (congrArg (· ++ rest) split).trans (List.append_assoc _ _ _)
  cases error with
  | unexpected expected token =>
      cases other with
      | unexpected otherExpected otherToken => exact ⟨rfl, List.append_cancel_left same⟩
      | trailing otherToken =>
          have whole := List.append_cancel_left (same.trans (unconsumed _))
          exact absurd whole (foundText_not_unconsumed token _)
  | trailing token =>
      cases other with
      | unexpected otherExpected otherToken =>
          have whole := List.append_cancel_left (same.symm.trans (unconsumed _))
          exact absurd whole (foundText_not_unconsumed otherToken _)
      | trailing otherToken => exact ⟨rfl, List.append_cancel_left same⟩

/-- Two errors have one message exactly if they are of one kind, expect the same, and found tokens
that differ in nothing but their spans. -/
theorem message_eq_iff {error other : ParseError} :
    error.message = other.message ↔
      error.isTrailing = other.isTrailing ∧ error.expected = other.expected ∧
        error.found.category = other.found.category ∧ error.found.text = other.found.text ∧
        error.found.index = other.found.index := by
  constructor
  · intro same
    have comma (error : ParseError) : ∀ char ∈ (error.joint ++ foundText error.found).head?,
        (isWordLetter char || char == '/') = false := by
      cases error <;> rintro _ ⟨⟩ <;> rfl
    rw [message_eq, message_eq] at same
    simp only [List.append_assoc] at same
    obtain ⟨expected, behind⟩ := CategorySet.codes_legible (comma error) (comma other)
      (List.append_cancel_left same)
    obtain ⟨kind, found⟩ := joint_legible behind
    exact ⟨kind, expected, foundText_legible found⟩
  · rintro ⟨kind, expected, category, text, index⟩
    have joint : error.joint = other.joint := by
      cases error <;> cases other <;> first | rfl | cases kind
    have found : foundText error.found = foundText other.found := by
      rw [foundText, foundText, category, text, index]
    rw [message_eq, message_eq, expected, joint, found]

-- A text that imitates the end of a message is still a text of its own.
example :
    (unexpected (.single .verb) ⟨"a\") at position 1".toList, .noun, 2, .empty 0⟩).message =
      "expected V, found N (\"a\\\") at position 1\") at position 2".toList := by
  decide +kernel

end ParseError

end SimpleSentence
