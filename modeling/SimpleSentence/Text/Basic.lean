/-!
Text is a list of characters and a file's content is a list of bytes, so every
operation of the library is plain recursion on a list. The width of a text has
three measures that must not be mixed: characters, bytes of its encoded form,
and terminal columns. This module counts the first two.
-/

namespace SimpleSentence

abbrev Text := List Char

abbrev Bytes := List UInt8

namespace Text

/-- Bytes of the UTF-8 form. -/
def byteLength : Text → Nat
  | [] => 0
  | char :: rest => char.utf8Size + byteLength rest

def joinWith (between : Text) : List Text → Text
  | [] => []
  | [only] => only
  | first :: rest => first ++ between ++ joinWith between rest

/-- Whether `part` stands anywhere inside a text. -/
def occurs (part : Text) : Text → Bool
  | [] => part.isEmpty
  | char :: rest => part.isPrefixOf (char :: rest) || occurs part rest

/-- The most columns that a text can be padded to. -/
def padLimit : Nat := 65535

/-- A number of columns that a text can be padded to. -/
structure PadWidth where
  columns : Nat
  bounded : columns ≤ padLimit
  deriving DecidableEq, Repr

def PadWidth.of? (columns : Nat) : Option PadWidth :=
  if bounded : columns ≤ padLimit then some ⟨columns, bounded⟩ else none

def padRight (width : PadWidth) (text : Text) : Text :=
  text ++ List.replicate (width.columns - text.length) ' '

/-- Decimal digits without sign or padding. -/
def numeral (number : Nat) : Text := Nat.toDigits 10 number

/-- Every line of a text with its line feed; joined again they are the text. -/
def linesOf : Text → List Text
  | [] => []
  | char :: rest =>
      if char = '\n' then [char] :: linesOf rest
      else match linesOf rest with
        | [] => [[char]]
        | line :: more => (char :: line) :: more

/-- The characters that lie whole within the first `limit` bytes. -/
def takeBytes (limit : Nat) : Text → Text
  | [] => []
  | char :: rest =>
      if char.utf8Size ≤ limit then char :: takeBytes (limit - char.utf8Size) rest else []

theorem byteLength_append (first second : Text) :
    byteLength (first ++ second) = byteLength first + byteLength second := by
  induction first with
  | nil => simp [byteLength]
  | cons char rest ih => simp [byteLength, ih, Nat.add_assoc]

theorem byteLength_pos {text : Text} (filled : text ≠ []) : 0 < byteLength text := by
  cases text with
  | nil => exact absurd rfl filled
  | cons char rest => exact Nat.lt_of_lt_of_le char.utf8Size_pos (Nat.le_add_right _ _)

theorem length_le_byteLength (text : Text) : text.length ≤ byteLength text := by
  induction text with
  | nil => exact Nat.le_refl _
  | cons char rest ih =>
      have positive := char.utf8Size_pos
      rw [List.length_cons, byteLength]
      omega

theorem linesOf_flatten (text : Text) : (linesOf text).flatten = text := by
  induction text with
  | nil => rfl
  | cons char rest ih =>
      by_cases feed : char = '\n'
      · simp [linesOf, feed, ih]
      · cases lines : linesOf rest with
        | nil => rw [lines] at ih; simp_all [linesOf]
        | cons line more => rw [lines] at ih; simp_all [linesOf]

theorem mem_joinWith {between : Text} {parts : List Text} {char : Char}
    (member : char ∈ joinWith between parts) :
    char ∈ between ∨ ∃ part ∈ parts, char ∈ part := by
  fun_induction joinWith between parts with
  | case1 => cases member
  | case2 only => exact .inr ⟨only, List.mem_cons_self, member⟩
  | case3 first rest more ih =>
      rcases List.mem_append.mp member with inFront | inRest
      · rcases List.mem_append.mp inFront with inFirst | inBetween
        · exact .inr ⟨first, List.mem_cons_self, inFirst⟩
        · exact .inl inBetween
      · rcases ih inRest with inBetween | ⟨part, listed, inside⟩
        · exact .inl inBetween
        · exact .inr ⟨part, List.mem_cons_of_mem first listed, inside⟩

theorem PadWidth.of?_bounded {columns : Nat} (bounded : columns ≤ padLimit) :
    of? columns = some ⟨columns, bounded⟩ := dif_pos bounded

theorem PadWidth.of?_eq_none {columns : Nat} (wide : padLimit < columns) : of? columns = none :=
  dif_neg (Nat.not_le.mpr wide)

theorem mem_padRight {width : PadWidth} {text : Text} {char : Char}
    (member : char ∈ padRight width text) : char ∈ text ∨ char = ' ' := by
  rcases List.mem_append.mp member with inText | inPadding
  · exact .inl inText
  · exact .inr (List.mem_replicate.mp inPadding).2

theorem isDigit_of_mem_numeral {number : Nat} {char : Char} (member : char ∈ numeral number) :
    char.isDigit = true := Nat.isDigit_of_mem_toDigits (by decide) (by decide) member

theorem numeral_ne_nil (number : Nat) : numeral number ≠ [] := Nat.toDigits_ne_nil

/-- A line without a line feed of its own is the first line of a text. -/
theorem linesOf_line {line : Text} (single : '\n' ∉ line) (rest : Text) :
    linesOf (line ++ '\n' :: rest) = (line ++ ['\n']) :: linesOf rest := by
  induction line with
  | nil => rfl
  | cons char more ih =>
      obtain ⟨other, later⟩ := not_or.mp (mt List.mem_cons.mpr single)
      rw [List.cons_append, linesOf, if_neg (Ne.symm other), ih later]
      rfl

section Run

variable {inRun : Char → Bool} {run other rest left : Text}

theorem takeWhile_run (inside : ∀ char ∈ run, inRun char = true)
    (ended : ∀ char ∈ rest.head?, inRun char = false) :
    (run ++ rest).takeWhile inRun = run := by
  have stop : rest.takeWhile inRun = [] := by
    cases rest with
    | nil => rfl
    | cons first more => exact List.takeWhile_cons_of_neg (by simp [ended first rfl])
  rw [List.takeWhile_append_of_pos inside, stop, List.append_nil]

theorem dropWhile_run (inside : ∀ char ∈ run, inRun char = true)
    (ended : ∀ char ∈ rest.head?, inRun char = false) :
    (run ++ rest).dropWhile inRun = rest := by
  apply @List.append_cancel_left _ run
  calc
    run ++ (run ++ rest).dropWhile inRun
        = (run ++ rest).takeWhile inRun ++ (run ++ rest).dropWhile inRun := by
          rw [takeWhile_run inside ended]
    _ = run ++ rest := List.takeWhile_append_dropWhile

-- Two texts that begin with runs of one class, ended in both, have one and the same run.
theorem run_unique (inside : ∀ char ∈ run, inRun char = true)
    (otherInside : ∀ char ∈ other, inRun char = true)
    (ended : ∀ char ∈ rest.head?, inRun char = false)
    (otherEnded : ∀ char ∈ left.head?, inRun char = false)
    (same : run ++ rest = other ++ left) : run = other ∧ rest = left := by
  have runs : run = other := by
    rw [← takeWhile_run inside ended, same, takeWhile_run otherInside otherEnded]
  subst runs
  exact ⟨rfl, List.append_cancel_left same⟩

end Run

end Text

end SimpleSentence
