import SimpleSentence.Text.Basic

/-!
Colour sequences and texts without them. A sequence is an escape character, a
bracket, digits and semicolons, and an `m`; it is deleted wherever a text holds
one, read from the left. A text without escape characters holds none, so it
passes through whole, and whatever is put together from such texts and from
sequences is reduced to the texts.
-/

namespace SimpleSentence.Text

def escapeMark : Char := '\x1b'

def isParameter (char : Char) : Bool := char.isDigit || char == ';'

/-- What stands behind the parameters of a sequence and the letter that ends it. -/
def afterParameters? : Text → Option Text
  | [] => none
  | char :: rest =>
      if char = 'm' then some rest
      else if isParameter char then afterParameters? rest
      else none

/-- What stands behind a colour sequence, if the text begins with one. -/
def afterColour? : Text → Option Text
  | mark :: '[' :: rest => if mark = escapeMark then afterParameters? rest else none
  | _ => none

theorem length_afterParameters? {text left : Text} (found : afterParameters? text = some left) :
    left.length < text.length := by
  induction text with
  | nil => cases found
  | cons char rest ih =>
      rw [afterParameters?] at found
      split at found
      · cases found
        exact Nat.lt_succ_self _
      · split at found
        · exact Nat.lt_succ_of_lt (ih found)
        · cases found

theorem length_afterColour? {text left : Text} (found : afterColour? text = some left) :
    left.length < text.length := by
  unfold afterColour? at found
  split at found
  · split at found
    · have shorter := length_afterParameters? found
      simp only [List.length_cons]
      omega
    · cases found
  · cases found

/-- The text with every colour sequence deleted. -/
def uncoloured (text : Text) : Text :=
  match text with
  | [] => []
  | char :: rest =>
      match found : afterColour? (char :: rest) with
      | some left =>
          have := length_afterColour? found
          uncoloured left
      | none => char :: uncoloured rest
termination_by text.length
decreasing_by
  · exact this
  · exact Nat.lt_succ_self _

theorem uncoloured_nil : uncoloured [] = [] := by rw [uncoloured]

theorem uncoloured_cons {char : Char} (plain : char ≠ escapeMark) (rest : Text) :
    uncoloured (char :: rest) = char :: uncoloured rest := by
  have none : afterColour? (char :: rest) = none := by
    unfold afterColour?
    split
    · next other more same =>
        cases same
        exact if_neg plain
    · rfl
  rw [uncoloured]
  split
  · next left found =>
      rw [none] at found
      cases found
  · rfl

theorem uncoloured_of_sequence {text left : Text} (found : afterColour? text = some left) :
    uncoloured text = uncoloured left := by
  cases text with
  | nil => cases found
  | cons char rest =>
      rw [uncoloured]
      split
      · next other same =>
          rw [found] at same
          cases same
          rfl
      · next none =>
          rw [found] at none
          cases none

theorem afterParameters?_append {parameters : Text}
    (digits : ∀ char ∈ parameters, isParameter char = true) (rest : Text) :
    afterParameters? (parameters ++ 'm' :: rest) = some rest := by
  induction parameters with
  | nil => rfl
  | cons char more ih =>
      have first := digits char List.mem_cons_self
      have other : char ≠ 'm' := by
        rintro rfl
        cases first
      have later := ih fun char member => digits char (List.mem_cons_of_mem _ member)
      rw [List.cons_append, afterParameters?, if_neg other, if_pos first, later]

/-- The coloured text shows the plain one, wherever it stands, and the plain one has no escape
character of its own. -/
structure Shows (coloured plain : Text) : Prop where
  erased : ∀ rest, uncoloured (coloured ++ rest) = plain ++ uncoloured rest
  clean : escapeMark ∉ plain

namespace Shows

variable {first second firstPlain secondPlain : Text}

theorem of_clean {text : Text} (clean : escapeMark ∉ text) : Shows text text := by
  refine ⟨fun rest => ?_, clean⟩
  induction text with
  | nil => rfl
  | cons char more ih =>
      rw [List.mem_cons, not_or] at clean
      rw [List.cons_append, uncoloured_cons (Ne.symm clean.1), ih clean.2, List.cons_append]

theorem sequence {parameters : Text} (digits : parameters.all isParameter = true) :
    Shows (escapeMark :: '[' :: (parameters ++ ['m'])) [] := by
  refine ⟨fun rest => ?_, List.not_mem_nil⟩
  have found : afterColour? (escapeMark :: '[' :: (parameters ++ ['m']) ++ rest) = some rest := by
    simpa [afterColour?] using afterParameters?_append (List.all_eq_true.mp digits) rest
  exact uncoloured_of_sequence found

theorem append (shown : Shows first firstPlain) (more : Shows second secondPlain) :
    Shows (first ++ second) (firstPlain ++ secondPlain) := by
  constructor
  · intro rest
    rw [List.append_assoc, shown.erased, more.erased, List.append_assoc]
  · rw [List.mem_append, not_or]
    exact ⟨shown.clean, more.clean⟩

theorem cons {char : Char} (other : char ≠ escapeMark) (shown : Shows first firstPlain) :
    Shows (char :: first) (char :: firstPlain) := by
  have alone : escapeMark ∉ [char] := by simpa using Ne.symm other
  exact (of_clean alone).append shown

/-- What is deleted from the whole of a coloured text leaves the plain one. -/
theorem uncoloured_eq (shown : Shows first firstPlain) : uncoloured first = firstPlain := by
  have whole := shown.erased []
  rwa [List.append_nil, uncoloured_nil, List.append_nil] at whole

end Shows

end SimpleSentence.Text
