import SimpleSentence.Json

/-!
Reading JSON values off the front of a text. The first character of a value tells
its kind; a number ends where its digits end, a text at the first quote that is no
escape, and a list or an object where no comma follows. So a written value
determines the value, and it is known where it stops.
-/

namespace SimpleSentence

/-- A text of escaped characters is read off one by one, up to the quote behind it. -/
theorem Text.escaped_legible {escaped : Char → Text} {read? : Text → Option (Char × Text)}
    (reads : ∀ char rest, read? (escaped char ++ rest) = some (char, rest))
    (stops : ∀ rest, read? ('"' :: rest) = none) {text other rest left : Text}
    (same : text.flatMap escaped ++ '"' :: rest = other.flatMap escaped ++ '"' :: left) :
    text = other ∧ rest = left := by
  induction text generalizing other with
  | nil =>
      cases other with
      | nil => exact ⟨rfl, (List.cons.inj same).2⟩
      | cons second more =>
          have read := congrArg read? same
          rw [List.flatMap_nil, List.nil_append, List.flatMap_cons, List.append_assoc, stops,
            reads] at read
          cases read
  | cons first later ih =>
      have read := congrArg read? same
      rw [List.flatMap_cons, List.append_assoc, reads] at read
      cases other with
      | nil =>
          rw [List.flatMap_nil, List.nil_append, stops] at read
          cases read
      | cons second more =>
          rw [List.flatMap_cons, List.append_assoc, reads] at read
          obtain ⟨rfl, behind⟩ := Prod.mk.inj (Option.some.inj read)
          obtain ⟨rfl, ends⟩ := ih behind
          exact ⟨rfl, ends⟩

namespace Json

/-! ### Numbers -/

/-- The text does not go on with a digit. -/
def Ended (rest : Text) : Prop := ∀ char ∈ rest.head?, char.isDigit = false

theorem ended_cons {char : Char} (rest : Text) (other : char.isDigit = false) :
    Ended (char :: rest) := by
  rintro _ ⟨⟩
  exact other

theorem numeral_injective {number other : Nat} (same : Text.numeral number = Text.numeral other) :
    number = other := by
  have read := congrArg (fun digits => Nat.ofDigitChars 10 digits 0) same
  simpa [Text.numeral] using read

theorem numeral_legible {number other : Nat} {rest left : Text} (ended : Ended rest)
    (otherEnded : Ended left) (same : Text.numeral number ++ rest = Text.numeral other ++ left) :
    number = other ∧ rest = left := by
  obtain ⟨digits, behind⟩ := Text.run_unique (fun _ => Text.isDigit_of_mem_numeral)
    (fun _ => Text.isDigit_of_mem_numeral) ended otherEnded same
  exact ⟨numeral_injective digits, behind⟩

/-! ### Texts -/

def hexValue (digit : Char) : Nat :=
  if digit.isDigit then digit.toNat - 48 else digit.toNat - 87

theorem hexValue_hexDigit : ∀ number < 16, hexValue (hexDigit number) = number := by decide

/-- Reads back what stands behind a backslash. -/
def readEscape? : Text → Option (Char × Text)
  | [] => none
  | 'n' :: rest => some ('\n', rest)
  | 'r' :: rest => some ('\r', rest)
  | 't' :: rest => some ('\t', rest)
  | 'b' :: rest => some ('\x08', rest)
  | 'f' :: rest => some ('\x0c', rest)
  | 'u' :: _ :: _ :: high :: low :: rest =>
      some (Char.ofNat (hexValue high * 16 + hexValue low), rest)
  | char :: rest => some (char, rest)

/-- Reads one character of a quoted text back; the closing quote is none. -/
def readChar? : Text → Option (Char × Text)
  | [] => none
  | char :: rest =>
      if char = '"' then none else if char = '\\' then readEscape? rest else some (char, rest)

theorem readChar?_escapeChar (char : Char) (rest : Text) :
    readChar? (escapeChar char ++ rest) = some (char, rest) := by
  unfold escapeChar
  repeat' split
  -- The characters with an escape of their own are read back by evaluation.
  any_goals (subst_vars; rfl)
  · next control =>
      have high := hexValue_hexDigit (char.toNat / 16) (by omega)
      have low := hexValue_hexDigit (char.toNat % 16) (Nat.mod_lt _ (by decide))
      have code : char.toNat / 16 * 16 + char.toNat % 16 = char.toNat := by omega
      have read : readChar? ('\\' :: 'u' :: '0' :: '0' :: hexDigit (char.toNat / 16) ::
          hexDigit (char.toNat % 16) :: rest) =
          some (Char.ofNat (hexValue (hexDigit (char.toNat / 16)) * 16 +
            hexValue (hexDigit (char.toNat % 16))), rest) := rfl
      rw [high, low, code, Char.ofNat_toNat] at read
      exact read
  · next noQuote noBackslash _ _ _ _ _ _ =>
      show (if char = '"' then none else _) = _
      rw [if_neg noQuote, if_neg noBackslash]
      rfl

theorem escape_eq_flatMap (text : Text) : escape text = text.flatMap escapeChar := by
  induction text with
  | nil => rfl
  | cons first rest ih => rw [escape, ih, List.flatMap_cons]

theorem escape_legible {text other rest left : Text}
    (same : escape text ++ '"' :: rest = escape other ++ '"' :: left) :
    text = other ∧ rest = left := by
  rw [escape_eq_flatMap, escape_eq_flatMap] at same
  exact Text.escaped_legible readChar?_escapeChar (fun _ => rfl) same

theorem quoted_legible {text other rest left : Text}
    (same : quoted text ++ rest = quoted other ++ left) : text = other ∧ rest = left := by
  simp only [quoted, List.cons_append, List.append_assoc, List.nil_append, List.cons.injEq,
    true_and] at same
  exact escape_legible same

/-! ### Values -/

/-- What holds of a value if it holds of its items and of its members' values holds of all. -/
theorem forall_of_parts {motive : Json → Prop} (bool : ∀ value, motive (.bool value))
    (number : ∀ value, motive (.number value)) (text : ∀ value, motive (.text value))
    (array : ∀ items, (∀ item ∈ items, motive item) → motive (.array items))
    (object : ∀ members, (∀ member ∈ members, motive member.2) → motive (.object members))
    (json : Json) : motive json :=
  @Json.rec motive (fun items => ∀ item ∈ items, motive item)
    (fun members => ∀ member ∈ members, motive member.2) (fun member => motive member.2)
    bool number text array object
    (fun _ member => nomatch member) (fun _ _ own later => List.forall_mem_cons.mpr ⟨own, later⟩)
    (fun _ member => nomatch member) (fun _ _ own later => List.forall_mem_cons.mpr ⟨own, later⟩)
    (fun _ _ own => own) json

/-- Further parts of a list or an object, each after a comma and on a line of its own. -/
def row {Part : Type} (level : Nat) (shown : Part → Text) (parts : List Part) : Text :=
  parts.flatMap fun part => ',' :: (breakAt level ++ shown part)

/-- The parts of a list or an object between its brackets. -/
def enclosed {Part : Type} (opening closing : Char) (level : Nat) (shown : Part → Text) :
    List Part → Text
  | [] => [opening, closing]
  | first :: rest =>
      opening :: (breakAt (level + 1) ++ shown first ++ row (level + 1) shown rest ++
        breakAt level ++ [closing])

/-- A member with its name in front. -/
def memberAt (level : Nat) (member : Text × Json) : Text :=
  quoted member.1 ++ ": ".toList ++ member.2.writeAt level

theorem writeItems_eq_row (level : Nat) (items : List Json) :
    writeItems level items = row level (writeAt level) items := by
  induction items with
  | nil => rw [writeItems, row, List.flatMap_nil]
  | cons first rest ih => simp [writeItems, row, ih]

theorem writeMembers_eq_row (level : Nat) (members : List (Text × Json)) :
    writeMembers level members = row level (memberAt level) members := by
  induction members with
  | nil => rw [writeMembers, row, List.flatMap_nil]
  | cons first rest ih => simp [writeMembers, row, memberAt, ih]

theorem writeAt_array (level : Nat) (items : List Json) :
    (array items).writeAt level = enclosed '[' ']' level (writeAt (level + 1)) items := by
  cases items with
  | nil => rw [writeAt, enclosed]; rfl
  | cons first rest => rw [writeAt, enclosed, writeItems_eq_row]

theorem writeAt_object (level : Nat) (members : List (Text × Json)) :
    (object members).writeAt level =
      enclosed '\x7b' '\x7d' level (memberAt (level + 1)) members := by
  cases members with
  | nil => rw [writeAt, enclosed]
  | cons first rest => simp [writeAt, enclosed, memberAt, writeMembers_eq_row]

inductive Kind where
  | truth
  | number
  | text
  | list
  | record

def kind : Json → Kind
  | bool _ => .truth
  | number _ => .number
  | text _ => .text
  | array _ => .list
  | object _ => .record

/-- The kind of the values that begin with a character. -/
def kindOf (char : Char) : Kind :=
  if char.isDigit then .number
  else if char = '"' then .text
  else if char = '[' then .list
  else if char = '\x7b' then .record
  else .truth

theorem head_writeAt (json : Json) (level : Nat) :
    ∃ char more, json.writeAt level = char :: more ∧ kindOf char = json.kind := by
  cases json with
  | bool value => cases value <;> exact ⟨_, _, by rw [writeAt]; rfl, rfl⟩
  | number value =>
      cases digits : Text.numeral value with
      | nil => exact absurd digits (Text.numeral_ne_nil value)
      | cons first more =>
          have digit : first.isDigit = true := by
            apply @Text.isDigit_of_mem_numeral value
            rw [digits]
            exact List.mem_cons_self
          exact ⟨first, more, by rw [writeAt, digits], if_pos digit⟩
  | text value => exact ⟨'"', _, by rw [writeAt, quoted], rfl⟩
  | array items => cases items <;> exact ⟨'[', _, by rw [writeAt_array, enclosed], rfl⟩
  | object members => cases members <;> exact ⟨'\x7b', _, by rw [writeAt_object, enclosed], rfl⟩

theorem kind_of_writeAt {json other : Json} {level : Nat} {rest left : Text}
    (same : json.writeAt level ++ rest = other.writeAt level ++ left) : json.kind = other.kind := by
  obtain ⟨char, more, text, kind⟩ := json.head_writeAt level
  obtain ⟨otherChar, otherMore, otherText, otherKind⟩ := other.head_writeAt level
  rw [text, otherText, List.cons_append, List.cons_append] at same
  rw [← kind, ← otherKind, (List.cons.inj same).1]

/-- What is shown of the part, in front of a text that goes on with no digit, is shown of no
other part, and where it stops is known. -/
def Legible {Part : Type} (shown : Part → Text) (part : Part) : Prop :=
  ∀ (other : Part) (rest left : Text), Ended rest → Ended left →
    shown part ++ rest = shown other ++ left → part = other ∧ rest = left

section Row

variable {Part : Type} {shown : Part → Text} {parts others : List Part} {level : Nat}
  {rest left : Text}

/-- The text goes on with no digit and no comma. -/
structure Closed (rest : Text) : Prop where
  ended : Ended rest
  noComma : ∀ more, rest ≠ ',' :: more

theorem closed_breakAt (level : Nat) (rest : Text) : Closed (breakAt level ++ rest) :=
  ⟨ended_cons _ (by decide), fun _ => nofun⟩

theorem row_cons (first : Part) (more : List Part) :
    row level shown (first :: more) ++ rest =
      ',' :: (breakAt level ++ (shown first ++ (row level shown more ++ rest))) := by
  simp [row]

theorem Closed.ended_row (closed : Closed rest) (parts : List Part) :
    Ended (row level shown parts ++ rest) := by
  cases parts with
  | nil => exact closed.ended
  | cons first more =>
      rw [row_cons]
      exact ended_cons _ (by decide)

/-- Rows are legible if their parts are, in front of a text that goes on with no comma. -/
theorem row_legible (legible : ∀ part ∈ parts, Legible shown part) (closed : Closed rest)
    (otherClosed : Closed left)
    (same : row level shown parts ++ rest = row level shown others ++ left) :
    parts = others ∧ rest = left := by
  induction parts generalizing others with
  | nil =>
      cases others with
      | nil => exact ⟨rfl, same⟩
      | cons other more =>
          rw [row_cons] at same
          exact absurd same (closed.noComma _)
  | cons part later ih =>
      obtain ⟨own, laterLegible⟩ := List.forall_mem_cons.mp legible
      cases others with
      | nil =>
          rw [row_cons] at same
          exact absurd same.symm (otherClosed.noComma _)
      | cons other more =>
          rw [row_cons, row_cons] at same
          have shown := List.append_cancel_left (List.cons.inj same).2
          obtain ⟨rfl, behind⟩ := own other _ _ (closed.ended_row later)
            (otherClosed.ended_row more) shown
          obtain ⟨rfl, ends⟩ := ih laterLegible behind
          exact ⟨rfl, ends⟩

-- Parts between brackets are a row with its first comma taken off; with no parts there is no line
-- break behind the opening bracket.
theorem enclosed_legible {opening closing : Char} (noBreak : closing ≠ '\n')
    (legible : ∀ part ∈ parts, Legible shown part)
    (same : enclosed opening closing level shown parts ++ rest =
      enclosed opening closing level shown others ++ left) :
    parts = others ∧ rest = left := by
  cases parts with
  | nil =>
      cases others with
      | nil => exact ⟨rfl, List.append_cancel_left same⟩
      | cons other more =>
          simp only [enclosed, breakAt, List.cons_append, List.cons.injEq] at same
          exact absurd same.2.1 noBreak
  | cons part later =>
      cases others with
      | nil =>
          simp only [enclosed, breakAt, List.cons_append, List.cons.injEq] at same
          exact absurd same.2.1.symm noBreak
      | cons other more =>
          have rows : row (level + 1) shown (part :: later) ++ (breakAt level ++ closing :: rest) =
              row (level + 1) shown (other :: more) ++ (breakAt level ++ closing :: left) := by
            simpa [enclosed, row] using same
          obtain ⟨parts, ends⟩ := row_legible legible (closed_breakAt level _)
            (closed_breakAt level _) rows
          exact ⟨parts, (List.cons.inj (List.append_cancel_left ends)).2⟩

end Row

theorem memberAt_legible {level : Nat} {member : Text × Json}
    (legible : Legible (writeAt level) member.2) : Legible (memberAt level) member := by
  intro other rest left ended otherEnded same
  obtain ⟨name, value⟩ := member
  obtain ⟨otherName, otherValue⟩ := other
  simp only [memberAt, List.append_assoc] at same
  obtain ⟨rfl, behind⟩ := quoted_legible same
  obtain ⟨rfl, ends⟩ := legible otherValue _ _ ended otherEnded (List.append_cancel_left behind)
  exact ⟨rfl, ends⟩

-- Values of different kinds begin with different characters, and parts are one level deeper.
theorem writeAt_legible (json : Json) (level : Nat) : Legible (writeAt level) json := by
  induction json using forall_of_parts generalizing level with
  | bool value =>
      intro other rest left ended otherEnded same
      have kinds := kind_of_writeAt same
      cases other with
      | bool otherValue =>
          cases value <;> cases otherValue <;> simp only [writeAt] at same
          · exact ⟨rfl, List.append_cancel_left same⟩
          · exact absurd same nofun
          · exact absurd same nofun
          · exact ⟨rfl, List.append_cancel_left same⟩
      | number | text | array | object => nomatch kinds
  | number value =>
      intro other rest left ended otherEnded same
      have kinds := kind_of_writeAt same
      cases other with
      | number otherValue =>
          rw [writeAt, writeAt] at same
          obtain ⟨rfl, ends⟩ := numeral_legible ended otherEnded same
          exact ⟨rfl, ends⟩
      | bool | text | array | object => nomatch kinds
  | text value =>
      intro other rest left ended otherEnded same
      have kinds := kind_of_writeAt same
      cases other with
      | text otherValue =>
          rw [writeAt, writeAt] at same
          obtain ⟨rfl, ends⟩ := quoted_legible same
          exact ⟨rfl, ends⟩
      | bool | number | array | object => nomatch kinds
  | array items legible =>
      intro other rest left ended otherEnded same
      have kinds := kind_of_writeAt same
      cases other with
      | array others =>
          rw [writeAt_array, writeAt_array] at same
          obtain ⟨rfl, ends⟩ := enclosed_legible (by decide)
            (fun item member => legible item member (level + 1)) same
          exact ⟨rfl, ends⟩
      | bool | number | text | object => nomatch kinds
  | object members legible =>
      intro other rest left ended otherEnded same
      have kinds := kind_of_writeAt same
      cases other with
      | object others =>
          rw [writeAt_object, writeAt_object] at same
          obtain ⟨rfl, ends⟩ := enclosed_legible (by decide)
            (fun member inside => memberAt_legible (legible member inside (level + 1))) same
          exact ⟨rfl, ends⟩
      | bool | number | text | array => nomatch kinds

/-- No two values are written as the same text. -/
theorem write_injective {json other : Json} (same : json.write = other.write) : json = other := by
  have ended : Ended [] := fun _ member => nomatch member
  exact (json.writeAt_legible 0 other [] [] ended ended (congrArg (· ++ []) same)).1

end Json

end SimpleSentence
