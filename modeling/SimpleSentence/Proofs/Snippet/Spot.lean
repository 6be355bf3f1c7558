import Mathlib.Data.List.Basic
import Mathlib.Data.List.Induction
import SimpleSentence.Snippet.Source

/-!
Where a part of a text stands among its lines. A text is cut around any part of one of
its lines: the lines above, the line in front of the part and behind it, its line break
and the lines below. The line that a range is located on, its number and the columns of
the range are then read off these pieces, however many bytes and columns the characters
take.
-/

namespace SimpleSentence

namespace Text

/-- Nothing, or whole lines with their line feeds. -/
def EndsLine (text : Text) : Prop := text = [] ∨ text.getLast? = some '\n'

theorem EndsLine.tail {char : Char} {rest : Text} (ended : EndsLine (char :: rest)) :
    EndsLine rest := by
  cases rest with
  | nil => exact .inl rfl
  | cons second more =>
      refine .inr ?_
      rcases ended with none | last
      · cases none
      · rwa [List.getLast?_cons_cons] at last

theorem EndsLine.head_of_single {char : Char} (ended : EndsLine [char]) : char = '\n' := by
  rcases ended with none | last
  · cases none
  · exact Option.some.inj last

theorem linesOf_ne_nil {text : Text} (filled : text ≠ []) : linesOf text ≠ [] := by
  intro none
  have whole := linesOf_flatten text
  rw [none] at whole
  exact filled whole.symm

/-- Lines that are ended stay the lines of a longer text. -/
theorem linesOf_append {above : Text} (ended : above.EndsLine) (rest : Text) :
    linesOf (above ++ rest) = linesOf above ++ linesOf rest := by
  induction above with
  | nil => rfl
  | cons char more ih =>
      have later := ih ended.tail
      by_cases feed : char = '\n'
      · rw [List.cons_append, linesOf, if_pos feed, linesOf, if_pos feed, later, List.cons_append]
      · rw [List.cons_append, linesOf, if_neg feed, later, linesOf, if_neg feed]
        cases lines : linesOf more with
        | nil =>
            have single : more = [] := by
              by_contra filled
              exact linesOf_ne_nil filled lines
            rw [single] at ended
            exact absurd ended.head_of_single feed
        | cons line others => rfl

theorem length_linesOf {text : Text} (ended : text.EndsLine) :
    (linesOf text).length = text.count '\n' := by
  induction text with
  | nil => rfl
  | cons char more ih =>
      have later := ih ended.tail
      by_cases feed : char = '\n'
      · rw [linesOf, if_pos feed, feed, List.length_cons, later, List.count_cons_self]
      · rw [linesOf, if_neg feed, List.count_cons_of_ne feed, ← later]
        cases lines : linesOf more with
        | nil =>
            have single : more = [] := by
              by_contra filled
              exact linesOf_ne_nil filled lines
            rw [single] at ended
            exact absurd ended.head_of_single feed
        | cons line others => rfl

theorem linesOf_single {line : Text} (single : '\n' ∉ line) (filled : line ≠ []) :
    linesOf line = [line] := by
  induction line with
  | nil => exact absurd rfl filled
  | cons char rest ih =>
      obtain ⟨other, later⟩ := not_or.mp (mt List.mem_cons.mpr single)
      rw [linesOf, if_neg (Ne.symm other)]
      cases rest with
      | nil => rfl
      | cons second more => rw [ih later (List.cons_ne_nil _ _)]

theorem takeBytes_zero (text : Text) : takeBytes 0 text = [] := by
  cases text with
  | nil => rfl
  | cons char rest => rw [takeBytes, if_neg (Nat.not_le.mpr char.utf8Size_pos)]

theorem takeBytes_append (first second : Text) :
    takeBytes (byteLength first) (first ++ second) = first := by
  induction first with
  | nil => exact takeBytes_zero second
  | cons char rest ih =>
      rw [byteLength, List.cons_append, takeBytes, if_pos (Nat.le_add_right _ _),
        Nat.add_sub_cancel_left, ih]

theorem takeBytes_of_le {text : Text} {limit : Nat} (whole : byteLength text ≤ limit) :
    takeBytes limit text = text := by
  induction text generalizing limit with
  | nil => rfl
  | cons char rest ih =>
      rw [byteLength] at whole
      rw [takeBytes, if_pos (by omega), ih (by omega)]

end Text

namespace Snippet

/-! ### Lines in order -/

section Lines

variable {number start offset : Nat}

theorem sourceLinesFrom_append (number start : Nat) (first second : List Text) :
    sourceLinesFrom number start (first ++ second) =
      sourceLinesFrom number start first ++
        sourceLinesFrom (number + first.length) (start + Text.byteLength first.flatten) second := by
  induction first generalizing number start with
  | nil => rfl
  | cons raw rest ih =>
      have size : start + Text.byteLength (raw :: rest).flatten =
          start + Text.byteLength raw + Text.byteLength rest.flatten := by
        rw [List.flatten_cons, Text.byteLength_append, Nat.add_assoc]
      have count : number + (raw :: rest).length = number + 1 + rest.length := by
        rw [List.length_cons]
        omega
      rw [List.cons_append, sourceLinesFrom, ih, size, count]
      rfl

theorem stop_le_of_mem {raws : List Text} {line : SourceLine}
    (member : line ∈ sourceLinesFrom number start raws) :
    line.stop ≤ start + Text.byteLength raws.flatten := by
  induction raws generalizing number start with
  | nil => cases member
  | cons raw rest ih =>
      rw [List.flatten_cons, Text.byteLength_append]
      rcases List.mem_cons.mp member with rfl | later
      · show start + Text.byteLength raw ≤ _
        omega
      · have bound := ih later
        omega

/-- Lines that end at or before an offset are passed over. -/
theorem lineAt_append {front rest : List SourceLine} {line : SourceLine}
    (passed : ∀ before ∈ front, before.stop ≤ offset) (here : offset < line.stop ∨ rest = []) :
    lineAt offset (front ++ line :: rest) = line := by
  induction front with
  | nil =>
      cases rest with
      | nil => rfl
      | cons next more =>
          have inside : offset < line.stop := here.resolve_right (List.cons_ne_nil _ _)
          rw [List.nil_append, lineAt, if_pos inside]
  | cons first more ih =>
      obtain ⟨own, later⟩ := List.forall_mem_cons.mp passed
      obtain ⟨second, others, shape⟩ :=
        List.exists_cons_of_ne_nil (List.append_ne_nil_of_right_ne_nil more (List.cons_ne_nil line rest))
      have onward := ih later
      rw [shape] at onward
      rw [List.cons_append, shape, lineAt, if_neg (Nat.not_lt.mpr own), onward]

end Lines

/-! ### A part of a line -/

/-- How a line ends in front of what is below it: a line feed, with a carriage return or without
one, or the end of the text. -/
inductive Broken (line : Text) : Text → Text → Prop where
  | feed {below : Text} (noReturn : line.getLast? ≠ some '\r') : Broken line ['\n'] below
  | returnFeed {below : Text} : Broken line ['\r', '\n'] below
  | atEnd : Broken line [] []

namespace Broken

variable {line ending below : Text}

theorem withoutBreak_eq (broken : Broken line ending below) (single : '\n' ∉ line) :
    withoutBreak (line ++ ending) = line := by
  cases broken with
  | feed noReturn =>
      rw [withoutBreak, List.reverse_append, List.reverse_singleton, List.singleton_append]
      cases reversed : line.reverse with
      | nil => exact (List.reverse_eq_nil_iff.mp reversed).symm
      | cons last rest =>
          have other : last ≠ '\r' := by
            rintro rfl
            rw [List.getLast?_eq_head?_reverse, reversed] at noReturn
            exact noReturn rfl
          have back : (last :: rest).reverse = line := by rw [← reversed, List.reverse_reverse]
          split
          · next same => exact absurd (List.cons.inj (List.cons.inj same).2).1 other
          · next same =>
              obtain rfl := (List.cons.inj same).2
              exact back
          · next _ never => exact absurd rfl (never (last :: rest))
  | returnFeed =>
      rw [withoutBreak, List.reverse_append]
      exact List.reverse_reverse line
  | atEnd =>
      rw [List.append_nil, withoutBreak]
      cases reversed : line.reverse with
      | nil => rfl
      | cons last rest =>
          have other : last ≠ '\n' := by
            rintro rfl
            exact single (List.mem_reverse.mp (reversed ▸ List.mem_cons_self))
          split
          · next same => exact absurd (List.cons.inj same).1 other
          · next same => exact absurd (List.cons.inj same).1 other
          · rfl

theorem linesOf_eq (broken : Broken line ending below) (single : '\n' ∉ line)
    (filled : line ++ ending ≠ []) :
    Text.linesOf (line ++ ending ++ below) = (line ++ ending) :: Text.linesOf below := by
  cases broken with
  | feed noReturn =>
      rw [List.append_assoc]
      exact Text.linesOf_line single below
  | returnFeed =>
      have returned : '\n' ∉ line ++ ['\r'] := by
        rw [List.mem_append, not_or]
        exact ⟨single, by decide⟩
      have line := Text.linesOf_line returned below
      simp only [List.append_assoc, List.cons_append, List.nil_append] at line ⊢
      exact line
  | atEnd =>
      rw [List.append_nil, List.append_nil] at *
      exact Text.linesOf_single single filled

theorem extend (broken : Broken line ending below) {front : Text}
    (noReturn : front.getLast? ≠ some '\r') : Broken (front ++ line) ending below := by
  cases broken with
  | feed own =>
      refine .feed ?_
      cases line with
      | nil => rwa [List.append_nil]
      | cons first rest =>
          rwa [List.getLast?_append_of_ne_nil _ (List.cons_ne_nil first rest)]
  | returnFeed => exact .returnFeed
  | atEnd => exact .atEnd

end Broken

/-- A part of one line of a text, with all that is around it. -/
structure Spot where
  above : Text
  lead : Text
  part : Text
  tail : Text
  ending : Text
  below : Text
  begun : above.EndsLine
  single : '\n' ∉ lead ++ part ++ tail
  broken : Broken (lead ++ part ++ tail) ending below

namespace Spot

variable (spot : Spot)

def line : Text := spot.lead ++ spot.part ++ spot.tail

/-- All that is in front of the part. -/
def before : Text := spot.above ++ spot.lead

def text : Text := spot.above ++ (spot.line ++ spot.ending ++ spot.below)

/-- The number of the line, counted by the line feeds in front of the part. -/
def number : Nat := 1 + spot.before.count '\n'

/-- The place of the part in its line, counted in characters. -/
def column : Nat := 1 + spot.lead.length

theorem line_single : '\n' ∉ spot.line := spot.single

theorem line_broken : Broken spot.line spot.ending spot.below := spot.broken

theorem lead_single : '\n' ∉ spot.lead := fun member =>
  spot.single (List.mem_append_left _ (List.mem_append_left _ member))

theorem count_before : spot.before.count '\n' = spot.above.count '\n' := by
  rw [before, List.count_append, List.count_eq_zero.mpr spot.lead_single, Nat.add_zero]

/-- An offset that is not above the line, nor below it unless nothing is below, is in the line. -/
theorem lineAt_eq (filled : spot.line ++ spot.ending ≠ []) {offset : Nat}
    (reached : Text.byteLength spot.above ≤ offset)
    (inside : offset < Text.byteLength (spot.above ++ (spot.line ++ spot.ending)) ∨
      spot.below = []) :
    lineAt offset (sourceLines spot.text) =
      ⟨spot.number, Text.byteLength spot.above, spot.line,
        Text.byteLength (spot.above ++ (spot.line ++ spot.ending))⟩ := by
  have lines : Text.linesOf spot.text =
      Text.linesOf spot.above ++ (spot.line ++ spot.ending) :: Text.linesOf spot.below := by
    rw [text, Text.linesOf_append spot.begun, spot.line_broken.linesOf_eq spot.line_single filled]
  have stop := Text.byteLength_append spot.above (spot.line ++ spot.ending)
  have number : spot.number = 1 + (Text.linesOf spot.above).length := by
    rw [Spot.number, spot.count_before, Text.length_linesOf spot.begun]
  have shown : withoutBreak (spot.line ++ spot.ending) = spot.line :=
    spot.line_broken.withoutBreak_eq spot.line_single
  rw [sourceLines, lines, sourceLinesFrom_append, Text.linesOf_flatten, sourceLinesFrom, shown,
    ← number, Nat.zero_add, ← stop]
  apply lineAt_append
  · intro line member
    have bound := stop_le_of_mem member
    rw [Text.linesOf_flatten, Nat.zero_add] at bound
    exact Nat.le_trans bound reached
  · rcases inside with before | nothing
    · exact .inl before
    · refine .inr ?_
      rw [nothing]
      rfl

theorem text_eq : spot.text =
    spot.before ++ spot.part ++ (spot.tail ++ spot.ending ++ spot.below) := by
  simp [text, line, before]

/-- A part that takes columns is located by those in front of it and its own. -/
theorem locate_part (filled : spot.part ≠ []) (shown : 0 < Text.columns spot.part) :
    let position := locate spot.text
      ⟨Text.byteLength spot.before, Text.byteLength (spot.before ++ spot.part)⟩
    position.line.number = spot.number ∧ position.line.text = spot.line ∧
      position.first = Text.columns spot.lead ∧
      position.past = Text.columns spot.lead + Text.columns spot.part ∧
      position.column = spot.column := by
  have size := Text.byteLength_append spot.above spot.lead
  have whole : spot.line ++ spot.ending ≠ [] := by
    simp [line, filled]
  have inside : Text.byteLength spot.before <
      Text.byteLength (spot.above ++ (spot.line ++ spot.ending)) := by
    have positive := Text.byteLength_pos filled
    simp only [before, line, Text.byteLength_append]
    omega
  have reached : Text.byteLength spot.above ≤ Text.byteLength spot.before := by
    rw [before, size]
    exact Nat.le_add_right _ _
  have lead : Text.takeBytes (Text.byteLength spot.before - Text.byteLength spot.above) spot.line =
      spot.lead := by
    rw [before, size, Nat.add_sub_cancel_left, line, List.append_assoc, Text.takeBytes_append]
  have past : Text.takeBytes
      (Text.byteLength (spot.before ++ spot.part) - Text.byteLength spot.above) spot.line =
      spot.lead ++ spot.part := by
    rw [before, List.append_assoc, Text.byteLength_append, Nat.add_sub_cancel_left, line,
      Text.takeBytes_append]
  have inLine : ¬ Text.byteLength spot.line <
      Text.byteLength spot.before - Text.byteLength spot.above := by
    simp only [before, line, Text.byteLength_append]
    omega
  have wide : ¬ Text.columns spot.lead + Text.columns spot.part ≤ Text.columns spot.lead := by
    omega
  simp only [locate, SourceLine.before, spot.lineAt_eq whole reached (.inl inside),
    true_and]
  rw [lead, past, Text.columns_append, if_neg wide, if_neg inLine, column, Nat.add_zero,
    Nat.add_comm 1]
  exact ⟨rfl, rfl, rfl⟩

/-- The empty part at the end of the last line, in front of its line break. -/
structure AtEnd : Prop where
  part : spot.part = []
  tail : spot.tail = []
  below : spot.below = []
  filled : spot.line ++ spot.ending ≠ []

namespace AtEnd

variable {spot : Spot} (atEnd : spot.AtEnd)
include atEnd

theorem text_eq : spot.text = spot.above ++ (spot.line ++ spot.ending) := by
  rw [text, atEnd.below, List.append_nil]

/-- The end of a text is located behind its last line, on one column. -/
theorem locate_end :
    let position := locate spot.text (.empty (Text.byteLength spot.text))
    position.line.number = spot.number ∧ position.line.text = spot.line ∧
      position.first = Text.columns spot.line ∧
      position.past = Text.columns spot.line + 1 := by
  have size : Text.byteLength spot.text = Text.byteLength spot.above +
      (Text.byteLength spot.line + Text.byteLength spot.ending) := by
    rw [atEnd.text_eq, Text.byteLength_append, Text.byteLength_append]
  have reached : Text.byteLength spot.above ≤ Text.byteLength spot.text := by
    rw [size]
    exact Nat.le_add_right _ _
  have whole : Text.takeBytes (Text.byteLength spot.text - Text.byteLength spot.above) spot.line =
      spot.line := by
    apply Text.takeBytes_of_le
    omega
  simp only [locate, SourceLine.before, Span.empty,
    spot.lineAt_eq atEnd.filled reached (.inr atEnd.below), true_and]
  rw [whole, if_pos (Nat.le_refl _)]
  exact ⟨rfl, rfl⟩

end AtEnd

end Spot

/-! ### The width of line numbers -/

/-- A text that ends in some line numbers its lines by the line feeds above this one. -/
theorem numberWidth_eq {source above line ending : Text} {range : Span}
    (shown : Text.takeBytes range.stop source = above ++ (line ++ ending)) (single : '\n' ∉ line)
    (broken : Broken line ending []) (filled : line ++ ending ≠ []) :
    numberWidth source range = (Text.numeral (1 + above.count '\n')).length := by
  have count : (above ++ line).reverse.count '\n' = above.count '\n' := by
    rw [List.count_reverse, List.count_append, List.count_eq_zero.mpr single, Nat.add_zero]
  cases broken with
  | feed =>
      have reversed : (above ++ (line ++ ['\n'])).reverse = '\n' :: (above ++ line).reverse := by
        simp
      simp only [numberWidth, shown, reversed, count]
  | returnFeed =>
      have reversed : (above ++ (line ++ ['\r', '\n'])).reverse =
          '\n' :: '\r' :: (above ++ line).reverse := by
        simp
      simp only [numberWidth, shown, reversed]
      rw [List.count_cons_of_ne (by decide), count]
  | atEnd =>
      rw [List.append_nil] at shown filled
      simp only [numberWidth, shown]
      split
      · next rest reversed =>
          have last : line.getLast? = some '\n' := by
            rw [← List.getLast?_append_of_ne_nil above filled, List.getLast?_eq_head?_reverse,
              reversed]
            rfl
          exact absurd (List.mem_of_getLast? last) single
      · rw [count]

namespace Spot

variable {spot : Spot}

theorem numberWidth_part (filled : spot.part ≠ []) (start : Nat) :
    numberWidth spot.text ⟨start, Text.byteLength (spot.before ++ spot.part)⟩ =
      (Text.numeral spot.number).length := by
  have shown : Text.takeBytes (Text.byteLength (spot.before ++ spot.part)) spot.text =
      spot.above ++ (spot.lead ++ spot.part ++ []) := by
    rw [spot.text_eq, Text.takeBytes_append, before, List.append_nil, List.append_assoc]
  have single : '\n' ∉ spot.lead ++ spot.part := fun member =>
    spot.single (List.mem_append_left _ member)
  rw [numberWidth_eq shown single .atEnd (by simp [filled]), number, count_before]

theorem AtEnd.numberWidth_end (atEnd : spot.AtEnd) (start : Nat) :
    numberWidth spot.text ⟨start, Text.byteLength spot.text⟩ =
      (Text.numeral spot.number).length := by
  have shown : Text.takeBytes (Text.byteLength spot.text) spot.text =
      spot.above ++ (spot.line ++ spot.ending) := by
    rw [Text.takeBytes_of_le (Nat.le_refl _), atEnd.text_eq]
  have broken : Broken spot.line spot.ending [] := atEnd.below ▸ spot.line_broken
  rw [numberWidth_eq shown spot.line_single broken atEnd.filled, number, count_before]

end Spot

/-! ### Parts of any text -/

theorem exists_line_start (before : Text) :
    ∃ above lead, before = above ++ lead ∧ above.EndsLine ∧ '\n' ∉ lead := by
  induction before using List.reverseRecOn with
  | nil => exact ⟨[], [], rfl, .inl rfl, List.not_mem_nil⟩
  | append_singleton front last ih =>
      by_cases feed : last = '\n'
      · refine ⟨front ++ [last], [], (List.append_nil _).symm, .inr ?_, List.not_mem_nil⟩
        rw [List.getLast?_concat, feed]
      · obtain ⟨above, lead, rfl, ended, single⟩ := ih
        refine ⟨above, lead ++ [last], List.append_assoc _ _ _, ended, ?_⟩
        rw [List.mem_append, List.mem_singleton, not_or]
        exact ⟨single, Ne.symm feed⟩

-- A carriage return is part of the line break only if the line feed follows at once.
theorem exists_line_end (rest : Text) :
    ∃ tail ending below, rest = tail ++ ending ++ below ∧ '\n' ∉ tail ∧
      Broken tail ending below := by
  induction rest with
  | nil => exact ⟨[], [], [], rfl, List.not_mem_nil, .atEnd⟩
  | cons char more ih =>
      by_cases feed : char = '\n'
      · exact ⟨[], ['\n'], more, congrArg (· :: more) feed, List.not_mem_nil, .feed nofun⟩
      · obtain ⟨tail, ending, below, rfl, single, broken⟩ := ih
        have longer : '\n' ∉ char :: tail := by
          rw [List.mem_cons, not_or]
          exact ⟨Ne.symm feed, single⟩
        cases broken with
        | feed noReturn =>
            cases tail with
            | nil =>
                by_cases returned : char = '\r'
                · rw [returned]
                  exact ⟨[], ['\r', '\n'], below, rfl, List.not_mem_nil, .returnFeed⟩
                · refine ⟨[char], ['\n'], below, rfl, longer, .feed ?_⟩
                  exact fun last => returned (Option.some.inj last)
            | cons first others =>
                exact ⟨char :: first :: others, ['\n'], below, rfl, longer, .feed noReturn⟩
        | returnFeed => exact ⟨char :: tail, ['\r', '\n'], below, rfl, longer, .returnFeed⟩
        | atEnd => exact ⟨char :: tail, [], [], rfl, longer, .atEnd⟩

namespace Spot

/-- A part without a line break is a part of one line, if it does not end in a return. -/
theorem exists_of_parts (before : Text) {part : Text} (after : Text) (filled : part ≠ [])
    (single : '\n' ∉ part) (noReturn : part.getLast? ≠ some '\r') :
    ∃ spot : Spot, spot.text = before ++ part ++ after ∧ spot.before = before ∧
      spot.part = part := by
  obtain ⟨above, lead, rfl, begun, leadSingle⟩ := exists_line_start before
  obtain ⟨tail, ending, below, rfl, tailSingle, broken⟩ := exists_line_end after
  have whole : '\n' ∉ lead ++ part ++ tail := by
    simp only [List.mem_append, not_or]
    exact ⟨⟨leadSingle, single⟩, tailSingle⟩
  have extended : Broken (lead ++ part ++ tail) ending below := by
    apply broken.extend
    rwa [List.getLast?_append_of_ne_nil lead filled]
  let spot : Spot := ⟨above, lead, part, tail, ending, below, begun, whole, extended⟩
  exact ⟨spot, by rw [spot.text_eq]; rfl, rfl, rfl⟩

/-- A text that is not empty has a last line. -/
theorem exists_atEnd {source : Text} (filled : source ≠ []) :
    ∃ spot : Spot, spot.text = source ∧ spot.AtEnd := by
  obtain ⟨front, last, rfl⟩ := (List.eq_nil_or_concat' source).resolve_left filled
  by_cases feed : last = '\n'
  · obtain ⟨above, lead, rfl, begun, single⟩ := exists_line_start front
    by_cases returned : lead.getLast? = some '\r'
    · obtain ⟨line, rfl⟩ := List.getLast?_eq_some_iff.mp returned
      have shorter : '\n' ∉ line ++ [] ++ [] := by
        rw [List.append_nil, List.append_nil]
        exact fun member => single (List.mem_append_left _ member)
      let spot : Spot := ⟨above, line, [], [], ['\r', '\n'], [], begun, shorter, .returnFeed⟩
      exact ⟨spot, by simp [spot, text, Spot.line, feed], rfl, rfl, rfl, by simp [spot]⟩
    · have shut : Broken (lead ++ [] ++ []) ['\n'] [] := by
        rw [List.append_nil, List.append_nil]
        exact .feed returned
      have whole : '\n' ∉ lead ++ [] ++ [] := by rwa [List.append_nil, List.append_nil]
      let spot : Spot := ⟨above, lead, [], [], ['\n'], [], begun, whole, shut⟩
      exact ⟨spot, by simp [spot, text, Spot.line, feed], rfl, rfl, rfl, by simp [spot]⟩
  · obtain ⟨above, lead, parts, begun, single⟩ := exists_line_start (front ++ [last])
    have whole : '\n' ∉ lead ++ [] ++ [] := by rwa [List.append_nil, List.append_nil]
    let spot : Spot := ⟨above, lead, [], [], [], [], begun, whole, .atEnd⟩
    have some : lead ≠ [] := by
      rintro rfl
      rw [List.append_nil] at parts
      rw [← parts] at begun
      rcases begun with none | final
      · exact filled none
      · rw [List.getLast?_concat] at final
        exact feed (Option.some.inj final)
    exact ⟨spot, by simp [spot, text, Spot.line, parts], rfl, rfl, rfl,
      by simp [spot, Spot.line, some]⟩

end Spot

end Snippet

end SimpleSentence
