import SimpleSentence.Proofs.Snippet.Pointer
import SimpleSentence.Proofs.Text.Printed

/-!
How much of its source line a drawing keeps. Dots are drawn wherever something is cut
away, so a drawing without dots shows the picture of the whole line and marks it column
for column. A mark behind the end of a line keeps that end in view: of a line that does
not fit, dots and blanks stand for the beginning, and what is shown still ends in the
column in front of the mark.
-/

namespace SimpleSentence.Snippet

/-! ### Columns of pictures -/

theorem picture_append (first second : Text) :
    picture (first ++ second) = picture first ++ picture second := List.flatMap_append

theorem inRanges_of_gap {ranges : Text.Ranges} {low high : Nat} {char : Char}
    (gap : (ranges.all fun range => range.2 < low || high < range.1) = true)
    (inside : low ≤ char.toNat ∧ char.toNat ≤ high) : Text.inRanges ranges char = false := by
  apply List.any_eq_false.mpr
  intro range member
  have apart := List.all_eq_true.mp gap range member
  simp only [Bool.or_eq_true, decide_eq_true_eq, Bool.and_eq_true] at apart ⊢
  omega

/-- The pictures of controls take one column each. -/
theorem columnsOf_symbol {char : Char} (symbol : 0x2400 ≤ char.toNat ∧ char.toNat ≤ 0x2421) :
    Text.columnsOf char = 1 := by
  have other (low : Char) (outside : low.toNat < 0x2400 ∨ 0x2421 < low.toNat) : char ≠ low := by
    rintro rfl
    omega
  have turns : Text.turnsDirection char = false := by
    simp only [Text.turnsDirection, Bool.or_eq_false_iff, Bool.and_eq_false_iff,
      decide_eq_false_iff_not]
    omega
  have combines : Text.isCombining char = false := by
    rw [Text.isCombining, inRanges_of_gap (by decide +kernel) symbol, Bool.and_false]
  have ignored : Text.isIgnorable char = false := by
    rw [Text.isIgnorable, inRanges_of_gap (by decide +kernel) symbol, Bool.and_false]
  have attached : Text.isAttached char = false := by
    rw [Text.isAttached, inRanges_of_gap (by decide +kernel) symbol,
      inRanges_of_gap (by decide +kernel) symbol, Bool.or_false, Bool.and_false]
  have wide : Text.isWide char = false := by
    rw [Text.isWide, inRanges_of_gap (by decide +kernel) symbol, Bool.and_false]
  rw [Text.columnsOf, turns, combines, ignored, attached, wide]
  simp [other '\t' (by decide), other '\u2D7F' (by decide), other '\u115F' (by decide),
    other '\u17D8' (by decide)]

/-- A picture takes the columns of the character that it stands for. -/
theorem columns_pictureOf (char : Char) : Text.columns (pictureOf char) = Text.columnsOf char := by
  unfold pictureOf
  simp only
  split
  · next tab =>
      rw [tab]
      decide
  · next noTab =>
      split
      · next control =>
          have code : (Char.ofNat (0x2400 + char.toNat)).toNat = 0x2400 + char.toNat := by
            rw [Char.ofNat, dif_pos (.inl (by omega))]
            rfl
          rw [columnsOf_of_low (by omega) noTab, Text.columns, columnsOf_symbol (by omega)]
          rfl
      · split
        · next delete =>
            rw [columnsOf_of_low (by omega) noTab, Text.columns, columnsOf_symbol (by decide)]
            rfl
        · split
          · next joiner =>
              have same : char = '\u200D' := Char.toNat_inj.mp joiner
              rw [same]
              decide +kernel
          · split
            · next turns =>
                rw [Text.columnsOf, if_neg noTab, turns, Bool.true_or, if_pos rfl]
                decide +kernel
            · rfl

theorem columns_picture (text : Text) : Text.columns (picture text) = Text.columns text := by
  induction text with
  | nil => rfl
  | cons char rest ih =>
      rw [picture, List.flatMap_cons, Text.columns_append, columns_pictureOf, ← picture, ih,
        Text.columns]

/-! ### Cuts -/

theorem dropColumns_parts (left dropped : Nat) (text : Text) :
    ∃ hidden, text = hidden ++ (dropColumns left dropped text).2 ∧
      (dropColumns left dropped text).1 = dropped + Text.columns hidden ∧
      min left (dropped + Text.columns text) ≤ (dropColumns left dropped text).1 := by
  induction text generalizing dropped with
  | nil => exact ⟨[], rfl, rfl, Nat.min_le_right _ _⟩
  | cons char rest ih =>
      rw [dropColumns]
      split
      · obtain ⟨hidden, parts, columns, reached⟩ := ih (dropped + Text.columnsOf char)
        refine ⟨char :: hidden, congrArg _ parts, ?_, ?_⟩
        · rw [columns, Text.columns, Nat.add_assoc]
        · rwa [Text.columns, ← Nat.add_assoc]
      · exact ⟨[], rfl, rfl, by omega⟩

theorem takeColumns_of_le {room : Nat} {text : Text} (fits : Text.columns text ≤ room) :
    takeColumns room text = text := by
  induction text generalizing room with
  | nil => rfl
  | cons char rest ih =>
      rw [Text.columns] at fits
      rw [takeColumns, if_pos (by omega), ih (by omega)]

-- The last character reached may take a few columns more than are left to the goal.
theorem reachColumns_parts {goal : Nat} (positive : 0 < goal) (text : Text) :
    let reached := reachColumns goal text
    let rest := text.drop reached.length
    reached ++ rest = text ∧ (rest = [] ∨ goal ≤ Text.columns reached) ∧
      Text.columns reached ≤ goal + 3 := by
  induction text generalizing goal with
  | nil => exact ⟨rfl, .inl rfl, Nat.zero_le _⟩
  | cons char rest ih =>
      have wide := Text.columnsOf_le char
      rw [reachColumns]
      split
      · next reached =>
          refine ⟨rfl, .inr reached, ?_⟩
          show Text.columnsOf char + 0 ≤ goal + 3
          omega
      · next short =>
          obtain ⟨parts, reached, bound⟩ := @ih (goal - Text.columnsOf char) (by omega)
          refine ⟨congrArg (char :: ·) parts, reached.imp_right fun reached => ?_, ?_⟩
          · rw [Text.columns]
            omega
          · rw [Text.columns]
            omega

/-! ### Dots -/

/-- What is drawn where something is cut away. -/
def dot : Cell := ⟨'.', .gutter⟩

theorem dot_mem_ellipsis : dot ∈ ellipsis := by decide

theorem mem_overlay {cell : Cell} {cells line : Line} (member : cell ∈ cells) (column : Nat) :
    cell ∈ overlay column cells line :=
  List.mem_append_left _ (List.mem_append_right _ member)

theorem dot_mem_overlay {column : Nat} (behind : 0 < column) (cells : Line) :
    dot ∈ overlay column cells ellipsis := by
  obtain ⟨before, rfl⟩ := Nat.exists_eq_succ_of_ne_zero (Nat.ne_of_gt behind)
  exact List.mem_append_left _ (List.mem_append_left _ List.mem_cons_self)

theorem dot_mem_elide {first past : Nat} {line : Line} (apart : first < past)
    (reached : past ≤ line.length) : dot ∈ elide first past line := by
  have differ : ¬ first = past := by omega
  have long : ¬ line.length < first ∧ ¬ line.length < past := by omega
  simp only [elide, differ, long, decide_false, Bool.or_self, Bool.false_eq_true, ↓reduceIte]
  exact List.mem_append_left _ (List.mem_append_right _ dot_mem_ellipsis)

/-! ### The shown part of a line -/

/-- Where the shown part of a line ends. -/
def Window.past (window : Window) (room length : Nat) : Nat :=
  if length - window.left ≤ room then length else min length window.right

theorem Window.past_le (window : Window) (room length : Nat) :
    window.past room length ≤ length := by
  unfold Window.past
  split
  · exact Nat.le_refl _
  · exact Nat.min_le_left _ _

/-- A text with dots over its first characters. -/
def behindDots (shown : Text) : Line :=
  let covered := reachColumns 3 shown
  let rest := shown.drop covered.length
  if rest.isEmpty then ellipsis
  else overlay (Text.columns covered) (styled .plain rest) ellipsis

-- The text is not written over all of the dots, because it begins behind three columns.
theorem dot_mem_behindDots (shown : Text) : dot ∈ behindDots shown := by
  obtain ⟨_, reached, _⟩ := reachColumns_parts (by decide : 0 < 3) shown
  simp only [behindDots]
  split
  · exact dot_mem_ellipsis
  · next filled =>
      apply dot_mem_overlay
      rcases reached with nothing | wide
      · exact absurd (List.isEmpty_iff.mpr nothing) filled
      · omega

/-- A text that is wider than the characters under the dots goes on behind them. -/
theorem behindDots_eq {shown : Text} (wide : 6 < Text.columns shown) :
    ∃ blanks rest, rest ≠ [] ∧ 3 + blanks + Text.columns rest = Text.columns shown ∧
      (∃ covered, shown = covered ++ rest) ∧
      behindDots shown = ellipsis ++ spaces blanks ++ styled .plain rest := by
  obtain ⟨parts, reached, bound⟩ := reachColumns_parts (by decide : 0 < 3) shown
  have columns := congrArg Text.columns parts
  rw [Text.columns_append] at columns
  have filled : shown.drop (reachColumns 3 shown).length ≠ [] := by
    intro nothing
    rw [nothing] at columns
    have none : Text.columns [] = 0 := rfl
    omega
  have behind := reached.resolve_left filled
  refine ⟨Text.columns (reachColumns 3 shown) - 3, _, filled, by omega, ⟨_, parts.symm⟩, ?_⟩
  simp only [behindDots]
  rw [if_neg (by simpa using filled), overlay_behind behind]
  rfl

section CodeLine

variable {room : Nat} {window : Window} {text : Text}

theorem codeLine_opened (cut : 0 < window.left) :
    let length := Text.columns text
    let left := min window.left length
    let dropped := dropColumns left 0 text
    let shown := takeColumns (window.past room length - left) dropped.2
    ∃ column, codeLine room window text =
      ⟨if window.past room length < length then overlay column ellipsis (behindDots shown)
        else behindDots shown, max left dropped.1⟩ := by
  intro length left dropped shown
  let covered := reachColumns 3 shown
  refine ⟨Text.columns covered + (shown.drop covered.length).length -
    (reachColumns 3 shown.reverse).length, ?_⟩
  simp only [codeLine]
  rw [if_pos cut, if_pos cut]
  rfl

theorem codeLine_whole (left : window.left = 0)
    (whole : window.past room (Text.columns text) = Text.columns text) :
    codeLine room window text = ⟨styled .plain text, 0⟩ := by
  have written : overlay 0 (styled .plain text) [] = styled .plain text := by
    rw [overlay_behind (Nat.zero_le _)]
    rfl
  simp only [Window.past] at whole
  simp only [codeLine]
  rw [whole, left, Nat.zero_min, dropColumns_zero, Nat.sub_zero, takeColumns_of_le (Nat.le_refl _)]
  simp only [Nat.lt_irrefl, ↓reduceIte, List.length_nil, List.drop_zero, Text.columns, written]
  cases text <;> rfl

/-- Without dots, nothing is cut away. -/
theorem codeLine_of_undotted (undotted : dot ∉ (codeLine room window text).cells) :
    codeLine room window text = ⟨styled .plain text, 0⟩ := by
  by_cases left : window.left = 0
  · apply codeLine_whole left
    by_contra short
    have cut := Nat.lt_of_le_of_ne (window.past_le room (Text.columns text)) short
    refine undotted ?_
    simp only [codeLine]
    rw [Window.past] at cut
    rw [if_pos cut]
    exact mem_overlay dot_mem_ellipsis _
  · obtain ⟨column, opened⟩ := @codeLine_opened room window text (Nat.pos_of_ne_zero left)
    rw [opened] at undotted
    refine absurd ?_ undotted
    split
    · exact mem_overlay dot_mem_ellipsis _
    · exact dot_mem_behindDots _

/-- A line that is cut only in front, far from its end, is dots, blanks and the end of the line. -/
theorem codeLine_of_end (cut : 0 < window.left) (far : window.left + 10 ≤ Text.columns text)
    (whole : window.past room (Text.columns text) = Text.columns text) :
    ∃ hidden rest blanks, text = hidden ++ rest ∧ rest ≠ [] ∧
      (codeLine room window text).cells = ellipsis ++ spaces blanks ++ styled .plain rest ∧
      (codeLine room window text).cut + (3 + blanks + Text.columns rest) = Text.columns text := by
  obtain ⟨_, opened⟩ := @codeLine_opened room window text cut
  have near : min window.left (Text.columns text) = window.left := by omega
  have bound := dropColumns_le text (Nat.zero_le (window.left + 3))
  obtain ⟨dropped, parts, columns, reached⟩ := dropColumns_parts window.left 0 text
  have total := congrArg Text.columns parts
  rw [Text.columns_append] at total
  rw [Nat.zero_add] at columns reached
  have kept : takeColumns (Text.columns text - window.left) (dropColumns window.left 0 text).2 =
      (dropColumns window.left 0 text).2 := takeColumns_of_le (by omega)
  obtain ⟨blanks, rest, filled, size, ⟨covered, behind⟩, drawn⟩ :=
    @behindDots_eq (dropColumns window.left 0 text).2 (by omega)
  rw [whole, near, kept, if_neg (Nat.lt_irrefl _), drawn] at opened
  refine ⟨dropped ++ covered, rest, blanks, ?_, filled, ?_, ?_⟩
  · rw [List.append_assoc, ← behind, ← parts]
  · rw [opened]
  · rw [opened]
    show max _ _ + _ = _
    omega

end CodeLine

/-! ### Lines that fit -/

theorem columns_takeBytes_le (limit : Nat) (text : Text) :
    Text.columns (Text.takeBytes limit text) ≤ Text.columns text := by
  induction text generalizing limit with
  | nil => exact Nat.le_refl _
  | cons char rest ih =>
      rw [Text.takeBytes]
      split
      · exact Nat.add_le_add_left (ih _) _
      · exact Nat.zero_le _

/-- A line that fits is shown from its start, unless it is indented far. -/
theorem Extent.window_of_fits {extent : Extent} (fits : extent.length ≤ extent.room)
    (indented : extent.indent ≤ 26) : extent.window = ⟨0, extent.length⟩ := by
  have six : margin = 6 := rfl
  have start : extent.start = ⟨0, extent.length⟩ := by
    simp only [Extent.start]
    rw [if_neg (by omega), Nat.max_zero]
  simp only [Extent.window, start]
  exact if_pos fits

/-! ### Marks behind the end of a line -/

/-- The marked range is the one column behind the line. -/
structure Extent.AtEnd (extent : Extent) : Prop where
  first : extent.first = extent.length
  past : extent.past = extent.length + 1

namespace Extent.AtEnd

variable {extent : Extent} (atEnd : extent.AtEnd)
include atEnd

/-- Nothing is cut off at the right. -/
theorem past_eq : extent.window.past extent.room extent.length = extent.length := by
  have six : margin = 6 := rfl
  have right : extent.length ≤ extent.window.right := by
    obtain ⟨first, past⟩ := atEnd
    simp only [Extent.window]
    split
    · exact Nat.le_max_left _ _
    · split
      · next fits =>
          simp only [Bool.and_eq_true, decide_eq_true_eq] at fits
          dsimp only
          omega
      · split
        · dsimp only
          omega
        · split
          · dsimp only
            omega
          · dsimp only
            omega
  unfold Window.past
  split
  · rfl
  · exact Nat.min_eq_left right

/-- What is cut off at the left ends far in front of the mark. -/
theorem left_far (roomy : 117 ≤ extent.room) (noted : extent.note ≤ 55) :
    extent.window.left = 0 ∨ extent.window.left + 10 ≤ extent.length := by
  have six : margin = 6 := rfl
  obtain ⟨first, past⟩ := atEnd
  have start : extent.start.left = 0 ∧ min extent.indent extent.first - margin ≤ 20 ∨
      extent.start.left + 16 = min extent.indent extent.first - margin := by
    simp only [Extent.start]
    split <;> omega
  have right : extent.start.right = max extent.length extent.start.left := rfl
  simp only [Extent.window]
  split
  · omega
  · split
    · dsimp only
      omega
    · split
      · dsimp only
        omega
      · omega

end Extent.AtEnd

namespace Excerpt

variable {excerpt : Excerpt}

/-! ### Drawings without dots -/

theorem shortened_of_narrow
    (narrow : excerpt.position.past - excerpt.position.first ≤ 2 * excerpt.room) (line : Line) :
    excerpt.shortened line = line := if_neg (Nat.not_lt.mpr narrow)

theorem pointer_marks
    (narrow : excerpt.position.past - excerpt.position.first ≤ 2 * excerpt.room) :
    excerpt.pointer.marks =
      List.replicate (excerpt.position.first - excerpt.code.cut) ' ' ++
        List.replicate (excerpt.position.past - excerpt.position.first) '^' := by
  show plainLine (excerpt.shortened _) = _
  rw [shortened_of_narrow narrow, marks, plainLine_append, plainLine_spaces, plainLine_styled]

theorem pointer_code
    (narrow : excerpt.position.past - excerpt.position.first ≤ 2 * excerpt.room) :
    excerpt.pointer.code = plainLine excerpt.code.cells :=
  congrArg plainLine (shortened_of_narrow narrow _)

/-- No dots are drawn, so nothing of the source line is cut away. -/
def Whole (excerpt : Excerpt) : Prop := ∀ line ∈ excerpt.lines, dot ∉ line

instance (excerpt : Excerpt) : Decidable excerpt.Whole :=
  inferInstanceAs (Decidable (∀ line ∈ excerpt.lines, dot ∉ line))

theorem sourceLine_mem_lines (excerpt : Excerpt) :
    sourceLine excerpt.width excerpt.position.line.number
      (excerpt.shortened excerpt.code.cells) ∈ excerpt.lines := by
  rw [lines_eq]
  simp

theorem underline_mem_lines (excerpt : Excerpt) :
    emptyLine excerpt.width ++ spaces 1 ++
      excerpt.shortened (underline excerpt.position excerpt.code.cut excerpt.note) ∈
        excerpt.lines := by
  rw [lines_eq]
  simp

theorem mem_sourceLine {cell : Cell} {code : Line} (member : cell ∈ code) (width number : Nat) :
    cell ∈ sourceLine width number code := by
  have filled : code.isEmpty = false := by
    cases code with
    | nil => cases member
    | cons first rest => rfl
  apply List.mem_append_right
  rw [filled]
  exact List.mem_append_right _ member

namespace Whole

variable (whole : excerpt.Whole)
include whole

theorem narrow : excerpt.position.past - excerpt.position.first ≤ 2 * excerpt.room := by
  by_contra wider
  have wide := excerpt.wide
  have shown := excerpt.cut_le
  have long := length_marks wide shown
  refine whole _ excerpt.underline_mem_lines (List.mem_append_right _ ?_)
  rw [shortened, shorten, if_pos (Nat.not_le.mp wider), underline_eq wide shown]
  apply dot_mem_elide
  · omega
  · rw [List.length_append]
    omega

/-- The shown line is the picture of the source line. -/
theorem code_eq :
    excerpt.code = ⟨styled .plain (picture excerpt.position.line.text), 0⟩ := by
  have undotted : dot ∉ excerpt.code.cells := by
    have line := whole _ excerpt.sourceLine_mem_lines
    rw [shortened_of_narrow whole.narrow] at line
    exact fun member => line (mem_sourceLine member _ _)
  exact codeLine_of_undotted undotted

theorem pointer_code : excerpt.pointer.code = picture excerpt.position.line.text := by
  rw [Excerpt.pointer_code whole.narrow, whole.code_eq, plainLine_styled]

theorem pointer_marks :
    excerpt.pointer.marks =
      List.replicate excerpt.position.first ' ' ++
        List.replicate (excerpt.position.past - excerpt.position.first) '^' := by
  rw [Excerpt.pointer_marks whole.narrow, whole.code_eq, Nat.sub_zero]

end Whole

theorem dot_not_mem_styled {style : Style} (other : style ≠ .gutter) (text : Text) :
    dot ∉ styled style text := by
  intro member
  obtain ⟨char, _, same⟩ := List.mem_map.mp member
  exact other (congrArg Cell.style same)

theorem dot_not_mem_gutter {text : Text} (plain : '.' ∉ text) : dot ∉ styled .gutter text := by
  intro member
  obtain ⟨char, inside, same⟩ := List.mem_map.mp member
  have isDot : char = '.' := congrArg Cell.char same
  exact plain (isDot ▸ inside)

theorem dot_not_mem_spaces (count : Nat) : dot ∉ spaces count := fun member =>
  absurd (List.mem_replicate.mp member).2 (by decide)

/-- A line that is narrower than the room for it, and not indented far, is drawn whole. -/
theorem whole_of_fits (fits : Text.columns excerpt.position.line.text < excerpt.room)
    (indented : indentColumns excerpt.position.line.text ≤ 26) : excerpt.Whole := by
  have window : excerpt.extent.window = ⟨0, excerpt.extent.length⟩ :=
    Extent.window_of_fits (Nat.le_of_lt fits) indented
  have length : excerpt.extent.length = Text.columns (picture excerpt.position.line.text) :=
    (columns_picture _).symm
  have code : excerpt.code = ⟨styled .plain (picture excerpt.position.line.text), 0⟩ := by
    apply codeLine_whole
    · rw [window]
    · rw [window, Window.past, ← length]
      exact if_pos (Nat.le_of_lt fits)
  have narrow : excerpt.position.past - excerpt.position.first ≤ 2 * excerpt.room := by
    have past := columns_takeBytes_le
      (excerpt.range.stop - excerpt.position.line.start) excerpt.position.line.text
    have shown : excerpt.position.past ≤ excerpt.position.first + 1 ∨
        excerpt.position.past ≤ Text.columns excerpt.position.line.text := by
      unfold position locate at past ⊢
      dsimp only at past ⊢
      split
      · exact .inl (Nat.le_refl _)
      · exact .inr past
    omega
  have blank := dot_not_mem_spaces
  have marked : dot ∉ underline excerpt.position excerpt.code.cut excerpt.note := by
    simp only [underline_eq excerpt.wide excerpt.cut_le, marks, List.mem_append, not_or]
    have alarm := @dot_not_mem_styled .alarm (by decide)
    exact ⟨⟨blank _, alarm _⟩, blank _, alarm _⟩
  have digits : dot ∉ styled .gutter (Text.numeral excerpt.position.line.number) := by
    apply dot_not_mem_gutter
    exact fun member => absurd (Text.isDigit_of_mem_numeral member) (by decide)
  have plain := @dot_not_mem_styled .plain (by decide)
  have bar : dot ∉ bar := dot_not_mem_gutter (by decide)
  have empty : dot ∉ emptyLine excerpt.width := by
    rw [emptyLine, List.mem_append, not_or]
    exact ⟨blank _, bar⟩
  intro line member
  rw [lines_eq, shortened_of_narrow narrow, shortened_of_narrow narrow, code] at member
  simp only [List.mem_cons, List.mem_append, List.mem_map, List.not_mem_nil, or_false] at member
  rcases member with rfl | ⟨path, _, rfl⟩ | rfl | rfl | rfl
  · rw [titleLine, List.mem_append, not_or]
    exact ⟨dot_not_mem_styled (by decide) _, dot_not_mem_styled (by decide) _⟩
  · simp only [placeLine, List.mem_append, not_or]
    exact ⟨⟨blank _, dot_not_mem_gutter (by decide)⟩, plain _⟩
  · exact empty
  · simp only [sourceLine, List.mem_append, not_or]
    refine ⟨⟨⟨⟨blank _, digits⟩, blank _⟩, bar⟩, ?_⟩
    split
    · exact List.not_mem_nil
    · rw [List.mem_append, not_or]
      exact ⟨blank _, plain _⟩
  · rw [code] at marked
    simp only [List.mem_append, not_or]
    exact ⟨⟨empty, blank _⟩, marked⟩

end Excerpt

end SimpleSentence.Snippet
