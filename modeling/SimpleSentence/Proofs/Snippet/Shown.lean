import SimpleSentence.Proofs.Text.Colour
import SimpleSentence.Snippet.Drawing
import SimpleSentence.Text.Blank

/-!
What a drawing shows in either form. The two forms are read off the same cells,
so the coloured form shows the plain one as long as no cell holds an escape
character. None does: the message and the source are drawn as pictures, and the
rest of a drawing is numbers, bars, dots and the note. The last line of a drawing
ends in a marked cell that is not blank, so nothing is left at its end to trim.
-/

namespace SimpleSentence.Snippet

open Text (escapeMark Shows)

/-- No cell of the line holds an escape character. -/
def Clean (line : Line) : Prop := ∀ cell ∈ line, cell.char ≠ escapeMark

section Clean

variable {line cells : Line} {text : Text}

theorem clean_nil : Clean [] := fun _ member => nomatch member

theorem Clean.append (first : Clean line) (second : Clean cells) : Clean (line ++ cells) := by
  intro cell member
  rcases List.mem_append.mp member with inFirst | inSecond
  · exact first cell inFirst
  · exact second cell inSecond

theorem Clean.of_subset (clean : Clean line) (part : ∀ cell ∈ cells, cell ∈ line) :
    Clean cells := fun cell member => clean cell (part cell member)

theorem clean_styled (style : Style) (clean : escapeMark ∉ text) : Clean (styled style text) := by
  intro cell member
  obtain ⟨char, inside, rfl⟩ := List.mem_map.mp member
  rintro rfl
  exact clean inside

theorem clean_spaces (count : Nat) : Clean (spaces count) := by
  intro cell member
  rw [(List.mem_replicate.mp member).2]
  decide

theorem Clean.take (clean : Clean line) (count : Nat) : Clean (line.take count) :=
  clean.of_subset fun _ => List.mem_of_mem_take

theorem Clean.drop (clean : Clean line) (count : Nat) : Clean (line.drop count) :=
  clean.of_subset fun _ => List.mem_of_mem_drop

theorem clean_overlay (column : Nat) (upper : Clean cells) (under : Clean line) :
    Clean (overlay column cells line) := by
  have padded := under.append (clean_spaces (column - line.length))
  exact ((padded.take column).append upper).append (padded.drop _)

theorem clean_ellipsis : Clean ellipsis := clean_styled .gutter (by decide)

theorem clean_elide (first past : Nat) (clean : Clean line) : Clean (elide first past line) := by
  unfold elide
  split
  · exact clean
  · exact ((clean.take first).append clean_ellipsis).append (clean.drop past)

theorem Clean.either {condition : Prop} [Decidable condition] (first : Clean line)
    (second : Clean cells) : Clean (if condition then line else cells) := by
  split
  · exact first
  · exact second

end Clean

theorem escapeMark_not_mem_pictureOf (char : Char) : escapeMark ∉ pictureOf char := by
  unfold pictureOf
  simp only
  split
  · decide
  · split
    · next control =>
        intro member
        have same := congrArg Char.toNat (List.mem_singleton.mp member)
        rw [Char.ofNat, dif_pos (.inl (by omega))] at same
        have code : 27 = 0x2400 + char.toNat := same
        omega
    · next printed =>
        split
        · decide
        · split
          · decide
          · split
            · decide
            · intro member
              rw [← List.mem_singleton.mp member] at printed
              exact printed (by decide)

theorem escapeMark_not_mem_picture (text : Text) : escapeMark ∉ picture text := by
  intro member
  obtain ⟨char, _, inside⟩ := List.mem_flatMap.mp member
  exact escapeMark_not_mem_pictureOf char inside

theorem mem_of_mem_dropColumns {left dropped : Nat} {text : Text} {char : Char}
    (member : char ∈ (dropColumns left dropped text).2) : char ∈ text := by
  induction text generalizing dropped with
  | nil => cases member
  | cons first rest ih =>
      rw [dropColumns] at member
      split at member
      · exact List.mem_cons_of_mem first (ih member)
      · exact member

theorem mem_of_mem_takeColumns {room : Nat} {text : Text} {char : Char}
    (member : char ∈ takeColumns room text) : char ∈ text := by
  induction text generalizing room with
  | nil => cases member
  | cons first rest ih =>
      rw [takeColumns] at member
      split at member
      · rcases List.mem_cons.mp member with rfl | later
        · exact List.mem_cons_self
        · exact List.mem_cons_of_mem first (ih later)
      · cases member

theorem clean_codeLine (room : Nat) (window : Window) {text : Text} (clean : escapeMark ∉ text) :
    Clean (codeLine room window text).cells := by
  rw [codeLine]
  simp only
  have shown (left width count : Nat) :
      escapeMark ∉ (takeColumns width (dropColumns left 0 text).2).drop count := by
    intro member
    exact clean (mem_of_mem_dropColumns (mem_of_mem_takeColumns (List.mem_of_mem_drop member)))
  suffices written : Clean _ from
    Clean.either (clean_overlay _ clean_ellipsis written) written
  suffices opened : Clean _ from
    Clean.either opened (clean_overlay _ (clean_styled .plain (shown _ _ _)) opened)
  exact Clean.either (clean_overlay 0 clean_ellipsis clean_nil) clean_nil

theorem escapeMark_not_mem_numeral (number : Nat) : escapeMark ∉ Text.numeral number := by
  intro member
  exact absurd (Text.isDigit_of_mem_numeral member) (by decide)

namespace Excerpt

variable {excerpt : Excerpt}

theorem clean_titleLine (excerpt : Excerpt) : Clean excerpt.titleLine := by
  refine (clean_styled .alarm (by decide)).append (clean_styled .strong ?_)
  rw [List.mem_append, not_or]
  exact ⟨by decide, escapeMark_not_mem_picture _⟩

theorem clean_placeLine (width : Nat) (position : Position) {path : Text}
    (clean : escapeMark ∉ path) : Clean (placeLine width position path) := by
  have numbers := escapeMark_not_mem_numeral
  refine ((clean_spaces width).append (clean_styled .gutter (by decide))).append
    (clean_styled .plain ?_)
  simp only [List.mem_append, List.mem_cons, not_or]
  exact ⟨clean, by decide, numbers _, by decide, numbers _⟩

theorem clean_bar : Clean bar := clean_styled .gutter (by decide)

theorem clean_emptyLine (width : Nat) : Clean (emptyLine width) :=
  (clean_spaces (width + 1)).append clean_bar

theorem clean_sourceLine (width number : Nat) {code : Line} (clean : Clean code) :
    Clean (sourceLine width number code) := by
  have digits := clean_styled .gutter (escapeMark_not_mem_numeral number)
  refine ((((clean_spaces _).append digits).append (clean_spaces 1)).append clean_bar).append ?_
  exact clean_nil.either ((clean_spaces 1).append clean)

theorem clean_underline (position : Position) (cut : Nat) {note : Text}
    (clean : escapeMark ∉ note) : Clean (underline position cut note) := by
  have carets : escapeMark ∉ List.replicate (position.past - position.first) '^' := by
    intro member
    exact absurd (List.mem_replicate.mp member).2 (by decide)
  exact clean_overlay _ (clean_styled .alarm clean)
    (clean_overlay _ (clean_styled .alarm carets) clean_nil)

theorem clean_shorten (room : Nat) (position : Position) (cut : Nat) {line : Line}
    (clean : Clean line) : Clean (shorten room position cut line) :=
  (clean_elide _ _ clean).either clean

/-- No cell of a drawing holds an escape character, whatever the source and the message hold. -/
theorem clean_lines (note : escapeMark ∉ excerpt.note)
    (path : ∀ path ∈ excerpt.path, escapeMark ∉ path) : ∀ line ∈ excerpt.lines, Clean line := by
  intro line member
  rw [lines] at member
  simp only [List.mem_append, List.mem_cons, List.not_mem_nil, or_false] at member
  rcases member with (rfl | place) | rfl | rfl | rfl
  · exact clean_titleLine excerpt
  · cases known : excerpt.path with
    | none =>
        rw [known] at place
        cases place
    | some text =>
        rw [known] at place
        obtain rfl := List.mem_singleton.mp place
        exact clean_placeLine _ _ (path text known)
  · exact clean_emptyLine _
  · exact clean_sourceLine _ _
      (clean_shorten _ _ _ (clean_codeLine _ _ (escapeMark_not_mem_picture _)))
  · exact ((clean_emptyLine _).append (clean_spaces 1)).append
      (clean_shorten _ _ _ (clean_underline _ _ note))

end Excerpt

section Coloured

variable {line : Line}

theorem shows_opening (style : Style) : Shows style.opening [] := by
  cases style with
  | plain => exact .of_clean List.not_mem_nil
  | strong => exact .sequence (by decide)
  | alarm => exact (Shows.sequence (by decide)).append (.sequence (by decide))
  | gutter => exact (Shows.sequence (by decide)).append (.sequence (by decide))

theorem shows_closing (style : Style) : Shows style.closing [] := by
  cases style with
  | plain => exact .of_clean List.not_mem_nil
  | strong | alarm | gutter => exact .sequence (by decide)

-- Induction on the cells; the style in force changes nothing of what is shown.
theorem shows_colouredFrom (current : Style) (clean : Clean line) :
    Shows (colouredFrom current line) (plainLine line) := by
  induction line generalizing current with
  | nil => exact shows_closing current
  | cons cell rest ih =>
      have char := clean cell List.mem_cons_self
      have later (style : Style) := ih style fun other member =>
        clean other (List.mem_cons_of_mem cell member)
      rw [colouredFrom]
      split
      · exact (later current).cons char
      · exact ((shows_closing current).append (shows_opening cell.style)).append
          ((later cell.style).cons char)

/-- The coloured form of a drawing shows its plain form. -/
theorem shows_drawing {lines : List Line} (clean : ∀ line ∈ lines, Clean line) :
    Shows (drawingText true lines) (drawingText false lines) := by
  show Shows (Text.joinWith ['\n'] (lines.map colouredLine))
    (Text.joinWith ['\n'] (lines.map plainLine))
  induction lines with
  | nil => exact .of_clean List.not_mem_nil
  | cons first rest ih =>
      have own := shows_colouredFrom .plain (clean first List.mem_cons_self)
      have later := ih fun line member => clean line (List.mem_cons_of_mem first member)
      cases rest with
      | nil => exact own
      | cons second others =>
          have feed : Shows ['\n'] ['\n'] := .of_clean (by decide)
          exact (own.append feed).append later

end Coloured

/-- The line ends in a cell that is marked and not blank. -/
def EndsMarked (line : Line) : Prop :=
  ∃ cell ∈ line.getLast?, cell.style ≠ .plain ∧ Text.isBlank cell.char = false

section EndsMarked

variable {line cells : Line}

theorem EndsMarked.behind (marked : EndsMarked line) (front : Line) :
    EndsMarked (front ++ line) := by
  obtain ⟨cell, last, visible⟩ := marked
  refine ⟨cell, ?_, visible⟩
  rw [List.getLast?_append, Option.mem_def.mp last]
  rfl

theorem EndsMarked.append (marked : EndsMarked line) (next : cells = [] ∨ EndsMarked cells) :
    EndsMarked (line ++ cells) := by
  rcases next with rfl | later
  · rwa [List.append_nil]
  · exact later.behind line

-- What is left of a line behind some of its cells is nothing, or it ends as the line does.
theorem EndsMarked.drop (marked : EndsMarked line) (count : Nat) :
    line.drop count = [] ∨ EndsMarked (line.drop count) := by
  by_cases short : line.length ≤ count
  · exact .inl (List.drop_eq_nil_of_le short)
  · obtain ⟨cell, last, visible⟩ := marked
    refine .inr ⟨cell, ?_, visible⟩
    rwa [List.getLast?_drop, if_neg short]

theorem endsMarked_styled {style : Style} {text : Text} (coloured : style ≠ .plain)
    (visible : ∃ char ∈ text.getLast?, Text.isBlank char = false) :
    EndsMarked (styled style text) := by
  obtain ⟨char, last, seen⟩ := visible
  refine ⟨⟨char, style⟩, ?_, coloured, seen⟩
  rw [styled, List.getLast?_map, Option.mem_def.mp last]
  rfl

-- The padding stands below what is written over the line or in front of it, never behind it.
theorem EndsMarked.overlay (upper : EndsMarked cells) (under : line = [] ∨ EndsMarked line)
    (column : Nat) : EndsMarked (overlay column cells line) := by
  have some : 0 < cells.length := by
    obtain ⟨cell, last, _⟩ := upper
    exact List.length_pos_of_mem (List.mem_of_getLast? last)
  refine (upper.behind _).append ?_
  by_cases long : column ≤ line.length
  · rw [Nat.sub_eq_zero_of_le long, show spaces 0 = [] from rfl, List.append_nil]
    rcases under with rfl | marked
    · exact .inl List.drop_nil
    · exact marked.drop _
  · left
    apply List.drop_eq_nil_of_le
    rw [List.length_append, spaces, List.length_replicate]
    omega

theorem EndsMarked.elide (marked : EndsMarked line) (first past : Nat) :
    EndsMarked (elide first past line) := by
  have dots : EndsMarked ellipsis := ⟨⟨'.', .gutter⟩, rfl, by decide, by decide⟩
  unfold Snippet.elide
  split
  · exact marked
  · exact (dots.behind _).append (marked.drop past)

end EndsMarked

theorem locate_first_lt_past (source : Text) (range : Span) :
    (locate source range).first < (locate source range).past := by
  simp only [locate]
  split
  · exact Nat.lt_succ_self _
  · next wide => exact Nat.lt_of_not_le wide

/-- The last line of a drawing ends in a mark or in the note. -/
theorem Excerpt.lines_endsMarked (excerpt : Excerpt)
    (note : ∃ char ∈ excerpt.note.getLast?, Text.isBlank char = false) :
    ∃ last ∈ excerpt.lines.getLast?, EndsMarked last := by
  have wide := locate_first_lt_past excerpt.source excerpt.range
  have underlined (cut : Nat) :
      EndsMarked (underline (locate excerpt.source excerpt.range) cut excerpt.note) := by
    have carets : ∃ char ∈ (List.replicate ((locate excerpt.source excerpt.range).past -
        (locate excerpt.source excerpt.range).first) '^').getLast?, Text.isBlank char = false := by
      refine ⟨'^', ?_, by decide⟩
      rw [List.getLast?_replicate, if_neg (by omega)]
      rfl
    refine (endsMarked_styled (by decide) note).overlay ?_ _
    exact .inr ((endsMarked_styled (by decide) carets).overlay (.inl rfl) _)
  have shortened (room cut : Nat) : EndsMarked (shorten room (locate excerpt.source excerpt.range)
      cut (underline (locate excerpt.source excerpt.range) cut excerpt.note)) := by
    unfold shorten
    split
    · exact (underlined cut).elide _ _
    · exact underlined cut
  rw [lines, List.getLast?_append]
  exact ⟨_, rfl, (shortened _ _).behind _⟩

theorem getLast?_joinWith {parts : List Text} {last : Text} {char : Char} (between : Text)
    (ends : parts.getLast? = some last) (final : last.getLast? = some char) :
    (Text.joinWith between parts).getLast? = some char := by
  induction parts with
  | nil => cases ends
  | cons first rest ih =>
      cases rest with
      | nil =>
          cases ends
          exact final
      | cons second others =>
          rw [List.getLast?_cons_cons] at ends
          rw [Text.joinWith, List.getLast?_append, ih ends]
          · rfl
          · exact fun nothing => nomatch nothing

-- The style of the last cell is closed behind it, so the coloured line ends in the closing mark.
theorem getLast?_colouredFrom {line : Line} {cell : Cell} (last : line.getLast? = some cell)
    (coloured : cell.style ≠ .plain) (current : Style) :
    (colouredFrom current line).getLast? = some 'm' := by
  induction line generalizing current with
  | nil => cases last
  | cons first rest ih =>
      have tail : (colouredFrom first.style rest).getLast? = some 'm' := by
        cases rest with
        | nil =>
            cases last
            rw [colouredFrom]
            cases style : first.style with
            | plain => exact absurd style coloured
            | strong | alarm | gutter => rfl
        | cons second others => exact ih last first.style
      rw [colouredFrom]
      split
      · next same => rw [← same, List.getLast?_cons, tail, Option.getD_some]
      · rw [List.getLast?_append, List.getLast?_cons, tail]
        rfl

theorem trimEnd_of_getLast? {text : Text} {char : Char} (last : text.getLast? = some char)
    (visible : Text.isBlank char = false) : Text.trimEnd text = text := by
  obtain ⟨front, rfl⟩ := List.getLast?_eq_some_iff.mp last
  rw [Text.trimEnd, Text.trimEndBy, List.reverse_append, List.reverse_singleton,
    List.singleton_append, List.dropWhile_cons, visible]
  simp

/-- Nothing can be trimmed from the end of a drawing, in either form. -/
theorem trimEnd_drawingText {lines : List Line}
    (ends : ∃ last ∈ lines.getLast?, EndsMarked last) (coloured : Bool) :
    Text.trimEnd (drawingText coloured lines) = drawingText coloured lines := by
  obtain ⟨line, isLast, cell, last, marked, visible⟩ := ends
  have final (draw : Line → Text) : (lines.map draw).getLast? = some (draw line) := by
    rw [List.getLast?_map, Option.mem_def.mp isLast]
    rfl
  cases coloured with
  | false =>
      have plain : (plainLine line).getLast? = some cell.char := by
        rw [plainLine, List.getLast?_map, Option.mem_def.mp last]
        rfl
      exact trimEnd_of_getLast? (getLast?_joinWith _ (final plainLine) plain) visible
  | true =>
      have closed := getLast?_colouredFrom last marked .plain
      exact trimEnd_of_getLast? (getLast?_joinWith _ (final colouredLine) closed) (by decide)

end SimpleSentence.Snippet
