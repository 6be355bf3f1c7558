import SimpleSentence.Parsing.Cursor
import SimpleSentence.Proofs.FirstFailure

/-!
A walk over a closed tagged text never breaks. From every place each production
gives what the parser gives for the words from there on: the same tree with the
cursor where those words end that the tree took, or the same error with the
cursor at the token that the error names.
-/

namespace SimpleSentence

variable {tagged : Tagged} {start left rest : List Token} {first : Token}

/-- The cursor with these words still to take. -/
def Tagged.cursorAt (tagged : Tagged) (left : List Token) : Cursor :=
  ⟨tagged.tokens, tagged.words.length - left.length⟩

theorem Tagged.cursorAt_behind {read : List Token} (whole : tagged.words = read ++ left) :
    tagged.cursorAt left = ⟨tagged.tokens, read.length⟩ := by
  rw [cursorAt, whole, List.length_append, Nat.add_sub_cancel_right]

theorem Tagged.cursor_eq (tagged : Tagged) : tagged.cursor = tagged.cursorAt tagged.words := by
  rw [cursorAt_behind (List.nil_append _).symm]
  rfl

theorem Tagged.cursorAt_drop {place : Nat} (inside : place < tagged.tokens.length) :
    tagged.cursorAt (tagged.words.drop place) = ⟨tagged.tokens, place⟩ := by
  rw [tokens, List.length_append, List.length_singleton] at inside
  rw [cursorAt_behind (List.take_append_drop place tagged.words).symm,
    List.length_take_of_le (Nat.le_of_lt_succ inside)]

theorem Tagged.cursorAt_next (within : first :: rest <:+ tagged.words) :
    tagged.cursorAt rest = ⟨tagged.tokens, (tagged.cursorAt (first :: rest)).place + 1⟩ := by
  obtain ⟨read, whole⟩ := within
  have further : tagged.words = (read ++ [first]) ++ rest := by simp [← whole]
  rw [cursorAt_behind further, cursorAt_behind whole.symm, List.length_append]
  rfl

theorem Tagged.cursorAt_inside (tagged : Tagged) (left : List Token) :
    (tagged.cursorAt left).place < tagged.tokens.length := by
  rw [tokens, List.length_append]
  exact Nat.lt_succ_of_le (Nat.sub_le _ _)

section Closed

variable {category : Category}

-- The end mark is of no category that a production asks for.
theorem Tagged.Closed.current_end_ne (closed : tagged.Closed) (isWord : category ≠ .endOfInput) :
    (Parsing.current tagged.sentinel []).category ≠ category := by
  rw [Parsing.current, closed.sentinel]
  exact isWord.symm

theorem Tagged.Closed.exists_cons (closed : tagged.Closed) (isWord : category ≠ .endOfInput)
    (here : (Parsing.current tagged.sentinel left).category = category) :
    ∃ first rest, left = first :: rest ∧ first.category = category := by
  cases left with
  | nil => exact absurd here (closed.current_end_ne isWord)
  | cons first rest => exact ⟨first, rest, rfl, here⟩

end Closed

namespace Parsing

variable {sentinel : Token}

theorem prepPhrase_next (preposition : first.category = .preposition) :
    prepPhrase sentinel (first :: rest) = (nounPhrase sentinel rest).bind fun object =>
      .ok (.phrase .prepPhrase [first.leaf, object.1], object.2) := by
  rw [prepPhrase, if_pos preposition]
  cases nounPhrase sentinel rest <;> rfl

theorem verbPhrase_next (isVerb : first.category = .verb) :
    verbPhrase sentinel (first :: rest) = (object sentinel rest).bind fun objects =>
      (prepPhrases sentinel objects.2).bind fun phrases =>
        .ok (.phrase .verbPhrase (first.leaf :: (objects.1 ++ phrases.1)), phrases.2) := by
  rw [verbPhrase, if_pos isVerb]
  cases object sentinel rest with
  | error error => rfl
  | ok taken =>
      obtain ⟨objects, left⟩ := taken
      simp only [Except.bind]
      cases prepPhrases sentinel left <;> rfl

theorem sentence_eq_bind (words : List Token) :
    sentence sentinel words = (nounPhrase sentinel words).bind fun subject =>
      (verbPhrase sentinel subject.2).bind fun predicate =>
        .ok (.phrase .sentence [subject.1, predicate.1], predicate.2) := by
  rw [sentence]
  cases nounPhrase sentinel words with
  | error error => rfl
  | ok taken =>
      obtain ⟨subject, left⟩ := taken
      simp only [Except.bind]
      cases verbPhrase sentinel left <;> rfl

/-- The production for each phrase. -/
def production (sentinel : Token) : PhraseKind → List Token → Outcome Tree
  | .sentence => sentence sentinel
  | .nounPhrase => nounPhrase sentinel
  | .verbPhrase => verbPhrase sentinel
  | .prepPhrase => prepPhrase sentinel

theorem production_sound {kind : PhraseKind} {words left : List Token} {tree : Tree}
    (parsed : production sentinel kind words = .ok (tree, left)) :
    ∃ taken, words = taken ++ left ∧ Derives kind taken tree := by
  cases kind with
  | sentence => exact sentence_sound parsed
  | nounPhrase => exact nounPhrase_sound parsed
  | verbPhrase => exact verbPhrase_sound parsed
  | prepPhrase => exact prepPhrase_sound parsed

end Parsing

theorem Derives.length_pos {kind : PhraseKind} {words : List Token} {tree : Tree}
    (derived : Derives kind words tree) : 0 < words.length := by
  cases derived with
  | pronoun _ | prep _ _ | verbal _ _ _ => exact Nat.succ_pos _
  | nominal _ _ _ =>
      rw [List.length_append]
      exact Nat.add_pos_right _ Nat.one_pos
  | sentence subjectDerived _ =>
      obtain ⟨first, rest, shape, _⟩ := Parsing.nounPhrase_head subjectDerived
      simp [shape]

namespace Cursor

section Bind

variable {α β : Type} {action : Action α} {next : α → Action β} {cursor after : Cursor}

theorem bind_ok {value : α} (done : action cursor = .ok value after) :
    (action >>= next) cursor = next value after := by
  simp only [bind, EStateM.bind, done]

theorem bind_error {halt : Halt} (halted : action cursor = .error halt after) :
    (action >>= next) cursor = .error halt after := by
  simp only [bind, EStateM.bind, halted]

end Bind

section Steps

theorem current_at (within : left <:+ tagged.words) :
    current (tagged.cursorAt left) =
      .ok (Parsing.current tagged.sentinel left) (tagged.cursorAt left) := by
  obtain ⟨read, whole⟩ := within
  simp only [current, Tagged.cursorAt_behind whole.symm, Tagged.token_behind whole.symm]

theorem atEnd_at (within : left <:+ tagged.words) :
    atEnd (tagged.cursorAt left) =
      .ok (Parsing.current tagged.sentinel left).isSentinel (tagged.cursorAt left) :=
  bind_ok (current_at within)

theorem isAt_at (category : Category) (within : left <:+ tagged.words) :
    isAt category (tagged.cursorAt left) =
      .ok ((Parsing.current tagged.sentinel left).category == category) (tagged.cursorAt left) :=
  bind_ok (current_at within)

theorem isAtOneOf_at (set : CategorySet) (within : left <:+ tagged.words) :
    isAtOneOf set (tagged.cursorAt left) =
      .ok (set.contains (Parsing.current tagged.sentinel left).category)
        (tagged.cursorAt left) :=
  bind_ok (current_at within)

theorem unexpected_at (expected : CategorySet) (within : left <:+ tagged.words) :
    unexpected expected (tagged.cursorAt left) =
      .ok (.unexpected expected (Parsing.current tagged.sentinel left)) (tagged.cursorAt left) :=
  bind_ok (current_at within)

theorem take_at (within : first :: rest <:+ tagged.words)
    (isWord : first.category ≠ .endOfInput) :
    take (tagged.cursorAt (first :: rest)) = .ok first (tagged.cursorAt rest) := by
  have notEnd : first.isSentinel = false := beq_false_of_ne isWord
  rw [take, bind_ok (atEnd_at within), Parsing.current, notEnd]
  show (current >>= _) _ = _
  rw [bind_ok (current_at within), Tagged.cursorAt_next within]
  rfl

theorem take_at_end (closed : tagged.Closed) :
    take (tagged.cursorAt []) = .error (.broken .endTaken) (tagged.cursorAt []) := by
  have isEnd : tagged.sentinel.isSentinel = true := beq_iff_eq.mpr closed.sentinel
  rw [take, bind_ok (atEnd_at List.nil_suffix), Parsing.current, isEnd]
  rfl

theorem takeIf_hit {category : Category} (within : first :: rest <:+ tagged.words)
    (hit : first.category = category) (isWord : category ≠ .endOfInput) :
    takeIf category (tagged.cursorAt (first :: rest)) =
      .ok (some first) (tagged.cursorAt rest) := by
  rw [takeIf, bind_ok (isAt_at category within), Parsing.current, hit, beq_self_eq_true]
  show (take >>= _) _ = _
  rw [bind_ok (take_at within (hit ▸ isWord))]
  rfl

theorem takeIf_miss {category : Category} (within : left <:+ tagged.words)
    (miss : (Parsing.current tagged.sentinel left).category ≠ category) :
    takeIf category (tagged.cursorAt left) = .ok none (tagged.cursorAt left) := by
  rw [takeIf, bind_ok (isAt_at category within), beq_false_of_ne miss]
  rfl

theorem expect_hit {category : Category} {expected : CategorySet}
    (within : first :: rest <:+ tagged.words) (hit : first.category = category)
    (isWord : category ≠ .endOfInput) :
    expect category expected (tagged.cursorAt (first :: rest)) =
      .ok first (tagged.cursorAt rest) := by
  rw [expect, bind_ok (takeIf_hit within hit isWord)]
  rfl

theorem expect_miss {category : Category} {expected : CategorySet}
    (within : left <:+ tagged.words)
    (miss : (Parsing.current tagged.sentinel left).category ≠ category) :
    expect category expected (tagged.cursorAt left) =
      .error (.rejected (.unexpected expected (Parsing.current tagged.sentinel left)))
        (tagged.cursorAt left) := by
  rw [expect, bind_ok (takeIf_miss within miss)]
  show (unexpected expected >>= _) _ = _
  rw [bind_ok (unexpected_at expected within)]
  rfl

theorem finish_at_end (closed : tagged.Closed) :
    finish (tagged.cursorAt []) = .ok () (tagged.cursorAt []) := by
  have isEnd : tagged.sentinel.isSentinel = true := beq_iff_eq.mpr closed.sentinel
  rw [finish, bind_ok (atEnd_at List.nil_suffix), Parsing.current, isEnd]
  rfl

theorem finish_at_word (within : first :: rest <:+ tagged.words)
    (isWord : first.category ≠ .endOfInput) :
    finish (tagged.cursorAt (first :: rest)) =
      .error (.rejected (.trailing first)) (tagged.cursorAt (first :: rest)) := by
  have notEnd : first.isSentinel = false := beq_false_of_ne isWord
  rw [finish, bind_ok (atEnd_at within), Parsing.current, notEnd]
  show (current >>= _) _ = _
  rw [bind_ok (current_at within)]
  rfl

theorem phrase_filled {kind : PhraseKind} {children : List Tree} {cursor : Cursor}
    (filled : children.isEmpty = false) :
    phrase kind children cursor = .ok (.phrase kind children) cursor := by
  rw [phrase, filled]
  rfl

theorem optional_miss {set : CategorySet} {part : Action Tree} (within : left <:+ tagged.words)
    (miss : set.contains (Parsing.current tagged.sentinel left).category = false) :
    optional set part (tagged.cursorAt left) = .ok none (tagged.cursorAt left) := by
  rw [optional, bind_ok (isAtOneOf_at set within), miss]
  rfl

theorem optional_hit {set : CategorySet} {part : Action Tree} (within : left <:+ tagged.words)
    (hit : set.contains (Parsing.current tagged.sentinel left).category = true) :
    optional set part (tagged.cursorAt left) =
      (part >>= fun tree => pure (some tree)) (tagged.cursorAt left) := by
  rw [optional, bind_ok (isAtOneOf_at set within), hit]
  rfl

end Steps

section Rounds

variable {α : Type} {part : Action (Option α)} {cursor after : Cursor}

theorem many_stop (stopped : part cursor = .ok none after) :
    many part cursor = .ok [] after := by
  rw [many, stopped]

theorem many_halt {halt : Halt} (halted : part cursor = .error halt after) :
    many part cursor = .error halt after := by
  rw [many, halted]

theorem many_next {value : α} (found : part cursor = .ok (some value) after)
    (moved : after.remaining < cursor.remaining) :
    many part cursor = (many part >>= fun more => pure (value :: more)) after := by
  rw [many, found]
  simp only [moved, ↓reduceDIte]
  cases round : many part after with
  | error halt last => rw [bind_error round]
  | ok more last => rw [bind_ok round]; rfl

theorem remaining_at (within : left <:+ tagged.words) :
    (tagged.cursorAt left).remaining = left.length + 1 := by
  obtain ⟨read, whole⟩ := within
  rw [remaining, Tagged.cursorAt_behind whole.symm, Tagged.tokens, ← whole]
  simp only [List.length_append, List.length_singleton]
  omega

theorem remaining_shorter (within : left <:+ tagged.words) (shorter : rest.length < left.length)
    (inside : rest <:+ left) :
    (tagged.cursorAt rest).remaining < (tagged.cursorAt left).remaining := by
  rw [remaining_at within, remaining_at (inside.trans within)]
  exact Nat.succ_lt_succ shorter

end Rounds

section Modifiers

-- One round for each adjective, and a last one that finds none.
theorem adjectives_at (closed : tagged.Closed) (within : left <:+ tagged.words) :
    many (takeIf .adjective) (tagged.cursorAt left) =
      .ok (left.takeWhile Parsing.isAdjective)
        (tagged.cursorAt (left.dropWhile Parsing.isAdjective)) := by
  induction left with
  | nil => exact many_stop (takeIf_miss within (closed.current_end_ne (by decide)))
  | cons first rest ih =>
      by_cases adjective : first.category = .adjective
      · have isAdjective := (Parsing.isAdjective_iff first).mpr adjective
        have inside : rest <:+ first :: rest := List.suffix_cons first rest
        rw [many_next (takeIf_hit within adjective (by decide))
          (remaining_shorter within (Nat.lt_succ_self _) inside),
          bind_ok (ih (inside.trans within)), List.takeWhile_cons_of_pos isAdjective,
          List.dropWhile_cons_of_pos isAdjective]
        rfl
      · have notAdjective := mt (Parsing.isAdjective_iff first).mp adjective
        rw [many_stop (takeIf_miss within adjective), List.takeWhile_cons_of_neg notAdjective,
          List.dropWhile_cons_of_neg notAdjective]

theorem modifiers_at (closed : tagged.Closed) (within : left <:+ tagged.words) :
    modifiers (tagged.cursorAt left) =
      .ok (Parsing.modifiers left).1 (tagged.cursorAt (Parsing.modifiers left).2) := by
  by_cases determiner : (Parsing.current tagged.sentinel left).category = .determiner
  · obtain ⟨first, rest, rfl, isDeterminer⟩ := closed.exists_cons (by decide) determiner
    rw [modifiers, bind_ok (takeIf_hit within isDeterminer (by decide)),
      bind_ok (adjectives_at closed ((List.suffix_cons first rest).trans within)),
      Parsing.modifiers, if_pos isDeterminer]
    rfl
  · rw [modifiers, bind_ok (takeIf_miss within determiner),
      bind_ok (adjectives_at closed within)]
    cases left with
    | nil => rfl
    | cons first rest =>
        rw [Parsing.current] at determiner
        rw [Parsing.modifiers, if_neg determiner]
        rfl

end Modifiers

/-- From the same words the parser and a walk give the same value and leave the same words, or
give the same error, and then the walk stands at the token that the error names. -/
def Agrees (tagged : Tagged) (start : List Token) {α : Type} :
    Parsing.Outcome α → EStateM.Result Halt Cursor α → Prop
  | .ok (value, left), result =>
      left <:+ start ∧ result = .ok value (tagged.cursorAt left)
  | .error error, result =>
      ∃ left, left <:+ start ∧ error.found = Parsing.current tagged.sentinel left ∧
        result = .error (.rejected error) (tagged.cursorAt left)

section Agreement

variable {α β : Type} {outcome : Parsing.Outcome α} {result : EStateM.Result Halt Cursor α}

theorem Agrees.widen (agrees : Agrees tagged left outcome result) (inside : left <:+ start) :
    Agrees tagged start outcome result := by
  cases outcome with
  | error error =>
      obtain ⟨last, within, named, walked⟩ := agrees
      exact ⟨last, within.trans inside, named, walked⟩
  | ok taken => exact ⟨agrees.1.trans inside, agrees.2⟩

/-- What comes next has only to agree on the words that the first part leaves. -/
theorem Agrees.bind {action : Action α} {cursor : Cursor}
    {next : α × List Token → Parsing.Outcome β} {continued : α → Action β}
    (agrees : Agrees tagged start outcome (action cursor))
    (follows : ∀ value left, left <:+ start →
      Agrees tagged left (next (value, left)) (continued value (tagged.cursorAt left))) :
    Agrees tagged start (outcome.bind next) ((action >>= continued) cursor) := by
  cases outcome with
  | error error =>
      obtain ⟨left, within, named, walked⟩ := agrees
      exact ⟨left, within, named, bind_error walked⟩
  | ok taken =>
      obtain ⟨value, left⟩ := taken
      obtain ⟨within, walked⟩ := agrees
      rw [bind_ok walked]
      exact (follows value left within).widen within

theorem Agrees.map {action : Action α} {cursor : Cursor} {view : α → β}
    (agrees : Agrees tagged start outcome (action cursor)) :
    Agrees tagged start (outcome.map fun taken => (view taken.1, taken.2))
      ((action >>= fun value => pure (view value)) cursor) := by
  cases outcome with
  | error error =>
      obtain ⟨left, within, named, walked⟩ := agrees
      exact ⟨left, within, named, bind_error walked⟩
  | ok taken => exact ⟨agrees.1, bind_ok agrees.2⟩

theorem optional_agrees {set : CategorySet} {part : Action Tree} {outcome : Parsing.Outcome Tree}
    (within : left <:+ tagged.words)
    (begun : set.contains (Parsing.current tagged.sentinel left).category = true)
    (agrees : Agrees tagged left outcome (part (tagged.cursorAt left))) :
    Agrees tagged left (outcome.map fun taken => (some taken.1, taken.2))
      (optional set part (tagged.cursorAt left)) := by
  rw [optional_hit within begun]
  exact agrees.map

theorem agrees_expect_miss {category : Category} {expected : CategorySet}
    {continued : Token → Action α} (within : left <:+ tagged.words)
    (miss : (Parsing.current tagged.sentinel left).category ≠ category) :
    Agrees tagged left (.error (.unexpected expected (Parsing.current tagged.sentinel left)))
      ((expect category expected >>= continued) (tagged.cursorAt left)) :=
  ⟨left, List.suffix_rfl, rfl, bind_error (expect_miss within miss)⟩

end Agreement

section Productions

theorem nominal_agrees (closed : tagged.Closed) (within : left <:+ tagged.words) :
    Agrees tagged left (Parsing.nominal tagged.sentinel left)
      ((modifiers >>= fun taken => expect .noun (Parsing.headExpected taken) >>= fun noun =>
        phrase .nounPhrase ((taken ++ [noun]).map Token.leaf)) (tagged.cursorAt left)) := by
  obtain ⟨_, _, _, whole, _, _⟩ := Parsing.modifiers_sound left
  have inside : (Parsing.modifiers left).2 <:+ left := ⟨_, whole.symm⟩
  rw [bind_ok (modifiers_at closed within), Parsing.nominal]
  generalize Parsing.modifiers left = parts at inside
  obtain ⟨taken, after⟩ := parts
  cases after with
  | nil =>
      have notNoun := closed.current_end_ne (by decide : Category.noun ≠ .endOfInput)
      exact (agrees_expect_miss (inside.trans within) notNoun).widen inside
  | cons head rest =>
      by_cases noun : head.category = .noun
      · simp only [noun, ↓reduceIte]
        rw [bind_ok (expect_hit (inside.trans within) noun (by decide))]
        exact ⟨(List.suffix_cons head rest).trans inside, phrase_filled (by simp)⟩
      · simp only [noun, ↓reduceIte]
        exact (agrees_expect_miss (inside.trans within) noun).widen inside

theorem nounPhrase_agrees (closed : tagged.Closed) (within : left <:+ tagged.words) :
    Agrees tagged left (Parsing.nounPhrase tagged.sentinel left)
      (nounPhrase (tagged.cursorAt left)) := by
  by_cases pronoun : (Parsing.current tagged.sentinel left).category = .pronoun
  · obtain ⟨first, rest, rfl, isPronoun⟩ := closed.exists_cons (by decide) pronoun
    rw [nounPhrase, bind_ok (takeIf_hit within isPronoun (by decide)), Parsing.nounPhrase,
      if_pos isPronoun]
    exact ⟨List.suffix_cons first rest, phrase_filled rfl⟩
  · have notPronoun : ∀ first ∈ left.head?, first.category ≠ .pronoun := by
      cases left with
      | nil => simp
      | cons first rest => simpa [Parsing.current] using pronoun
    rw [Parsing.nounPhrase_eq_nominal notPronoun, nounPhrase,
      bind_ok (takeIf_miss within pronoun)]
    exact nominal_agrees closed within

theorem prepPhrase_agrees (closed : tagged.Closed) (within : left <:+ tagged.words) :
    Agrees tagged left (Parsing.prepPhrase tagged.sentinel left)
      (prepPhrase (tagged.cursorAt left)) := by
  rw [prepPhrase]
  cases left with
  | nil => exact agrees_expect_miss within (closed.current_end_ne (by decide))
  | cons first rest =>
      by_cases preposition : first.category = .preposition
      · have inside := List.suffix_cons first rest
        rw [Parsing.prepPhrase_next preposition,
          bind_ok (expect_hit within preposition (by decide))]
        refine Agrees.widen (Agrees.bind (nounPhrase_agrees closed (inside.trans within)) ?_) inside
        intro object left _
        exact ⟨List.suffix_rfl, phrase_filled rfl⟩
      · rw [Parsing.prepPhrase, if_neg preposition]
        exact agrees_expect_miss within preposition

-- A round of the loop is a prepositional phrase, and each leaves fewer words than it found.
theorem prepPhrases_agrees (closed : tagged.Closed) (within : left <:+ tagged.words) :
    Agrees tagged left (Parsing.prepPhrases tagged.sentinel left)
      (many (optional Grammar.prepPhraseStart prepPhrase) (tagged.cursorAt left)) := by
  generalize shape : left.length = count
  induction count using Nat.strongRecOn generalizing left with
  | ind count ih =>
      cases begun : Grammar.prepPhraseStart.contains
          (Parsing.current tagged.sentinel left).category with
      | false =>
          rw [many_stop (optional_miss within begun), Parsing.prepPhrases_stop]
          · exact ⟨List.suffix_rfl, rfl⟩
          · intro preposition
            rw [(Parsing.contains_prepPhraseStart _).mpr preposition] at begun
            cases begun
      | true =>
          have preposition := (Parsing.contains_prepPhraseStart _).mp begun
          have round := optional_agrees within begun (prepPhrase_agrees closed within)
          cases found : Parsing.prepPhrase tagged.sentinel left with
          | error error =>
              rw [found] at round
              obtain ⟨last, inside, named, walked⟩ := round
              rw [Parsing.prepPhrases_failed preposition found]
              exact ⟨last, inside, named, many_halt walked⟩
          | ok taken =>
              rw [found] at round
              obtain ⟨inside, walked⟩ := round
              have shorter := Parsing.prepPhrase_shorter found
              have later := ih _ (shape ▸ shorter) (inside.trans within) rfl
              rw [Parsing.prepPhrases_next preposition found,
                many_next walked (remaining_shorter within shorter inside)]
              exact later.map.widen inside

theorem object_agrees {β : Type} {next : List Tree × List Token → Parsing.Outcome β}
    {continued : Option Tree → Action β} (closed : tagged.Closed) (within : left <:+ tagged.words)
    (follows : ∀ object rest, rest <:+ left →
      Agrees tagged rest (next (object.toList, rest)) (continued object (tagged.cursorAt rest))) :
    Agrees tagged left ((Parsing.object tagged.sentinel left).bind next)
      ((optional Grammar.nounPhraseStart nounPhrase >>= continued) (tagged.cursorAt left)) := by
  cases begun : Grammar.nounPhraseStart.contains
      (Parsing.current tagged.sentinel left).category with
  | false =>
      rw [bind_ok (optional_miss within begun), Parsing.object_stop begun]
      exact follows none left List.suffix_rfl
  | true =>
      have walk := optional_agrees within begun (nounPhrase_agrees closed within)
      rw [Parsing.object_next begun]
      cases found : Parsing.nounPhrase tagged.sentinel left with
      | error error =>
          rw [found] at walk
          obtain ⟨last, inside, named, walked⟩ := walk
          exact ⟨last, inside, named, bind_error walked⟩
      | ok taken =>
          rw [found] at walk
          obtain ⟨inside, walked⟩ := walk
          rw [bind_ok walked]
          exact (follows (some taken.1) taken.2 inside).widen inside

theorem verbPhrase_agrees (closed : tagged.Closed) (within : left <:+ tagged.words) :
    Agrees tagged left (Parsing.verbPhrase tagged.sentinel left)
      (verbPhrase (tagged.cursorAt left)) := by
  rw [verbPhrase]
  cases left with
  | nil => exact agrees_expect_miss within (closed.current_end_ne (by decide))
  | cons first rest =>
      by_cases isVerb : first.category = .verb
      · have inside := List.suffix_cons first rest
        rw [Parsing.verbPhrase_next isVerb, bind_ok (expect_hit within isVerb (by decide))]
        refine Agrees.widen (object_agrees closed (inside.trans within) ?_) inside
        intro object last ended
        refine Agrees.bind (prepPhrases_agrees closed (ended.trans (inside.trans within))) ?_
        intro phrases left _
        exact ⟨List.suffix_rfl, phrase_filled rfl⟩
      · rw [Parsing.verbPhrase, if_neg isVerb]
        exact agrees_expect_miss within isVerb

theorem sentence_agrees (closed : tagged.Closed) (within : left <:+ tagged.words) :
    Agrees tagged left (Parsing.sentence tagged.sentinel left)
      (sentence (tagged.cursorAt left)) := by
  rw [Parsing.sentence_eq_bind]
  refine Agrees.bind (nounPhrase_agrees closed within) ?_
  intro subject rest inside
  refine Agrees.bind (verbPhrase_agrees closed (inside.trans within)) ?_
  intro predicate left _
  exact ⟨List.suffix_rfl, phrase_filled rfl⟩

theorem production_agrees (closed : tagged.Closed) (kind : PhraseKind)
    (within : left <:+ tagged.words) :
    Agrees tagged left (Parsing.production tagged.sentinel kind left)
      (production kind (tagged.cursorAt left)) := by
  cases kind with
  | sentence => exact sentence_agrees closed within
  | nounPhrase => exact nounPhrase_agrees closed within
  | verbPhrase => exact verbPhrase_agrees closed within
  | prepPhrase => exact prepPhrase_agrees closed within

end Productions

/-- How a walk for one phrase may end: with a tree, as many tokens further on as the tree has
leaves, or with a rejection, at the token that the error names, and never with a breach. -/
def EndsWell (start : Cursor) : EStateM.Result Halt Cursor Tree → Prop
  | .ok tree after =>
      after = ⟨start.tokens, start.place + tree.leaves.length⟩ ∧ 0 < tree.leaves.length ∧
        after.place < start.tokens.length
  | .error (.rejected error) after =>
      after.tokens = start.tokens ∧ start.place ≤ after.place ∧
        start.tokens[after.place]? = some error.found
  | .error (.broken _) _ => False

theorem production_endsWell (closed : tagged.Closed) (kind : PhraseKind)
    (within : left <:+ tagged.words) :
    EndsWell (tagged.cursorAt left) (production kind (tagged.cursorAt left)) := by
  have agrees := production_agrees closed kind within
  obtain ⟨read, whole⟩ := id within
  cases outcome : Parsing.production tagged.sentinel kind left with
  | error error =>
      rw [outcome] at agrees
      obtain ⟨last, ⟨taken, rfl⟩, named, walked⟩ := agrees
      have further : tagged.words = (read ++ taken) ++ last := by simp [← whole]
      rw [walked, Tagged.cursorAt_behind whole.symm, Tagged.cursorAt_behind further]
      refine ⟨rfl, by simp, ?_⟩
      rw [named]
      exact Tagged.token_behind further
  | ok result =>
      obtain ⟨tree, last⟩ := result
      rw [outcome] at agrees
      obtain ⟨_, walked⟩ := agrees
      obtain ⟨taken, rfl, derived⟩ := Parsing.production_sound outcome
      have further : tagged.words = (read ++ taken) ++ last := by simp [← whole]
      have leaves : tree.leaves.length = taken.length := by rw [derived.leaves, List.length_map]
      rw [walked, Tagged.cursorAt_behind whole.symm, Tagged.cursorAt_behind further]
      refine ⟨by simp [leaves], leaves ▸ derived.length_pos, ?_⟩
      simp [Tagged.tokens, further]

/-- A whole walk ends as the parser does: with its tree at the end mark, or with its error at the
token that the error names. -/
def EndsAs (tagged : Tagged) : Except ParseError Tree → EStateM.Result Halt Cursor Tree → Prop
  | .ok tree, result => result = .ok tree ⟨tagged.tokens, tagged.words.length⟩
  | .error error, result => ∃ place, tagged.tokens[place]? = some error.found ∧
      result = .error (.rejected error) ⟨tagged.tokens, place⟩

theorem parse_endsAs (closed : tagged.Closed) :
    EndsAs tagged tagged.parse (parse tagged.cursor) := by
  have agrees := sentence_agrees closed (List.suffix_refl tagged.words)
  rw [tagged.cursor_eq, Tagged.parse, parse]
  cases outcome : Parsing.sentence tagged.sentinel tagged.words with
  | error error =>
      rw [outcome] at agrees
      obtain ⟨last, ⟨read, whole⟩, named, walked⟩ := agrees
      refine ⟨read.length, ?_, ?_⟩
      · rw [named]
        exact Tagged.token_behind whole.symm
      · rw [bind_error walked, Tagged.cursorAt_behind whole.symm]
  | ok result =>
      obtain ⟨tree, last⟩ := result
      rw [outcome] at agrees
      obtain ⟨within, walked⟩ := agrees
      rw [bind_ok walked]
      cases last with
      | nil =>
          rw [bind_ok (finish_at_end closed), Tagged.cursorAt_behind (List.append_nil _).symm]
          rfl
      | cons found rest =>
          have isWord := closed.words found (within.subset List.mem_cons_self)
          obtain ⟨read, whole⟩ := id within
          refine ⟨read.length, Tagged.token_behind whole.symm, ?_⟩
          rw [bind_error (finish_at_word within isWord), Tagged.cursorAt_behind whole.symm]

/-- The only move of a cursor: from a word to the token behind it. -/
theorem take_inside {place : Nat} {token : Token} {after : Cursor} (closed : tagged.Closed)
    (inside : place < tagged.tokens.length)
    (taken : take ⟨tagged.tokens, place⟩ = .ok token after) :
    after = ⟨tagged.tokens, place + 1⟩ ∧ place + 1 < tagged.tokens.length := by
  have here := Tagged.cursorAt_drop inside
  have within := List.drop_suffix place tagged.words
  rw [← here] at taken
  cases left : tagged.words.drop place with
  | nil =>
      rw [left, take_at_end closed] at taken
      cases taken
  | cons first rest =>
      rw [left] at taken here within
      rw [take_at within (closed.words first (within.subset List.mem_cons_self))] at taken
      cases taken
      have moved : tagged.cursorAt rest = ⟨tagged.tokens, place + 1⟩ := by
        rw [Tagged.cursorAt_next within, here]
      have stays := tagged.cursorAt_inside rest
      rw [moved] at stays
      exact ⟨moved, stays⟩

/-- A walk over a closed tagged text takes nothing for granted that is not so. From every place in
it each production ends, and ends well; a whole walk ends as the parser does. -/
theorem walks_end_well (tagged : Tagged) (closed : tagged.Closed) :
    (∀ place < tagged.tokens.length, ∀ kind,
      EndsWell ⟨tagged.tokens, place⟩ (production kind ⟨tagged.tokens, place⟩)) ∧
    (∀ place < tagged.tokens.length, ∀ token after,
      take ⟨tagged.tokens, place⟩ = .ok token after →
        after = ⟨tagged.tokens, place + 1⟩ ∧ place + 1 < tagged.tokens.length) ∧
    EndsAs tagged tagged.parse (parse tagged.cursor) := by
  refine ⟨fun place inside kind => ?_, fun place inside token after => take_inside closed inside,
    parse_endsAs closed⟩
  rw [← Tagged.cursorAt_drop inside]
  exact production_endsWell closed kind (List.drop_suffix place tagged.words)

/-- The tokens of the text `It sat on the mat in it`. -/
def satOnTheMat : Tagged :=
  { words :=
      [⟨"It".toList, .pronoun, 0, ⟨0, 2⟩⟩, ⟨"sat".toList, .verb, 1, ⟨3, 6⟩⟩,
        ⟨"on".toList, .preposition, 2, ⟨7, 9⟩⟩, ⟨"the".toList, .determiner, 3, ⟨10, 13⟩⟩,
        ⟨"mat".toList, .noun, 4, ⟨14, 17⟩⟩, ⟨"in".toList, .preposition, 5, ⟨18, 20⟩⟩,
        ⟨"it".toList, .pronoun, 6, ⟨21, 23⟩⟩]
    sentinel := ⟨sentinelText, .endOfInput, 7, .empty 23⟩ }

-- The walk of the verb phrase goes twice round its loop; the last one starts at the end mark.
theorem satOnTheMat_walks :
    satOnTheMat.Closed ∧
      EndsWell ⟨satOnTheMat.tokens, 1⟩ (production .verbPhrase ⟨satOnTheMat.tokens, 1⟩) ∧
      EndsWell ⟨satOnTheMat.tokens, 7⟩ (production .prepPhrase ⟨satOnTheMat.tokens, 7⟩) ∧
      ∃ tree, satOnTheMat.parse = .ok tree ∧
        parse satOnTheMat.cursor = .ok tree ⟨satOnTheMat.tokens, 7⟩ := by
  have closed : satOnTheMat.Closed := ⟨rfl, by decide⟩
  obtain ⟨ends, _, whole⟩ := walks_end_well satOnTheMat closed
  obtain ⟨tree, parsed⟩ : ∃ tree, satOnTheMat.parse = .ok tree :=
    Tagged.parse_of_reached closed rfl rfl
  rw [parsed] at whole
  exact ⟨closed, ends 1 (by decide) .verbPhrase, ends 7 (by decide) .prepPhrase, tree, parsed,
    whole⟩

end Cursor

end SimpleSentence
