import SimpleSentence.Proofs.Production

/-!
How far a sentence has been read, as far as what may follow is concerned. A
stage and the next category give the next stage, or none if no sentence goes on
like that. The stages are the second side of the parser's errors: a production
that fails has read some words up to a stage, names the token that stage cannot
take, and expects exactly what the stage can take.
-/

namespace SimpleSentence

-- Where a noun phrase stands: before the verb, after it, or after a preposition.
inductive Slot where
  | subject
  | object
  | complement
  deriving DecidableEq, Repr

inductive Stage where
  | opening (slot : Slot)
  | inside (slot : Slot)
  | predicate
  | afterVerb
  | afterPhrase
  deriving DecidableEq, Repr

/-- The stage after a whole noun phrase. -/
def Slot.next : Slot → Stage
  | subject => .predicate
  | object => .afterPhrase
  | complement => .afterPhrase

namespace Stage

def next? : Stage → Category → Option Stage
  | opening slot, .pronoun => some slot.next
  | opening slot, .noun => some slot.next
  | opening slot, .determiner => some (inside slot)
  | opening slot, .adjective => some (inside slot)
  | inside slot, .adjective => some (inside slot)
  | inside slot, .noun => some slot.next
  | predicate, .verb => some afterVerb
  | afterVerb, .pronoun => some afterPhrase
  | afterVerb, .noun => some afterPhrase
  | afterVerb, .determiner => some (inside .object)
  | afterVerb, .adjective => some (inside .object)
  | afterVerb, .preposition => some (opening .complement)
  | afterPhrase, .preposition => some (opening .complement)
  | _, _ => none

def after? (stage : Stage) : List Category → Option Stage
  | [] => some stage
  | category :: rest =>
      match stage.next? category with
      | none => none
      | some next => next.after? rest

/-- Whether what has been read is a whole sentence. -/
def isDone : Stage → Bool
  | afterVerb => true
  | afterPhrase => true
  | _ => false

def followers : Stage → CategorySet
  | opening _ => Grammar.nounPhraseStart
  | inside _ => Grammar.nounPhraseRest
  | predicate => Grammar.verbPhraseStart
  | afterVerb => .union Grammar.nounPhraseStart Grammar.prepPhraseStart
  | afterPhrase => Grammar.prepPhraseStart

/-- Categories that complete a sentence. -/
def ending : Stage → List Category
  | opening .subject => [.noun, .verb]
  | inside .subject => [.noun, .verb]
  | opening _ => [.noun]
  | inside _ => [.noun]
  | predicate => [.verb]
  | afterVerb => []
  | afterPhrase => []

theorem contains_followers (stage : Stage) (category : Category) :
    stage.followers.contains category = (stage.next? category).isSome := by
  cases stage with
  | opening slot | inside slot => cases slot <;> cases category <;> decide
  | predicate | afterVerb | afterPhrase => cases category <;> decide

theorem followers_nonempty (stage : Stage) : stage.followers.isEmpty = false := by
  cases stage <;> rfl

theorem next?_endOfInput (stage : Stage) : stage.next? .endOfInput = none := by
  cases stage <;> rfl

theorem ending_completes (stage : Stage) :
    ∃ last, stage.after? stage.ending = some last ∧ last.isDone = true := by
  rcases stage with (_ | _ | _) | (_ | _ | _) | _ | _ | _ <;> exact ⟨_, rfl, rfl⟩

theorem after?_append (stage : Stage) (first second : List Category) :
    stage.after? (first ++ second) =
      (stage.after? first).bind fun next => next.after? second := by
  induction first generalizing stage with
  | nil => rfl
  | cons category rest ih =>
      rw [List.cons_append, after?, after?]
      cases stage.next? category with
      | none => rfl
      | some next => exact ih next

theorem after?_append_of {stage next last : Stage} {first second : List Category}
    (front : stage.after? first = some next) (back : next.after? second = some last) :
    stage.after? (first ++ second) = some last := by
  rw [after?_append, front]
  exact back

theorem next?_preposition {stage : Stage} (done : stage.isDone = true) :
    stage.next? .preposition = some (.opening .complement) := by
  cases stage with
  | opening _ | inside _ | predicate => cases done
  | afterVerb | afterPhrase => rfl

theorem next?_predicate {category : Category} (notVerb : category ≠ .verb) :
    predicate.next? category = none := by
  cases category with
  | verb => exact absurd rfl notVerb
  | _ => rfl

theorem next?_afterPhrase {category : Category} (notPreposition : category ≠ .preposition) :
    afterPhrase.next? category = none := by
  cases category with
  | preposition => exact absurd rfl notPreposition
  | _ => rfl

theorem no_endOfInput {stage last : Stage} {categories : List Category}
    (read : stage.after? categories = some last) :
    ∀ category ∈ categories, category ≠ .endOfInput := by
  induction categories generalizing stage with
  | nil => simp
  | cons category rest ih =>
      rw [after?] at read
      cases found : stage.next? category with
      | none => simp [found] at read
      | some next =>
          simp only [found] at read
          have notEnd : category ≠ .endOfInput := by
            rintro rfl
            rw [next?_endOfInput] at found
            cases found
          simpa using ⟨notEnd, ih read⟩

/-- The stage of a noun phrase in some slot once its modifiers were taken. -/
def afterModifiers (slot : Slot) (taken : List Token) : Stage :=
  if taken.isEmpty then opening slot else inside slot

theorem headExpected_eq (slot : Slot) (taken : List Token) :
    Parsing.headExpected taken = (afterModifiers slot taken).followers := by
  cases taken <;> rfl

theorem after?_adjectives {words : List Token} (slot : Slot)
    (areAdjectives : ∀ word ∈ words, word.category = .adjective) :
    (inside slot).after? (words.map Token.category) = some (inside slot) := by
  induction words with
  | nil => rfl
  | cons word rest ih =>
      have later := ih fun other member => areAdjectives other (List.mem_cons_of_mem word member)
      rw [List.map_cons, areAdjectives word List.mem_cons_self]
      exact later

theorem after?_modifiers {determiner : Option Token} {adjectives : List Token} (slot : Slot)
    (isDeterminer : ∀ word ∈ determiner, word.category = .determiner)
    (areAdjectives : ∀ word ∈ adjectives, word.category = .adjective) :
    (opening slot).after? ((determiner.toList ++ adjectives).map Token.category) =
      some (afterModifiers slot (determiner.toList ++ adjectives)) := by
  cases determiner with
  | some first =>
      have later := after?_adjectives slot areAdjectives
      simpa [after?, next?, isDeterminer first rfl, afterModifiers] using later
  | none =>
      cases adjectives with
      | nil => rfl
      | cons first rest =>
          have later := after?_adjectives slot fun word member =>
            areAdjectives word (List.mem_cons_of_mem first member)
          simpa [after?, next?, areAdjectives first List.mem_cons_self, afterModifiers] using later

theorem next?_noun (slot : Slot) (taken : List Token) :
    (afterModifiers slot taken).next? .noun = some slot.next := by
  cases taken <;> rfl

theorem after?_nounPhrase {words : List Token} {tree : Tree} (slot : Slot)
    (derived : Derives .nounPhrase words tree) :
    (opening slot).after? (words.map Token.category) = some slot.next := by
  cases derived with
  | pronoun isPronoun => simp [after?, next?, isPronoun]
  | nominal isDeterminer areAdjectives isNoun =>
      rw [List.map_append]
      apply after?_append_of (after?_modifiers slot isDeterminer areAdjectives)
      simp [after?, isNoun, next?_noun]

-- After the verb an object is read as at its opening.
theorem next?_afterVerb {category : Category}
    (begun : Grammar.nounPhraseStart.contains category = true) :
    afterVerb.next? category = (opening .object).next? category := by
  rcases (Parsing.contains_nounPhraseStart category).mp begun with rfl | rfl | rfl | rfl <;> rfl

theorem after?_object {words : List Token} {tree : Tree}
    (derived : Derives .nounPhrase words tree) :
    afterVerb.after? (words.map Token.category) = some afterPhrase := by
  obtain ⟨first, rest, rfl, begun⟩ := Parsing.nounPhrase_head derived
  have read := after?_nounPhrase .object derived
  rw [List.map_cons, after?] at read ⊢
  rwa [next?_afterVerb begun]

theorem after?_prepPhrase {stage : Stage} {words : List Token} {tree : Tree}
    (done : stage.isDone = true) (derived : Derives .prepPhrase words tree) :
    stage.after? (words.map Token.category) = some afterPhrase := by
  cases derived with
  | prep isPreposition objectDerived =>
      have read := after?_nounPhrase .complement objectDerived
      rw [List.map_cons, after?, isPreposition, next?_preposition done]
      exact read

theorem after?_phrases {parts : List Derivation}
    (derived : ∀ part ∈ parts, Derives .prepPhrase part.words part.tree) :
    afterPhrase.after? ((parts.flatMap Derivation.words).map Token.category) =
      some afterPhrase := by
  induction parts with
  | nil => rfl
  | cons part rest ih =>
      rw [List.flatMap_cons, List.map_append]
      exact after?_append_of (after?_prepPhrase rfl (derived part List.mem_cons_self))
        (ih fun other member => derived other (List.mem_cons_of_mem part member))

/-- The stage after a verb phrase with these parts behind its verb. -/
def afterParts (object : Option Derivation) (modifiers : List Derivation) : Stage :=
  if (object.toList ++ modifiers).isEmpty then afterVerb else afterPhrase

theorem afterParts_isDone (object : Option Derivation) (modifiers : List Derivation) :
    (afterParts object modifiers).isDone = true := by
  unfold afterParts
  split <;> rfl

theorem after?_verbPhrase {verb : Token} {object : Option Derivation}
    {modifiers : List Derivation} (isVerb : verb.category = .verb)
    (objectDerived : ∀ part ∈ object, Derives .nounPhrase part.words part.tree)
    (modifiersDerived : ∀ part ∈ modifiers, Derives .prepPhrase part.words part.tree) :
    predicate.after?
        ((verb :: (object.toList ++ modifiers).flatMap Derivation.words).map Token.category) =
      some (afterParts object modifiers) := by
  rw [List.map_cons, after?, isVerb]
  show afterVerb.after? _ = _
  cases object with
  | some part =>
      rw [List.flatMap_append, List.map_append]
      apply after?_append_of _ (after?_phrases modifiersDerived)
      simpa using after?_object (objectDerived part rfl)
  | none =>
      cases modifiers with
      | nil => rfl
      | cons part rest =>
          show afterVerb.after? (((part :: rest).flatMap Derivation.words).map Token.category) = _
          rw [List.flatMap_cons, List.map_append]
          exact after?_append_of (after?_prepPhrase rfl (modifiersDerived part List.mem_cons_self))
            (after?_phrases fun other member =>
              modifiersDerived other (List.mem_cons_of_mem part member))

theorem after?_sentence {words : List Token} {tree : Tree}
    (derived : Derives .sentence words tree) :
    ∃ last, (opening .subject).after? (words.map Token.category) = some last ∧
      last.isDone = true := by
  cases derived with
  | @sentence subject predicate subjectDerived predicateDerived =>
      generalize predicate.words = words, predicate.tree = tree at predicateDerived
      cases predicateDerived with
      | @verbal verb object modifiers isVerb objectDerived modifiersDerived =>
          refine ⟨afterParts object modifiers, ?_, afterParts_isDone object modifiers⟩
          rw [List.map_append]
          exact after?_append_of (after?_nounPhrase .subject subjectDerived)
            (after?_verbPhrase isVerb objectDerived modifiersDerived)

end Stage

end SimpleSentence
