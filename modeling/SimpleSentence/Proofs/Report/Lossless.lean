import SimpleSentence.Proofs.Views

/-!
The report for machines loses nothing. A written value determines the value, and the
value determines the tokens and the outcome part by part: each name that stands for
a category stands for no other, a tree is read off its nodes, and of an error all is
a member of its own but the kind, which only the message tells.
-/

namespace SimpleSentence

theorem Category.name_injective {category other : Category} (same : category.name = other.name) :
    category = other := by
  have read := congrArg ofName? same
  rw [ofName?_name, ofName?_name] at read
  exact Option.some.inj read

theorem Span.json_injective {span other : Span} (same : span.json = other.json) :
    span = other := by
  simp only [json, Json.object.injEq, List.cons.injEq, Prod.mk.injEq, Json.number.injEq, true_and,
    and_true] at same
  exact congrArg₂ Span.mk same.1 same.2

theorem Token.json_injective {token other : Token} (same : token.json = other.json) :
    token = other := by
  simp only [json, Json.object.injEq, List.cons.injEq, Prod.mk.injEq, Json.text.injEq,
    Json.number.injEq, true_and, and_true] at same
  obtain ⟨text, category, index, span⟩ := same
  cases token
  cases other
  congr
  · exact Category.name_injective category
  · exact Span.json_injective span

theorem CategorySet.mem_members {set : CategorySet} {category : Category} :
    category ∈ set.members ↔ set.contains category = true := by
  simp [members, Category.mem_all]

theorem CategorySet.members_injective {set other : CategorySet}
    (same : set.members = other.members) : set = other := by
  apply CategorySet.ext
  intro category
  rw [Bool.eq_iff_iff, ← mem_members, ← mem_members, same]

theorem CategorySet.json_injective {set other : CategorySet} (same : set.json = other.json) :
    set = other := by
  have named : Function.Injective fun category : Category => Json.text category.name :=
    fun _ _ alike => Category.name_injective (Json.text.inj alike)
  exact members_injective (named.list_map (Json.array.inj same))

namespace Tree

theorem jsonOf_eq_map (trees : List Tree) : jsonOf trees = trees.map json := by
  induction trees with
  | nil => rw [jsonOf, List.map_nil]
  | cons first rest ih => rw [jsonOf, ih, List.map_cons]

theorem eq_of_jsonOf {trees others : List Tree}
    (read : ∀ tree ∈ trees, ∀ other : Tree, tree.json = other.json → tree = other)
    (same : trees.map json = others.map json) : trees = others := by
  induction trees generalizing others with
  | nil => exact (List.map_eq_nil_iff.mp same.symm).symm
  | cons first rest ih =>
      cases others with
      | nil => cases same
      | cons other more =>
          obtain ⟨own, later⟩ := List.forall_mem_cons.mp read
          obtain ⟨head, behind⟩ := List.cons.inj same
          rw [own other head, ih later behind]

theorem json_phrase_ne_word {kind : PhraseKind} {children : List Tree} {text : Text}
    {category : Category} {index : Nat} :
    (phrase kind children).json ≠ (word text category index).json := by
  intro same
  rw [json, json] at same
  simp at same

-- Induction over the tree; what is read off a row of children is read off each in its place.
theorem json_injective {tree other : Tree} (same : tree.json = other.json) : tree = other := by
  induction tree using forall_of_children generalizing other with
  | word text category index =>
      cases other with
      | phrase kind children => exact absurd same.symm json_phrase_ne_word
      | word otherText otherCategory otherIndex =>
          rw [json, json] at same
          simp only [Json.object.injEq, List.cons.injEq, Prod.mk.injEq, Json.text.injEq,
            Json.number.injEq, true_and, and_true] at same
          obtain ⟨rfl, name, rfl⟩ := same
          rw [Category.name_injective name]
  | phrase kind children read =>
      cases other with
      | word text category index => exact absurd same json_phrase_ne_word
      | phrase otherKind others =>
          rw [json, json, jsonOf_eq_map, jsonOf_eq_map] at same
          simp only [Json.object.injEq, List.cons.injEq, Prod.mk.injEq, Json.text.injEq,
            Json.array.injEq, true_and, and_true] at same
          obtain ⟨label, row⟩ := same
          rw [PhraseKind.label_injective label, eq_of_jsonOf (fun child member _ => read child member) row]

end Tree

namespace ParseError

/-- The kind of an error is told by what its message says of the token found. -/
theorem eq_of_message {error other : ParseError} (message : error.message = other.message)
    (expected : error.expected = other.expected) (found : error.found = other.found) :
    error = other := by
  have joint : error.joint = other.joint := by
    rw [message_eq, message_eq, expected, found] at message
    exact List.append_cancel_left (List.append_cancel_right message)
  cases error with
  | unexpected set token =>
      cases other with
      | unexpected otherSet otherToken => exact congrArg₂ unexpected expected found
      | trailing otherToken =>
          have plain : ", found ".toList = ", found unconsumed ".toList := joint
          exact absurd plain (by decide)
  | trailing token =>
      cases other with
      | unexpected otherSet otherToken =>
          have unconsumed : ", found unconsumed ".toList = ", found ".toList := joint
          exact absurd unconsumed (by decide)
      | trailing otherToken => exact congrArg trailing found

theorem json_injective {error other : ParseError} (same : error.json = other.json) :
    error = other := by
  simp only [json, Json.object.injEq, List.cons.injEq, Prod.mk.injEq, Json.text.injEq, true_and,
    and_true] at same
  obtain ⟨message, expected, found⟩ := same
  exact eq_of_message message (CategorySet.json_injective expected) (Token.json_injective found)

end ParseError

namespace Report

theorem tokens_of_json {tokens others : List Token} (same : tokensJson tokens = tokensJson others) :
    tokens = others := by
  have read : Function.Injective Token.json := fun _ _ => Token.json_injective
  exact read.list_map (Json.array.inj same)

/-- The member behind the tokens: the tree of an accepted text or the error of a rejected one. -/
def outcomeMember : Except ParseError Tree → Text × Json
  | .ok tree => ("tree".toList, tree.json)
  | .error error => ("error".toList, error.json)

theorem json_eq (analysis : Analysis) :
    json analysis = .object
      [("accepted".toList, .bool analysis.isAccepted),
        ("tokens".toList, tokensJson analysis.tagged.words), outcomeMember analysis.outcome] := by
  rw [json]
  cases analysis.outcome <;> rfl

theorem outcomeMember_injective {outcome other : Except ParseError Tree}
    (same : outcomeMember outcome = outcomeMember other) : outcome = other := by
  obtain ⟨name, value⟩ := Prod.mk.inj same
  have different : "tree".toList ≠ "error".toList := by decide
  cases outcome with
  | ok tree =>
      cases other with
      | ok otherTree => exact congrArg Except.ok (Tree.json_injective value)
      | error error => exact absurd name different
  | error error =>
      cases other with
      | ok tree => exact absurd name.symm different
      | error otherError => exact congrArg Except.error (ParseError.json_injective value)

/-- Reports that are written alike are of the same word tokens and the same outcome, whatever the
texts and the lexicons. -/
theorem outcome_of_written {first second : Analysis}
    (same : (json first).write = (json second).write) :
    first.tagged.words = second.tagged.words ∧ first.outcome = second.outcome := by
  have value := Json.write_injective same
  rw [json_eq, json_eq] at value
  simp only [Json.object.injEq, List.cons.injEq, Prod.mk.injEq, true_and, and_true] at value
  obtain ⟨_, tokens, outcome⟩ := value
  exact ⟨tokens_of_json tokens, outcomeMember_injective outcome⟩

-- Other texts and other lexicons, yet the reports are written alike, of a sentence and of none.
def otherAte : Lexicon := .ofRecords [⟨"Ate".toList, "v. t.".toList⟩, ⟨"dog".toList, "n.".toList⟩]

theorem ate_written_alike :
    (json ((Lexicon.ofRecords Lexicon.ateRecords).analyse "It ate".toList)).write =
        (json (otherAte.analyse "It ate, \u00E9!".toList)).write ∧
      (json ((Lexicon.ofRecords Lexicon.ateRecords).analyse "Ate it".toList)).write =
        (json (otherAte.analyse "Ate it?".toList)).write ∧
      ((Lexicon.ofRecords Lexicon.ateRecords).analyse "It ate".toList).outcome =
        (otherAte.analyse "It ate, \u00E9!".toList).outcome ∧
      ((Lexicon.ofRecords Lexicon.ateRecords).analyse "Ate it".toList).outcome =
        (otherAte.analyse "Ate it?".toList).outcome := by
  have accepted : (json ((Lexicon.ofRecords Lexicon.ateRecords).analyse "It ate".toList)).write =
      (json (otherAte.analyse "It ate, \u00E9!".toList)).write := by decide +kernel
  have rejected : (json ((Lexicon.ofRecords Lexicon.ateRecords).analyse "Ate it".toList)).write =
      (json (otherAte.analyse "Ate it?".toList)).write := by decide +kernel
  exact ⟨accepted, rejected, (outcome_of_written accepted).2, (outcome_of_written rejected).2⟩

end Report

end SimpleSentence
