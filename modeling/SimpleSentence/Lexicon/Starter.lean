import SimpleSentence.Lexicon

/-!
The word list used when none is given: enough dictionary records for simple
sentences. Verbs are listed in each of their forms, since nothing conjugates.
-/

namespace SimpleSentence.Lexicon

-- The second record of "Bread" is passed over, so it stays a noun.
def starterNouns : List (String × String) :=
  [("Apple", "n."), ("Ball", "n."), ("Bird", "n."), ("Book", "n."), ("Bread", "n."),
   ("Bread", "v. t."), ("Car", "n."), ("Cat", "n."), ("Child", "n."), ("Children", "pl."),
   ("City", "n."), ("Day", "n."), ("Dog", "n."), ("Fox", "n."), ("Friend", "n."),
   ("Garden", "n."), ("House", "n."), ("Kitchen", "n."), ("Letter", "n."), ("Man", "n."),
   ("Morning", "n."), ("Music", "n."), ("Park", "n."), ("River", "n."), ("School", "n."),
   ("Student", "n."), ("Table", "n."), ("Teacher", "n."), ("Tree", "n."), ("Water", "n."),
   ("Window", "n."), ("Woman", "n.")]

-- The second record of "Saw" is passed over, so it stays a verb.
def starterVerbs : List (String × String) :=
  [("Ate", "imp."), ("Builds", "v. t."), ("Chased", "imp. & p. p."), ("Chases", "v. t."),
   ("Drinks", "v. t."), ("Eat", "v. t."), ("Eats", "v. t."), ("Finds", "v. t."),
   ("Gives", "v. t."), ("Jumps", "v. i."), ("Knows", "v. t."), ("Loves", "v. t."),
   ("Opens", "v. t."), ("Plays", "v. i."), ("Reads", "v. t."), ("Runs", "v. i."),
   ("Sat", "imp. & p. p."), ("Saw", "imp."), ("Saw", "n."), ("Sees", "v. t."),
   ("Sings", "v. i."), ("Sleeps", "v. i."), ("Walks", "v. i."), ("Watches", "v. t."),
   ("Writes", "v. t."), ("Wrote", "imp.")]

def starterAdjectives : List (String × String) :=
  [("Beautiful", "a."), ("Best", "superl."), ("Big", "a."), ("Bigger", "compar."),
   ("Brown", "a."), ("Green", "a."), ("Happy", "a."), ("Lazy", "a."), ("Old", "a."),
   ("Quick", "a."), ("Red", "a."), ("Small", "a."), ("Young", "a.")]

def starterAdverbs : List (String × String) :=
  [("Always", "adv."), ("Here", "adv."), ("Now", "adv."), ("Often", "adv."),
   ("Today", "adv. & n."), ("Tomorrow", "adv. & n."), ("Very", "adv.")]

-- Function words outside the closed classes.
def starterFunctionWords : List (String × String) :=
  [("And", "conj."), ("But", "conj."), ("Or", "conj."), ("Over", "prep."), ("Under", "prep."),
   ("Oh", "interj.")]

def starterRecords : List Record :=
  (starterNouns ++ starterVerbs ++ starterAdjectives ++ starterAdverbs ++
    starterFunctionWords).map fun pair => ⟨pair.1.toList, pair.2.toList⟩

def starter : Lexicon := ofRecords starterRecords

end SimpleSentence.Lexicon
