import SimpleSentence.Category

/-!
A set of categories is a word of sixteen bits, with the bit at a category's number
set for each member. The bits from the number of categories on are spare. No
operation sets one, so two sets are equal exactly when they have the same members.
-/

namespace SimpleSentence

/-- The word with the bit at a category's number and no other. -/
def Category.bit (category : Category) : BitVec 16 := 1#16 <<< category.number

/-- Whether every bit of a word is at a category's number. -/
def NoSpareBit (bits : BitVec 16) : Prop := ∀ place, 11 ≤ place → bits.getLsbD place = false

theorem Category.getLsbD_bit (category : Category) (place : Nat) :
    category.bit.getLsbD place = (category.number == place) := by
  have narrow : category.number < 16 := Nat.lt_trans category.number_lt (by decide)
  rw [bit, ← BitVec.twoPow_eq, BitVec.getLsbD_twoPow, decide_eq_true narrow, Bool.true_and]
  rfl

theorem noSpareBit_zero : NoSpareBit 0#16 := fun _ _ => BitVec.getLsbD_zero

theorem noSpareBit_bit (category : Category) : NoSpareBit category.bit := by
  intro place spare
  have other : category.number ≠ place := by
    have bound := category.number_lt
    omega
  rw [category.getLsbD_bit, beq_eq_false_iff_ne]
  exact other

theorem NoSpareBit.or {first second : BitVec 16} (noFirst : NoSpareBit first)
    (noSecond : NoSpareBit second) : NoSpareBit (first ||| second) := by
  intro place spare
  rw [BitVec.getLsbD_or, noFirst place spare, noSecond place spare, Bool.or_self]

structure CategorySet where
  bits : BitVec 16
  noSpareBit : NoSpareBit bits
  deriving DecidableEq, Repr

namespace CategorySet

def empty : CategorySet := ⟨0#16, noSpareBit_zero⟩

def single (category : Category) : CategorySet := ⟨category.bit, noSpareBit_bit category⟩

def contains (set : CategorySet) (category : Category) : Bool :=
  set.bits &&& category.bit != 0#16

def union (first second : CategorySet) : CategorySet :=
  ⟨first.bits ||| second.bits, first.noSpareBit.or second.noSpareBit⟩

def insert (set : CategorySet) (category : Category) : CategorySet :=
  ⟨set.bits ||| category.bit, set.noSpareBit.or (noSpareBit_bit category)⟩

/-- Sets one bit for each listed category. -/
def ofList (categories : List Category) : CategorySet := categories.foldl insert empty

/-- The union of the one-element sets of a list. -/
def collect (categories : List Category) : CategorySet :=
  categories.foldl (fun set category => union set (single category)) empty

/-- Each member once, in the order of the categories' numbers. -/
def members (set : CategorySet) : List Category := Category.all.filter set.contains

/-- The number of set bits. -/
def size (set : CategorySet) : Nat :=
  (List.range 16).countP fun place => set.bits.getLsbD place

def isEmpty (set : CategorySet) : Bool := set.bits == 0#16

/-- The members' codes between slashes. -/
def codes (set : CategorySet) : Text := Text.joinWith ['/'] (set.members.map Category.code)

/-- The members' names between braces. -/
def listing (set : CategorySet) : Text :=
  ['\x7b'] ++ Text.joinWith ", ".toList (set.members.map Category.name) ++ ['\x7d']

-- The mask leaves the category's bit alone, so what remains tells whether it was set.
theorem contains_eq_getLsbD (set : CategorySet) (category : Category) :
    set.contains category = set.bits.getLsbD category.number := by
  have mask : category.bit = BitVec.twoPow 16 category.number := (BitVec.twoPow_eq 16 _).symm
  rw [contains, mask, BitVec.and_twoPow]
  cases set.bits.getLsbD category.number with
  | false => rfl
  | true =>
      rw [if_pos rfl, bne_iff_ne]
      intro none
      have bit := category.getLsbD_bit category.number
      rw [mask, none, BitVec.getLsbD_zero, beq_self_eq_true] at bit
      cases bit

theorem contains_empty (category : Category) : empty.contains category = false := by
  rw [contains_eq_getLsbD]
  exact BitVec.getLsbD_zero

theorem contains_single (category other : Category) :
    (single category).contains other = (category == other) := by
  rw [contains_eq_getLsbD, single, category.getLsbD_bit, Bool.eq_iff_iff, beq_iff_eq, beq_iff_eq]
  exact ⟨Category.number_injective, congrArg Category.number⟩

theorem contains_union (first second : CategorySet) (category : Category) :
    (union first second).contains category =
      (first.contains category || second.contains category) := by
  simp only [contains_eq_getLsbD, union, BitVec.getLsbD_or]

-- Setting a bit is the union with a one-element set, in one list as in many.
theorem insert_eq_union (set : CategorySet) (category : Category) :
    set.insert category = union set (single category) := rfl

theorem ofList_eq_collect (categories : List Category) :
    ofList categories = collect categories := rfl

-- Every bit belongs to a category or is spare, so the members determine the word.
theorem ext {first second : CategorySet}
    (same : ∀ category, first.contains category = second.contains category) :
    first = second := by
  have named : ∀ place : Fin 11, ∃ category ∈ Category.all, category.number = place.val := by
    decide
  have equal : first.bits = second.bits := by
    apply BitVec.eq_of_getLsbD_eq
    intro place _
    by_cases spare : 11 ≤ place
    · rw [first.noSpareBit place spare, second.noSpareBit place spare]
    · obtain ⟨category, _, number⟩ := named ⟨place, Nat.lt_of_not_le spare⟩
      have alike := same category
      rwa [contains_eq_getLsbD, contains_eq_getLsbD, number] at alike
  cases first
  cases second
  cases equal
  rfl

end CategorySet

end SimpleSentence
