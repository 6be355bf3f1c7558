import Mathlib.Data.Finset.Card
import SimpleSentence.Proofs.Message

/-!
Sets of categories are finite sets. A set comes about from lists, from single
categories and by unions, and each of these puts in exactly the categories it is
given, a loop over a list one at a time. So whatever a set tells, its members, their
number and its written form, it tells of the categories that were put in, and
neither their order nor repetitions leave a trace.
-/

namespace SimpleSentence.CategorySet

section Loop

variable (categories : List Category) (category : Category)

theorem contains_foldl_insert (set : CategorySet) :
    (categories.foldl insert set).contains category = true ↔
      set.contains category = true ∨ category ∈ categories := by
  induction categories generalizing set with
  | nil => simp
  | cons first rest ih =>
      rw [List.foldl_cons, ih, insert_eq_union, contains_union, contains_single,
        Bool.or_eq_true, beq_iff_eq, List.mem_cons, or_assoc, eq_comm (a := first)]

theorem contains_ofList : (ofList categories).contains category = true ↔ category ∈ categories := by
  rw [ofList, contains_foldl_insert, contains_empty]
  simp

theorem contains_collect :
    (collect categories).contains category = true ↔ category ∈ categories := by
  rw [← ofList_eq_collect, contains_ofList]

end Loop

/-- The ways in which a set comes about. -/
inductive Construction where
  | listed (categories : List Category)
  | collected (categories : List Category)
  | single (category : Category)
  | nothing
  | union (first second : Construction)

namespace Construction

def build : Construction → CategorySet
  | listed categories => ofList categories
  | collected categories => collect categories
  | single category => .single category
  | nothing => .empty
  | union first second => .union first.build second.build

/-- The categories put in. -/
def putIn : Construction → Finset Category
  | listed categories => categories.toFinset
  | collected categories => categories.toFinset
  | single category => {category}
  | nothing => ∅
  | union first second => first.putIn ∪ second.putIn

theorem contains_build (construction : Construction) (category : Category) :
    construction.build.contains category = true ↔ category ∈ construction.putIn := by
  induction construction with
  | listed categories => rw [build, putIn, contains_ofList, List.mem_toFinset]
  | collected categories => rw [build, putIn, contains_collect, List.mem_toFinset]
  | single only =>
      rw [build, putIn, contains_single, beq_iff_eq, Finset.mem_singleton, eq_comm]
  | nothing => simp [build, putIn, contains_empty]
  | union first second ihFirst ihSecond =>
      rw [build, putIn, contains_union, Bool.or_eq_true, ihFirst, ihSecond, Finset.mem_union]

/-- Sets are the same word exactly when the same categories were put in. -/
theorem build_eq_iff (first second : Construction) :
    first.build = second.build ↔ first.putIn = second.putIn := by
  constructor
  · intro same
    ext category
    rw [← contains_build, ← contains_build, same]
  · intro same
    apply CategorySet.ext
    intro category
    rw [Bool.eq_iff_iff, contains_build, contains_build, same]

end Construction

/-- No word stands for a set that cannot come about. -/
theorem exists_construction (set : CategorySet) :
    ∃ construction : Construction, construction.build = set := by
  refine ⟨.listed set.members, CategorySet.ext fun category => ?_⟩
  rw [Bool.eq_iff_iff, Construction.build, contains_ofList, CategorySet.mem_members]

/-! ### Members and their number -/

section Members

variable (set : CategorySet)

theorem members_in_order :
    set.members.Pairwise fun first second => first.number < second.number := by
  have inOrder : Category.all.Pairwise fun first second => first.number < second.number := by
    decide
  exact inOrder.filter _

theorem nodup_members : set.members.Nodup := by
  apply set.members_in_order.imp
  rintro first _ below rfl
  exact Nat.lt_irrefl _ below

/-- The spare bits count nothing, and the others count the members. -/
theorem size_eq_length_members : set.size = set.members.length := by
  have places : List.range 16 = Category.all.map Category.number ++ [11, 12, 13, 14, 15] := rfl
  have spare : [11, 12, 13, 14, 15].countP (fun place => set.bits.getLsbD place) = 0 := by
    rw [List.countP_eq_zero]
    intro place listed
    have above : ∀ place ∈ [11, 12, 13, 14, 15], 11 ≤ place := by decide
    rw [set.noSpareBit place (above place listed)]
    exact Bool.false_ne_true
  have bits : (fun place => set.bits.getLsbD place) ∘ Category.number = set.contains :=
    funext fun category => (set.contains_eq_getLsbD category).symm
  rw [size, places, List.countP_append, spare, List.countP_map, bits,
    List.countP_eq_length_filter]
  rfl

theorem isEmpty_iff_size : set.isEmpty = true ↔ set.size = 0 := by
  rw [size_eq_length_members, List.length_eq_zero_iff]
  constructor
  · intro isEmpty
    have nothing : set = empty := by
      cases set
      cases beq_iff_eq.mp isEmpty
      rfl
    rw [nothing]
    rfl
  · intro none
    by_contra some
    exact members_ne_nil (Bool.eq_false_of_not_eq_true some) none

end Members

/-- What a set tells of itself is told of these categories. -/
structure IsSetOf (set : CategorySet) (categories : Finset Category) : Prop where
  contains_iff : ∀ category, set.contains category = true ↔ category ∈ categories
  size_eq : set.size = categories.card
  isEmpty_iff : set.isEmpty = true ↔ set.size = 0
  mem_members : ∀ category, category ∈ set.members ↔ category ∈ categories
  in_order : set.members.Pairwise fun first second => first.number < second.number

theorem isSetOf_of_contains {set : CategorySet} {categories : Finset Category}
    (same : ∀ category, set.contains category = true ↔ category ∈ categories) :
    set.IsSetOf categories where
  contains_iff := same
  size_eq := by
    have members : set.members.toFinset = categories := by
      ext category
      rw [List.mem_toFinset, CategorySet.mem_members, same]
    rw [size_eq_length_members, ← members, List.toFinset_card_of_nodup set.nodup_members]
  isEmpty_iff := set.isEmpty_iff_size
  mem_members := fun category => CategorySet.mem_members.trans (same category)
  in_order := set.members_in_order

/-- However sets come about, each is the finite set of the categories put in. Two of them are
equal exactly when they have the same members, and exactly when they are written alike; and
lists give the same set, in either loop, exactly when they name the same categories. -/
theorem faithful_to_finite_sets (first second : Construction) (categories others : List Category) :
    first.build.IsSetOf first.putIn ∧
      (first.build = second.build ↔
        ∀ category, first.build.contains category = second.build.contains category) ∧
      (first.build = second.build ↔ first.build.codes = second.build.codes) ∧
      (ofList categories = ofList others ↔ categories.toFinset = others.toFinset) ∧
      (collect categories = collect others ↔ categories.toFinset = others.toFinset) ∧
      (ofList categories = collect others ↔ categories.toFinset = others.toFinset) := by
  refine ⟨isSetOf_of_contains first.contains_build, ?_, ?_, ?_, ?_, ?_⟩
  · exact ⟨fun same category => by rw [same], CategorySet.ext⟩
  · exact ⟨congrArg codes, codes_injective⟩
  · exact Construction.build_eq_iff (.listed categories) (.listed others)
  · exact Construction.build_eq_iff (.collected categories) (.collected others)
  · exact Construction.build_eq_iff (.listed categories) (.collected others)

-- Neither the order of a list nor a repetition shows.
example :
    (ofList [.pronoun, .noun, .determiner, .adjective, .noun]).codes = "N/ADJ/DET/PRON".toList := by
  decide

end SimpleSentence.CategorySet
