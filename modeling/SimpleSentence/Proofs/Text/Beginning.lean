import Mathlib.Data.List.DropRight
import Mathlib.Data.List.Forall2
import Mathlib.Data.List.Induction
import SimpleSentence.Text.Blank
import SimpleSentence.Text.Case

/-!
What text at the end of another one can change. Trimming and lowercasing take a
beginning of a text to a beginning of the result, whatever stands where the two
meet, and blanks around a text are gone after trimming. A part that is written in
ASCII only is found by the ASCII characters of a text, so it does not matter what a
letter outside ASCII becomes in lowercase.
-/

namespace SimpleSentence

namespace Text

section Beginning

variable {text longer : Text} (beginning : text <+: longer)
include beginning

theorem dropWhile_beginning (drop : Char → Bool) :
    text.dropWhile drop <+: longer.dropWhile drop := by
  obtain ⟨more, rfl⟩ := beginning
  rw [List.dropWhile_append]
  split
  · next nothing =>
      rw [List.isEmpty_iff.mp nothing]
      exact List.nil_prefix
  · exact List.prefix_append _ _

-- Taken from the end, the characters behind the beginning are dropped one by one, until one
-- stays and with it everything in front of it, or until none is left.
theorem trimEndBy_beginning (drop : Char → Bool) :
    trimEndBy drop text <+: trimEndBy drop longer := by
  obtain ⟨more, rfl⟩ := beginning
  induction more using List.reverseRecOn with
  | nil => simp only [List.append_nil, List.prefix_rfl]
  | append_singleton more last ih =>
      rw [← List.append_assoc]
      by_cases dropped : drop last = true
      · have shorter : trimEndBy drop (text ++ more ++ [last]) = trimEndBy drop (text ++ more) :=
          List.rdropWhile_concat_pos drop (text ++ more) last dropped
        rw [shorter]
        exact ih
      · have whole : trimEndBy drop (text ++ more ++ [last]) = text ++ more ++ [last] :=
          List.rdropWhile_concat_neg drop (text ++ more) last dropped
        have front : trimEndBy drop text <+: text := List.rdropWhile_prefix drop text
        rw [whole, List.append_assoc]
        exact front.trans (List.prefix_append _ _)

theorem trimBy_beginning (drop : Char → Bool) : trimBy drop text <+: trimBy drop longer :=
  trimEndBy_beginning (dropWhile_beginning beginning drop) drop

theorem lower_beginning : lower text <+: lower longer := by
  obtain ⟨more, rfl⟩ := beginning
  rw [lower_append]
  exact List.prefix_append _ _

end Beginning

section Blanks

variable {front back : Text} (frontBlank : blank front = true) (backBlank : blank back = true)
include backBlank

theorem trimEnd_append_blank (text : Text) : trimEnd (text ++ back) = trimEnd text := by
  have reversed : ∀ char ∈ back.reverse, isBlank char = true :=
    fun char member => List.all_eq_true.mp backBlank char (List.mem_reverse.mp member)
  rw [trimEnd, trimEndBy, List.reverse_append, List.dropWhile_append_of_pos reversed]
  rfl

include frontBlank

theorem trim_between_blanks (text : Text) : trim (front ++ text ++ back) = trim text := by
  have begun : (front ++ text ++ back).dropWhile isBlank = (text ++ back).dropWhile isBlank := by
    rw [List.append_assoc, List.dropWhile_append_of_pos (List.all_eq_true.mp frontBlank)]
  have ended : trimEnd ((text ++ back).dropWhile isBlank) = trimEnd (text.dropWhile isBlank) := by
    rw [List.dropWhile_append]
    split
    · next nothing =>
        rw [List.isEmpty_iff.mp nothing,
          List.dropWhile_eq_nil_iff.mpr (List.all_eq_true.mp backBlank)]
    · exact trimEnd_append_blank backBlank _
  calc
    trim (front ++ text ++ back) = trimEnd ((front ++ text ++ back).dropWhile isBlank) := rfl
    _ = trim text := by rw [begun, ended]; rfl

end Blanks

theorem occurs_iff (part text : Text) : occurs part text = true ↔ part <:+: text := by
  induction text with
  | nil => rw [occurs, List.isEmpty_iff, List.infix_nil]
  | cons char rest ih =>
      rw [occurs, Bool.or_eq_true, List.isPrefixOf_iff_prefix, ih, List.infix_cons_iff]

/-- Texts with the same ASCII characters in the same places. -/
def AsciiAlike : Text → Text → Prop :=
  List.Forall₂ fun char other => char = other ∨ 128 ≤ char.toNat ∧ 128 ≤ other.toNat

namespace AsciiAlike

variable {text other : Text} (alike : AsciiAlike text other)
include alike

theorem symm : AsciiAlike other text :=
  (alike.imp fun _ _ same => same.imp Eq.symm And.symm).flip

variable {part : Text} (ascii : ∀ char ∈ part, char.toNat < 128)
include ascii

theorem isPrefix (front : part <+: text) : part <+: other := by
  induction alike generalizing part with
  | nil => exact front
  | @cons char second rest more same _ ih =>
      cases part with
      | nil => exact List.nil_prefix
      | cons first left =>
          obtain ⟨rfl, later⟩ := List.cons_prefix_cons.mp front
          obtain ⟨small, leftSmall⟩ := List.forall_mem_cons.mp ascii
          rcases same with rfl | ⟨large, _⟩
          · exact List.cons_prefix_cons.mpr ⟨rfl, ih leftSmall later⟩
          · exact absurd small (Nat.not_lt.mpr large)

theorem isInfix (inside : part <:+: text) : part <:+: other := by
  induction alike with
  | nil => exact inside
  | @cons char second rest more same behind ih =>
      rw [List.infix_cons_iff] at inside ⊢
      exact inside.imp (isPrefix (.cons same behind) ascii) ih

end AsciiAlike

end Text

end SimpleSentence
