import Mathlib.Data.List.Basic
import Mathlib.Order.Basic

/-!
# The latest element of a list

A loop that walks over elements in an unspecified order and keeps the one with the greatest rank
among those that count.  `Latest` says what it keeps after a list; the rules say what happens to
it at the next element.
-/

set_option autoImplicit false

namespace Talenro.Lib

variable {α : Type} {counts counts' : α → Prop} {rank : α → ℕ} {l l' : List α} {a : α}

/-- Of the elements that count, the one of the greatest rank, if any counts. -/
inductive Latest (counts : α → Prop) (rank : α → ℕ) (l : List α) : Option α → Prop
  | none (absent : ∀ b ∈ l, ¬ counts b) : Latest counts rank l none
  | some {a : α} (mem : a ∈ l) (count : counts a) (above : ∀ b ∈ l, counts b → rank b ≤ rank a) :
      Latest counts rank l (some a)

namespace Latest

theorem nil : Latest counts rank [] Option.none := .none (by simp)

/-- An element that does not count is passed over. -/
theorem skip {best : Option α} (h : Latest counts rank l best) (ha : ¬ counts a) :
    Latest counts rank (l ++ [a]) best := by
  cases h with
  | none absent => exact .none (by simpa [or_imp, forall_and] using ⟨absent, ha⟩)
  | some mem count above =>
    refine .some (List.mem_append_left _ mem) count fun b hb hcount => ?_
    rcases List.mem_append.mp hb with hb | hb
    · exact above b hb hcount
    · exact absurd (List.mem_singleton.mp hb ▸ hcount) ha

/-- An element of no greater rank than the best is passed over. -/
theorem keep {best : α} (h : Latest counts rank l (Option.some best)) (ha : rank a ≤ rank best) :
    Latest counts rank (l ++ [a]) (Option.some best) := by
  cases h with
  | some mem count above =>
    refine .some (List.mem_append_left _ mem) count fun b hb hcount => ?_
    rcases List.mem_append.mp hb with hb | hb
    · exact above b hb hcount
    · rwa [List.mem_singleton.mp hb]

/-- An element that counts and is not below the best becomes the best. -/
theorem take {best : Option α} (h : Latest counts rank l best) (ha : counts a)
    (hbest : ∀ b ∈ best, rank b ≤ rank a) : Latest counts rank (l ++ [a]) (Option.some a) := by
  refine .some (List.mem_append_right _ (List.mem_singleton_self a)) ha fun b hb hcount => ?_
  rcases List.mem_append.mp hb with hb | hb
  · cases h with
    | none absent => exact absurd hcount (absent b hb)
    | some mem count above => exact Nat.le_trans (above b hb hcount) (hbest _ rfl)
  · exact Nat.le_of_eq (congrArg rank (List.mem_singleton.mp hb))

theorem count {best : α} (h : Latest counts rank l (Option.some best)) : counts best := by
  cases h with
  | some mem count above => exact count

/-- Lists with the same elements have the same latest elements. -/
theorem congr {best : Option α} (h : Latest counts rank l best) (hl : ∀ b, b ∈ l' ↔ b ∈ l)
    (hcounts : ∀ b ∈ l, counts' b ↔ counts b) : Latest counts' rank l' best := by
  cases h with
  | none absent =>
    refine .none fun b hb => ?_
    have hb := (hl b).mp hb
    exact fun hcount => absent b hb ((hcounts b hb).mp hcount)
  | some mem count above =>
    refine .some ((hl _).mpr mem) ((hcounts _ mem).mpr count) fun b hb hcount => ?_
    have hb := (hl b).mp hb
    exact above b hb ((hcounts b hb).mp hcount)

/-- Where no two elements have one rank, the latest element is unique. -/
theorem unique {best best' : Option α} (h : Latest counts rank l best)
    (h' : Latest counts rank l best')
    (hinj : ∀ a ∈ l, ∀ b ∈ l, rank a = rank b → a = b) : best = best' := by
  cases h with
  | none absent =>
    cases h' with
    | none absent' => rfl
    | some mem' count' above' => exact absurd count' (absent _ mem')
  | some mem count above =>
    cases h' with
    | none absent' => exact absurd count (absent' _ mem)
    | some mem' count' above' =>
      exact congrArg Option.some (hinj _ mem _ mem' (Nat.le_antisymm (above' _ mem count)
        (above _ mem' count')))

end Latest

end Talenro.Lib
