import Mathlib.Data.List.Basic

/-!
# Distinct names

A list without its repetitions, in the order in which its members first occur (`List.eraseDups`). It has
no member twice (`nodup_eraseDups`), a longer list has those of a shorter one in front
(`isPrefix_eraseDups`), and behind those of `xs` only the members of `ys` are added that `xs` does not have
(`eraseDups_append_filter`).
-/

namespace RasterAlgebra

variable {α : Type} [BEq α]

/-- Every list is empty, or its first member stands in front of a shorter list: the others without it. -/
theorem eraseDups_induction {motive : List α → Prop} (nil : motive [])
    (cons : ∀ a as, motive (as.filter fun b => !b == a) → motive (a :: as)) (l : List α) :
    motive l := by
  induction hn : l.length using Nat.strongRecOn generalizing l with
  | _ n ih =>
    subst hn
    cases l with
    | nil => exact nil
    | cons a as =>
      have hle := List.length_filter_le (fun b => !b == a) as
      exact cons a as (ih _ (by rw [List.length_cons]; omega) _ rfl)

variable [LawfulBEq α]

theorem nodup_eraseDups (l : List α) : l.eraseDups.Nodup := by
  induction l using eraseDups_induction with
  | nil => exact List.nodup_nil
  | cons a as ih =>
    rw [List.eraseDups_cons]
    refine List.nodup_cons.mpr ⟨?_, ih⟩
    rw [List.mem_eraseDups, List.mem_filter]
    simp

/-- Members can be left out before or after. -/
theorem eraseDups_filter (p : α → Bool) (l : List α) :
    (l.filter p).eraseDups = l.eraseDups.filter p := by
  induction l using eraseDups_induction with
  | nil => rfl
  | cons a as ih =>
    rw [List.eraseDups_cons]
    cases hp : p a with
    | true =>
      rw [List.filter_cons_of_pos hp, List.filter_cons_of_pos hp, List.eraseDups_cons, ← ih,
        List.filter_filter, List.filter_filter]
      simp only [Bool.and_comm]
    | false =>
      have hfilter : as.filter p = (as.filter fun b => !b == a).filter p := by
        rw [List.filter_filter]
        refine List.filter_congr fun b _ => ?_
        by_cases hb : b = a
        · rw [hb, hp, Bool.false_and]
        · simp [hb]
      rw [List.filter_cons_of_neg (by simp [hp]), List.filter_cons_of_neg (by simp [hp]), hfilter, ih]

/-- The distinct members of one list behind those of another. -/
theorem eraseDups_append_filter (xs ys : List α) :
    (xs ++ ys).eraseDups = xs.eraseDups ++ ys.eraseDups.filter (· ∉ xs) := by
  rw [List.eraseDups_append, ← eraseDups_filter, List.removeAll]
  simp

theorem isPrefix_eraseDups {xs ys : List α} (h : xs <+: ys) : xs.eraseDups <+: ys.eraseDups := by
  obtain ⟨zs, rfl⟩ := h
  rw [List.eraseDups_append]
  exact List.prefix_append _ _

end RasterAlgebra
