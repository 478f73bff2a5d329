import Mathlib.Data.List.Forall2
import Mathlib.Data.List.Induction
import Mathlib.Data.List.Nodup

/-!
# Lists

Facts on lists that the library does not have: where an element is repeated first, what is left
without repetitions, and images of lists that are related element by element.
-/

namespace ApiStubs.Lists

variable {α β : Type}

/-! ## Repetitions -/

theorem nodup_append_singleton {as : List α} {a : α} : (as ++ [a]).Nodup ↔ a ∉ as ∧ as.Nodup :=
  (List.perm_append_singleton a as).nodup_iff.trans List.nodup_cons

/-- A list with a repetition has a first place at which something occurs that occurred before. -/
theorem exists_repeat_of_not_nodup [DecidableEq α] {as : List α} (h : ¬ as.Nodup) :
    ∃ before a after, as = before ++ a :: after ∧ before.Nodup ∧ a ∈ before := by
  induction as using List.reverseRecOn with
  | nil => exact absurd List.nodup_nil h
  | append_singleton as last ih =>
    by_cases hnodup : as.Nodup
    · have hlast : last ∈ as :=
        Decidable.not_not.1 fun hnew => h (nodup_append_singleton.2 ⟨hnew, hnodup⟩)
      exact ⟨as, last, [], rfl, hnodup, hlast⟩
    · obtain ⟨before, a, after, rfl, hbefore, ha⟩ := ih hnodup
      exact ⟨before, a, after ++ [last], by simp, hbefore, ha⟩

theorem two_le_count_of_repeat [DecidableEq α] {before after : List α} {a : α} (h : a ∈ before) :
    2 ≤ (before ++ a :: after).count a := by
  have hbefore : 1 ≤ before.count a := List.count_pos_iff.2 h
  rw [List.count_append, List.count_cons_self]
  omega

/-! ## Lists without their repetitions -/

theorem eraseDups_append_singleton [DecidableEq α] (as : List α) (a : α) :
    (as ++ [a]).eraseDups = if a ∈ as then as.eraseDups else as.eraseDups ++ [a] := by
  rw [List.eraseDups_append]
  split
  · rename_i hold
    have hnone : [a].removeAll as = [] := by simp [List.removeAll, hold]
    rw [hnone, List.eraseDups_nil, List.append_nil]
  · rename_i hnew
    have hrest : [a].removeAll as = [a] := by simp [List.removeAll, hnew]
    rw [hrest]
    rfl

theorem nodup_eraseDups [DecidableEq α] (as : List α) : as.eraseDups.Nodup := by
  induction as using List.reverseRecOn with
  | nil => exact List.nodup_nil
  | append_singleton as a ih =>
    rw [eraseDups_append_singleton]
    split
    · exact ih
    · rename_i hnew
      exact nodup_append_singleton.2 ⟨mt List.mem_eraseDups.1 hnew, ih⟩

/-- What is left stands in the order in which it comes first. -/
theorem pairwise_eraseDups [DecidableEq α] (as : List α) :
    as.eraseDups.Pairwise fun first second => as.idxOf first < as.idxOf second := by
  induction as using List.reverseRecOn with
  | nil => exact List.Pairwise.nil
  | append_singleton as a ih =>
    have hplace {b : α} (h : b ∈ as.eraseDups) : (as ++ [a]).idxOf b = as.idxOf b :=
      List.idxOf_append_of_mem (List.mem_eraseDups.1 h)
    have hearlier : as.eraseDups.Pairwise fun first second =>
        (as ++ [a]).idxOf first < (as ++ [a]).idxOf second := by
      refine ih.imp_of_mem fun hfirst hsecond hlt => ?_
      rwa [hplace hfirst, hplace hsecond]
    rw [eraseDups_append_singleton]
    split
    · exact hearlier
    · rename_i hnew
      refine List.pairwise_append.2
        ⟨hearlier, List.pairwise_singleton _ _, fun b hb last hlast => ?_⟩
      rw [List.mem_singleton.1 hlast, hplace hb, List.idxOf_append_of_notMem hnew]
      exact Nat.lt_of_lt_of_le (List.idxOf_lt_length_of_mem (List.mem_eraseDups.1 hb))
        (Nat.le_add_right _ _)

/-! ## Images -/

theorem mapIdx_eq_map (f : α → β) (as : List α) : as.mapIdx (fun _ a => f a) = as.map f :=
  List.ext_getElem? fun k => by simp

/-- Related lists have equal images where related elements have. -/
theorem map_eq_of_forall₂ {R : α → α → Prop} {f : α → β} {left right : List α}
    (hR : ∀ {a b}, R a b → f b = f a) (h : List.Forall₂ R left right) :
    right.map f = left.map f := by
  induction h with
  | nil => rfl
  | cons hhead _ ih => rw [List.map_cons, List.map_cons, hR hhead, ih]

end ApiStubs.Lists
