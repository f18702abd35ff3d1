/-!
# Lists without repetition

Lists that are used as sets and remember the order in which their members first
came in.
-/

namespace VisualScript

universe u

variable {α : Type u} [DecidableEq α]

/-- Add a member behind the others unless it is there already. -/
def appendNew (members : List α) (member : α) : List α :=
  if member ∈ members then members else members ++ [member]

/-- Add some members, one after another. -/
def appendAllNew (members additions : List α) : List α := additions.foldl appendNew members

/-- The members of a list, each at its first appearance. -/
def distinct (members : List α) : List α := appendAllNew [] members

theorem mem_appendNew {members : List α} {member x : α} :
    x ∈ appendNew members member ↔ x ∈ members ∨ x = member := by
  unfold appendNew
  split
  next h =>
    constructor
    · exact Or.inl
    · rintro (hx | rfl)
      · exact hx
      · exact h
  next => simp

theorem nodup_appendNew {members : List α} {member : α} (h : members.Nodup) :
    (appendNew members member).Nodup := by
  unfold appendNew
  split
  next => exact h
  next hmem =>
    rw [List.nodup_append]
    refine ⟨h, by simp, ?_⟩
    intro x hx y hy
    obtain rfl := List.mem_singleton.mp hy
    rintro rfl
    exact hmem hx

theorem mem_appendAllNew {members additions : List α} {x : α} :
    x ∈ appendAllNew members additions ↔ x ∈ members ∨ x ∈ additions := by
  induction additions generalizing members with
  | nil => simp [appendAllNew]
  | cons addition rest ih =>
      have h := @ih (appendNew members addition)
      simp only [appendAllNew, List.foldl_cons] at h ⊢
      rw [h, mem_appendNew, List.mem_cons, or_assoc]

/-- Nothing is repeated after additions if nothing was before. -/
theorem nodup_appendAllNew {members additions : List α} (h : members.Nodup) :
    (appendAllNew members additions).Nodup := by
  induction additions generalizing members with
  | nil => exact h
  | cons addition rest ih => exact ih (nodup_appendNew h)

theorem filter_appendNew (keep : α → Bool) (members : List α) (member : α) :
    (appendNew members member).filter keep =
      if keep member then appendNew (members.filter keep) member else members.filter keep := by
  unfold appendNew
  by_cases hmem : member ∈ members <;> by_cases hkeep : keep member = true <;> simp [hmem, hkeep]

theorem filter_appendAllNew (keep : α → Bool) (members additions : List α) :
    (appendAllNew members additions).filter keep =
      appendAllNew (members.filter keep) (additions.filter keep) := by
  induction additions generalizing members with
  | nil => rfl
  | cons addition rest ih =>
      have h := ih (appendNew members addition)
      simp only [appendAllNew, List.foldl_cons] at h ⊢
      rw [h, filter_appendNew]
      by_cases hkeep : keep addition = true
      · rw [if_pos hkeep, List.filter_cons_of_pos hkeep, List.foldl_cons]
      · rw [if_neg hkeep, List.filter_cons_of_neg hkeep]

/-- Taking members out does not change which of their appearances is the first. -/
theorem filter_distinct (keep : α → Bool) (members : List α) :
    (distinct members).filter keep = distinct (members.filter keep) :=
  filter_appendAllNew keep [] members

theorem mem_distinct {members : List α} {x : α} : x ∈ distinct members ↔ x ∈ members := by
  rw [distinct, mem_appendAllNew]
  simp

end VisualScript
