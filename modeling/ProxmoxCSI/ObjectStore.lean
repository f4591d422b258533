import Mathlib.Data.List.Basic

/-!
# Objects of an API server

Objects are kept in a list and found by their key. An object under deletion
stays until its last finalizer is gone, so a change may also remove it.
-/

set_option autoImplicit false

namespace ProxmoxCSI.ObjectStore

variable {κ α : Type} [DecidableEq κ] (key : α → κ)

def find (os : List α) (k : κ) : Option α := os.find? (fun o => key o = k)

def modify (os : List α) (k : κ) (f : α → α) : List α := os.map (fun o => if key o = k then f o else o)

def remove (os : List α) (k : κ) : List α := os.filter (fun o => key o ≠ k)

def settle (gone : α → Bool) (os : List α) (k : κ) (f : α → α) : List α :=
  match find key os k with
  | none => os
  | some o => if gone (f o) then remove key os k else modify key os k f

variable {key} {os : List α} {k k' : κ} {o : α} {f : α → α}

theorem find_some (h : find key os k = some o) : o ∈ os ∧ key o = k :=
  ⟨List.mem_of_find?_eq_some h,by simpa using List.find?_some h⟩

theorem find_modify_self (hf : ∀ o, key o = k → key (f o) = k) :
    find key (modify key os k f) k = (find key os k).map f := by
  induction os with
  | nil => rfl
  | cons x os ih =>
    simp only [find, modify, List.map_cons, List.find?_cons] at ih ⊢
    by_cases hx : key x = k
    · simp [hx, hf x hx]
    · simp only [hx, if_false, decide_false]
      exact ih

theorem find_modify_ne (hf : ∀ o, key o = k → key (f o) = k) (hk : k' ≠ k) :
    find key (modify key os k f) k' = find key os k' := by
  induction os with
  | nil => rfl
  | cons x os ih =>
    simp only [find, modify, List.map_cons, List.find?_cons] at ih ⊢
    by_cases hx : key x = k
    · have hne : ¬k = k' := fun h => hk h.symm
      simp only [hx, if_true, hf x hx, hne, decide_false]
      exact ih
    · simp only [hx, if_false]
      rw [ih]

theorem find_remove_self : find key (remove key os k) k = none := by
  simp [find, remove]

theorem find_remove_ne (hk : k' ≠ k) : find key (remove key os k) k' = find key os k' := by
  induction os with
  | nil => rfl
  | cons x os ih =>
    simp only [find, remove] at ih ⊢
    by_cases hx : key x = k
    · have hne : ¬k = k' := fun h => hk h.symm
      simp only [hx, List.filter_cons, ne_eq, not_true_eq_false, decide_false, Bool.false_eq_true,
        if_false, List.find?_cons, hne]
      exact ih
    · simp only [hx, List.filter_cons, ne_eq, not_false_eq_true, decide_true, if_true,
        List.find?_cons]
      rw [ih]

theorem find_append (os' : List α) : find key (os ++ os') k = (find key os k).or (find key os' k) := by
  simp [find, List.find?_append]

theorem find_singleton : find key [o] k = if key o = k then some o else none := by
  by_cases h : key o = k
  · simp [find, h]
  · simp [find, h]

theorem find_settle {gone : α → Bool} (hf : ∀ o, key o = k → key (f o) = k)
    (h : find key (settle key gone os k f) k' = some o) :
    find key os k' = some o ∧ k' ≠ k ∨ k' = k ∧ ∃ o', find key os k = some o' ∧ o = f o' := by
  unfold settle at h
  split at h
  · rename_i hn
    refine .inl ⟨h,?_⟩
    intro hk
    rw [hk, hn] at h
    cases h
  · rename_i o' ho
    by_cases hk : k' = k
    · subst hk
      refine .inr ⟨rfl,o',ho,?_⟩
      split at h
      · rw [find_remove_self] at h
        cases h
      · rw [find_modify_self hf, ho] at h
        exact (Option.some.inj h).symm
    · refine .inl ⟨?_,hk⟩
      split at h
      · rwa [find_remove_ne hk] at h
      · rwa [find_modify_ne hf hk] at h

theorem find_settle_kept {gone : α → Bool} (hf : ∀ o, key o = k → key (f o) = k)
    (h : find key os k = some o) (hg : gone (f o) = false) :
    find key (settle key gone os k f) k = some (f o) := by
  simp only [settle, h, hg, Bool.false_eq_true, if_false]
  rw [find_modify_self hf, h]
  rfl

section Keyed

variable (key) in
def Keyed (os : List α) : Prop := (os.map key).Nodup

theorem find_of_mem (hu : Keyed key os) (ho : o ∈ os) : find key os (key o) = some o := by
  induction os with
  | nil => cases ho
  | cons x os ih =>
    rw [Keyed, List.map_cons, List.nodup_cons] at hu
    rcases List.mem_cons.mp ho with rfl | ho
    · simp [find]
    · have hne : key x ≠ key o := fun h => hu.1 (h ▸ List.mem_map_of_mem ho)
      simp only [find, List.find?_cons, hne, decide_false]
      exact ih hu.2 ho

theorem keyed_settle {gone : α → Bool} (hf : ∀ o, key o = k → key (f o) = k)
    (hu : Keyed key os) : Keyed key (settle key gone os k f) := by
  unfold settle
  split
  · exact hu
  · split
    · exact List.Nodup.sublist (List.Sublist.map key List.filter_sublist) hu
    · have hm : (modify key os k f).map key = os.map key := by
        rw [modify, List.map_map]
        apply List.map_congr_left
        intro o _
        by_cases ho : key o = k
        · simp [ho, hf o ho]
        · simp [ho]
      rw [Keyed, hm]
      exact hu

theorem keyed_append (hu : Keyed key os) (hn : find key os (key o) = none) :
    Keyed key (os ++ [o]) := by
  rw [find, List.find?_eq_none] at hn
  rw [Keyed, List.map_append, List.map_singleton, List.nodup_append]
  refine ⟨hu,by simp,?_⟩
  intro a ha b hb hab
  rw [List.mem_singleton] at hb
  obtain ⟨x,hx,rfl⟩ := List.mem_map.mp ha
  exact hn x hx (by simpa using hab.trans hb)

end Keyed

end ProxmoxCSI.ObjectStore
