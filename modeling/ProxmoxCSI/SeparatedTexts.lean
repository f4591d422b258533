import ProxmoxCSI.TextScan

/-!
# Texts joined and split at a separator

A split undoes a join of pieces that do not hold the separator, and no piece of
a split holds it.
-/

set_option autoImplicit false

namespace ProxmoxCSI.SeparatedTexts
open TextScan

section Lists

variable {α : Type} [DecidableEq α] {c : α}

/-- The first separator of a text is that of its first part, if it has one there. -/
theorem cutList_extend (a r : List α) : cutList c (a ++ r) = match cutList c a with
    | some p => some (p.1,p.2 ++ r)
    | none => (cutList c r).map (fun p => (a ++ p.1,p.2)) := by
  induction a with
  | nil => simp [cutList]
  | cons x a ih =>
    rw [List.cons_append, cutList, cutList, ih]
    by_cases hx : x = c
    · simp [hx]
    · cases cutList c a with
      | none =>
        cases cutList c r with
        | none => simp [hx]
        | some p => simp [hx]
      | some p => simp [hx]

theorem splitOn_cut {a b : List α} (ha : c ∉ a) : (a ++ c::b).splitOn c = a :: b.splitOn c := by
  refine List.splitOnP_append_cons_of_forall_mem ?_ c (by simp) b
  intro x hx
  simpa using fun h : x = c => ha (h ▸ hx)

theorem splitOn_single {s : List α} (hs : c ∉ s) : s.splitOn c = [s] := by
  refine List.splitOnP_eq_singleton ?_
  intro x hx
  simpa using fun h : x = c => hs (h ▸ hx)

/-- A bound above the length does not bound the split. -/
theorem splitList_splitOn {n : ℕ} {s : List α} (h : s.length < n) :
    splitList c n s = s.splitOn c := by
  induction n generalizing s with
  | zero => exact absurd h (Nat.not_lt_zero _)
  | succ n ih =>
    cases n with
    | zero =>
      obtain rfl : s = [] := List.length_eq_zero_iff.mp (by omega)
      rfl
    | succ n =>
      rw [splitList]
      cases hc : cutList c s with
      | none => rw [splitOn_single ((cutList_eq_none c s).mp hc)]
      | some p =>
        obtain ⟨a,b⟩ := p
        obtain ⟨rfl,ha⟩ := cutList_some hc
        simp only [List.length_append, List.length_cons] at h
        rw [splitOn_cut ha, ← ih (by omega)]

theorem notMem_splitOn {s p : List α} (hp : p ∈ s.splitOn c) : c ∉ p := by
  induction hn : s.length using Nat.strong_induction_on generalizing s with
  | _ n ih =>
    cases hc : cutList c s with
    | none =>
      have hs := (cutList_eq_none c s).mp hc
      rw [splitOn_single hs, List.mem_singleton] at hp
      exact hp ▸ hs
    | some q =>
      obtain ⟨a,b⟩ := q
      obtain ⟨rfl,ha⟩ := cutList_some hc
      rw [splitOn_cut ha] at hp
      rcases List.mem_cons.mp hp with rfl | hp
      · exact ha
      · simp only [List.length_append, List.length_cons] at hn
        exact ih b.length (by omega) hp rfl

theorem splitOn_terminated {xs : List (List α)} (h : ∀ x ∈ xs, c ∉ x) :
    (xs.flatMap (fun x => x ++ [c])).splitOn c = xs ++ [[]] := by
  induction xs with
  | nil => exact splitOn_single (by simp)
  | cons x xs ih =>
    have hx := h x List.mem_cons_self
    rw [List.flatMap_cons, List.append_assoc, List.singleton_append, splitOn_cut hx,
      ih (fun y hy => h y (List.mem_cons_of_mem x hy)), List.cons_append]

/-- Texts that are each closed by the separator are read off again. -/
theorem terminated_injective {xs ys : List (List α)} (hx : ∀ x ∈ xs, c ∉ x) (hy : ∀ y ∈ ys, c ∉ y)
    (h : xs.flatMap (fun x => x ++ [c]) = ys.flatMap (fun y => y ++ [c])) : xs = ys := by
  have hs := congrArg (List.splitOn c) h
  rw [splitOn_terminated hx, splitOn_terminated hy] at hs
  exact List.append_cancel_right hs

end Lists

variable {c : Char} {s : String}

theorem split_eq (s : String) (c : Char) :
    split s c = (s.toList.splitOn c).map String.ofList := by
  rw [split, splitN, splitList_splitOn (Nat.lt_succ_self _)]

theorem notMem_split {p : String} (hp : p ∈ split s c) : c ∉ p.toList := by
  rw [split_eq] at hp
  obtain ⟨q,hq,rfl⟩ := List.mem_map.mp hp
  rw [String.toList_ofList]
  exact notMem_splitOn hq

theorem split_single (hs : c ∉ s.toList) : split s c = [s] := by
  rw [split_eq, splitOn_single hs]
  simp

theorem split_cut {a b : String} (ha : c ∉ a.toList) (hs : s.toList = a.toList ++ c::b.toList) :
    split s c = a :: split b c := by
  rw [split_eq, hs, splitOn_cut ha, split_eq, List.map_cons, String.ofList_toList]

theorem split_joined {ps : List String} (hne : ps ≠ []) (h : ∀ p ∈ ps, c ∉ p.toList) :
    split (String.intercalate (String.singleton c) ps) c = ps := by
  have hl : ∀ l ∈ ps.map String.toList, c ∉ l := by
    intro l hm
    obtain ⟨p,hp,rfl⟩ := List.mem_map.mp hm
    exact h p hp
  have hs : (String.singleton c).toList = [c] := String.toList_singleton c
  rw [split_eq, String.toList_intercalate, hs,
    List.splitOn_intercalate c hl (by simpa using hne), List.map_map]
  simp

/-- Two pieces are the text before and after the only separator. -/
theorem split_pair {a b : String} : split s c = [a,b] ↔
    s.toList = a.toList ++ c::b.toList ∧ c ∉ a.toList ∧ c ∉ b.toList := by
  constructor
  · intro h
    have ha : c ∉ a.toList := notMem_split (s := s) (by rw [h]; simp)
    have hb : c ∉ b.toList := notMem_split (s := s) (by rw [h]; simp)
    refine ⟨?_,ha,hb⟩
    have hj : [c].intercalate (s.toList.splitOn c) = s.toList := List.intercalate_splitOn c
    have hm : s.toList.splitOn c = [a.toList,b.toList] := by
      have hl := congrArg (List.map String.toList) h
      rw [split_eq, List.map_map] at hl
      simpa using hl
    rw [hm] at hj
    rw [← hj]
    simp [List.intercalate]
  · rintro ⟨hs,ha,hb⟩
    rw [split_cut ha hs, split_single hb]

end ProxmoxCSI.SeparatedTexts
