import Mathlib.Algebra.Order.Ring.Int
import Mathlib.Data.List.Infix

/-!
# Scanning texts

Searching, cutting and splitting of texts by one separator, and decimal
numbers, with the conventions of the usual string packages: a cut happens at
the first separator, a bounded split leaves the remainder uncut, a number has
an optional sign and must fit sixty-four bits.
-/

set_option autoImplicit false

namespace ProxmoxCSI.TextScan

variable {α : Type} [DecidableEq α]

def cutList (c : α) : List α → Option (List α × List α)
  | [] => none
  | x::xs => if x = c then some ([],xs) else (cutList c xs).map (fun p => (x::p.1,p.2))

theorem cutList_append (c : α) (a b : List α) (h : c ∉ a) :
    cutList c (a ++ c::b) = some (a,b) := by
  induction a with
  | nil => simp [cutList]
  | cons x a ih =>
    rw [List.mem_cons, not_or] at h
    simp [cutList, Ne.symm h.1, ih h.2]

theorem cutList_eq_none (c : α) (s : List α) : cutList c s = none ↔ c ∉ s := by
  induction s with
  | nil => simp [cutList]
  | cons x s ih =>
    by_cases h : x = c
    · simp [cutList, h]
    · simp [cutList, h, ih, Ne.symm h]

theorem cutList_some {c : α} {s a b : List α} (h : cutList c s = some (a,b)) :
    s = a ++ c::b ∧ c ∉ a := by
  induction s generalizing a with
  | nil => simp [cutList] at h
  | cons x s ih =>
    by_cases hx : x = c
    · simp only [cutList, hx, if_true, Option.some.injEq, Prod.mk.injEq] at h
      obtain ⟨rfl,rfl⟩ := h
      simp [hx]
    · simp only [cutList, hx, if_false, Option.map_eq_some_iff, Prod.mk.injEq, Prod.exists] at h
      obtain ⟨a',b',hs,rfl,rfl⟩ := h
      obtain ⟨rfl,hc⟩ := ih hs
      exact ⟨rfl,by simp [Ne.symm hx, hc]⟩

def splitList (c : α) : ℕ → List α → List (List α)
  | 0, _ => []
  | 1, s => [s]
  | n+2, s => match cutList c s with
    | none => [s]
    | some (a,b) => a :: splitList c (n+1) b

def contains (s sub : String) : Bool := decide (sub.toList <:+: s.toList)

def hasPrefix (s p : String) : Bool := decide (p.toList <+: s.toList)

def hasSuffix (s p : String) : Bool := decide (p.toList <:+ s.toList)

def trimPrefix (s p : String) : String :=
  if hasPrefix s p then String.ofList (s.toList.drop p.toList.length) else s

def trimSuffix (s p : String) : String :=
  if hasSuffix s p then String.ofList (s.toList.take (s.toList.length-p.toList.length)) else s

def cut (s : String) (c : Char) : Option (String × String) :=
  (cutList c s.toList).map (fun p => (String.ofList p.1,String.ofList p.2))

def splitN (s : String) (c : Char) (n : ℕ) : List String := (splitList c n s.toList).map String.ofList

def split (s : String) (c : Char) : List String := splitN s c (s.toList.length+1)

def firstPiece (s : String) (c : Char) : String :=
  match cut s c with
  | none => s
  | some (a,_) => a

def digitsValue (ds : List Char) : Option ℕ :=
  if ds ≠ [] ∧ ds.all Char.isDigit then some (Nat.ofDigitChars 10 ds 0) else none

def inInt64 (n : ℤ) : Option ℤ := if -2^63 ≤ n ∧ n < 2^63 then some n else none

def atoi (s : String) : Option ℤ :=
  match s.toList with
  | '-'::ds => (digitsValue ds).bind (fun n => inInt64 (-(n : ℤ)))
  | '+'::ds => (digitsValue ds).bind (fun n => inInt64 n)
  | ds => (digitsValue ds).bind (fun n => inInt64 n)

theorem contains_iff (s sub : String) : contains s sub = true ↔ sub.toList <:+: s.toList := by
  simp [contains]

theorem repr_digits (n : ℕ) : ∀ c ∈ (toString n).toList, c.isDigit = true := by
  intro c hc
  have hn : (toString n).toList = Nat.toDigits 10 n := by simp
  exact Nat.isDigit_of_mem_toDigits (by decide) (by decide) (hn ▸ hc)

theorem digitsValue_repr (n : ℕ) : digitsValue (toString n).toList = some n := by
  have hd := repr_digits n
  have hn : (toString n).toList = Nat.toDigits 10 n := by simp
  rw [hn] at hd ⊢
  rw [digitsValue, if_pos ⟨Nat.toDigits_ne_nil,by simpa using hd⟩]
  rw [Nat.ofDigitChars_ten_toDigits]

theorem repr_ne (n : ℕ) : toString n ≠ "" := by
  intro h
  have hd : (toString n).toList = Nat.toDigits 10 n := by simp
  rw [h] at hd
  exact Nat.toDigits_ne_nil hd.symm

theorem numeral_ne (n : ℤ) : toString n ≠ "" := by
  cases n with
  | ofNat k => exact repr_ne k
  | negSucc k =>
    show "-" ++ toString (k+1) ≠ ""
    simp

theorem numeral_notMem {c : Char} (hd : c.isDigit = false) (hm : c ≠ '-') (n : ℤ) :
    c ∉ (toString n).toList := by
  have hnat : ∀ k : ℕ, c ∉ (toString k).toList := by
    intro k hc
    rw [repr_digits k c hc] at hd
    cases hd
  cases n with
  | ofNat k => exact hnat k
  | negSucc k =>
    have ht : toString (Int.negSucc k) = "-" ++ toString (k+1) := rfl
    rw [ht, String.toList_append, List.mem_append, not_or]
    exact ⟨by simpa using hm,hnat (k+1)⟩

theorem atoi_repr (n : ℕ) (h : n < 2^63) : atoi (toString n) = some (n : ℤ) := by
  have hd := repr_digits n
  have hv := digitsValue_repr n
  have hi : inInt64 (n : ℤ) = some (n : ℤ) := by
    rw [inInt64, if_pos]
    exact ⟨by omega,by omega⟩
  unfold atoi
  split
  · rename_i ds hs
    exact absurd (hd '-' (hs ▸ List.mem_cons_self)) (by decide)
  · rename_i ds hs
    exact absurd (hd '+' (hs ▸ List.mem_cons_self)) (by decide)
  · rw [hv, Option.bind_some, hi]

theorem atoi_range {s : String} {n : ℤ} (h : atoi s = some n) : -2^63 ≤ n ∧ n < 2^63 := by
  have hrange : ∀ {m n : ℤ}, inInt64 m = some n → -2^63 ≤ n ∧ n < 2^63 := by
    intro m n h
    unfold inInt64 at h
    split at h
    · rename_i hr
      cases h
      exact hr
    · cases h
  unfold atoi at h
  split at h
  all_goals
    obtain ⟨m,_,hm⟩ := Option.bind_eq_some_iff.mp h
    exact hrange hm

theorem atoi_numeral {n : ℤ} (h₁ : -2^63 ≤ n) (h₂ : n < 2^63) : atoi (toString n) = some n := by
  cases n with
  | ofNat m =>
    have hm : toString (Int.ofNat m) = toString m := rfl
    rw [hm, atoi_repr m (by simp only [Int.ofNat_eq_natCast] at h₂; omega)]
    rfl
  | negSucc m =>
    have ht : toString (Int.negSucc m) = "-" ++ toString (m+1) := rfl
    have hs : (toString (Int.negSucc m)).toList = '-'::(toString (m+1)).toList := by
      rw [ht, String.toList_append]
      rfl
    unfold atoi
    rw [hs]
    show (digitsValue (toString (m+1)).toList).bind _ = _
    rw [digitsValue_repr, Option.bind_some, inInt64, if_pos]
    · rfl
    · exact ⟨by omega,by omega⟩

theorem firstPiece_notMem (s : String) {c : Char} : c ∉ (firstPiece s c).toList := by
  unfold firstPiece cut
  cases h : cutList c s.toList with
  | none => exact (cutList_eq_none c _).mp h
  | some p =>
    rw [Option.map_some]
    show c ∉ (String.ofList p.1).toList
    rw [String.toList_ofList]
    exact (cutList_some h).2

theorem firstPiece_cut {a b s : String} {c : Char} (hs : s.toList = a.toList ++ c :: b.toList)
    (h : c ∉ a.toList) : firstPiece s c = a := by
  rw [firstPiece, cut, hs, cutList_append c _ _ h]
  simp

theorem firstPiece_whole {s : String} {c : Char} (h : c ∉ s.toList) : firstPiece s c = s := by
  rw [firstPiece, cut, (cutList_eq_none c _).mpr h, Option.map_none]

theorem hasSuffix_split {s x : String} (h : hasSuffix s x) :
    s.toList = (trimSuffix s x).toList ++ x.toList := by
  rw [trimSuffix, if_pos h]
  obtain ⟨p,hp⟩ := of_decide_eq_true h
  rw [← hp]
  simp

end ProxmoxCSI.TextScan
