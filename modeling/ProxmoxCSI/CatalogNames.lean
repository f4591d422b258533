import Mathlib.Data.List.Chain
import Mathlib.Data.List.DropRight
import ProxmoxCSI.SeparatedTexts

/-!
# Names of catalog objects

A storage is published under its coordinate, lower-cased, with every character a
name may not have replaced, and joined by dots. A digest of the exact coordinate
is appended when something was replaced or the text is too long, and stands alone
when nothing is left. Names are byte strings; lower-casing and the digest are
computed elsewhere.
-/

set_option autoImplicit false

namespace ProxmoxCSI.CatalogNames
open SeparatedTexts

abbrev Bytes := List UInt8

def dot : UInt8 := 46

def dash : UInt8 := 45

def alnum (c : UInt8) : Bool := (97 ≤ c && c ≤ 122) || (48 ≤ c && c ≤ 57)

def permitted (c : UInt8) : Bool := alnum c || c == dash || c == dot

def edge (c : UInt8) : Bool := c == dash || c == dot

def legible (c : UInt8) : UInt8 := if permitted c then c else dash

def sanitize (s : Bytes) : Bytes := ((s.map legible).dropWhile edge).rdropWhile edge

structure Renderer where
  lower : Bytes → Bytes
  digest : Bytes → Bytes
  digest_length : ∀ key, (digest key).length = 8
  digest_alnum : ∀ key, ∀ c ∈ digest key, alnum c = true

structure Coordinate where
  region : Bytes
  zone : Bytes
  storage : Bytes
  deriving DecidableEq

def joinDots : List Bytes → Bytes
  | [] => []
  | [l] => l
  | l :: ls => l ++ dot :: joinDots ls

def maxNameLength : ℕ := 253

def truncated (name : Bytes) (n : ℕ) : Bytes :=
  if maxNameLength < name.length+n then (name.take (maxNameLength-n)).rdropWhile edge else name

section Naming

variable (R : Renderer) (c : Coordinate)

def parts : List Bytes := c.region :: ((if c.zone = [] then [] else [c.zone]) ++ [c.storage])

def key : Bytes := c.region ++ 0 :: (c.zone ++ 0 :: c.storage)

def lowered : List Bytes := (parts c).map R.lower

def labels : List Bytes := ((lowered R c).map sanitize).filter (fun l => l ≠ [])

def exact : Prop := ∀ l ∈ lowered R c, sanitize l = l

instance : Decidable (exact R c) := by unfold exact; infer_instance

def objectName : Bytes :=
  if labels R c = [] then R.digest (key c)
  else
    let name := joinDots (labels R c)
    if exact R c ∧ name.length ≤ maxNameLength then name
    else
      let suffix := dash :: R.digest (key c)
      truncated name suffix.length ++ suffix

end Naming

section Labels

/-- A label of a DNS-1123 subdomain. -/
structure IsLabel (l : Bytes) : Prop where
  filled : l ≠ []
  chars : ∀ c ∈ l, alnum c = true ∨ c = dash
  first : ∀ c ∈ l.head?, alnum c = true
  last : ∀ c ∈ l.getLast?, alnum c = true

structure IsSubdomain (s : Bytes) : Prop where
  filled : s ≠ []
  short : s.length ≤ 253
  labels : ∀ l ∈ s.splitOn dot, IsLabel l

structure Edged (s : Bytes) : Prop where
  chars : ∀ c ∈ s, permitted c = true
  first : ∀ c ∈ s.head?, alnum c = true
  last : ∀ c ∈ s.getLast?, alnum c = true

theorem edged_iff_all {s : Bytes} : s.all permitted = true ∧ s.head?.all alnum = true ∧
    s.getLast?.all alnum = true ↔ Edged s := by
  simp only [List.all_eq_true, Option.all_eq_true]
  exact ⟨fun h => ⟨h.1,h.2.1,h.2.2⟩,fun h => ⟨h.chars,h.first,h.last⟩⟩

instance (s : Bytes) : Decidable (Edged s) := decidable_of_iff _ edged_iff_all

def Spaced (x y : UInt8) : Prop := (x = dot → alnum y = true) ∧ (y = dot → alnum x = true)

instance : DecidableRel Spaced := fun x y => by unfold Spaced; infer_instance

variable {s a b : Bytes}

theorem not_alnum_dot : ¬alnum dot = true := by decide

theorem permitted_iff {c : UInt8} : permitted c = true ↔ alnum c = true ∨ c = dash ∨ c = dot := by
  simp [permitted, or_assoc]

theorem edge_alnum {c : UInt8} (h : alnum c = true) : ¬edge c = true := by
  intro he
  rcases (by simpa [edge] using he : c = dash ∨ c = dot) with rfl | rfl <;> exact absurd h (by decide)

theorem spaced_undotted {t : Bytes} (h : dot ∉ t) : t.IsChain Spaced := by
  refine List.Pairwise.isChain (List.pairwise_of_forall_mem_list ?_)
  intro x hx y hy
  exact ⟨fun he => absurd (he ▸ hx) h,fun he => absurd (he ▸ hy) h⟩

theorem isLabel_iff (h : dot ∉ s) : IsLabel s ↔ s ≠ [] ∧ Edged s := by
  constructor
  · rintro ⟨hf,hc,h₁,h₂⟩
    exact ⟨hf,fun c hm => permitted_iff.mpr ((hc c hm).imp_right .inl),h₁,h₂⟩
  · rintro ⟨hf,hc,h₁,h₂⟩
    refine ⟨hf,fun c hm => ?_,h₁,h₂⟩
    rcases permitted_iff.mp (hc c hm) with h' | h' | h'
    · exact .inl h'
    · exact .inr h'
    · exact absurd (h' ▸ hm) h

theorem edged_append (ha : dot ∉ a) : Edged (a ++ dot :: b) ∧ (a ++ dot :: b).IsChain Spaced ↔
    IsLabel a ∧ b ≠ [] ∧ Edged b ∧ b.IsChain Spaced := by
  rw [isLabel_iff ha, List.isChain_append, List.isChain_cons]
  constructor
  · rintro ⟨⟨hc,hf,hl⟩,_,⟨hdot,hb⟩,hlink⟩
    have hane : a ≠ [] := by
      rintro rfl
      exact not_alnum_dot (hf dot rfl)
    have hbne : b ≠ [] := by
      rintro rfl
      exact not_alnum_dot (hl dot (by simp))
    have hcut : (a ++ dot :: b).getLast? = b.getLast? := by
      rw [List.getLast?_append_of_ne_nil _ (by simp), List.getLast?_cons_of_ne_nil hbne]
    rw [hcut] at hl
    rw [List.head?_append_of_ne_nil _ hane] at hf
    refine ⟨⟨hane,⟨fun c hm => hc c (by simp [hm]),hf,fun c hm => (hlink c hm dot rfl).2 rfl⟩⟩,
      hbne,⟨fun c hm => hc c (by simp [hm]),fun c hm => (hdot c hm).1 rfl,hl⟩,hb⟩
  · rintro ⟨⟨hane,hac,haf,hal⟩,hbne,⟨hbc,hbf,hbl⟩,hb⟩
    refine ⟨⟨?_,?_,?_⟩,spaced_undotted ha,⟨fun y hy => ⟨fun _ => hbf y hy,?_⟩,hb⟩,?_⟩
    · intro c hm
      rcases List.mem_append.mp hm with hm | hm
      · exact hac c hm
      · rcases List.mem_cons.mp hm with rfl | hm
        · rfl
        · exact hbc c hm
    · rwa [List.head?_append_of_ne_nil _ hane]
    · rwa [List.getLast?_append_of_ne_nil _ (by simp), List.getLast?_cons_of_ne_nil hbne]
    · rintro rfl
      exact absurd (hbf dot hy) not_alnum_dot
    · intro x hx y hy
      cases hy
      refine ⟨?_,fun _ => hal x hx⟩
      rintro rfl
      exact absurd (hal dot hx) not_alnum_dot

/-- Every label is one exactly when the text is one but for its dots, and these are spaced. -/
theorem labels_iff (s : Bytes) :
    (∀ l ∈ s.splitOn dot, IsLabel l) ↔ s ≠ [] ∧ Edged s ∧ s.IsChain Spaced := by
  induction hn : s.length using Nat.strong_induction_on generalizing s with
  | _ n ih =>
    cases hc : TextScan.cutList dot s with
    | none =>
      have hd := (TextScan.cutList_eq_none dot s).mp hc
      rw [splitOn_single hd, List.forall_mem_singleton, isLabel_iff hd]
      exact ⟨fun h => ⟨h.1,h.2,spaced_undotted hd⟩,fun h => ⟨h.1,h.2.1⟩⟩
    | some p =>
      obtain ⟨a,b⟩ := p
      obtain ⟨rfl,ha⟩ := TextScan.cutList_some hc
      simp only [List.length_append, List.length_cons] at hn
      rw [splitOn_cut ha, List.forall_mem_cons, ih b.length (by omega) b rfl, ← edged_append ha]
      simp

end Labels

section Components

variable {s t : Bytes} {n : ℕ}

def junk (c : UInt8) : Bool := !alnum c

def inner (s : Bytes) : Bytes := (s.dropWhile junk).rdropWhile junk

def core (n : ℕ) (s : Bytes) : Bytes := ((inner s).take n).rdropWhile junk

/-- Each component with the bytes that are left for it behind those in front of it. -/
def portions (n : ℕ) : List Bytes → List (ℕ × Bytes)
  | [] => []
  | s::ss => (n,s) :: portions (if inner s = [] then n else n-((inner s).length+1)) ss

def cuts (n : ℕ) (ss : List Bytes) : List Bytes :=
  ((portions n ss).map (fun p => (core p.1 p.2).map legible)).filter (fun l => l ≠ [])

theorem alnum_legible (c : UInt8) : alnum (legible c) = alnum c := by
  unfold legible
  split
  · rfl
  · rename_i h
    have hc : alnum c = false := by
      by_contra hc
      exact h (permitted_iff.mpr (.inl (by simpa using hc)))
    rw [hc]
    rfl

theorem permitted_legible (c : UInt8) : permitted (legible c) = true := by
  unfold legible
  split
  · assumption
  · rfl

theorem edge_legible (c : UInt8) : edge (legible c) = junk c := by
  rw [junk, ← alnum_legible]
  have hp := permitted_iff.mp (permitted_legible c)
  generalize legible c = x at hp
  rcases hp with h | rfl | rfl
  · rw [h, Bool.eq_false_iff.mpr (edge_alnum h)]
    rfl
  · rfl
  · rfl

theorem legible_dot {c : UInt8} : legible c = dot ↔ c = dot := by
  unfold legible
  split
  · rfl
  · rename_i h
    refine iff_of_false (by decide) ?_
    rintro rfl
    exact h rfl

theorem spaced_legible {x y : UInt8} : Spaced (legible x) (legible y) ↔ Spaced x y := by
  simp only [Spaced, legible_dot, alnum_legible]

theorem rdropWhile_legible (t : Bytes) :
    (t.map legible).rdropWhile edge = (t.rdropWhile junk).map legible := by
  have he : edge ∘ legible = junk := funext edge_legible
  rw [List.rdropWhile, ← List.map_reverse, List.dropWhile_map, he, List.rdropWhile, List.map_reverse]

theorem sanitize_eq (s : Bytes) : sanitize s = (inner s).map legible := by
  have he : edge ∘ legible = junk := funext edge_legible
  rw [sanitize, List.dropWhile_map, he, rdropWhile_legible]
  rfl

theorem sanitize_cut (n : ℕ) (s : Bytes) :
    ((sanitize s).take n).rdropWhile edge = (core n s).map legible := by
  rw [sanitize_eq, ← List.map_take, rdropWhile_legible]
  rfl

theorem sanitize_nil : sanitize s = [] ↔ inner s = [] := by
  rw [sanitize_eq, List.map_eq_nil_iff]

/-- A text that begins with a letter or digit ends with one when the rest is dropped. -/
theorem rdropWhile_edged (h : ∀ c ∈ t.head?, alnum c = true) :
    Edged ((t.rdropWhile junk).map legible) := by
  refine ⟨fun c hc => ?_,fun c hc => ?_,fun c hc => ?_⟩
  · obtain ⟨x,_,rfl⟩ := List.mem_map.mp hc
    exact permitted_legible x
  · rw [List.head?_map] at hc
    obtain ⟨x,hx,rfl⟩ := Option.map_eq_some_iff.mp hc
    obtain ⟨u,hu⟩ := List.rdropWhile_prefix junk (l := t)
    rw [alnum_legible]
    refine h x ?_
    rw [← hu, List.head?_append_of_ne_nil _ (List.ne_nil_of_mem (List.mem_of_mem_head? hx))]
    exact hx
  · rw [List.getLast?_map] at hc
    obtain ⟨x,hx,rfl⟩ := Option.map_eq_some_iff.mp hc
    have hne := List.ne_nil_of_mem (List.mem_of_mem_getLast? hx)
    have hlast := List.rdropWhile_last_not junk _ hne
    rw [List.getLast?_eq_some_getLast hne] at hx
    cases hx
    rw [alnum_legible]
    simpa [junk] using hlast

theorem inner_head (s : Bytes) : ∀ c ∈ (inner s).head?, alnum c = true := by
  intro c hc
  obtain ⟨u,hu⟩ := List.rdropWhile_prefix junk (l := s.dropWhile junk)
  have hhead : c ∈ (s.dropWhile junk).head? := by
    unfold inner at hc
    rw [← hu, List.head?_append_of_ne_nil _ (List.ne_nil_of_mem (List.mem_of_mem_head? hc))]
    exact hc
  have hnot := List.head?_dropWhile_not junk s
  rw [Option.mem_def.mp hhead] at hnot
  simpa [junk] using hnot

theorem core_edged (n : ℕ) (s : Bytes) : Edged ((core n s).map legible) := by
  refine rdropWhile_edged (fun c hc => inner_head s c ?_)
  cases n with
  | zero => cases hc
  | succ n => rwa [List.head?_take, if_neg (Nat.succ_ne_zero n)] at hc

theorem sanitize_edged (s : Bytes) : Edged (sanitize s) := by
  have hself : core (inner s).length s = inner s := by
    rw [core, List.take_length]
    exact List.rdropWhile_idempotent junk _
  rw [sanitize_eq, ← hself]
  exact core_edged _ s

theorem cuts_edged {n : ℕ} {ss : List Bytes} : ∀ l ∈ cuts n ss, l ≠ [] ∧ Edged l := by
  intro l hl
  obtain ⟨hm,hne⟩ := List.mem_filter.mp hl
  obtain ⟨p,_,rfl⟩ := List.mem_map.mp hm
  exact ⟨of_decide_eq_true hne,core_edged p.1 p.2⟩

end Components

section Joined

variable {l t : Bytes} {ls : List Bytes}

/-- Labels with ends of their own joined by dots have such ends. -/
theorem joinDots_edged (h : ∀ l ∈ ls, l ≠ [] ∧ Edged l) :
    Edged (joinDots ls) ∧ (joinDots ls = [] ↔ ls = []) := by
  induction ls with
  | nil => exact ⟨⟨by simp [joinDots],by simp [joinDots],by simp [joinDots]⟩,by simp [joinDots]⟩
  | cons l ls ih =>
    obtain ⟨hne,hc,hf,hl⟩ := h l List.mem_cons_self
    obtain ⟨⟨ihc,_,ihl⟩,ihne⟩ := ih (fun x hx => h x (List.mem_cons_of_mem l hx))
    cases ls with
    | nil => exact ⟨⟨hc,hf,hl⟩,by simpa [joinDots] using hne⟩
    | cons l' ls =>
      have hrest : joinDots (l' :: ls) ≠ [] := fun he => by simpa using ihne.mp he
      refine ⟨⟨?_,?_,?_⟩,by simp [joinDots]⟩
      · intro c hm
        rcases List.mem_append.mp hm with hm | hm
        · exact hc c hm
        · rcases List.mem_cons.mp hm with rfl | hm
          · rfl
          · exact ihc c hm
      · show ∀ c ∈ (l ++ dot :: joinDots (l' :: ls)).head?, _
        rwa [List.head?_append_of_ne_nil _ hne]
      · show ∀ c ∈ (l ++ dot :: joinDots (l' :: ls)).getLast?, _
        rwa [List.getLast?_append_of_ne_nil _ (by simp), List.getLast?_cons_of_ne_nil hrest]

theorem joinDots_spaced (h : ∀ l ∈ ls, l ≠ [] ∧ Edged l) :
    (joinDots ls).IsChain Spaced ↔ ∀ l ∈ ls, l.IsChain Spaced := by
  induction ls with
  | nil => simp [joinDots]
  | cons l ls ih =>
    have htail : ∀ x ∈ ls, x ≠ [] ∧ Edged x := fun x hx => h x (List.mem_cons_of_mem l hx)
    cases ls with
    | nil => simp [joinDots]
    | cons l' ls =>
      have hl := (h l List.mem_cons_self).2
      have hrest := (joinDots_edged htail).1
      rw [List.forall_mem_cons, ← ih htail, joinDots, List.isChain_append, List.isChain_cons]
      refine ⟨fun hc => ⟨hc.1,hc.2.1.2⟩,fun hc => ⟨hc.1,⟨fun y hy => ?_,hc.2⟩,?_⟩⟩
      · have hy' := hrest.first y hy
        exact ⟨fun _ => hy',fun he => absurd (he ▸ hy') not_alnum_dot⟩
      · intro x hx y hy
        cases hy
        have hx' := hl.last x hx
        exact ⟨fun he => absurd (he ▸ hx') not_alnum_dot,fun _ => hx'⟩
      · simp

theorem splitOn_joinDots (h : ls ≠ []) :
    (joinDots ls).splitOn dot = ls.flatMap (fun l => l.splitOn dot) := by
  induction ls with
  | nil => exact absurd rfl h
  | cons l ls ih =>
    cases ls with
    | nil => simp [joinDots]
    | cons l' ls =>
      rw [List.flatMap_cons, ← ih (by simp)]
      exact List.splitOnP_append_cons l (joinDots (l' :: ls)) (by simp)

theorem rdropWhile_append (p : UInt8 → Bool) (a b : Bytes) : (a ++ b).rdropWhile p =
    if b.rdropWhile p = [] then a.rdropWhile p else a ++ b.rdropWhile p := by
  have hb : b.rdropWhile p = [] ↔ (b.reverse.dropWhile p).isEmpty = true := by
    rw [List.rdropWhile, List.reverse_eq_nil_iff, List.isEmpty_iff]
  rw [List.rdropWhile, List.reverse_append, List.dropWhile_append]
  by_cases h : b.rdropWhile p = []
  · rw [if_pos h, if_pos (hb.mp h)]
    rfl
  · rw [if_neg h, if_neg (fun he => h (hb.mpr he)), List.reverse_append, List.reverse_reverse]
    rfl

theorem rdropWhile_edge (h : Edged t) : t.rdropWhile edge = t := by
  rw [List.rdropWhile_eq_self_iff]
  intro hne
  exact edge_alnum (h.last _ (List.getLast?_eq_some_getLast hne))

theorem rdropWhile_take_ne {n : ℕ} (hn : 0 < n) (hne : t ≠ []) (h : Edged t) :
    (t.take n).rdropWhile edge ≠ [] := by
  obtain ⟨x,xs,rfl⟩ := List.exists_cons_of_ne_nil hne
  obtain ⟨k,rfl⟩ : ∃ k, n = k+1 := ⟨n-1,by omega⟩
  rw [Ne, List.rdropWhile_eq_nil_iff]
  exact fun hall => edge_alnum (h.first x rfl) (hall x (by simp))

theorem joinDots_cons (h : ls ≠ []) : joinDots (l::ls) = l ++ dot :: joinDots ls := by
  cases ls with
  | nil => exact absurd rfl h
  | cons l' ls => rfl

theorem joinDots_filled (l : Bytes) : joinDots ([l].filter (fun l => l ≠ [])) = l := by
  by_cases h : l = []
  · subst h
    rfl
  · rw [List.filter_cons_of_pos (by simpa using h)]
    rfl

theorem cuts_cons {n : ℕ} {s : Bytes} (ss : List Bytes) (h : inner s ≠ []) :
    cuts n (s::ss) = [(core n s).map legible].filter (fun l => l ≠ []) ++
      cuts (n-((inner s).length+1)) ss := by
  rw [cuts, portions, if_neg h, List.map_cons, ← List.singleton_append, List.filter_append]
  rfl

theorem sanitized_edged (ss : List Bytes) :
    ∀ l ∈ (ss.map sanitize).filter (fun l => l ≠ []), l ≠ [] ∧ Edged l := by
  intro l hl
  obtain ⟨hm,hne⟩ := List.mem_filter.mp hl
  obtain ⟨t,_,rfl⟩ := List.mem_map.mp hm
  exact ⟨of_decide_eq_true hne,sanitize_edged t⟩

/-- Cutting the joined text cuts the component that the end falls into. -/
theorem cut_joinDots (n : ℕ) (ss : List Bytes) :
    ((joinDots ((ss.map sanitize).filter (fun l => l ≠ []))).take n).rdropWhile edge =
      joinDots (cuts n ss) := by
  induction ss generalizing n with
  | nil => simp [joinDots, cuts, portions]
  | cons s ss ih =>
    by_cases hs : sanitize s = []
    · have hin := sanitize_nil.mp hs
      have hcore : core n s = [] := by simp [core, hin]
      rw [List.map_cons, List.filter_cons_of_neg (by simpa using hs), ih]
      simp [cuts, portions, hin, hcore]
    · have hin : inner s ≠ [] := fun h => hs (sanitize_nil.mpr h)
      have hlen : (inner s).length = (sanitize s).length := by rw [sanitize_eq, List.length_map]
      have hrest := ih (n-((sanitize s).length+1))
      have hnil := (joinDots_edged (@cuts_edged (n-((sanitize s).length+1)) ss)).2
      have hedged := sanitized_edged ss
      rw [List.map_cons, List.filter_cons_of_pos (by simpa using hs), cuts_cons ss hin, hlen,
        ← sanitize_cut]
      generalize (ss.map sanitize).filter (fun l => l ≠ []) = rest at hrest hedged ⊢
      by_cases hr : rest = []
      · subst hr
        rw [← hrest] at hnil
        rw [hnil.mp (by simp [joinDots]), List.append_nil, joinDots_filled]
        rfl
      · have hv := joinDots_edged hedged
        rw [joinDots_cons hr, List.take_append, rdropWhile_append]
        by_cases hn : n ≤ (sanitize s).length+1
        · have hzero : n-((sanitize s).length+1) = 0 := by omega
          have hdot : ((dot :: joinDots rest).take (n-(sanitize s).length)).rdropWhile edge = [] := by
            rw [List.rdropWhile_eq_nil_iff]
            intro x hx
            have hx' : x ∈ (dot :: joinDots rest).take 1 := List.take_subset_take_left _ (by omega) hx
            rw [List.take_succ_cons, List.take_zero, List.mem_singleton] at hx'
            rw [hx']
            rfl
          rw [hzero] at hrest hnil ⊢
          rw [← hrest] at hnil
          rw [if_pos hdot, hnil.mp (by simp), List.append_nil, joinDots_filled]
        · obtain ⟨m,hm⟩ : ∃ m, n-(sanitize s).length = m+1 := ⟨n-(sanitize s).length-1,by omega⟩
          have hm' : n-((sanitize s).length+1) = m := by omega
          have hkept : ((joinDots rest).take m).rdropWhile edge ≠ [] :=
            rdropWhile_take_ne (by omega) (fun he => hr (hv.2.mp he)) hv.1
          have hcut : (dot :: (joinDots rest).take m).rdropWhile edge =
              dot :: ((joinDots rest).take m).rdropWhile edge := by
            rw [← List.singleton_append, rdropWhile_append, if_neg hkept]
            rfl
          rw [hm'] at hrest hnil ⊢
          have hfull : cuts m ss ≠ [] := fun he => hkept (hrest.trans (hnil.mpr he))
          rw [hm, List.take_succ_cons, hcut, if_neg (by simp), List.take_of_length_le (by omega),
            rdropWhile_edge (sanitize_edged s), List.filter_cons_of_pos (by simpa using hs),
            List.filter_nil, List.singleton_append, joinDots_cons hfull, hrest]

end Joined

section Names

variable {R : Renderer} {c c' : Coordinate}

/-- The components, lower-cased, have only the characters of a name, with a letter or a digit at
both ends, and fit in one. -/
def Plain (R : Renderer) (c : Coordinate) : Prop :=
  (∃ l ∈ lowered R c, l ≠ []) ∧ (∀ l ∈ lowered R c, Edged l) ∧
    (joinDots ((lowered R c).filter (fun l => l ≠ []))).length ≤ maxNameLength

instance (R : Renderer) (c : Coordinate) : Decidable (Plain R c) := by unfold Plain; infer_instance

theorem sanitize_edged_iff {s : Bytes} : sanitize s = s ↔ Edged s := by
  constructor
  · intro h
    rw [← h]
    exact sanitize_edged s
  · intro h
    have hmap : s.map legible = s := by
      conv_rhs => rw [← List.map_id s]
      exact List.map_congr_left (fun c hc => if_pos (h.chars c hc))
    have hdrop : s.dropWhile edge = s := by
      cases s with
      | nil => rfl
      | cons x s => exact List.dropWhile_cons_of_neg (edge_alnum (h.first x rfl))
    rw [sanitize, hmap, hdrop]
    exact rdropWhile_edge h

theorem exact_labels (h : exact R c) : labels R c = (lowered R c).filter (fun l => l ≠ []) := by
  rw [labels, List.map_congr_left (g := id) h, List.map_id]

theorem plain_iff : Plain R c ↔
    labels R c ≠ [] ∧ exact R c ∧ (joinDots (labels R c)).length ≤ maxNameLength := by
  have hexact : exact R c ↔ ∀ l ∈ lowered R c, Edged l :=
    forall₂_congr (fun _ _ => sanitize_edged_iff)
  constructor
  · rintro ⟨⟨l,hl,hne⟩,he,hlen⟩
    have hx := hexact.mpr he
    rw [exact_labels hx]
    exact ⟨List.ne_nil_of_mem (List.mem_filter.mpr ⟨hl,by simpa using hne⟩),hx,hlen⟩
  · rintro ⟨hl,hx,hlen⟩
    rw [exact_labels hx] at hl hlen
    obtain ⟨l,hm⟩ := List.exists_mem_of_ne_nil _ hl
    obtain ⟨hm,hne⟩ := List.mem_filter.mp hm
    exact ⟨⟨l,hm,by simpa using hne⟩,hexact.mp hx,hlen⟩

def limit (R : Renderer) (c : Coordinate) : ℕ :=
  if Plain R c then maxNameLength else maxNameLength-9

def stem (R : Renderer) (c : Coordinate) : Bytes := joinDots (cuts (limit R c) (lowered R c))

theorem stem_eq : stem R c = ((joinDots (labels R c)).take (limit R c)).rdropWhile edge :=
  (cut_joinDots (limit R c) (lowered R c)).symm

theorem stem_nil : stem R c = [] ↔ labels R c = [] := by
  obtain ⟨he,hne⟩ := joinDots_edged (sanitized_edged (lowered R c))
  have hpos : 0 < limit R c := by
    unfold limit
    split <;> decide
  constructor
  · intro h
    by_contra hl
    rw [stem_eq] at h
    exact rdropWhile_take_ne hpos (fun hj => hl (hne.mp hj)) he h
  · intro h
    rw [stem_eq, h]
    simp [joinDots]

theorem stem_whole (h : (joinDots (labels R c)).length ≤ limit R c) :
    stem R c = joinDots (labels R c) := by
  rw [stem_eq, List.take_of_length_le h]
  exact rdropWhile_edge (joinDots_edged (sanitized_edged (lowered R c))).1

theorem stem_plain (h : Plain R c) : stem R c = joinDots (labels R c) := by
  refine stem_whole ?_
  rw [limit, if_pos h]
  exact (plain_iff.mp h).2.2

theorem objectName_plain (h : Plain R c) : objectName R c = stem R c := by
  obtain ⟨hl,he⟩ := plain_iff.mp h
  rw [objectName, if_neg hl, stem_plain h]
  exact if_pos he

theorem objectName_digest (h : labels R c = []) : objectName R c = R.digest (key c) := if_pos h

theorem objectName_digested (hl : labels R c ≠ []) (h : ¬Plain R c) :
    objectName R c = stem R c ++ dash :: R.digest (key c) := by
  have hlen : (dash :: R.digest (key c)).length = 9 := by simp [R.digest_length]
  have hlimit : limit R c = maxNameLength-9 := if_neg h
  rw [objectName, if_neg hl]
  refine (if_neg fun he => h (plain_iff.mpr ⟨hl,he⟩)).trans ?_
  show truncated _ (dash :: R.digest (key c)).length ++ _ = _
  rw [hlen, truncated]
  split
  · rw [stem_eq, hlimit]
  · rename_i hfit
    rw [stem_whole (by omega)]

theorem digest_undotted (R : Renderer) (k : Bytes) : dot ∉ R.digest k := by
  intro h
  exact not_alnum_dot (R.digest_alnum k dot h)

theorem digest_ne (R : Renderer) (k : Bytes) : R.digest k ≠ [] := by
  intro h
  have := R.digest_length k
  rw [h] at this
  cases this

theorem suffix_undotted (R : Renderer) (k : Bytes) : dot ∉ dash :: R.digest k := by
  simpa [dot, dash] using digest_undotted R k

structure Shaped (s : Bytes) : Prop where
  filled : s ≠ []
  short : s.length ≤ 253
  edged : Edged s

/-- The name ends in the digest, with letters and digits in front of it or a hyphen. -/
theorem digested_shaped (hl : labels R c ≠ []) (h : ¬Plain R c) :
    Shaped (stem R c ++ dash :: R.digest (key c)) ∧
      ((stem R c ++ dash :: R.digest (key c)).IsChain Spaced ↔ (stem R c).IsChain Spaced) := by
  have he : Edged (stem R c) := (joinDots_edged cuts_edged).1
  have hne : stem R c ≠ [] := fun hs => hl (stem_nil.mp hs)
  have hd := R.digest_alnum (key c)
  refine ⟨⟨by simp,?_,⟨?_,?_,?_⟩⟩,?_⟩
  · have hlimit : limit R c = maxNameLength-9 := if_neg h
    have hlen := (List.rdropWhile_prefix edge (l := (joinDots (labels R c)).take
      (limit R c))).length_le
    rw [← stem_eq, List.length_take, hlimit, maxNameLength] at hlen
    rw [List.length_append, List.length_cons, R.digest_length]
    omega
  · intro x hx
    rcases List.mem_append.mp hx with hx | hx
    · exact he.chars x hx
    · rcases List.mem_cons.mp hx with rfl | hx
      · rfl
      · exact permitted_iff.mpr (.inl (hd x hx))
  · rw [List.head?_append_of_ne_nil _ hne]
    exact he.first
  · rw [List.getLast?_append_of_ne_nil _ (by simp), List.getLast?_cons_of_ne_nil (digest_ne R _)]
    exact fun x hx => hd x (List.mem_of_mem_getLast? hx)
  · rw [List.isChain_append]
    refine ⟨fun h => h.1,fun h => ⟨h,spaced_undotted (suffix_undotted R _),?_⟩⟩
    intro x hx y hy
    cases hy
    exact ⟨fun hdot => absurd (hdot ▸ he.last x hx) not_alnum_dot,fun hdot => absurd hdot (by decide)⟩

theorem objectName_shaped (R : Renderer) (c : Coordinate) : Shaped (objectName R c) ∧
    ((objectName R c).IsChain Spaced ↔ (stem R c).IsChain Spaced) := by
  by_cases hl : labels R c = []
  · have hd := R.digest_alnum (key c)
    rw [objectName_digest hl, stem_nil.mpr hl]
    exact ⟨⟨digest_ne R _,by rw [R.digest_length]; decide,⟨fun x hx => permitted_iff.mpr
      (.inl (hd x hx)),
      fun x hx => hd x (List.mem_of_mem_head? hx),fun x hx => hd x (List.mem_of_mem_getLast? hx)⟩⟩,
      iff_of_true (spaced_undotted (digest_undotted R _)) .nil⟩
  · by_cases hp : Plain R c
    · rw [objectName_plain hp]
      refine ⟨⟨fun hs => hl (stem_nil.mp hs),?_,(joinDots_edged cuts_edged).1⟩,Iff.rfl⟩
      rw [stem_plain hp]
      exact (plain_iff.mp hp).2.2
    · rw [objectName_digested hl hp]
      exact digested_shaped hl hp

theorem stem_spaced : (stem R c).IsChain Spaced ↔
    ∀ p ∈ portions (limit R c) (lowered R c), (core p.1 p.2).IsChain Spaced := by
  have hmap : ∀ p : ℕ × Bytes, ((core p.1 p.2).map legible).IsChain Spaced ↔
      (core p.1 p.2).IsChain Spaced := by
    intro p
    rw [List.isChain_map]
    exact ⟨fun h => h.imp (fun _ _ => spaced_legible.mp),fun h => h.imp
      (fun _ _ => spaced_legible.mpr)⟩
  rw [stem, joinDots_spaced cuts_edged]
  constructor
  · intro h p hp
    rw [← hmap]
    by_cases hne : (core p.1 p.2).map legible = []
    · rw [hne]
      exact .nil
    · exact h _ (List.mem_filter.mpr ⟨List.mem_map_of_mem hp,by simpa using hne⟩)
  · intro h l hl
    obtain ⟨p,hp,rfl⟩ := List.mem_map.mp (List.mem_filter.mp hl).1
    exact (hmap p).mpr (h p hp)

/-- The name is short and has proper ends and characters. It is a subdomain exactly when no dot
inside of a component, as far as it is shown, stands next to a character that is neither a letter
nor a digit. -/
theorem objectName_valid_iff (R : Renderer) (c : Coordinate) :
    Shaped (objectName R c) ∧ (IsSubdomain (objectName R c) ↔
      ∀ p ∈ portions (limit R c) (lowered R c), (core p.1 p.2).IsChain Spaced) := by
  obtain ⟨hs,hchain⟩ := objectName_shaped R c
  refine ⟨hs,?_⟩
  rw [← stem_spaced, ← hchain]
  exact ⟨fun h => ((labels_iff _).mp h.labels).2.2,
    fun h => ⟨hs.filled,hs.short,(labels_iff _).mpr ⟨hs.filled,hs.edged,h⟩⟩⟩

end Names

section Clashes

variable {R : Renderer} {c c' : Coordinate}

def pieces (R : Renderer) (c : Coordinate) : List Bytes :=
  ((lowered R c).filter (fun l => l ≠ [])).flatMap (fun l => l.splitOn dot)

def cutPieces (R : Renderer) (c : Coordinate) : List Bytes :=
  (cuts (maxNameLength-9) (lowered R c)).flatMap (fun l => l.splitOn dot)

def suffixed (ps : List Bytes) (digest : Bytes) : List Bytes :=
  match ps.getLast? with
  | none => [digest]
  | some l => ps.dropLast ++ [l ++ dash :: digest]

/-- Two coordinates read the same: their lower-cased pieces are the same, or the last piece of the
one ends in the digest of the other, or they have one key. -/
inductive Clash (R : Renderer) (c c' : Coordinate) : Prop
  | plain (h : Plain R c) (h' : Plain R c') (he : pieces R c = pieces R c')
  | digested (h : Plain R c) (h' : ¬Plain R c')
      (he : pieces R c = suffixed (cutPieces R c') (R.digest (key c')))
  | digests (h : ¬Plain R c) (h' : Plain R c')
      (he : suffixed (cutPieces R c) (R.digest (key c)) = pieces R c')
  | keys (h : ¬Plain R c) (h' : ¬Plain R c') (he : cutPieces R c = cutPieces R c')
      (hk : key c = key c')

theorem splitOn_extended {t : Bytes} (ht : dot ∉ t) (s : Bytes) :
    ∃ ps l, s.splitOn dot = ps ++ [l] ∧ (s ++ t).splitOn dot = ps ++ [l ++ t] := by
  induction hn : s.length using Nat.strong_induction_on generalizing s with
  | _ n ih =>
    cases hc : TextScan.cutList dot s with
    | none =>
      have hd := (TextScan.cutList_eq_none dot s).mp hc
      refine ⟨[],s,splitOn_single hd,splitOn_single ?_⟩
      rw [List.mem_append, not_or]
      exact ⟨hd,ht⟩
    | some p =>
      obtain ⟨a,b⟩ := p
      obtain ⟨rfl,ha⟩ := TextScan.cutList_some hc
      simp only [List.length_append, List.length_cons] at hn
      obtain ⟨ps,l,hb,hbt⟩ := ih b.length (by omega) b rfl
      refine ⟨a::ps,l,?_,?_⟩
      · rw [splitOn_cut ha, hb, List.cons_append]
      · rw [List.append_assoc, List.cons_append, splitOn_cut ha, hbt, List.cons_append]

theorem plain_pieces (h : Plain R c) : (objectName R c).splitOn dot = pieces R c := by
  obtain ⟨hl,he,_⟩ := plain_iff.mp h
  rw [objectName_plain h, stem_plain h, splitOn_joinDots hl, exact_labels he]
  rfl

theorem digested_pieces (h : ¬Plain R c) :
    (objectName R c).splitOn dot = suffixed (cutPieces R c) (R.digest (key c)) := by
  have hlimit : limit R c = maxNameLength-9 := if_neg h
  have hcuts := (joinDots_edged (@cuts_edged (limit R c) (lowered R c))).2
  by_cases hl : labels R c = []
  · have hnil := hcuts.mp (stem_nil.mpr hl)
    rw [hlimit] at hnil
    rw [objectName_digest hl, splitOn_single (digest_undotted R _), cutPieces, hnil]
    rfl
  · have hstem : (stem R c).splitOn dot = cutPieces R c := by
      rw [stem, splitOn_joinDots (fun he => hl (stem_nil.mp (hcuts.mpr he))), hlimit]
      rfl
    obtain ⟨ps,l,hs,ht⟩ := splitOn_extended (suffix_undotted R (key c)) (stem R c)
    rw [objectName_digested hl h, ht, ← hstem, hs]
    simp [suffixed]

theorem suffixed_inj {ps ps' : List Bytes} {d d' : Bytes} (hd : d.length = d'.length) :
    suffixed ps d = suffixed ps' d' ↔ ps = ps' ∧ d = d' := by
  rcases List.eq_nil_or_concat ps with rfl | ⟨qs,l,rfl⟩ <;>
    rcases List.eq_nil_or_concat ps' with rfl | ⟨qs',l',rfl⟩
  · simp [suffixed]
  · refine iff_of_false (fun he => ?_) (by simp)
    have hl := congrArg (fun ps => (ps.getLast?.map List.length).getD 0) he
    simp [suffixed] at hl
    omega
  · refine iff_of_false (fun he => ?_) (by simp)
    have hl := congrArg (fun ps => (ps.getLast?.map List.length).getD 0) he
    simp [suffixed] at hl
    omega
  · simp only [suffixed, List.concat_eq_append, List.getLast?_append_of_ne_nil _
      (List.cons_ne_nil _ _),
      List.getLast?_singleton, List.dropLast_concat]
    constructor
    · intro he
      obtain ⟨rfl,hlast⟩ := List.append_inj' he rfl
      obtain ⟨rfl,htail⟩ := List.append_inj' (List.cons.inj hlast).1 (by simp [hd])
      exact ⟨rfl,(List.cons.inj htail).2⟩
    · rintro ⟨he,rfl⟩
      obtain ⟨rfl,hlast⟩ := List.append_inj' he rfl
      rw [(List.cons.inj hlast).1]

theorem objectName_eq_iff (hd : R.digest (key c) = R.digest (key c') → key c = key c') :
    objectName R c = objectName R c' ↔ Clash R c c' := by
  have hsplit : objectName R c = objectName R c' ↔
      (objectName R c).splitOn dot = (objectName R c').splitOn dot := by
    refine ⟨fun he => by rw [he],fun he => ?_⟩
    have hback : ∀ s : Bytes, [dot].intercalate (s.splitOn dot) = s :=
      fun s => List.intercalate_splitOn dot
    rw [← hback (objectName R c), he, hback]
  rw [hsplit]
  by_cases h : Plain R c <;> by_cases h' : Plain R c'
  · rw [plain_pieces h, plain_pieces h']
    refine ⟨.plain h h',fun hc => ?_⟩
    cases hc with
    | plain _ _ he => exact he
    | digested _ hn _ => exact absurd h' hn
    | digests hn _ _ => exact absurd h hn
    | keys hn _ _ _ => exact absurd h hn
  · rw [plain_pieces h, digested_pieces h']
    refine ⟨.digested h h',fun hc => ?_⟩
    cases hc with
    | plain _ hn _ => exact absurd hn h'
    | digested _ _ he => exact he
    | digests hn _ _ => exact absurd h hn
    | keys hn _ _ _ => exact absurd h hn
  · rw [digested_pieces h, plain_pieces h']
    refine ⟨.digests h h',fun hc => ?_⟩
    cases hc with
    | plain hn _ _ => exact absurd hn h
    | digested hn _ _ => exact absurd hn h
    | digests _ _ he => exact he
    | keys _ hn _ _ => exact absurd h' hn
  · rw [digested_pieces h, digested_pieces h', suffixed_inj (by rw [R.digest_length, R.digest_length])]
    constructor
    · rintro ⟨he,hdig⟩
      exact .keys h h' he (hd hdig)
    · intro hc
      cases hc with
      | plain hn _ _ => exact absurd hn h
      | digested hn _ _ => exact absurd hn h
      | digests _ hn _ => exact absurd hn h'
      | keys _ _ he hk => exact ⟨he,by rw [hk]⟩

end Clashes

section Samples

def lowerASCII (c : UInt8) : UInt8 := if 65 ≤ c && c ≤ 90 then c+32 else c

def sumDigest (k : Bytes) : Bytes :=
  [0,1,2,3,4,5,6,7].map (fun i => 97+((k.map UInt8.toNat).sum / 16^i % 16).toUInt8)

theorem sumDigest_alnum (k : Bytes) : ∀ c ∈ sumDigest k, alnum c = true := by
  intro c hc
  obtain ⟨i,_,rfl⟩ := List.mem_map.mp hc
  have hlt : (k.map UInt8.toNat).sum / 16^i % 16 < 16 := Nat.mod_lt _ (by decide)
  generalize (k.map UInt8.toNat).sum / 16^i % 16 = n at hlt
  revert n
  decide

def asciiRenderer : Renderer where
  lower s := s.map lowerASCII
  digest := sumDigest
  digest_length _ := rfl
  digest_alnum := sumDigest_alnum

def ascii (s : String) : Bytes := s.toList.map (fun c => c.toNat.toUInt8)

/-- `a..b` is passed on with an empty label. -/
theorem dotted_region_invalid :
    objectName asciiRenderer ⟨ascii "a..b",[],ascii "lvm"⟩ = ascii "a..b.lvm" ∧
      ¬IsSubdomain (objectName asciiRenderer ⟨ascii "a..b",[],ascii "lvm"⟩) := by
  refine ⟨by decide,fun h => ?_⟩
  have he : objectName asciiRenderer ⟨ascii "a..b",[],ascii "lvm"⟩ = ascii "a..b.lvm" := by decide
  have hs := ((labels_iff _).mp h.labels).2.2
  rw [he] at hs
  exact absurd hs (by decide)

end Samples

end ProxmoxCSI.CatalogNames
