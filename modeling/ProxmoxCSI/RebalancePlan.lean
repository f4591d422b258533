import Mathlib.Data.List.Perm.Subperm
import ProxmoxCSI.ChunkRounding
import ProxmoxCSI.PlacementOrder

/-!
# The rebalance plan

Volumes that are not in use leave the fullest zone above the high threshold, the
smallest first, for the emptiest zone below the low threshold that has room for
them. The plan keeps its own account of the space in each zone, in integers that wrap
around; a volume without a target is taken off its queue and stays where it is. The
account is the true one as long as no zone could overflow by giving up all of its idle
volumes.
-/

set_option autoImplicit false

namespace ProxmoxCSI.RebalancePlan
open TargetSelection PlacementOrder
open VolumeReconciler (int64)

structure Move where
  ns : String
  pvcName : String
  pvName : String
  source : String
  target : String
  sizeBytes : ℤ
  deriving DecidableEq, Repr

structure VolumeInfo where
  ns : String
  pvcName : String
  pvName : String
  zone : String
  sizeBytes : ℤ
  inUse : Bool
  deriving DecidableEq, Repr

abbrev Account := String → ℤ

section Plan

def used (total avail : Account) (zone : String) : ℚ :=
  if total zone = 0 then 0 else (int64 (total zone-avail zone) : ℚ)/(total zone : ℚ)

/-- The order of equal sizes is up to the sorting. -/
def queueOf (sort : List VolumeInfo → List VolumeInfo) (vols : List VolumeInfo) (zone : String) :
    List VolumeInfo :=
  sort (vols.filter (fun v => v.inUse = false ∧ v.zone = zone))

structure PlanState where
  avail : Account
  queues : String → List VolumeInfo
  moves : List Move

structure Setting where
  zones : List ZoneCapacity
  total : Account
  highThreshold : ℚ
  lowThreshold : ℚ
  headroom : ℚ

variable (p : Setting) (st : PlanState)

def fuller (source : String) (z : ZoneCapacity) : String :=
  if (p.highThreshold ≤ used p.total st.avail z.zone ∧ st.queues z.zone ≠ []) ∧
      (source = "" ∨ used p.total st.avail source < used p.total st.avail z.zone) then z.zone
  else source

def pickSource : String := p.zones.foldl (fuller p st) ""

def candidates (source : String) : List ZoneCapacity :=
  (p.zones.filter (fun z => ¬(z.zone = source ∨
    p.lowThreshold ≤ used p.total st.avail z.zone))).map
      (fun z => ⟨z.zone,st.avail z.zone,p.total z.zone⟩)

def transfer (avail : Account) (m : Move) : Account :=
  let avail := Function.update avail m.source (int64 (avail m.source+m.sizeBytes))
  Function.update avail m.target (int64 (avail m.target-m.sizeBytes))

/-- The product is exact; its conversion is not. -/
def convertedBytes (sizeBytes : ℤ) (headroom : ℚ) : ℤ := int64Of (requiredBytes sizeBytes headroom)

def moveOf (vol : VolumeInfo) (source target : String) : Move :=
  ⟨vol.ns,vol.pvcName,vol.pvName,source,target,vol.sizeBytes⟩

def step : Option PlanState :=
  let source := pickSource p st
  if source = "" then none
  else match st.queues source with
    | [] => none
    | vol::rest =>
      let queues := Function.update st.queues source rest
      match selectTarget convertedBytes (candidates p st source) [source] vol.sizeBytes p.headroom with
      | .error _ => some { st with queues := queues }
      | .ok target =>
        let m := moveOf vol source target
        some ⟨transfer st.avail m,queues,st.moves ++ [m]⟩

/-- At most `fuel` rounds; nothing when they do not suffice. -/
def rounds (maxMoves : ℤ) : ℕ → PlanState → Option (List Move)
  | 0, _ => none
  | fuel+1, st =>
    if (st.moves.length : ℤ) < maxMoves then
      match step p st with
      | none => some st.moves
      | some st' => rounds maxMoves fuel st'
    else some st.moves

def accountOf (value : ZoneCapacity → ℤ) (zones : List ZoneCapacity) : Account :=
  zones.foldl (fun a z => Function.update a z.zone (value z)) (fun _ => 0)

def plan (sort : List VolumeInfo → List VolumeInfo) (fuel : ℕ) (zones : List ZoneCapacity)
    (vols : List VolumeInfo) (highThreshold lowThreshold headroom : ℚ) (maxMoves : ℤ) :
    Option (List Move) :=
  if maxMoves ≤ 0 ∨ zones.length < 2 then some []
  else rounds ⟨zones,accountOf ZoneCapacity.total zones,highThreshold,lowThreshold,headroom⟩ maxMoves
    fuel ⟨accountOf ZoneCapacity.avail zones,queueOf sort vols,[]⟩

end Plan

section Steps

variable {p : Setting} {st st' : PlanState}

def zoneNames (p : Setting) : List String := p.zones.map ZoneCapacity.zone

theorem pickSource_cases (p : Setting) (st : PlanState) :
    pickSource p st = "" ∨ pickSource p st ∈ zoneNames p ∧
      p.highThreshold ≤ used p.total st.avail (pickSource p st) := by
  have hfold : ∀ (zones : List ZoneCapacity) (source : String), zones ⊆ p.zones →
      (source = "" ∨ source ∈ zoneNames p ∧ p.highThreshold ≤ used p.total st.avail source) →
      zones.foldl (fuller p st) source = "" ∨ zones.foldl (fuller p st) source ∈ zoneNames p ∧
        p.highThreshold ≤ used p.total st.avail (zones.foldl (fuller p st) source) := by
    intro zones
    induction zones with
    | nil => exact fun _ _ h => h
    | cons z zones ih =>
      intro source hsub hs
      rw [List.foldl_cons]
      apply ih _ (fun x hx => hsub (List.mem_cons_of_mem _ hx))
      unfold fuller
      split
      · rename_i hz
        exact .inr ⟨List.mem_map_of_mem (hsub List.mem_cons_self),hz.1.1⟩
      · exact hs
  exact hfold p.zones "" (fun _ h => h) (.inl rfl)

/-- What the selection compares for a volume of that size. -/
structure Accepts (p : Setting) (avail : Account) (source : String) (sizeBytes : ℤ)
    (target : String) : Prop where
  named : target ∈ zoneNames p
  apart : target ≠ source
  low : used p.total avail target < p.lowThreshold
  room : convertedBytes sizeBytes (effectiveHeadroom p.headroom) ≤ avail target

theorem target_accepts {source target : String} {sizeBytes : ℤ}
    (h : selectTarget convertedBytes (candidates p st source) [source] sizeBytes p.headroom =
      .ok target) : Accepts p st.avail source sizeBytes target := by
  obtain ⟨z,hz,rfl,hq⟩ := selectTarget_qualifies h
  obtain ⟨y,hy,rfl⟩ := List.mem_map.mp hz
  obtain ⟨hm,hc⟩ := List.mem_filter.mp hy
  have hc' : ¬(y.zone = source ∨ p.lowThreshold ≤ used p.total st.avail y.zone) := by
    simpa using hc
  rw [not_or, not_le] at hc'
  exact ⟨List.mem_map.mpr ⟨y,hm,rfl⟩,hc'.1,hc'.2,hq.2⟩

/-- A round takes the first volume off a queue, and may move it. -/
theorem step_cases (h : step p st = some st') :
    ∃ source vol rest, source ∈ zoneNames p ∧ p.highThreshold ≤ used p.total st.avail source ∧
      st.queues source = vol::rest ∧ st'.queues = Function.update st.queues source rest ∧
      (st'.avail = st.avail ∧ st'.moves = st.moves ∨
        ∃ target, Accepts p st.avail source vol.sizeBytes target ∧
          st'.avail = transfer st.avail (moveOf vol source target) ∧
          st'.moves = st.moves ++ [moveOf vol source target]) := by
  unfold step at h
  simp only at h
  split at h
  · cases h
  · rename_i hne
    obtain ⟨hm,hhigh⟩ := (pickSource_cases p st).resolve_left hne
    split at h
    · cases h
    · rename_i vol rest hq
      split at h
      · cases h
        exact ⟨_,vol,rest,hm,hhigh,hq,rfl,.inl ⟨rfl,rfl⟩⟩
      · rename_i target ht
        cases h
        exact ⟨_,vol,rest,hm,hhigh,hq,rfl,.inr ⟨target,target_accepts ht,rfl,rfl⟩⟩

end Steps

section Termination

variable {p : Setting} {st st' : PlanState}

def queued (p : Setting) (st : PlanState) : ℕ :=
  (p.zones.map (fun z => (st.queues z.zone).length)).sum

theorem queued_step (h : step p st = some st') : queued p st' < queued p st := by
  obtain ⟨source,vol,rest,hm,_,hq,hq',_⟩ := step_cases h
  obtain ⟨z,hz,rfl⟩ := List.mem_map.mp hm
  unfold queued
  apply List.sum_lt_sum _ _
  · intro y _
    rw [hq']
    by_cases hy : y.zone = z.zone
    · rw [hy, Function.update_self, hq]
      exact Nat.le_succ _
    · rw [Function.update_of_ne hy]
  · refine ⟨z,hz,?_⟩
    rw [hq', Function.update_self, hq]
    exact Nat.lt_succ_self _

/-- More rounds than queued volumes are enough, and the plan is then settled. -/
theorem rounds_finish (p : Setting) (maxMoves : ℤ) (n : ℕ) (st : PlanState) (h : queued p st ≤ n) :
    ∃ moves, ∀ fuel, n < fuel → rounds p maxMoves fuel st = some moves := by
  induction n generalizing st with
  | zero =>
    have hnone : step p st = none := by
      cases hs : step p st with
      | none => rfl
      | some st' => exact absurd (queued_step hs) (by omega)
    refine ⟨st.moves,fun fuel hf => ?_⟩
    obtain ⟨k,rfl⟩ : ∃ k, fuel = k+1 := ⟨fuel-1,by omega⟩
    rw [rounds, hnone]
    split <;> rfl
  | succ n ih =>
    by_cases hlt : (st.moves.length : ℤ) < maxMoves
    · cases hs : step p st with
      | none =>
        refine ⟨st.moves,fun fuel hf => ?_⟩
        obtain ⟨k,rfl⟩ : ∃ k, fuel = k+1 := ⟨fuel-1,by omega⟩
        rw [rounds, if_pos hlt, hs]
      | some st' =>
        have hq := queued_step hs
        obtain ⟨moves,hm⟩ := ih st' (by omega)
        refine ⟨moves,fun fuel hf => ?_⟩
        obtain ⟨k,rfl⟩ : ∃ k, fuel = k+1 := ⟨fuel-1,by omega⟩
        rw [rounds, if_pos hlt, hs]
        exact hm k (by omega)
    · refine ⟨st.moves,fun fuel hf => ?_⟩
      obtain ⟨k,rfl⟩ : ∃ k, fuel = k+1 := ⟨fuel-1,by omega⟩
      rw [rounds, if_neg hlt]

/-- What every round keeps holds of the state the plan is taken from. -/
theorem rounds_invariant {I : PlanState → Prop} {maxMoves : ℤ}
    (hstep : ∀ st st', I st → (st.moves.length : ℤ) < maxMoves → step p st = some st' → I st')
    {fuel : ℕ} {moves : List Move} (hi : I st) (h : rounds p maxMoves fuel st = some moves) :
    ∃ st', I st' ∧ st'.moves = moves := by
  induction fuel generalizing st with
  | zero => cases h
  | succ fuel ih =>
    rw [rounds] at h
    by_cases hlt : (st.moves.length : ℤ) < maxMoves
    · rw [if_pos hlt] at h
      cases hs : step p st with
      | none =>
        rw [hs] at h
        exact ⟨st,hi,Option.some.inj h⟩
      | some st' =>
        rw [hs] at h
        exact ih (hstep st st' hi hlt hs) h
    · rw [if_neg hlt] at h
      exact ⟨st,hi,Option.some.inj h⟩

end Termination

section Replay

variable {p : Setting} {sum : ℤ} {avail : Account} {m : Move}

def fraction (total avail : Account) (zone : String) : ℚ :=
  ((total zone : ℚ)-avail zone)/total zone

def relocate (avail : Account) (m : Move) : Account :=
  Function.update (Function.update avail m.source (avail m.source+m.sizeBytes)) m.target
    (Function.update avail m.source (avail m.source+m.sizeBytes) m.target-m.sizeBytes)

def replay (moves : List Move) (avail : Account) : Account := moves.foldl relocate avail

/-- A move the space permits. -/
structure Permitted (p : Setting) (avail : Account) (m : Move) : Prop where
  source : m.source ∈ zoneNames p
  high : p.highThreshold ≤ fraction p.total avail m.source
  target : m.target ∈ zoneNames p
  apart : m.target ≠ m.source
  low : fraction p.total avail m.target < p.lowThreshold
  room : ⌊(m.sizeBytes : ℚ)*(1+p.headroom)⌋ ≤ avail m.target

structure Balanced (p : Setting) (sum : ℤ) (avail : Account) : Prop where
  nonneg : ∀ zone ∈ zoneNames p, 0 ≤ avail zone
  constant : ((zoneNames p).map avail).sum = sum

def Replays (p : Setting) (sum : ℤ) : List Move → Account → Prop
  | [], avail => Balanced p sum avail
  | m::moves, avail => Balanced p sum avail ∧ Permitted p avail m ∧
      Replays p sum moves (relocate avail m)

theorem replays_end {moves : List Move} (h : Replays p sum moves avail) :
    Balanced p sum (replay moves avail) := by
  induction moves generalizing avail with
  | nil => exact h
  | cons m moves ih => exact ih h.2.2

theorem replays_snoc {moves : List Move} (h : Replays p sum moves avail)
    (hm : Permitted p (replay moves avail) m)
    (hb : Balanced p sum (relocate (replay moves avail) m)) :
    Replays p sum (moves ++ [m]) avail := by
  induction moves generalizing avail with
  | nil => exact ⟨h,hm,hb⟩
  | cons x moves ih => exact ⟨h.1,h.2.1,ih h.2.2 hm hb⟩

theorem sum_update {names : List String} (hn : names.Nodup) {x : String} (hx : x ∈ names)
    (a : Account) (v : ℤ) :
    (names.map (Function.update a x v)).sum = (names.map a).sum-a x+v := by
  induction names with
  | nil => cases hx
  | cons n names ih =>
    rw [List.nodup_cons] at hn
    rw [List.map_cons, List.sum_cons, List.map_cons, List.sum_cons]
    by_cases he : x = n
    · subst he
      have ht : names.map (Function.update a x v) = names.map a := by
        apply List.map_congr_left
        intro y hy
        exact Function.update_of_ne (fun h : y = x => hn.1 (h ▸ hy)) v a
      rw [ht, Function.update_self]
      omega
    · have hx' : x ∈ names := (List.mem_cons.mp hx).resolve_left he
      rw [ih hn.2 hx', Function.update_of_ne (Ne.symm he)]
      omega

theorem relocate_source (h : m.target ≠ m.source) :
    relocate avail m m.source = avail m.source+m.sizeBytes := by
  rw [relocate, Function.update_of_ne (Ne.symm h), Function.update_self]

theorem relocate_target (h : m.target ≠ m.source) :
    relocate avail m m.target = avail m.target-m.sizeBytes := by
  rw [relocate, Function.update_self, Function.update_of_ne h]

theorem relocate_other {zone : String} (hs : zone ≠ m.source) (ht : zone ≠ m.target) :
    relocate avail m zone = avail zone := by
  rw [relocate, Function.update_of_ne ht, Function.update_of_ne hs]

theorem relocate_balanced (hn : (zoneNames p).Nodup) (hs : 0 ≤ m.sizeBytes)
    (hm : Permitted p avail m) (hfit : m.sizeBytes ≤ avail m.target) (hb : Balanced p sum avail) :
    Balanced p sum (relocate avail m) := by
  constructor
  · intro zone hz
    have h0 := hb.nonneg zone hz
    by_cases ht : zone = m.target
    · rw [ht, relocate_target hm.apart]
      omega
    · by_cases hsrc : zone = m.source
      · rw [hsrc, relocate_source hm.apart]
        rw [hsrc] at h0
        omega
      · rw [relocate_other hsrc ht]
        exact h0
  · rw [← hb.constant]
    unfold relocate
    rw [sum_update hn hm.target, sum_update hn hm.source, Function.update_of_ne hm.apart]
    omega

theorem accountOf_mem {value : ZoneCapacity → ℤ} {zones : List ZoneCapacity}
    (hn : (zones.map ZoneCapacity.zone).Nodup) {z : ZoneCapacity} (hz : z ∈ zones) :
    accountOf value zones z.zone = value z := by
  have hfold : ∀ (zones : List ZoneCapacity) (a : Account), (zones.map ZoneCapacity.zone).Nodup →
      (z ∈ zones ∨ a z.zone = value z ∧ z.zone ∉ zones.map ZoneCapacity.zone) →
      zones.foldl (fun a z => Function.update a z.zone (value z)) a z.zone = value z := by
    intro zones
    induction zones with
    | nil =>
      rintro a _ (h | h)
      · cases h
      · exact h.1
    | cons y zones ih =>
      intro a hn h
      rw [List.map_cons, List.nodup_cons] at hn
      rw [List.foldl_cons]
      apply ih _ hn.2
      rcases h with h | ⟨ha,hout⟩
      · rcases List.mem_cons.mp h with rfl | h
        · exact .inr ⟨Function.update_self ..,hn.1⟩
        · exact .inl h
      · rw [List.map_cons, List.mem_cons, not_or] at hout
        exact .inr ⟨(Function.update_of_ne hout.1 ..).trans ha,hout.2⟩
  exact hfold zones _ hn (.inl hz)

end Replay

section Exact

variable {p : Setting} {avail : Account}

theorem used_exact {zone : String} (ht : 0 ≤ p.total zone ∧ p.total zone < 2^63)
    (ha : 0 ≤ avail zone ∧ avail zone < 2^63) :
    used p.total avail zone = fraction p.total avail zone := by
  unfold used fraction
  split
  · rename_i h0
    rw [h0, Int.cast_zero, div_zero]
  · rw [ChunkRounding.int64_of_bounds (by omega) (by omega), Int.cast_sub]

theorem transfer_exact {m : Move} (hne : m.target ≠ m.source)
    (hsource : 0 ≤ avail m.source+m.sizeBytes ∧ avail m.source+m.sizeBytes < 2^63)
    (htarget : 0 ≤ avail m.target-m.sizeBytes ∧ avail m.target-m.sizeBytes < 2^63) :
    transfer avail m = relocate avail m := by
  unfold transfer relocate
  rw [ChunkRounding.int64_of_bounds (by omega) (by omega)]
  simp only
  rw [Function.update_of_ne hne, ChunkRounding.int64_of_bounds (by omega) (by omega)]

theorem convertedBytes_exact {sizeBytes : ℤ} {headroom : ℚ} (hs : 0 ≤ sizeBytes)
    (hh : 0 ≤ headroom) (hfit : ⌊(sizeBytes : ℚ)*(1+headroom)⌋ < 2^63) :
    convertedBytes sizeBytes (effectiveHeadroom headroom) = ⌊(sizeBytes : ℚ)*(1+headroom)⌋ := by
  have hle := size_le_required hs hh
  rw [effectiveHeadroom_eq hh, convertedBytes, ← requiredBytes_floor hs hh]
  rw [← requiredBytes_floor hs hh] at hfit
  exact if_pos ⟨by omega,hfit⟩

end Exact

section Queues

variable {p : Setting} {st st' : PlanState}

def Carries (v : VolumeInfo) (m : Move) : Prop := ∃ target, m = moveOf v v.zone target

def Served (queues : String → List VolumeInfo) (st : PlanState) : Prop :=
  ∃ moved : List VolumeInfo, List.Forall₂ Carries moved st.moves ∧
    ∀ zone, (moved.filter (fun v => v.zone = zone) ++ st.queues zone).Sublist (queues zone)

theorem served_step {queues : String → List VolumeInfo}
    (hq : ∀ zone, ∀ v ∈ queues zone, v.zone = zone) (h : Served queues st)
    (hs : step p st = some st') : Served queues st' := by
  obtain ⟨moved,hcarry,hsub⟩ := h
  obtain ⟨source,vol,rest,_,_,hfront,hqueues,hmoves⟩ := step_cases hs
  have hsource := hsub source
  rw [hfront] at hsource
  have hzone : vol.zone = source :=
    hq source vol (hsource.subset (List.mem_append_right _ List.mem_cons_self))
  rcases hmoves with ⟨_,hm⟩ | ⟨target,_,_,hm⟩
  · refine ⟨moved,by rw [hm]; exact hcarry,fun zone => ?_⟩
    rw [hqueues]
    by_cases hz : zone = source
    · subst hz
      rw [Function.update_self]
      exact ((List.Sublist.refl _).append (List.sublist_cons_self _ _)).trans hsource
    · rw [Function.update_of_ne hz]
      exact hsub zone
  · refine ⟨moved ++ [vol],?_,fun zone => ?_⟩
    · rw [hm]
      exact List.rel_append hcarry (.cons ⟨target,by rw [hzone]⟩ .nil)
    · rw [hqueues, List.filter_append]
      by_cases hz : zone = source
      · subst hz
        rw [Function.update_self, List.filter_cons_of_pos (by simpa using hzone), List.filter_nil,
          List.append_assoc]
        exact hsource
      · have hne : vol.zone ≠ zone := fun h => hz (h.symm.trans hzone)
        rw [Function.update_of_ne hz, List.filter_cons_of_neg (by simpa using hne), List.filter_nil,
          List.append_nil]
        exact hsub zone

theorem carried_sizes {moved : List VolumeInfo} {moves : List Move}
    (h : List.Forall₂ Carries moved moves) (zone : String) :
    (moves.filter (fun m => m.source = zone)).map Move.sizeBytes =
      (moved.filter (fun v => v.zone = zone)).map VolumeInfo.sizeBytes := by
  induction h with
  | nil => rfl
  | cons hc _ ih =>
    obtain ⟨target,rfl⟩ := hc
    rename_i v _ _ _
    by_cases hz : v.zone = zone
    · rw [List.filter_cons_of_pos (by simp [moveOf, hz]), List.filter_cons_of_pos (by simp [hz]),
        List.map_cons, List.map_cons, ih]
      rfl
    · rw [List.filter_cons_of_neg (by simp [moveOf, hz]), List.filter_cons_of_neg (by simp [hz]), ih]

end Queues

section Plans

/-- A sort by size, however it orders equal sizes. -/
structure Sorts (sort : List VolumeInfo → List VolumeInfo) : Prop where
  perm : ∀ vols, (sort vols).Perm vols
  sorted : ∀ vols, ((sort vols).map VolumeInfo.sizeBytes).Pairwise (· ≤ ·)

variable {sort : List VolumeInfo → List VolumeInfo} {vols : List VolumeInfo}

theorem mem_queueOf (hs : Sorts sort) {zone : String} {v : VolumeInfo}
    (h : v ∈ queueOf sort vols zone) : v ∈ vols ∧ v.inUse = false ∧ v.zone = zone := by
  obtain ⟨hm,hc⟩ := List.mem_filter.mp ((hs.perm _).mem_iff.mp h)
  exact ⟨hm,by simpa using hc⟩

/-- Nothing is moved twice and nothing in use is moved. -/
theorem served_subperm (hs : Sorts sort) {moved : List VolumeInfo} {queues : String → List VolumeInfo}
    (h : ∀ zone, (moved.filter (fun v => v.zone = zone) ++ queues zone).Sublist
      (queueOf sort vols zone)) :
    moved.Subperm (vols.filter (fun v => v.inUse = false)) := by
  rw [List.subperm_iff_count]
  intro v
  have hsub : (moved.filter (fun x => x.zone = v.zone)).Sublist (queueOf sort vols v.zone) :=
    (List.sublist_append_left _ _).trans (h v.zone)
  have hfilter : (vols.filter (fun x => x.inUse = false ∧ x.zone = v.zone)).Sublist
      (vols.filter (fun x => x.inUse = false)) := by
    apply List.monotone_filter_right
    intro x hx
    have hx' : x.inUse = false ∧ x.zone = v.zone := by simpa using hx
    simpa using hx'.1
  calc moved.count v = (moved.filter (fun x => x.zone = v.zone)).count v :=
        (List.count_filter (by simp)).symm
    _ ≤ (queueOf sort vols v.zone).count v := hsub.count_le v
    _ = (vols.filter (fun x => x.inUse = false ∧ x.zone = v.zone)).count v :=
        (hs.perm _).count_eq v
    _ ≤ (vols.filter (fun x => x.inUse = false)).count v := hfilter.count_le v

/-- What the plan is about: a list of moves with the volumes they take. -/
structure Sound (p : Setting) (avail : Account) (vols : List VolumeInfo) (maxMoves : ℤ)
    (moves : List Move) : Prop where
  bounded : (moves.length : ℤ) ≤ max maxMoves 0
  once : ∃ moved : List VolumeInfo, moved.Subperm (vols.filter (fun v => v.inUse = false)) ∧
    List.Forall₂ Carries moved moves
  replays : Replays p ((zoneNames p).map avail).sum moves avail
  ascending : ∀ zone, ((moves.filter (fun m => m.source = zone)).map Move.sizeBytes).Pairwise (· ≤ ·)

def sizes (vols : List VolumeInfo) : ℤ := (vols.map VolumeInfo.sizeBytes).sum

/-- What every round keeps. A zone has room for all it may still give up. -/
structure Course (p : Setting) (avail : Account) (queues : String → List VolumeInfo) (maxMoves : ℤ)
    (st : PlanState) : Prop where
  bounded : (st.moves.length : ℤ) ≤ maxMoves
  account : st.avail = replay st.moves avail
  replays : Replays p ((zoneNames p).map avail).sum st.moves avail
  served : Served queues st
  room : ∀ zone ∈ zoneNames p, st.avail zone+sizes (st.queues zone) < 2^63

theorem sizes_nonneg {vols : List VolumeInfo} (h : ∀ v ∈ vols, 0 ≤ v.sizeBytes) : 0 ≤ sizes vols := by
  apply List.sum_nonneg
  intro x hx
  obtain ⟨v,hv,rfl⟩ := List.mem_map.mp hx
  exact h v hv

section Course

variable {p : Setting} {avail : Account} {queues : String → List VolumeInfo} {maxMoves : ℤ}
  {st st' : PlanState}

theorem course_queue (h : Course p avail queues maxMoves st) {zone : String} {v : VolumeInfo}
    (hv : v ∈ st.queues zone) : v ∈ queues zone := by
  obtain ⟨_,_,hsub⟩ := h.served
  exact (hsub zone).subset (List.mem_append_right _ hv)

theorem course_bounds (hq : ∀ zone, ∀ v ∈ queues zone, 0 ≤ v.sizeBytes)
    (h : Course p avail queues maxMoves st) {zone : String} (hz : zone ∈ zoneNames p) :
    0 ≤ st.avail zone ∧ st.avail zone < 2^63 := by
  have hnonneg := (replays_end h.replays).nonneg zone hz
  rw [← h.account] at hnonneg
  have hsizes := sizes_nonneg (fun v hv => hq zone v (course_queue h hv))
  have hroom := h.room zone hz
  exact ⟨hnonneg,by omega⟩

/-- Within these bounds a move the plan makes is one the space permits. -/
theorem course_permitted (hq : ∀ zone, ∀ v ∈ queues zone, 0 ≤ v.sizeBytes)
    (ht : ∀ zone ∈ zoneNames p, 0 ≤ p.total zone ∧ p.total zone < 2^63) (hh : 0 ≤ p.headroom)
    (h : Course p avail queues maxMoves st) {source target : String} {vol : VolumeInfo}
    (hv : vol ∈ st.queues source) (hfit : ⌊(vol.sizeBytes : ℚ)*(1+p.headroom)⌋ < 2^63)
    (hs : source ∈ zoneNames p) (hhigh : p.highThreshold ≤ used p.total st.avail source)
    (ha : Accepts p st.avail source vol.sizeBytes target) :
    Permitted p st.avail (moveOf vol source target) where
  source := hs
  high := (used_exact (ht source hs) (course_bounds hq h hs)) ▸ hhigh
  target := ha.named
  apart := ha.apart
  low := (used_exact (ht target ha.named) (course_bounds hq h ha.named)) ▸ ha.low
  room := (convertedBytes_exact (hq source vol (course_queue h hv)) hh hfit) ▸ ha.room

theorem size_le_floor {sizeBytes : ℤ} {headroom : ℚ} (hs : 0 ≤ sizeBytes) (hh : 0 ≤ headroom) :
    sizeBytes ≤ ⌊(sizeBytes : ℚ)*(1+headroom)⌋ :=
  requiredBytes_floor hs hh ▸ size_le_required hs hh

theorem sizes_cons (v : VolumeInfo) (vols : List VolumeInfo) :
    sizes (v::vols) = v.sizeBytes+sizes vols := by
  rw [sizes, List.map_cons, List.sum_cons, sizes]

theorem sizes_rest {source : String} {vol : VolumeInfo} {rest : List VolumeInfo}
    (hfront : queues source = vol::rest) (hs : 0 ≤ vol.sizeBytes) (zone : String) :
    sizes (Function.update queues source rest zone) ≤ sizes (queues zone) := by
  by_cases he : zone = source
  · rw [he, Function.update_self, hfront, sizes_cons]
    omega
  · rw [Function.update_of_ne he]

/-- What a zone receives it no longer has to give up. -/
theorem relocate_room {source target : String} {vol : VolumeInfo} {rest : List VolumeInfo}
    (hne : target ≠ source) (hfront : queues source = vol::rest) (hs : 0 ≤ vol.sizeBytes)
    {zone : String} (h : avail zone+sizes (queues zone) < 2^63) :
    relocate avail (moveOf vol source target) zone+sizes (Function.update queues source rest zone) <
      2^63 := by
  have hrest := sizes_rest hfront hs zone
  by_cases hsrc : zone = source
  · have hmoved : relocate avail (moveOf vol source target) source = avail source+vol.sizeBytes :=
      relocate_source hne
    rw [hsrc, Function.update_self, hmoved]
    rw [hsrc, hfront, sizes_cons] at h
    omega
  · by_cases ht : zone = target
    · have hmoved : relocate avail (moveOf vol source target) target =
          avail target-vol.sizeBytes := relocate_target hne
      rw [ht] at h hrest ⊢
      rw [hmoved]
      omega
    · rw [relocate_other hsrc ht]
      omega

theorem course_step (hn : (zoneNames p).Nodup) (hh : 0 ≤ p.headroom)
    (ht : ∀ zone ∈ zoneNames p, 0 ≤ p.total zone ∧ p.total zone < 2^63)
    (hq : ∀ zone, ∀ v ∈ queues zone, v.zone = zone ∧ 0 ≤ v.sizeBytes ∧
      ⌊(v.sizeBytes : ℚ)*(1+p.headroom)⌋ < 2^63)
    (h : Course p avail queues maxMoves st) (hlt : (st.moves.length : ℤ) < maxMoves)
    (hs : step p st = some st') : Course p avail queues maxMoves st' := by
  have hserved := served_step (fun zone v hv => (hq zone v hv).1) h.served hs
  have hq' : ∀ zone, ∀ v ∈ queues zone, 0 ≤ v.sizeBytes := fun zone v hv => (hq zone v hv).2.1
  obtain ⟨source,vol,rest,hsrc,hhigh,hfront,hqueues,hmoves⟩ := step_cases hs
  have hv : vol ∈ st.queues source := hfront ▸ List.mem_cons_self
  obtain ⟨_,hsize,hfit⟩ := hq source vol (course_queue h hv)
  rcases hmoves with ⟨ha,hm⟩ | ⟨target,hacc,ha,hm⟩
  · refine ⟨hm ▸ h.bounded,by rw [ha, hm, h.account],hm ▸ h.replays,hserved,fun zone hz => ?_⟩
    rw [ha, hqueues]
    exact (add_le_add_right (sizes_rest hfront hsize zone) _).trans_lt (h.room zone hz)
  · have hperm := course_permitted hq' ht hh h hv hfit hsrc hhigh hacc
    have hle : vol.sizeBytes ≤ st.avail target := (size_le_floor hsize hh).trans hperm.room
    have hbs := course_bounds hq' h hsrc
    have hbt := course_bounds hq' h hacc.named
    have hrest := sizes_nonneg (fun v hv => hq' source v
      (course_queue h (hfront ▸ List.mem_cons_of_mem vol hv)))
    have hroom := h.room source hsrc
    rw [hfront, sizes_cons] at hroom
    have hexact : transfer st.avail (moveOf vol source target) =
        relocate st.avail (moveOf vol source target) :=
      transfer_exact hacc.apart
        (show 0 ≤ st.avail source+vol.sizeBytes ∧ st.avail source+vol.sizeBytes < 2^63 by omega)
        (show 0 ≤ st.avail target-vol.sizeBytes ∧ st.avail target-vol.sizeBytes < 2^63 by omega)
    rw [hexact] at ha
    refine ⟨?_,?_,?_,hserved,fun zone hz => ?_⟩
    · rw [hm, List.length_append, List.length_singleton]
      push_cast
      omega
    · rw [ha, hm, h.account, replay, replay, List.foldl_append]
      rfl
    · rw [hm]
      rw [h.account] at hperm hle
      exact replays_snoc h.replays hperm
        (relocate_balanced hn hsize hperm hle (replays_end h.replays))
    · rw [ha, hqueues]
      exact relocate_room hacc.apart hfront hsize (h.room zone hz)

end Course

theorem course_sound {p : Setting} {avail : Account} {maxMoves : ℤ} {st : PlanState}
    (hs : Sorts sort) (h : Course p avail (queueOf sort vols) maxMoves st) :
    Sound p avail vols maxMoves st.moves := by
  obtain ⟨moved,hcarry,hsub⟩ := h.served
  refine ⟨le_trans h.bounded (le_max_left _ _),⟨moved,served_subperm hs hsub,hcarry⟩,h.replays,?_⟩
  intro zone
  rw [carried_sizes hcarry]
  have hfront : (moved.filter (fun v => v.zone = zone)).Sublist (queueOf sort vols zone) :=
    (List.sublist_append_left _ _).trans (hsub zone)
  exact (hs.sorted _).sublist (hfront.map _)

/-- Nothing overflows, even if every zone gives up all of its idle volumes. -/
structure Within (zones : List ZoneCapacity) (vols : List VolumeInfo) (headroom : ℚ) : Prop where
  total : ∀ z ∈ zones, z.total < 2^63
  room : ∀ z ∈ zones, z.avail+sizes (vols.filter (fun v => v.inUse = false ∧ v.zone = z.zone)) < 2^63
  required : ∀ v ∈ vols, v.inUse = false → ⌊(v.sizeBytes : ℚ)*(1+headroom)⌋ < 2^63

theorem rebalance_plan (hs : Sorts sort) {zones : List ZoneCapacity} {headroom : ℚ}
    (hn : (zones.map ZoneCapacity.zone).Nodup) (ha : ∀ z ∈ zones, 0 ≤ z.avail ∧ z.avail ≤ z.total)
    (hv : ∀ v ∈ vols, 0 ≤ v.sizeBytes) (hh : 0 ≤ headroom) (hw : Within zones vols headroom)
    (highThreshold lowThreshold : ℚ) (maxMoves : ℤ) :
    ∃ moves, (∃ bound, ∀ fuel, bound < fuel →
        plan sort fuel zones vols highThreshold lowThreshold headroom maxMoves = some moves) ∧
      Sound ⟨zones,accountOf ZoneCapacity.total zones,highThreshold,lowThreshold,headroom⟩
        (accountOf ZoneCapacity.avail zones) vols maxMoves moves := by
  let p : Setting := ⟨zones,accountOf ZoneCapacity.total zones,highThreshold,lowThreshold,headroom⟩
  have hbal : Balanced p ((zoneNames p).map (accountOf ZoneCapacity.avail zones)).sum
      (accountOf ZoneCapacity.avail zones) := by
    refine ⟨fun zone hm => ?_,rfl⟩
    obtain ⟨z,hz,rfl⟩ := List.mem_map.mp hm
    rw [accountOf_mem hn hz]
    exact (ha z hz).1
  by_cases hsmall : maxMoves ≤ 0 ∨ zones.length < 2
  · refine ⟨[],⟨0,fun fuel _ => by rw [plan, if_pos hsmall]⟩,?_⟩
    exact ⟨by simp,⟨[],List.nil_subperm,.nil⟩,hbal,by simp⟩
  · obtain ⟨moves,hm⟩ := rounds_finish p maxMoves _
      ⟨accountOf ZoneCapacity.avail zones,queueOf sort vols,[]⟩ le_rfl
    refine ⟨moves,⟨_,fun fuel hf => by rw [plan, if_neg hsmall]; exact hm fuel hf⟩,?_⟩
    have hstart : Course p (accountOf ZoneCapacity.avail zones) (queueOf sort vols) maxMoves
        ⟨accountOf ZoneCapacity.avail zones,queueOf sort vols,[]⟩ := by
      refine ⟨?_,rfl,hbal,⟨[],.nil,fun zone => by simp⟩,fun zone hz => ?_⟩
      · simp only [List.length_nil, Nat.cast_zero]
        omega
      · obtain ⟨z,hmem,rfl⟩ := List.mem_map.mp hz
        have hperm : sizes (queueOf sort vols z.zone) =
            sizes (vols.filter (fun v => v.inUse = false ∧ v.zone = z.zone)) :=
          ((hs.perm _).map _).sum_eq
        show accountOf ZoneCapacity.avail zones z.zone+sizes (queueOf sort vols z.zone) < 2^63
        rw [hperm, accountOf_mem hn hmem]
        exact hw.room z hmem
    have ht : ∀ zone ∈ zoneNames p, 0 ≤ p.total zone ∧ p.total zone < 2^63 := by
      intro zone hm
      obtain ⟨z,hz,rfl⟩ := List.mem_map.mp hm
      rw [show p.total z.zone = z.total from accountOf_mem hn hz]
      exact ⟨(ha z hz).1.trans (ha z hz).2,hw.total z hz⟩
    have hq : ∀ zone, ∀ v ∈ queueOf sort vols zone, v.zone = zone ∧ 0 ≤ v.sizeBytes ∧
        ⌊(v.sizeBytes : ℚ)*(1+p.headroom)⌋ < 2^63 := by
      intro zone v hmem
      obtain ⟨hmem,hidle,hz⟩ := mem_queueOf hs hmem
      exact ⟨hz,hv v hmem,hw.required v hmem hidle⟩
    obtain ⟨st,hst,rfl⟩ := rounds_invariant
      (fun _ _ hc hlt hstep => course_step (p := p) hn hh ht hq hc hlt hstep) hstart
      (hm _ (Nat.lt_succ_self _))
    exact course_sound hs hst

def bySize (vols : List VolumeInfo) : List VolumeInfo :=
  vols.insertionSort (fun a b => a.sizeBytes ≤ b.sizeBytes)

theorem bySize_sorts : Sorts bySize where
  perm := fun vols => List.perm_insertionSort _ vols
  sorted := by
    intro vols
    have ht : Std.Total (fun a b : VolumeInfo => a.sizeBytes ≤ b.sizeBytes) :=
      ⟨fun a b => le_total a.sizeBytes b.sizeBytes⟩
    have htr : IsTrans VolumeInfo (fun a b => a.sizeBytes ≤ b.sizeBytes) :=
      ⟨fun a b c => le_trans⟩
    exact List.pairwise_map.mpr (List.pairwise_insertionSort _ vols)

def sampleZones : List ZoneCapacity := [⟨"n1",10,100⟩,⟨"n2",90,100⟩]

def sampleVolumes : List VolumeInfo :=
  [⟨"ns","a","pv-a","n1",30,false⟩,⟨"ns","b","pv-b","n1",20,false⟩,⟨"ns","c","pv-c","n1",5,true⟩]

theorem rebalance_plan_pair :
    ∃ moves, (∃ bound, ∀ fuel, bound < fuel →
        plan bySize fuel sampleZones sampleVolumes (4/5) (3/5) (3/20) 5 = some moves) ∧
      Sound ⟨sampleZones,accountOf ZoneCapacity.total sampleZones,4/5,3/5,3/20⟩
        (accountOf ZoneCapacity.avail sampleZones) sampleVolumes 5 moves := by
  refine rebalance_plan bySize_sorts (by decide) (by decide) (by decide) (by norm_num)
    ⟨by decide,by decide,fun v hv _ => ?_⟩ (4/5) (3/5) 5
  have hfit : ∀ v ∈ sampleVolumes, 0 ≤ v.sizeBytes ∧ requiredBytes v.sizeBytes (3/20) < 2^63 := by
    decide +kernel
  rw [← requiredBytes_floor (hfit v hv).1 (by norm_num)]
  exact (hfit v hv).2

def wideZones : List ZoneCapacity :=
  ⟨"a",2^62,2^62⟩::["b","c","d"].map (fun zone => ⟨zone,2^63-1,2^63-1⟩)

def wideVolumes : List VolumeInfo :=
  [2^62,2^63-1024,2^63-1024].map (fun size => ⟨"ns","v","pv","a",size,false⟩)

def wideMoves : List Move :=
  [("b",2^62),("c",2^63-1024),("d",2^63-1024)].map (fun m => ⟨"ns","v","pv","a",m.1,m.2⟩)

/-- The third volume leaves the zone although less of it is in use than the threshold. -/
theorem wrapped_account_misleads :
    plan bySize 10 wideZones wideVolumes (-1) 2 0 5 = some wideMoves ∧
      ¬Sound ⟨wideZones,accountOf ZoneCapacity.total wideZones,-1,2,0⟩
        (accountOf ZoneCapacity.avail wideZones) wideVolumes 5 wideMoves := by
  refine ⟨by decide +kernel,fun h => ?_⟩
  obtain ⟨_,_,_,_,_,hthird,_⟩ := h.replays
  have hbelow : ¬(-1 : ℚ) ≤ fraction (accountOf ZoneCapacity.total wideZones)
      (replay (wideMoves.take 2) (accountOf ZoneCapacity.avail wideZones)) "a" := by decide +kernel
  exact hbelow hthird.high

end Plans

end ProxmoxCSI.RebalancePlan
