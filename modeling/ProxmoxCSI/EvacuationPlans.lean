import ProxmoxCSI.MigratorRules
import ProxmoxCSI.MigrationController
import ProxmoxCSI.PlacementOrder

/-!
# The moves of an evacuation

Without an explicit target every volume of the zone is sent to the leading place of the
first class of storages that takes it. The capacities are read once for each storage and
not charged with what is already planned, so the moves fit together exactly when, at
every entry of the tables, the volumes do that it takes.
-/

set_option autoImplicit false

namespace ProxmoxCSI.EvacuationPlans
open ClusterState MigratorCalls VolumeHandle TargetSelection PlacementOrder ControllerCalls
open MigrationController (inZone claimKind)
open RewireProgram (volumeHandleOf)

section Planning

structure EvacuateMove where
  pv : PersistentVolume
  pvcNS : String
  pvcName : String
  storage : String
  targetStorage : String
  size : ℤ
  target : String

abbrev Gather := String → Except GoError StorageCandidates

def planVolume (gather : Gather) (zone : String) (headroom : ℚ) (v : VolumeObject) :
    Except GoError (Option EvacuateMove) :=
  match v.pv.claimRef, parseVolumeID (volumeHandleOf v.pv) with
  | some ref, some vol =>
    if v.refKind ≠ claimKind then .ok none
    else match gather vol.storage with
    | .error e => .error (.flattened ("failed to get candidate capacities for storage " ++
        vol.storage ++ ": ") e)
    | .ok cands =>
      match selectCrossStorageTarget float64Bytes cands zone vol.storage v.pv.capacity headroom with
      | .error _ => .ok none
      | .ok (target,storage) => .ok (some ⟨v.pv,ref.ns,ref.name,vol.storage,
          if storage = vol.storage then "" else storage,v.pv.capacity,target⟩)
  | _, _ => .ok none

def planRegion (gather : Gather) (zone : String) (headroom : ℚ) :
    List VolumeObject → List EvacuateMove → Except GoError (List EvacuateMove)
  | [], moves => .ok moves
  | v::vs, moves => match planVolume gather zone headroom v with
    | .error e => .error e
    | .ok m => planRegion gather zone headroom vs (moves ++ m.toList)

def plannedMoves (gather : String → Gather) (zone : String) (headroom : ℚ)
    (pvs : List VolumeObject) :
    List String → List EvacuateMove → Except GoError (List EvacuateMove)
  | [], moves => .ok moves
  | region::regions, moves =>
    match planRegion (gather region) zone headroom (pvs.filter (inZone driverName region zone))
        moves with
    | .error e => .error e
    | .ok moves => plannedMoves gather zone headroom pvs regions moves

end Planning

section Destinations

variable {gather : Gather} {zone region : String} {headroom : ℚ} {v : VolumeObject}
  {vs : List VolumeObject}

def regionOf (pv : PersistentVolume) : Option String :=
  (parseVolumeID (volumeHandleOf pv)).map Volume.region

def EvacuateMove.place (m : EvacuateMove) : String × String :=
  (m.target,if m.targetStorage = "" then m.storage else m.targetStorage)

def load (moves : List EvacuateMove) (region : String) (place : String × String) : ℤ :=
  ((moves.filter (fun m => regionOf m.pv = some region ∧ m.place = place)).map EvacuateMove.size).sum

def Goes (gather : Gather) (zone : String) (headroom : ℚ) (v : VolumeObject)
    (place : String × String) : Prop :=
  v.pv.claimRef ≠ none ∧ v.refKind = claimKind ∧
    ∃ vol cands x, parseVolumeID (volumeHandleOf v.pv) = some vol ∧ gather vol.storage = .ok cands ∧
      Chosen cands zone vol.storage (float64Bytes v.pv.capacity (effectiveHeadroom headroom)) x ∧
      place = (x.2.zone,if x.1 = "" then vol.storage else x.1)

open Classical in
noncomputable def demand (gather : Gather) (zone : String) (headroom : ℚ) (vs : List VolumeObject)
    (place : String × String) : ℤ :=
  ((vs.filter (fun v => Goes gather zone headroom v place)).map (fun v => v.pv.capacity)).sum

theorem load_append (moves more : List EvacuateMove) (region : String) (place : String × String) :
    load (moves ++ more) region place = load moves region place + load more region place := by
  rw [load, List.filter_append, List.map_append, List.sum_append]
  rfl

open Classical in
theorem demand_cons (place : String × String) :
    demand gather zone headroom (v::vs) place =
      (if Goes gather zone headroom v place then v.pv.capacity else 0) +
        demand gather zone headroom vs place := by
  unfold demand
  by_cases h : Goes gather zone headroom v place
  · rw [List.filter_cons_of_pos (by simpa using h), if_pos h, List.map_cons, List.sum_cons]
  · rw [List.filter_cons_of_neg (by simpa using h), if_neg h, zero_add]

/-- A volume is planned for the entry that takes it, whatever else is planned. -/
theorem planVolume_cases {m : Option EvacuateMove} (h : planVolume gather zone headroom v = .ok m) :
    m = none ∧ (∀ place, ¬Goes gather zone headroom v place) ∨
      ∃ mv, m = some mv ∧ mv.pv = v.pv ∧ mv.size = v.pv.capacity ∧
        ∀ place, Goes gather zone headroom v place ↔ mv.place = place := by
  unfold planVolume at h
  split at h
  · rename_i ref vol href hvol
    split at h
    · rename_i hkind
      cases h
      exact .inl ⟨rfl,fun place hg => hkind hg.2.1⟩
    · rename_i hkind
      rw [not_not] at hkind
      split at h
      · cases h
      · rename_i cands hg
        rcases selectCrossStorageTarget_cases float64Bytes cands zone vol.storage v.pv.capacity
            headroom with ⟨x,hx,he⟩ | ⟨⟨e,he⟩,hnone⟩
        · rw [he] at h
          cases h
          refine .inr ⟨_,rfl,rfl,rfl,fun place => ?_⟩
          have hplace : (EvacuateMove.place ⟨v.pv,ref.ns,ref.name,vol.storage,
              if x.1 = vol.storage then "" else x.1,v.pv.capacity,x.2.zone⟩) =
              (x.2.zone,if x.1 = "" then vol.storage else x.1) := by
            by_cases hs : x.1 = vol.storage <;> simp [EvacuateMove.place, hs]
          rw [hplace]
          constructor
          · rintro ⟨_,_,vol',cands',y,hvol',hg',hy,rfl⟩
            obtain rfl := Option.some.inj (hvol.symm.trans hvol')
            obtain rfl := Except.ok.inj (hg.symm.trans hg')
            rw [chosen_unique hx hy]
          · rintro rfl
            exact ⟨by simp [href],hkind,vol,cands,x,hvol,hg,hx,rfl⟩
        · rw [he] at h
          cases h
          refine .inl ⟨rfl,?_⟩
          rintro place ⟨_,_,vol',cands',y,hvol',hg',hy,_⟩
          obtain rfl := Option.some.inj (hvol.symm.trans hvol')
          obtain rfl := Except.ok.inj (hg.symm.trans hg')
          exact hnone y hy
  · rename_i hnone
    cases h
    refine .inl ⟨rfl,?_⟩
    rintro place ⟨href,_,vol,_,_,hvol,_⟩
    obtain ⟨ref,href⟩ := Option.ne_none_iff_exists'.mp href
    exact hnone ref vol href hvol

open Classical in
theorem planVolume_load {m : Option EvacuateMove} (h : planVolume gather zone headroom v = .ok m)
    (hv : regionOf v.pv = some region) (r : String) (place : String × String) :
    load m.toList r place = if r = region then
      if Goes gather zone headroom v place then v.pv.capacity else 0 else 0 := by
  rcases planVolume_cases h with ⟨rfl,hno⟩ | ⟨mv,rfl,hpv,hsize,hgo⟩
  · simp [load, hno]
  · rw [hgo, load, Option.toList_some]
    by_cases hr : region = r <;> by_cases hp : mv.place = place <;>
      simp [hpv, hv, hsize, eq_comm (a := r), hr, hp]

theorem planRegion_load {moves out : List EvacuateMove}
    (hvs : ∀ v ∈ vs, regionOf v.pv = some region)
    (h : planRegion gather zone headroom vs moves = .ok out) (r : String)
    (place : String × String) :
    load out r place = load moves r place +
      if r = region then demand gather zone headroom vs place else 0 := by
  induction vs generalizing moves with
  | nil =>
    cases h
    simp [demand]
  | cons v vs ih =>
    rw [planRegion] at h
    split at h
    · cases h
    · rename_i m hm
      rw [ih (fun x hx => hvs x (List.mem_cons_of_mem _ hx)) h, load_append, demand_cons,
        planVolume_load hm (hvs v List.mem_cons_self)]
      by_cases hr : r = region
      · subst hr
        simp [add_assoc]
      · simp [hr]

theorem inZone_region {pvs : List VolumeObject}
    (h : v ∈ pvs.filter (inZone driverName region zone)) : regionOf v.pv = some region := by
  obtain ⟨_,hv⟩ := List.mem_filter.mp h
  unfold inZone at hv
  split at hv
  · cases hv
  · rename_i csi hcsi
    split at hv
    · cases hv
    · rename_i vol hvol
      have hhandle : volumeHandleOf v.pv = csi.volumeHandle := by simp [volumeHandleOf, hcsi]
      rw [regionOf, hhandle, hvol, Option.map_some, (of_decide_eq_true hv).2.1]

theorem plannedMoves_load {gather : String → Gather} {pvs : List VolumeObject}
    {regions : List String} {moves out : List EvacuateMove} (hn : regions.Nodup)
    (h : plannedMoves gather zone headroom pvs regions moves = .ok out) (r : String)
    (place : String × String) :
    load out r place = load moves r place + if r ∈ regions then
      demand (gather r) zone headroom (pvs.filter (inZone driverName r zone)) place else 0 := by
  induction regions generalizing moves with
  | nil =>
    cases h
    simp
  | cons region regions ih =>
    rw [plannedMoves] at h
    rw [List.nodup_cons] at hn
    split at h
    · cases h
    · rename_i mid hmid
      rw [ih hn.2 h, planRegion_load (fun v hv => inZone_region hv) hmid]
      by_cases hr : r = region
      · subst hr
        simp [hn.1]
      · simp [hr]

def Fits (gather : String → Gather) (regions : List String)
    (bytes : String → String × String → ℤ) : Prop :=
  ∀ region ∈ regions, ∀ source cands, gather region source = .ok cands →
    ∀ storage, ∀ z ∈ cands.zones storage, bytes region (z.zone,storage) ≤ z.avail

/-- The moves of all regions together fit exactly when, at every entry of the tables, the
volumes do whose leading place it is. -/
theorem evacuation_fits_iff {gather : String → Gather} {pvs : List VolumeObject}
    {regions : List String} {moves : List EvacuateMove} (hn : regions.Nodup)
    (h : plannedMoves gather zone headroom pvs regions [] = .ok moves) :
    Fits gather regions (load moves) ↔ Fits gather regions (fun region =>
      demand (gather region) zone headroom (pvs.filter (inZone driverName region zone))) := by
  have hload : ∀ region ∈ regions, ∀ place, load moves region place =
      demand (gather region) zone headroom (pvs.filter (inZone driverName region zone)) place := by
    intro region hr place
    rw [plannedMoves_load hn h, if_pos hr]
    exact zero_add _
  constructor
  · intro hf region hr source cands hg storage z hz
    exact (hload region hr (z.zone,storage)).ge.trans (hf region hr source cands hg storage z hz)
  · intro hf region hr source cands hg storage z hz
    exact (hload region hr (z.zone,storage)).le.trans (hf region hr source cands hg storage z hz)

def sampleVolume (capacity : ℤ) : VolumeObject :=
  ⟨{ MigratorRules.sampleVolume "r/n1/data/vm-9999-pvc-a" .delete with capacity := capacity
    },claimKind⟩

def sampleGather : String → Gather := fun _ _ =>
  .ok ⟨(∅ : Table String (List ZoneCapacity)).insert "data" [⟨"n1",0,100⟩,⟨"n2",100,100⟩],""⟩

theorem evacuation_fits_single :
    ∃ moves, plannedMoves sampleGather "n1" 0 [sampleVolume 60] ["r"] [] = .ok moves ∧
      (Fits sampleGather ["r"] (load moves) ↔ Fits sampleGather ["r"] (fun region =>
        demand (sampleGather region) "n1" 0
          ([sampleVolume 60].filter (inZone driverName region "n1")))) := by
  have hok : (plannedMoves sampleGather "n1" 0 [sampleVolume 60] ["r"] []).isOk := by decide +kernel
  cases hplan : plannedMoves sampleGather "n1" 0 [sampleVolume 60] ["r"] [] with
  | error e =>
    rw [hplan] at hok
    cases hok
  | ok moves => exact ⟨moves,rfl,evacuation_fits_iff (by decide) hplan⟩

/-- Each of the two fits, and both are sent to the same place. -/
theorem evacuation_overcommits :
    ∃ moves, plannedMoves sampleGather "n1" 0 [sampleVolume 60,sampleVolume 70] ["r"] [] = .ok moves ∧
      ⟨"n2",100,100⟩ ∈ ((sampleGather "r" "data").toOption.map (fun c => c.zones "data")).getD [] ∧
      100 < load moves "r" ("n2","data") := by
  have hload : (plannedMoves sampleGather "n1" 0 [sampleVolume 60,sampleVolume 70] ["r"]
    []).toOption.map
      (fun moves => load moves "r" ("n2","data")) = some 130 := by decide +kernel
  cases hplan : plannedMoves sampleGather "n1" 0 [sampleVolume 60,sampleVolume 70] ["r"] [] with
  | error e =>
    rw [hplan] at hload
    cases hload
  | ok moves =>
    rw [hplan] at hload
    refine ⟨moves,rfl,by decide +kernel,?_⟩
    have hbytes : load moves "r" ("n2","data") = 130 := Option.some.inj hload
    omega

end Destinations

end ProxmoxCSI.EvacuationPlans
