import Mathlib.Data.Rat.Floor
import Mathlib.Tactic.Linarith
import Mathlib.Tactic.Positivity
import ProxmoxCSI.TargetSelection

/-!
# The place a volume is sent to

The storages form three classes: the storage of the volume, the default storage
and the others. Outside of the zone of the volume each class has one leading
place, the first of the roomiest ones, which does not depend on the volume. A
volume goes to the leading place of the first class that takes it, and nowhere
when none does.
-/

set_option autoImplicit false

namespace ProxmoxCSI.PlacementOrder
open ClusterState MigratorCalls TargetSelection

section Maximum

variable {α β : Type} {p : α → Prop} {f : α → ℤ} {xs : List α} {x y : α}

def First (p : α → Prop) (f : α → ℤ) (xs : List α) (x : α) : Prop :=
  ∃ before behind, xs = before ++ x::behind ∧ p x ∧ (∀ y ∈ before, p y → f y < f x) ∧
    ∀ y ∈ behind, p y → f y ≤ f x

theorem first_max (h : First p f xs x) : x ∈ xs ∧ p x ∧ ∀ y ∈ xs, p y → f y ≤ f x := by
  obtain ⟨before,behind,rfl,hx,hlt,hle⟩ := h
  refine ⟨List.mem_append_right _ List.mem_cons_self,hx,fun y hy hp => ?_⟩
  rcases List.mem_append.mp hy with hy | hy
  · exact (hlt y hy hp).le
  · rcases List.mem_cons.mp hy with rfl | hy
    · exact le_rfl
    · exact hle y hy hp

theorem first_unique (hx : First p f xs x) (hy : First p f xs y) : x = y := by
  have hxy := (first_max hx).2.2 y (first_max hy).1 (first_max hy).2.1
  have hyx := (first_max hy).2.2 x (first_max hx).1 (first_max hx).2.1
  obtain ⟨before,behind,rfl,hpx,hltx,_⟩ := hx
  obtain ⟨before',behind',he,hpy,hlty,_⟩ := hy
  rcases List.append_eq_append_iff.mp he with ⟨l,hl,hr⟩ | ⟨l,hl,hr⟩
  · cases l with
    | nil => exact (List.cons.inj hr).1
    | cons z l =>
      obtain ⟨rfl,_⟩ := List.cons.inj hr
      have hlt := hlty x (hl ▸ List.mem_append_right _ List.mem_cons_self) hpx
      omega
  · cases l with
    | nil => exact (List.cons.inj hr).1.symm
    | cons z l =>
      obtain ⟨rfl,_⟩ := List.cons.inj hr
      have hlt := hltx y (hl ▸ List.mem_append_right _ List.mem_cons_self) hpy
      omega

theorem first_exists (h : ∃ y ∈ xs, p y) : ∃ x, First p f xs x := by
  induction xs with
  | nil =>
    obtain ⟨_,hy,_⟩ := h
    cases hy
  | cons a xs ih =>
    by_cases hsome : ∃ y ∈ xs, p y
    · obtain ⟨x,hx⟩ := ih hsome
      by_cases ha : p a ∧ f x ≤ f a
      · exact ⟨a,[],xs,rfl,ha.1,fun _ hy => (by cases hy),
          fun y hy hp => ((first_max hx).2.2 y hy hp).trans ha.2⟩
      · obtain ⟨before,behind,rfl,hp,hlt,hle⟩ := hx
        refine ⟨x,a::before,behind,rfl,hp,fun y hy hpy => ?_,hle⟩
        rcases List.mem_cons.mp hy with rfl | hy
        · exact not_le.mp (fun hfa => ha ⟨hpy,hfa⟩)
        · exact hlt y hy hpy
    · obtain ⟨y,hy,hp⟩ := h
      rcases List.mem_cons.mp hy with rfl | hy
      · exact ⟨y,[],xs,rfl,hp,fun _ hy => (by cases hy),fun z hz hpz => absurd ⟨z,hz,hpz⟩ hsome⟩
      · exact absurd ⟨y,hy,hp⟩ hsome

theorem first_bounded {r : ℤ} :
    First (fun y => p y ∧ r ≤ f y) f xs x ↔ First p f xs x ∧ r ≤ f x := by
  constructor
  · rintro ⟨before,behind,he,⟨hp,hr⟩,hlt,hle⟩
    refine ⟨⟨before,behind,he,hp,fun y hy hpy => ?_,fun y hy hpy => ?_⟩,hr⟩
    · by_cases hry : r ≤ f y
      · exact hlt y hy ⟨hpy,hry⟩
      · omega
    · by_cases hry : r ≤ f y
      · exact hle y hy ⟨hpy,hry⟩
      · omega
  · rintro ⟨⟨before,behind,he,hp,hlt,hle⟩,hr⟩
    exact ⟨before,behind,he,⟨hp,hr⟩,fun y hy hpy => hlt y hy hpy.1,fun y hy hpy => hle y hy hpy.1⟩

/-- A running maximum ends with the first of the largest elements. -/
theorem foldl_first [DecidablePred p] {step : β → α → β} (val : β → ℤ) (make : α → β)
    (hs : ∀ b x, step b x = if p x ∧ val b < f x then make x else b)
    (hv : ∀ x, val (make x) = f x) (xs : List α) (b : β) :
    (xs.foldl step b = b ∧ ∀ x ∈ xs, p x → f x ≤ val b) ∨
      ∃ x, First p f xs x ∧ val b < f x ∧ xs.foldl step b = make x := by
  induction xs generalizing b with
  | nil => exact .inl ⟨rfl,fun _ hx => by cases hx⟩
  | cons a xs ih =>
    rw [List.foldl_cons, hs]
    by_cases hc : p a ∧ val b < f a
    · rw [if_pos hc]
      rcases ih (make a) with ⟨he,hall⟩ | ⟨x,⟨before,behind,rfl,hp,hlt,hle⟩,hgt,he⟩
      · rw [hv] at hall
        exact .inr ⟨a,⟨[],xs,rfl,hc.1,fun _ hy => (by cases hy),hall⟩,hc.2,he⟩
      · rw [hv] at hgt
        refine .inr ⟨x,⟨a::before,behind,rfl,hp,fun y hy hpy => ?_,hle⟩,hc.2.trans hgt,he⟩
        rcases List.mem_cons.mp hy with rfl | hy
        · exact hgt
        · exact hlt y hy hpy
    · rw [if_neg hc]
      have ha : p a → f a ≤ val b := fun hp => not_lt.mp (fun hlt => hc ⟨hp,hlt⟩)
      rcases ih b with ⟨he,hall⟩ | ⟨x,⟨before,behind,rfl,hp,hlt,hle⟩,hgt,he⟩
      · refine .inl ⟨he,fun y hy hp => ?_⟩
        rcases List.mem_cons.mp hy with rfl | hy
        · exact ha hp
        · exact hall y hy hp
      · refine .inr ⟨x,⟨a::before,behind,rfl,hp,fun y hy hpy => ?_,hle⟩,hgt,he⟩
        rcases List.mem_cons.mp hy with rfl | hy
        · exact (ha hpy).trans_lt hgt
        · exact hlt y hy hpy

end Maximum

section Required

variable {sizeBytes : ℤ} {headroom : ℚ}

theorem requiredBytes_floor (hs : 0 ≤ sizeBytes) (hh : 0 ≤ headroom) :
    requiredBytes sizeBytes headroom = ⌊(sizeBytes : ℚ)*(1+headroom)⌋ := by
  have hnum : 0 ≤ headroom.num := Rat.num_nonneg.mpr hh
  have hden : (headroom.den : ℚ) ≠ 0 := by exact_mod_cast headroom.den_nz
  have hq : (sizeBytes : ℚ)*(1+headroom) =
      ((sizeBytes*(headroom.den+headroom.num) : ℤ) : ℚ)/(headroom.den : ℚ) := by
    have hm : headroom*(headroom.den : ℚ) = headroom.num := Rat.mul_den_eq_num headroom
    rw [eq_div_iff hden]
    push_cast
    rw [mul_assoc, add_mul, one_mul, hm]
  rw [hq, Rat.floor_intCast_div_natCast, requiredBytes, Int.tdiv_eq_ediv_of_nonneg]
  positivity

theorem effectiveHeadroom_eq (hh : 0 ≤ headroom) : effectiveHeadroom headroom = headroom :=
  if_neg (not_lt.mpr hh)

theorem size_le_required (hs : 0 ≤ sizeBytes) (hh : 0 ≤ headroom) :
    sizeBytes ≤ requiredBytes sizeBytes headroom := by
  rw [requiredBytes_floor hs hh, Int.le_floor]
  have hs' : (0 : ℚ) ≤ sizeBytes := by exact_mod_cast hs
  nlinarith

end Required

section Places

variable {c : StorageCandidates} {entries : List (String × ZoneCapacity)} {sourceZone : String}
  {required : ℤ} {x y : String × ZoneCapacity}

def places (c : StorageCandidates) (storages : List String) : List (String × ZoneCapacity) :=
  storages.flatMap (fun s => (c.zones s).map (fun z => (s,z)))

theorem mem_places {storages : List String} {x : String × ZoneCapacity} :
    x ∈ places c storages ↔ x.1 ∈ storages ∧ x.2 ∈ c.zones x.1 := by
  obtain ⟨s,z⟩ := x
  simp only [places, List.mem_flatMap, List.mem_map, Prod.mk.injEq]
  constructor
  · rintro ⟨s',hs,z',hz,rfl,rfl⟩
    exact ⟨hs,hz⟩
  · rintro ⟨hs,hz⟩
    exact ⟨s,hs,z,hz,rfl,rfl⟩

def Leads (entries : List (String × ZoneCapacity)) (sourceZone : String)
    (x : String × ZoneCapacity) : Prop :=
  First (fun y => y.2.zone ≠ sourceZone) (fun y => y.2.avail) entries x

/-- The leading place has a name and room for that many bytes. -/
structure Takes (entries : List (String × ZoneCapacity)) (sourceZone : String) (required : ℤ)
    (x : String × ZoneCapacity) : Prop where
  leads : Leads entries sourceZone x
  room : required ≤ x.2.avail
  some : 0 < x.2.avail
  named : x.2.zone ≠ ""

theorem qualifies_iff {z : ZoneCapacity} :
    Qualifies [sourceZone] required z ↔ z.zone ≠ sourceZone ∧ required ≤ z.avail := by
  rw [Qualifies, List.mem_singleton]

theorem first_qualifies : First (fun y : String × ZoneCapacity => Qualifies [sourceZone] required y.2)
    (fun y => y.2.avail) entries x ↔ Leads entries sourceZone x ∧ required ≤ x.2.avail := by
  simp only [qualifies_iff]
  exact first_bounded

theorem takes_unique (hx : Takes entries sourceZone required x)
    (hy : Takes entries sourceZone required y) : x = y := first_unique hx.leads hy.leads

theorem search_takes {β : Type} {step : β → String × ZoneCapacity → β} (val : β → ℤ)
    (zone : β → String) (make : String × ZoneCapacity → β)
    (hs : ∀ b x, step b x = if Qualifies [sourceZone] required x.2 ∧ val b < x.2.avail then make x
      else b) (hv : ∀ x, val (make x) = x.2.avail) (hz : ∀ x, zone (make x) = x.2.zone) {b : β}
    (hb : val b = 0) (hn : zone b = "") (entries : List (String × ZoneCapacity)) :
    (zone (entries.foldl step b) = "" ∧ ∀ x, ¬Takes entries sourceZone required x) ∨
      ∃ x, Takes entries sourceZone required x ∧ entries.foldl step b = make x := by
  rcases foldl_first (p := fun y : String × ZoneCapacity => Qualifies [sourceZone] required y.2)
    (f := fun y => y.2.avail) val make hs hv entries b with ⟨he,hall⟩ | ⟨x,hx,hgt,he⟩
  · refine .inl ⟨by rw [he, hn],fun x hx => ?_⟩
    obtain ⟨hm,hp,_⟩ := first_max (first_qualifies.mpr ⟨hx.leads,hx.room⟩)
    have hle := hall x hm hp
    have hpos := hx.some
    omega
  · have hx' := first_qualifies.mp hx
    by_cases hname : x.2.zone = ""
    · refine .inl ⟨by rw [he, hz, hname],fun y hy => hy.named ?_⟩
      rw [first_unique hy.leads hx'.1, hname]
    · exact .inr ⟨x,⟨hx'.1,hx'.2,hb ▸ hgt,hname⟩,he⟩

def Full (c : StorageCandidates) (storages : List String) (sourceZone : String) (required : ℤ) :
    Prop :=
  ∀ x ∈ places c storages, ¬Qualifies [sourceZone] required x.2

def Best (c : StorageCandidates) (storages : List String) (sourceZone : String) (required : ℤ)
    (place : String × String) : Prop :=
  ∃ x ∈ places c storages, place = (x.2.zone,x.1) ∧ Qualifies [sourceZone] required x.2 ∧
    ∀ y ∈ places c storages, Qualifies [sourceZone] required y.2 → y.2.avail ≤ x.2.avail

theorem takes_best {storages : List String} (h : Takes (places c storages) sourceZone required x) :
    Best c storages sourceZone required (x.2.zone,x.1) := by
  obtain ⟨hm,hp,hmax⟩ := first_max (first_qualifies.mpr ⟨h.leads,h.room⟩)
  exact ⟨x,hm,rfl,hp,hmax⟩

theorem full_of_untaken {storages : List String} (hr : 0 < required)
    (hz : ∀ y ∈ places c storages, y.2.zone ≠ "")
    (h : ∀ x, ¬Takes (places c storages) sourceZone required x) :
    Full c storages sourceZone required := by
  intro y hy hq
  obtain ⟨x,hx⟩ := first_exists (f := fun y : String × ZoneCapacity => y.2.avail)
    (p := fun y => Qualifies [sourceZone] required y.2) ⟨y,hy,hq⟩
  obtain ⟨hl,hroom⟩ := first_qualifies.mp hx
  exact h x ⟨hl,hroom,hr.trans_le hroom,hz x (first_max hx).1⟩

theorem full_single {storage : String} : Full c [storage] sourceZone required ↔
    ∀ z ∈ c.zones storage, ¬Qualifies [sourceZone] required z := by
  constructor
  · intro h z hz
    exact h (storage,z) (mem_places.mpr ⟨List.mem_singleton_self _,hz⟩)
  · intro h x hx
    obtain ⟨hs,hz⟩ := mem_places.mp hx
    rw [List.mem_singleton.mp hs] at hz
    exact h x.2 hz

theorem zones_of_not_mem {storage : String} (h : storage ∉ c.capacities) : c.zones storage = [] := by
  rw [StorageCandidates.zones, AList.lookup_eq_none.mpr h, Option.getD_none]

theorem full_of_not_mem {storage : String} (h : storage ∉ c.capacities) (sourceZone : String)
    (required : ℤ) : Full c [storage] sourceZone required := by
  rw [full_single, zones_of_not_mem h]
  exact fun z hz => by cases hz

/-- The three classes are all candidates. -/
theorem full_keys_iff {sourceZone : String} (sourceStorage : String) {required : ℤ} :
    Full c c.capacities.keys sourceZone required ↔ Full c [sourceStorage] sourceZone required ∧
      Full c [c.defaultStorage] sourceZone required ∧
      Full c (otherStorages c sourceStorage) sourceZone required := by
  constructor
  · intro h
    have hsingle : ∀ storage, Full c [storage] sourceZone required := by
      intro storage
      by_cases hm : storage ∈ c.capacities
      · rw [full_single]
        exact fun z hz => h (storage,z) (mem_places.mpr ⟨AList.mem_keys.mp hm,hz⟩)
      · exact full_of_not_mem hm sourceZone required
    refine ⟨hsingle _,hsingle _,fun x hx => ?_⟩
    obtain ⟨hs,hz⟩ := mem_places.mp hx
    have hk : x.1 ∈ c.capacities.keys := by
      have hn := (List.mem_filter.mp hs).1
      rwa [StorageCandidates.names, List.mem_insertionSort] at hn
    exact h x (mem_places.mpr ⟨hk,hz⟩)
  · rintro ⟨hown,hdef,hother⟩ x hx
    obtain ⟨hs,hz⟩ := mem_places.mp hx
    by_cases ho : x.1 = sourceStorage
    · exact full_single.mp hown x.2 (ho ▸ hz)
    · by_cases hd : x.1 = c.defaultStorage
      · exact full_single.mp hdef x.2 (hd ▸ hz)
      · refine hother x (mem_places.mpr ⟨List.mem_filter.mpr ⟨?_,by simp [ho, hd]⟩,hz⟩)
        rwa [StorageCandidates.names, List.mem_insertionSort]

end Places

section Choice

variable {amount : ℤ → ℚ → ℤ} {c : StorageCandidates} {sourceZone sourceStorage : String}
  {sizeBytes : ℤ} {headroom : ℚ} {required : ℤ} {x y : String × ZoneCapacity}

def triedDefault (c : StorageCandidates) (sourceStorage : String) : List String :=
  if c.defaultStorage ≠ "" ∧ c.defaultStorage ≠ sourceStorage then [c.defaultStorage] else []

/-- The leading place of the first class that takes the bytes. -/
def Chosen (c : StorageCandidates) (sourceZone sourceStorage : String) (required : ℤ)
    (x : String × ZoneCapacity) : Prop :=
  Takes (places c [sourceStorage]) sourceZone required x ∨
  (∀ y, ¬Takes (places c [sourceStorage]) sourceZone required y) ∧
    (Takes (places c (triedDefault c sourceStorage)) sourceZone required x ∨
    (∀ y, ¬Takes (places c (triedDefault c sourceStorage)) sourceZone required y) ∧
      Takes (places c (otherStorages c sourceStorage)) sourceZone required x)

theorem chosen_unique (hx : Chosen c sourceZone sourceStorage required x)
    (hy : Chosen c sourceZone sourceStorage required y) : x = y := by
  rcases hx with hx | ⟨hx,hx'⟩ <;> rcases hy with hy | ⟨hy,hy'⟩
  · exact takes_unique hx hy
  · exact absurd hx (hy x)
  · exact absurd hy (hx y)
  · rcases hx' with hx' | ⟨hx',hx''⟩ <;> rcases hy' with hy' | ⟨hy',hy''⟩
    · exact takes_unique hx' hy'
    · exact absurd hx' (hy' x)
    · exact absurd hy' (hx' y)
    · exact takes_unique hx'' hy''

theorem chosen_place (h : Chosen c sourceZone sourceStorage required x) :
    x.2.zone ≠ "" ∧ x.2.zone ≠ sourceZone := by
  have htakes : ∃ entries, Takes entries sourceZone required x := by
    rcases h with h | ⟨_,h | ⟨_,h⟩⟩ <;> exact ⟨_,h⟩
  obtain ⟨_,ht⟩ := htakes
  exact ⟨ht.named,(first_max ht.leads).2.1⟩

theorem bestZone_cases (zones : List ZoneCapacity) (storage sourceZone : String) (required : ℤ) :
    ((bestZone zones [sourceZone] required).zone = "" ∧
      ∀ x, ¬Takes (zones.map (storage,·)) sourceZone required x) ∨
    ∃ x, Takes (zones.map (storage,·)) sourceZone required x ∧
      bestZone zones [sourceZone] required = x.2 := by
  have h := search_takes ZoneCapacity.avail ZoneCapacity.zone Prod.snd
    (fun b x => (rfl : betterZone [sourceZone] required b x.2 = _)) (fun _ => rfl) (fun _ => rfl)
    (b := ⟨"",0,0⟩) rfl rfl (zones.map (storage,·))
  rwa [List.foldl_map] at h

theorem selectTarget_cases (amount : ℤ → ℚ → ℤ) (zones : List ZoneCapacity)
    (storage sourceZone : String) (sizeBytes : ℤ) (headroom : ℚ) :
    ((∃ e, selectTarget amount zones [sourceZone] sizeBytes headroom = .error e) ∧
      ∀ x, ¬Takes (zones.map (storage,·)) sourceZone
        (amount sizeBytes (effectiveHeadroom headroom)) x) ∨
    ∃ x, Takes (zones.map (storage,·)) sourceZone (amount sizeBytes (effectiveHeadroom headroom)) x ∧
      selectTarget amount zones [sourceZone] sizeBytes headroom = .ok x.2.zone := by
  unfold selectTarget
  rcases bestZone_cases zones storage sourceZone (amount sizeBytes (effectiveHeadroom headroom)) with
    ⟨hb,hnone⟩ | ⟨x,hx,hb⟩
  · exact .inl ⟨⟨_,if_pos hb⟩,hnone⟩
  · refine .inr ⟨x,hx,?_⟩
    simp only [hb, hx.named, if_false]

theorem selectTarget_qualifies {zones : List ZoneCapacity} {zone : String}
    (h : selectTarget amount zones [sourceZone] sizeBytes headroom = .ok zone) :
    ∃ z ∈ zones, z.zone = zone ∧
      Qualifies [sourceZone] (amount sizeBytes (effectiveHeadroom headroom)) z := by
  rcases selectTarget_cases amount zones "" sourceZone sizeBytes headroom with
    ⟨⟨e,he⟩,_⟩ | ⟨x,hx,he⟩
  · rw [he] at h
    cases h
  · obtain ⟨hm,hp,_⟩ := first_max (first_qualifies.mpr ⟨hx.leads,hx.room⟩)
    obtain ⟨z,hz,rfl⟩ := List.mem_map.mp hm
    exact ⟨z,hz,Except.ok.inj (he.symm.trans h),hp⟩

theorem bestPlace_cases (c : StorageCandidates) (sourceZone sourceStorage : String) (required : ℤ) :
    ((bestPlace c sourceZone sourceStorage required).zone = "" ∧
      ∀ x, ¬Takes (places c (otherStorages c sourceStorage)) sourceZone required x) ∨
    ∃ x, Takes (places c (otherStorages c sourceStorage)) sourceZone required x ∧
      bestPlace c sourceZone sourceStorage required = ⟨x.2.zone,x.1,x.2.avail⟩ := by
  have hflat : bestPlace c sourceZone sourceStorage required =
      (places c (otherStorages c sourceStorage)).foldl
        (fun b x => betterPlace sourceZone required x.1 b x.2) ⟨"","",0⟩ := by
    simp only [bestPlace, places, List.foldl_flatMap, List.foldl_map]
  rw [hflat]
  exact search_takes BestPlace.avail BestPlace.zone (fun x => ⟨x.2.zone,x.1,x.2.avail⟩)
    (fun _ _ => rfl) (fun _ => rfl) (fun _ => rfl) rfl rfl _

theorem places_single (c : StorageCandidates) (storage : String) :
    places c [storage] = (c.zones storage).map (storage,·) := by
  rw [places, List.flatMap_singleton]

theorem places_storage {storage : String} (h : x ∈ places c [storage]) : x.1 = storage :=
  List.mem_singleton.mp (mem_places.mp h).1

def fromDefault (amount : ℤ → ℚ → ℤ) (c : StorageCandidates) (sourceZone sourceStorage : String)
    (sizeBytes : ℤ) (headroom : ℚ) : Option String :=
  if c.defaultStorage ≠ "" ∧ c.defaultStorage ≠ sourceStorage then
    (selectTarget amount (c.zones c.defaultStorage) [sourceZone] sizeBytes headroom).toOption
  else none

theorem fromDefault_cases (amount : ℤ → ℚ → ℤ) (c : StorageCandidates)
    (sourceZone sourceStorage : String) (sizeBytes : ℤ) (headroom : ℚ) :
    (fromDefault amount c sourceZone sourceStorage sizeBytes headroom = none ∧
      ∀ x, ¬Takes (places c (triedDefault c sourceStorage)) sourceZone
        (amount sizeBytes (effectiveHeadroom headroom)) x) ∨
    ∃ x, Takes (places c (triedDefault c sourceStorage)) sourceZone
        (amount sizeBytes (effectiveHeadroom headroom)) x ∧ x.1 = c.defaultStorage ∧
      fromDefault amount c sourceZone sourceStorage sizeBytes headroom = some x.2.zone := by
  unfold fromDefault triedDefault
  by_cases hd : c.defaultStorage ≠ "" ∧ c.defaultStorage ≠ sourceStorage
  · rw [if_pos hd, if_pos hd]
    have hcases := selectTarget_cases amount (c.zones c.defaultStorage) c.defaultStorage sourceZone
      sizeBytes headroom
    rw [← places_single] at hcases
    rcases hcases with ⟨⟨e,he⟩,hnone⟩ | ⟨x,hx,he⟩
    · exact .inl ⟨by rw [he]; rfl,hnone⟩
    · exact .inr ⟨x,hx,places_storage (first_max hx.leads).1,by rw [he]; rfl⟩
  · rw [if_neg hd, if_neg hd]
    refine .inl ⟨rfl,fun x hx => ?_⟩
    cases (first_max hx.leads).1

theorem selectCrossStorageTarget_cases (amount : ℤ → ℚ → ℤ) (c : StorageCandidates)
    (sourceZone sourceStorage : String) (sizeBytes : ℤ) (headroom : ℚ) :
    (∃ x, Chosen c sourceZone sourceStorage (amount sizeBytes (effectiveHeadroom headroom)) x ∧
      selectCrossStorageTarget amount c sourceZone sourceStorage sizeBytes headroom =
        .ok (x.2.zone,x.1)) ∨
    (∃ e, selectCrossStorageTarget amount c sourceZone sourceStorage sizeBytes headroom = .error e) ∧
      ∀ x, ¬Chosen c sourceZone sourceStorage (amount sizeBytes (effectiveHeadroom headroom)) x := by
  have hown := selectTarget_cases amount (c.zones sourceStorage) sourceStorage sourceZone sizeBytes
    headroom
  rw [← places_single] at hown
  have hdef : (if c.defaultStorage ≠ "" ∧ c.defaultStorage ≠ sourceStorage then
      (selectTarget amount (c.zones c.defaultStorage) [sourceZone] sizeBytes headroom).toOption
      else none) = fromDefault amount c sourceZone sourceStorage sizeBytes headroom := rfl
  unfold selectCrossStorageTarget
  rcases hown with ⟨⟨e,he⟩,hown⟩ | ⟨x,hx,he⟩
  · rw [he]
    simp only [hdef]
    rcases fromDefault_cases amount c sourceZone sourceStorage sizeBytes headroom with
      ⟨hd,hnone⟩ | ⟨x,hx,hs,hd⟩
    · rw [hd]
      rcases bestPlace_cases c sourceZone sourceStorage
          (amount sizeBytes (effectiveHeadroom headroom)) with ⟨hb,hother⟩ | ⟨x,hx,hb⟩
      · refine .inr ⟨⟨_,if_pos hb⟩,?_⟩
        rintro x (hx | ⟨_,hx | ⟨_,hx⟩⟩)
        · exact hown x hx
        · exact hnone x hx
        · exact hother x hx
      · refine .inl ⟨x,.inr ⟨hown,.inr ⟨hnone,hx⟩⟩,?_⟩
        simp only [hb, hx.named, if_false]
    · rw [hd]
      exact .inl ⟨x,.inr ⟨hown,.inl hx⟩,by rw [hs]⟩
  · rw [he]
    refine .inl ⟨x,.inl hx,?_⟩
    rw [places_storage (first_max hx.leads).1]

end Choice

section Selection

def Preferred (c : StorageCandidates) (sourceZone sourceStorage : String) (required : ℤ)
    (place : String × String) : Prop :=
  Best c [sourceStorage] sourceZone required place ∨
  Full c [sourceStorage] sourceZone required ∧
    Best c [c.defaultStorage] sourceZone required place ∨
  Full c [sourceStorage] sourceZone required ∧ Full c [c.defaultStorage] sourceZone required ∧
    Best c (otherStorages c sourceStorage) sourceZone required place

/-- The candidates have names. -/
structure Named (c : StorageCandidates) : Prop where
  zones : ∀ s, ∀ z ∈ c.zones s, z.zone ≠ ""
  storages : "" ∉ c.capacities

variable {c : StorageCandidates} {sizeBytes : ℤ} {headroom : ℚ} {sourceZone sourceStorage : String}
  {required : ℤ}

theorem named_full (hc : Named c) (hr : 0 < required) {storages : List String}
    (h : ∀ x, ¬Takes (places c storages) sourceZone required x) :
    Full c storages sourceZone required :=
  full_of_untaken hr (fun y hy => hc.zones y.1 y.2 (mem_places.mp hy).2) h

theorem triedDefault_full (hc : Named c) (hr : 0 < required)
    (hown : Full c [sourceStorage] sourceZone required)
    (h : ∀ x, ¬Takes (places c (triedDefault c sourceStorage)) sourceZone required x) :
    Full c [c.defaultStorage] sourceZone required := by
  unfold triedDefault at h
  by_cases hd : c.defaultStorage ≠ "" ∧ c.defaultStorage ≠ sourceStorage
  · rw [if_pos hd] at h
    exact named_full hc hr h
  · by_cases he : c.defaultStorage = ""
    · exact full_of_not_mem (he ▸ hc.storages) sourceZone _
    · have hs : c.defaultStorage = sourceStorage := by
        by_contra hne
        exact hd ⟨he,hne⟩
      rwa [hs]

theorem chosen_preferred (hc : Named c) (hr : 0 < required) {x : String × ZoneCapacity}
    (h : Chosen c sourceZone sourceStorage required x) :
    Preferred c sourceZone sourceStorage required (x.2.zone,x.1) := by
  rcases h with h | ⟨hown,h | ⟨hdefault,h⟩⟩
  · exact .inl (takes_best h)
  · refine .inr (.inl ⟨named_full hc hr hown,?_⟩)
    unfold triedDefault at h
    split at h
    · exact takes_best h
    · cases (first_max h.leads).1
  · have hfull := named_full hc hr hown
    exact .inr (.inr ⟨hfull,triedDefault_full hc hr hfull hdefault,takes_best h⟩)

theorem unchosen_full (hc : Named c) (hr : 0 < required)
    (h : ∀ x, ¬Chosen c sourceZone sourceStorage required x) :
    Full c c.capacities.keys sourceZone required := by
  have hown : ∀ x, ¬Takes (places c [sourceStorage]) sourceZone required x :=
    fun x hx => h x (.inl hx)
  have hdefault : ∀ x, ¬Takes (places c (triedDefault c sourceStorage)) sourceZone required x :=
    fun x hx => h x (.inr ⟨hown,.inl hx⟩)
  have hfull := named_full hc hr hown
  exact (full_keys_iff sourceStorage).mpr ⟨hfull,triedDefault_full hc hr hfull hdefault,
    named_full hc hr (fun x hx => h x (.inr ⟨hown,.inr ⟨hdefault,hx⟩⟩))⟩

theorem best_away {storages : List String} {sourceZone : String} {required : ℤ}
    {place : String × String} (h : Best c storages sourceZone required place) :
    place.1 ≠ sourceZone ∧ ¬Full c storages sourceZone required := by
  obtain ⟨x,hx,rfl,hq,_⟩ := h
  exact ⟨by simpa using hq.1,fun hf => hf x hx hq⟩

theorem preferred_away {sourceZone sourceStorage : String} {required : ℤ}
    {place : String × String} (h : Preferred c sourceZone sourceStorage required place) :
    place.1 ≠ sourceZone ∧ ¬Full c c.capacities.keys sourceZone required := by
  rw [full_keys_iff sourceStorage]
  rcases h with h | ⟨_,h⟩ | ⟨_,_,h⟩
  · exact ⟨(best_away h).1,fun hf => (best_away h).2 hf.1⟩
  · exact ⟨(best_away h).1,fun hf => (best_away h).2 hf.2.1⟩
  · exact ⟨(best_away h).1,fun hf => (best_away h).2 hf.2.2⟩

theorem cross_storage_target (hc : Named c) (hs : 0 < sizeBytes) (hh : 0 ≤ headroom)
    (sourceZone sourceStorage : String) :
    (∀ z s, selectCrossStorageTarget requiredBytes c sourceZone sourceStorage sizeBytes headroom =
        .ok (z,s) → z ≠ sourceZone ∧
      Preferred c sourceZone sourceStorage ⌊(sizeBytes : ℚ)*(1+headroom)⌋ (z,s)) ∧
    ((∃ e, selectCrossStorageTarget requiredBytes c sourceZone sourceStorage sizeBytes headroom =
        .error e) ↔ ∀ s ∈ c.capacities.keys, ∀ z ∈ c.zones s, z.zone ≠ sourceZone →
        ¬⌊(sizeBytes : ℚ)*(1+headroom)⌋ ≤ z.avail) := by
  rw [← requiredBytes_floor hs.le hh]
  have hfull : Full c c.capacities.keys sourceZone (requiredBytes sizeBytes headroom) ↔
      ∀ s ∈ c.capacities.keys, ∀ z ∈ c.zones s, z.zone ≠ sourceZone →
        ¬requiredBytes sizeBytes headroom ≤ z.avail := by
    constructor
    · intro h s hs z hz hne hle
      exact h (s,z) (mem_places.mpr ⟨hs,hz⟩) ⟨by simpa using hne,hle⟩
    · intro h x hx hq
      obtain ⟨hs,hz⟩ := mem_places.mp hx
      exact h x.1 hs x.2 hz (by simpa using hq.1) hq.2
  have hr : 0 < requiredBytes sizeBytes headroom := hs.trans_le (size_le_required hs.le hh)
  have hcases := selectCrossStorageTarget_cases requiredBytes c sourceZone sourceStorage sizeBytes
    headroom
  rw [effectiveHeadroom_eq hh] at hcases
  rcases hcases with ⟨x,hx,he⟩ | ⟨⟨e,he⟩,hnone⟩
  · have hp := chosen_preferred hc hr hx
    refine ⟨fun z s h => ?_,?_⟩
    · obtain ⟨rfl,rfl⟩ := Prod.mk.inj (Except.ok.inj (he.symm.trans h))
      exact ⟨(preferred_away hp).1,hp⟩
    · rw [he, ← hfull]
      refine ⟨?_,fun h => absurd h (preferred_away hp).2⟩
      rintro ⟨e,h⟩
      cases h
  · refine ⟨fun z s h => ?_,?_⟩
    · rw [he] at h
      cases h
    · rw [he, ← hfull]
      exact ⟨fun _ => unchosen_full hc hr hnone,fun _ => ⟨e,rfl⟩⟩

def sampleCandidates (storage : String) : StorageCandidates :=
  ⟨(∅ : Table String (List ZoneCapacity)).insert storage [⟨"n1",90,100⟩,⟨"n2",70,100⟩],""⟩

theorem sampleCandidates_named : Named (sampleCandidates "data") := by
  refine ⟨fun s z hz => ?_,by decide⟩
  by_cases hs : s = "data"
  · subst hs
    have hall : ∀ z ∈ (sampleCandidates "data").zones "data", z.zone ≠ "" := by decide
    exact hall z hz
  · have hnot : s ∉ (sampleCandidates "data").capacities := by
      rw [sampleCandidates, AList.mem_insert, not_or]
      exact ⟨hs,AList.notMem_empty s⟩
    rw [zones_of_not_mem hnot] at hz
    cases hz

theorem cross_storage_target_sample :
    ((∃ e, selectCrossStorageTarget requiredBytes (sampleCandidates "data") "n1" "other" 50
      (1/10) = .error e) ↔
      ∀ s ∈ (sampleCandidates "data").capacities.keys, ∀ z ∈ (sampleCandidates "data").zones s,
        z.zone ≠ "n1" → ¬⌊((50 : ℤ) : ℚ)*(1+1/10)⌋ ≤ z.avail) :=
  (cross_storage_target sampleCandidates_named (by decide) (by norm_num) "n1" "other").2

/-- A storage without a name is taken for a missing default. -/
theorem nameless_storage_skipped :
    (selectCrossStorageTarget requiredBytes (sampleCandidates "") "n1" "data" 50 (1/10)).isOk = false ∧
      ⟨"n2",70,100⟩ ∈ (sampleCandidates "").zones "" ∧
      ⌊((50 : ℤ) : ℚ)*(1+1/10)⌋ ≤ (70 : ℤ) := by
  refine ⟨by decide +kernel,by decide +kernel,?_⟩
  norm_num

end Selection

end ProxmoxCSI.PlacementOrder
