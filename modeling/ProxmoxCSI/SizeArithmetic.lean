import Mathlib.Order.Bounds.Defs
import ProxmoxCSI.ChunkRounding
import ProxmoxCSI.PassFootprints
import ProxmoxCSI.QuotaChecks
import ProxmoxCSI.RequestFootprints

/-!
# Sizes in 64 bits

A request for a volume has to ask for a positive size, and nothing else bounds
it unless the tenant's policy does. Within 64 bits three sums are formed from
it: the one the quota compares, the one a namespace's quota compares and the one
that is divided into chunks. Each is the mathematical one as long as it does not
wrap around.
-/

set_option autoImplicit false

namespace ProxmoxCSI.SizeArithmetic
open CallProgram CallProgram.Prog CallSafety CallErrors CallSchedule OperatorRecords VolumeReconciler
open RecordWrites PassFootprints ChunkRounding
open VolumeService (Service A newRecord createVolume expandVolume expandRecord growSpec expansionOf
  readyVolumeByID volumeByID maxVolumeBytes uses_demand uses_given uses_withTenant expanded)
open RequestFootprints (createVolume_uses creations removals)
open QuotaChecks (capacityOn namespaceQuotaOf)

def Bounded (n : ℤ) : Prop := -2^63 ≤ n ∧ n < 2^63

def BoundedAll (q : Quantities) : Prop := ∀ storage n, q.lookup storage = some n → Bounded n.value

/-- The limits and the usage of a registration are numbers of 64 bits. -/
structure Registered (t : TenantCluster) : Prop where
  quota : ∀ q, t.quota = some q → BoundedAll q.maxCapacity
  used : BoundedAll t.used.capacity
  namespaceQuotas : ∀ q ∈ t.namespaceQuotas, BoundedAll q.quota.maxCapacity
  namespaceUsed : ∀ u ∈ t.namespaceUsed, BoundedAll u.2.capacity

section Rounding

def LeastCover (size n : ℤ) : Prop := IsLeast {m : ℤ | minChunkSizeBytes ∣ m ∧ size ≤ m} n

theorem roundUp_multiple {s : ℤ} (h₁ : 1 ≤ s) (h₂ : s ≤ 2^63-2^29) :
    roundUpSizeBytes s minChunkSizeBytes = chunk*(s+chunk-1).tdiv chunk := by
  have hc : chunk = 2^29 := rfl
  rw [minChunk_eq, roundUpSizeBytes, if_neg (by omega),
    int64_of_bounds (n := s+chunk-1) (by omega) (by omega)]
  obtain ⟨hlow,hpos,_⟩ := tdiv_chunk (s+chunk-1)
  exact int64_of_bounds (by omega) (by omega)

theorem roundUp_least {s : ℤ} (h₁ : 1 ≤ s) (h₂ : s < 2^63) :
    LeastCover s (roundUpSizeBytes s minChunkSizeBytes) ↔ s ≤ 2^63-2^29 := by
  have hc : chunk = 2^29 := rfl
  have hcovers := roundUp_covers (n := s) (by omega) h₂
  constructor
  · intro hl
    exact hcovers.mp hl.1.2
  · intro hs
    have hm := roundUp_multiple h₁ hs
    obtain ⟨_,hpos,_⟩ := tdiv_chunk (s+chunk-1)
    refine ⟨⟨?_,hcovers.mpr hs⟩,?_⟩
    · exact ⟨(s+chunk-1).tdiv chunk,by rw [hm, minChunk_eq]⟩
    · rintro m ⟨⟨k,rfl⟩,hk⟩
      rw [minChunk_eq] at hk ⊢
      rw [← minChunk_eq, hm, minChunk_eq]
      have hle := hpos (by omega)
      by_contra hlt
      have hkq : k < (s+chunk-1).tdiv chunk := by
        by_contra hq
        exact hlt (Int.mul_le_mul_of_nonneg_left (not_lt.mp hq) (by omega))
      have hstep : chunk*(k+1) ≤ chunk*(s+chunk-1).tdiv chunk :=
        Int.mul_le_mul_of_nonneg_left hkq (by omega)
      rw [Int.mul_add, Int.mul_one] at hstep
      omega

end Rounding

section Quotas

def OverCount (quota : TenantQuota) (used : QuotaUsage) : Prop :=
  ∃ max, quota.maxVolumes = some max ∧ max < int32 (used.volumes+1)

def OverLimit (quota : TenantQuota) (used : QuotaUsage) (vol : ProxmoxVolume) : Prop :=
  ∃ max, quota.maxCapacity.lookup vol.spec.storage = some max ∧
    max.value < capacityOn used vol.spec.storage+vol.spec.capacityBytes

def Sums (quota : TenantQuota) (used : QuotaUsage) (vol : ProxmoxVolume) : Prop :=
  OverCount quota used ∨ ∀ max, quota.maxCapacity.lookup vol.spec.storage = some max →
    capacityOn used vol.spec.storage+vol.spec.capacityBytes < 2^63 ∨
    max.value < capacityOn used vol.spec.storage+vol.spec.capacityBytes-2^64

theorem quotaRefusal_isSome (who : String) (reason : Reason) (quota : TenantQuota)
    (used : QuotaUsage) (vol : ProxmoxVolume) :
    (quotaRefusal who reason quota used vol).isSome ↔ OverCount quota used ∨
      ∃ max, quota.maxCapacity.lookup vol.spec.storage = some max ∧
        max.value < int64 (capacityOn used vol.spec.storage+vol.spec.capacityBytes) := by
  unfold quotaRefusal OverCount capacityOn
  cases quota.maxVolumes with
  | none =>
    cases quota.maxCapacity.lookup vol.spec.storage with
    | none => simp
    | some limit => simp [apply_ite Option.isSome]
  | some count =>
    cases quota.maxCapacity.lookup vol.spec.storage with
    | none => simp [apply_ite Option.isSome]
    | some limit => simp [Option.isSome_or, apply_ite Option.isSome]

theorem capacityOn_bounded {used : QuotaUsage} (hu : BoundedAll used.capacity) (storage : String) :
    Bounded (capacityOn used storage) := by
  unfold capacityOn
  cases h : used.capacity.lookup storage with
  | none => exact ⟨by decide,by decide⟩
  | some n => exact hu storage n h

/-- The wrapped sum decides like the mathematical one exactly when it is not
below a limit that the other exceeds. -/
theorem limit_exact {used s max : ℤ} (hu : Bounded used) (h₁ : 1 ≤ s) (h₂ : s < 2^63)
    (hm : Bounded max) : (max < int64 (used+s) ↔ max < used+s) ↔
      used+s < 2^63 ∨ max < used+s-2^64 := by
  obtain ⟨hu₁,hu₂⟩ := hu
  obtain ⟨_,hm₂⟩ := hm
  by_cases hs : used+s < 2^63
  · rw [int64_of_bounds (by omega) hs]
    exact ⟨fun _ => .inl hs,fun _ => Iff.rfl⟩
  · rw [int64_wraps (by omega) (by omega)]
    omega

theorem quotaRefusal_exact (who : String) (reason : Reason) {quota : TenantQuota} {used : QuotaUsage}
    {vol : ProxmoxVolume} (hq : BoundedAll quota.maxCapacity) (hu : BoundedAll used.capacity)
    (h₁ : 1 ≤ vol.spec.capacityBytes) (h₂ : vol.spec.capacityBytes < 2^63) :
    ((quotaRefusal who reason quota used vol).isSome ↔ OverCount quota used ∨
      OverLimit quota used vol) ↔
      Sums quota used vol := by
  rw [quotaRefusal_isSome]
  unfold Sums OverLimit
  by_cases hc : OverCount quota used
  · simp [hc]
  · have hb := capacityOn_bounded hu vol.spec.storage
    simp only [hc, false_or]
    cases hl : quota.maxCapacity.lookup vol.spec.storage with
    | none => simp
    | some limit =>
      have hx := limit_exact hb h₁ h₂ (hq _ _ hl)
      simpa using hx

def ExactCheck (refused : Option (Reason × String)) (quota : Option TenantQuota) (used : QuotaUsage)
    (vol : ProxmoxVolume) : Prop :=
  refused.isSome ↔ ∃ q, quota = some q ∧ (OverCount q used ∨ OverLimit q used vol)

theorem checkQuota_exact {t : TenantCluster} {vol : ProxmoxVolume} (ht : Registered t)
    (h₁ : 1 ≤ vol.spec.capacityBytes) (h₂ : vol.spec.capacityBytes < 2^63) :
    ExactCheck (checkQuota t vol) t.quota t.used vol ↔ ∀ q, t.quota = some q → Sums q t.used vol := by
  unfold ExactCheck checkQuota
  cases hq : t.quota with
  | none => simp
  | some q =>
    have hx := quotaRefusal_exact ("tenant " ++ t.name) .quotaExceeded (ht.quota q hq) ht.used h₁ h₂
    simpa using hx

def namespaceUsage (t : TenantCluster) (vol : ProxmoxVolume) : QuotaUsage :=
  ((t.namespaceUsed.find? (fun u => u.1 = vol.spec.claimNamespace)).map Prod.snd).getD ⟨0,∅⟩

theorem namespaceUsage_bounded {t : TenantCluster} (ht : Registered t) (vol : ProxmoxVolume) :
    BoundedAll (namespaceUsage t vol).capacity := by
  unfold namespaceUsage
  cases hf : t.namespaceUsed.find? (fun u => u.1 = vol.spec.claimNamespace) with
  | none =>
    intro storage n hn
    cases hn
  | some u => exact ht.namespaceUsed u (List.mem_of_find?_eq_some hf)

theorem checkNamespaceQuota_eq (t : TenantCluster) (vol : ProxmoxVolume) :
    checkNamespaceQuota t vol = (namespaceQuotaOf t vol).bind (fun q =>
      quotaRefusal ("namespace " ++ vol.spec.claimNamespace) .namespaceQuota q
        (namespaceUsage t vol) vol) := by
  unfold checkNamespaceQuota namespaceQuotaOf namespaceUsage
  by_cases hn : vol.spec.claimNamespace = ""
  · simp [hn]
  · by_cases ht : t.namespaceQuotas = []
    · simp [ht, hn]
    · simp only [ht, hn, or_self, if_false]
      cases t.namespaceQuotas.find? (fun q => q.ns = vol.spec.claimNamespace) with
      | none => rfl
      | some q => rfl

theorem checkNamespaceQuota_exact {t : TenantCluster} {vol : ProxmoxVolume} (ht : Registered t)
    (h₁ : 1 ≤ vol.spec.capacityBytes) (h₂ : vol.spec.capacityBytes < 2^63) :
    ExactCheck (checkNamespaceQuota t vol) (namespaceQuotaOf t vol) (namespaceUsage t vol) vol ↔
      ∀ q, namespaceQuotaOf t vol = some q → Sums q (namespaceUsage t vol) vol := by
  rw [checkNamespaceQuota_eq]
  unfold ExactCheck
  cases hq : namespaceQuotaOf t vol with
  | none => simp
  | some q =>
    have hb : BoundedAll q.maxCapacity := by
      unfold namespaceQuotaOf at hq
      split at hq
      · cases hq
      · obtain ⟨n,hn,rfl⟩ := Option.map_eq_some_iff.mp hq
        exact ht.namespaceQuotas n (List.mem_of_find?_eq_some hn)
    have hx := quotaRefusal_exact ("namespace " ++ vol.spec.claimNamespace) .namespaceQuota hb
      (namespaceUsage_bounded ht vol) h₁ h₂
    simpa using hx

end Quotas

section Path

def Sized : OpCall → Prop
  | .createDisk _ _ _ _ size => 0 < size
  | _ => True

theorem sized_permits {size : ℤ} (hs : 0 < size) : Permits (fun _ => True) size Sized where
  notes c hc _ := by
    cases c with
    | createDisk region zone storage name n => cases hc.1
    | _ => trivial
  tells _ _ := trivial
  publishes _ _ _ := trivial
  held _ _ _ := trivial
  phase _ _ _ := trivial
  condition _ _ _ _ _ _ _ _ := trivial
  copies _ _ _ _ _ _ _ := trivial
  creates _ _ _ _ := hs

def WritesCapacity (n : ℤ) : OpCall → Prop
  | .createVolume vol | .update vol => vol.spec.capacityBytes = n ∧ 0 < n
  | _ => True

theorem creations_write {t : Option TenantCluster} {req : VolumeService.CreateVolumeRequest}
    (hn : 0 < req.capacityBytes) {c : OpCall} (hc : creations t req c) :
    WritesCapacity req.capacityBytes c := by
  cases c with
  | createVolume vol =>
    obtain ⟨t',_,rfl⟩ := hc
    exact ⟨rfl,hn⟩
  | update vol => simp [creations, removals, RequestFootprints.aside, part] at hc
  | _ => trivial

theorem createVolume_writes (s : Service) (t : Option TenantCluster)
    (req : VolumeService.CreateVolumeRequest) :
    (createVolume s t req).run.Uses (WritesCapacity req.capacityBytes) := by
  by_cases hn : 0 < req.capacityBytes
  · exact uses_mono (createVolume_uses s t req) (fun _ => creations_write hn)
  · exact uses_try_bind uses_given (fun _ => uses_checked (fun h => absurd h hn))

theorem readyVolumeByID_uses {ok : OpCall → Prop} (ns volumeID : String)
    (h : ok (.volumesByID ns volumeID)) : (readyVolumeByID ns volumeID).run.Uses ok := by
  refine uses_try_bind ?_ (fun _ => uses_try_bind uses_require (fun _ => trivial))
  refine uses_try_bind (uses_demand h) ?_
  intro vols
  cases vols with
  | nil => trivial
  | cons vol vols => trivial

theorem expandRecord_writes (t : TenantCluster) (vol : ProxmoxVolume) {n : ℤ} (hn : 0 < n) :
    (expandRecord t vol n).run.Uses (WritesCapacity n) := by
  unfold expandRecord
  split
  · trivial
  · refine uses_try_bind uses_require (fun _ => uses_try_bind ?_ (fun _ => ?_))
    · unfold growSpec
      split
      · exact uses_demand ⟨rfl,hn⟩
      · trivial
    · refine uses_try_bind (uses_demand trivial) ?_
      intro v
      exact uses_if trivial trivial

theorem expandVolume_writes (t : Option TenantCluster) (volumeID : String) (n : ℤ) :
    (expandVolume t volumeID n).run.Uses (WritesCapacity n) := by
  refine uses_try_bind uses_given (fun _ => uses_checked (fun hn => uses_withTenant (fun t => ?_)))
  exact uses_try_bind (readyVolumeByID_uses t.ns volumeID trivial)
    (fun vol => expandRecord_writes t vol hn)

end Path

section Main

def OverPolicy (t : TenantCluster) (vol : ProxmoxVolume) : Prop :=
  ∃ max, maxVolumeBytes t = some max ∧ max < vol.spec.capacityBytes

/-- Nothing that is computed from the size of a record wraps around: the rounded
size is the least cover, on creation unless the record is refused and on expansion
unless the request is, the quotas compare the mathematical sums, and the disk that
is created and the size a ready record is compared with are not below the request. -/
structure Exact (r : Reconciler) (t : TenantCluster) (vol : ProxmoxVolume) : Prop where
  created : (refusal t vol).isSome ∨
    LeastCover vol.spec.capacityBytes (roundUpSizeBytes vol.spec.capacityBytes minChunkSizeBytes)
  grown : OverPolicy t vol ∨
    LeastCover vol.spec.capacityBytes (roundUpSizeBytes vol.spec.capacityBytes minChunkSizeBytes)
  quota : ExactCheck (checkQuota t vol) t.quota t.used vol
  namespaceQuota : ExactCheck (checkNamespaceQuota t vol) (namespaceQuotaOf t vol)
    (namespaceUsage t vol) vol
  disk : refusal t vol = none → (provisionFor r vol t).run.Uses Sized
  ready : refusal t vol = none →
    vol.spec.capacityBytes ≤ roundUpSizeBytes vol.spec.capacityBytes minChunkSizeBytes

/-- The policy stops the sizes that cannot be rounded, and no quota's sum wraps
around to its limit or below. -/
structure Fits (t : TenantCluster) (vol : ProxmoxVolume) : Prop where
  size : OverPolicy t vol ∨ vol.spec.capacityBytes ≤ 2^63-2^29
  quota : ∀ q, t.quota = some q → Sums q t.used vol
  namespaceQuota : ∀ q, namespaceQuotaOf t vol = some q → Sums q (namespaceUsage t vol) vol

theorem overPolicy_refused {t : TenantCluster} {vol : ProxmoxVolume} (h : OverPolicy t vol) :
    (refusal t vol).isSome := by
  obtain ⟨max,hm,hlt⟩ := h
  unfold maxVolumeBytes at hm
  obtain ⟨q,hq,rfl⟩ := Option.map_eq_some_iff.mp hm
  obtain ⟨p,hp,hmax⟩ := Option.bind_eq_some_iff.mp hq
  have hpolicy : (checkParameterPolicy t.parameterPolicy vol.spec.parameters
      vol.spec.capacityBytes).isSome := by
    simp [hp, checkParameterPolicy, aboveVolumeBytes, hmax, hlt]
  unfold refusal
  simp [Option.isSome_or, hpolicy]

/-- The sizes that the service writes are the positive ones it is asked for, and
everything that is computed from such a size is exact precisely when it fits. -/
theorem sizes_exact_iff_fit (s : Service) (r : Reconciler) (t : TenantCluster) (ht : Registered t) :
    (∀ tenant req, (createVolume s tenant req).run.Uses (WritesCapacity req.capacityBytes)) ∧
    (∀ tenant volumeID n, (expandVolume tenant volumeID n).run.Uses (WritesCapacity n)) ∧
    ∀ vol : ProxmoxVolume, 1 ≤ vol.spec.capacityBytes → vol.spec.capacityBytes < 2^63 →
      (Exact r t vol ↔ Fits t vol) := by
  refine ⟨createVolume_writes s,expandVolume_writes,?_⟩
  intro vol h₁ h₂
  have hround := roundUp_least h₁ h₂
  have hcover := roundUp_covers (n := vol.spec.capacityBytes) (by omega) h₂
  constructor
  · intro h
    refine ⟨?_,(checkQuota_exact ht h₁ h₂).mp h.quota,
      (checkNamespaceQuota_exact ht h₁ h₂).mp h.namespaceQuota⟩
    exact h.grown.imp id hround.mp
  · intro h
    have hsize : refusal t vol = none → vol.spec.capacityBytes ≤ 2^63-2^29 := by
      intro hn
      rcases h.size with hp | hs
      · simpa [hn] using overPolicy_refused hp
      · exact hs
    refine ⟨?_,h.size.imp id hround.mpr,(checkQuota_exact ht h₁ h₂).mpr h.quota,
      (checkNamespaceQuota_exact ht h₁ h₂).mpr h.namespaceQuota,?_,?_⟩
    · exact h.size.imp overPolicy_refused hround.mpr
    · intro hn
      have hle := hcover.mpr (hsize hn)
      exact provisionFor_uses r (sized_permits (by omega)) trivial t
    · intro hn
      exact hcover.mpr (hsize hn)

end Main

section Sample
open QuotaChecks (sampleTenant sampleVolume sampleLedger)

def fullTenant : TenantCluster :=
  { sampleTenant with used := ⟨0,(∅ : Quantities).insert "local" ⟨2147483648,"2Gi"⟩⟩ }

def request (n : ℤ) : VolumeService.CreateVolumeRequest :=
  ⟨"pvc-a",n,"r1","n1","local",∅,∅,"",none⟩

def sampleService : Service := ⟨fun _ _ => "",fun _ _ => .ok ∅,fun _ => "",true⟩

def requested (n : ℤ) : ProxmoxVolume := newRecord fullTenant (request n)

def provisioned (n : ℤ) : Finished OpCall OpReply Ledger (Except Failure Result) :=
  let first := finish prompt (createVolume sampleService (some fullTenant) (request n)).run []
    { sampleLedger with tenants := [fullTenant], volumes := [] }
  finish prompt (VolumeLifecycle.reconcile plainReconciler "blue-ns" "pvc-a").run [] first.world

def asksNegative (h : History OpCall OpReply Ledger) : Bool :=
  h.any (fun e => match e.call with
    | .createDisk _ _ _ _ size => size ≤ 0
    | _ => false)

theorem boundedAll_single {storage : String} {n : Quantity} (hn : Bounded n.value) :
    BoundedAll ((∅ : Quantities).insert storage n) := by
  intro storage' m hm
  by_cases h : storage' = storage
  · rw [h, AList.lookup_insert] at hm
    cases hm
    exact hn
  · rw [AList.lookup_insert_ne h] at hm
    cases hm

theorem fullTenant_registered : Registered fullTenant := by
  have hb : Bounded 2147483648 := ⟨by decide,by decide⟩
  refine ⟨?_,boundedAll_single hb,(fun _ hq => by cases hq),(fun _ hu => by cases hu)⟩
  rintro q ⟨⟩
  exact boundedAll_single hb

/-- The sum wraps around below the limit, so a tenant with nothing left is given a
volume, and its disk is to have a negative size. -/
theorem largest_size_wraps :
    ¬Exact plainReconciler fullTenant (requested (2^63-1)) ∧
    checkQuota fullTenant (requested (2^63-1)) = none ∧ refusal fullTenant
      (requested (2^63-1)) = none ∧
    OverLimit (QuotaChecks.sampleQuota 1) fullTenant.used (requested (2^63-1)) ∧
    roundUpSizeBytes (2^63-1) minChunkSizeBytes = -2^63+2^29 ∧
    asksNegative (provisioned (2^63-1)).hist := by
  have hl : (QuotaChecks.sampleQuota 1).maxCapacity.lookup "local" = some ⟨2147483648,"2Gi"⟩ := by
    decide +kernel
  refine ⟨?_,by decide +kernel,by decide +kernel,⟨⟨2147483648,"2Gi"⟩,hl,by decide +kernel⟩,
    by decide +kernel,by decide +kernel⟩
  intro h
  exact absurd (h.ready (by decide +kernel)) (by decide +kernel)

theorem sizes_exact_iff_fit_gibibyte : Registered fullTenant ∧
    (requested 1073741824).spec.capacityBytes = 1073741824 ∧
    Exact plainReconciler fullTenant (requested 1073741824) := by
  refine ⟨fullTenant_registered,rfl,?_⟩
  refine ((sizes_exact_iff_fit sampleService plainReconciler fullTenant
    fullTenant_registered).2.2 (requested 1073741824) (by decide +kernel) (by decide +kernel)).mpr ?_
  refine ⟨.inr (by decide +kernel),?_,fun _ hq => by cases hq⟩
  rintro q ⟨⟩
  exact .inr (fun _ _ => .inl (by decide +kernel))

end Sample

end ProxmoxCSI.SizeArithmetic
