import Mathlib.Algebra.BigOperators.Group.List.Basic
import Mathlib.Algebra.Order.BigOperators.Group.List
import ProxmoxCSI.TenantReconciler
import ProxmoxCSI.CallJournal
import ProxmoxCSI.ChunkRounding
import ProxmoxCSI.PassFootprints

/-!
# What a quota leaves room for

A new volume is checked against the usage in the registration, which counts the
records the last aggregation listed. Records that were refused are counted like
any other, and so is the new record when it was listed already, although the
check adds it once more.
-/

set_option autoImplicit false

namespace ProxmoxCSI.QuotaChecks
open CallProgram CallProgram.Prog CallSafety CallErrors CallSessions CallJournal CallSchedule
open OperatorRecords RecordWrites VolumeReconciler TenantReconciler PassFootprints

section Usage

def spent (storage : String) (vols : List ProxmoxVolume) : ℤ :=
  if storage = "" then 0
  else ((vols.filter (fun v => v.spec.storage = storage)).map (fun v => max 0 (countedBytes v))).sum

def capacityOn (used : QuotaUsage) (storage : String) : ℤ :=
  ((used.capacity.lookup storage).map Quantity.value).getD 0

theorem int32_succ (n : ℤ) : int32 (int32 n+1) = int32 (n+1) := by
  simp [int32]

theorem charges_volumes (vols : List ProxmoxVolume) (used : QuotaUsage) {n : ℤ}
    (hu : used.volumes = int32 n) :
    (vols.foldl charge used).volumes = int32 (n+vols.length) := by
  induction vols generalizing used n with
  | nil => simpa using hu
  | cons v vols ih =>
    have hv : (charge used v).volumes = int32 (n+1) := by
      rw [charge, hu, int32_succ]
    rw [List.foldl_cons, ih (charge used v) hv, List.length_cons]
    congr 1
    push_cast
    omega

theorem usage_volumes (vols : List ProxmoxVolume) : (usage vols).volumes = int32 vols.length := by
  have h := charges_volumes vols ⟨0,∅⟩ (n := 0) rfl
  simpa [usage] using h

theorem charge_capacity (used : QuotaUsage) (v : ProxmoxVolume) (storage : String) :
    capacityOn (charge used v) storage = capacityOn used storage + spent storage [v] := by
  unfold capacityOn charge addCapacity spent
  by_cases hs : storage = ""
  · subst hs
    by_cases hv : v.spec.storage = "" ∨ countedBytes v ≤ 0
    · simp [hv]
    · have hne : "" ≠ v.spec.storage := fun h => hv (.inl h.symm)
      simp [hv, AList.lookup_insert_ne hne]
  · by_cases hv : v.spec.storage = "" ∨ countedBytes v ≤ 0
    · simp only [hv, if_true, hs, if_false]
      rcases hv with hv | hv
      · have hne : v.spec.storage ≠ storage := fun h => hs (h ▸ hv)
        simp [hne]
      · by_cases he : v.spec.storage = storage
        · simp [he, hv]
        · simp [he]
    · have hpos : 0 ≤ countedBytes v := by
        by_contra hc
        exact hv (.inr (by omega))
      simp only [hv, if_false, hs]
      by_cases he : v.spec.storage = storage
      · subst he
        simp [AList.lookup_insert, hpos]
      · have hne : storage ≠ v.spec.storage := fun h => he h.symm
        simp [AList.lookup_insert_ne hne, he]

theorem spent_cons (storage : String) (v : ProxmoxVolume) (vols : List ProxmoxVolume) :
    spent storage (v::vols) = spent storage [v] + spent storage vols := by
  unfold spent
  split
  · rfl
  · by_cases hv : v.spec.storage = storage
    · simp [hv]
    · simp [hv]

theorem charges_capacity (vols : List ProxmoxVolume) (used : QuotaUsage) (storage : String) :
    capacityOn (vols.foldl charge used) storage = capacityOn used storage + spent storage vols := by
  induction vols generalizing used with
  | nil => simp [spent]
  | cons v vols ih =>
    rw [List.foldl_cons, ih, charge_capacity, spent_cons storage v vols]
    omega

theorem usage_capacity (vols : List ProxmoxVolume) (storage : String) :
    capacityOn (usage vols) storage = spent storage vols := by
  have h := charges_capacity vols ⟨0,∅⟩ storage
  simpa [usage, capacityOn] using h

theorem spent_perm {storage : String} {vols vols' : List ProxmoxVolume} (h : vols.Perm vols') :
    spent storage vols = spent storage vols' := by
  unfold spent
  split
  · rfl
  · exact ((h.filter _).map _).sum_eq

end Usage

section Checks

def listedWith (seen : Bool) (others : List ProxmoxVolume) (vol : ProxmoxVolume) :
    List ProxmoxVolume := if seen then vol::others else others

def Room (quota : TenantQuota) (counted : List ProxmoxVolume) (vol : ProxmoxVolume) : Prop :=
  (∀ max, quota.maxVolumes = some max → int32 (counted.length+1) ≤ max) ∧
  ∀ max, quota.maxCapacity.lookup vol.spec.storage = some max →
    int64 (spent vol.spec.storage counted+vol.spec.capacityBytes) ≤ max.value

theorem room_perm {quota : TenantQuota} {vols vols' : List ProxmoxVolume} {vol : ProxmoxVolume}
    (h : vols.Perm vols') : Room quota vols vol ↔ Room quota vols' vol := by
  unfold Room
  rw [h.length_eq, spent_perm h]

theorem quotaRefusal_none (who : String) (reason : Reason) (quota : TenantQuota)
    (vols : List ProxmoxVolume) (vol : ProxmoxVolume) :
    quotaRefusal who reason quota (usage vols) vol = none ↔ Room quota vols vol := by
  have hvols := usage_volumes vols
  have hcap : ((((usage vols).capacity.lookup vol.spec.storage).map Quantity.value).getD 0) =
      spent vol.spec.storage vols := usage_capacity vols vol.spec.storage
  unfold quotaRefusal Room
  simp only [hcap, hvols, int32_succ, Option.or_eq_none_iff]
  constructor
  · rintro ⟨h₁,h₂⟩
    refine ⟨?_,?_⟩
    · intro max hm
      rw [hm] at h₁
      by_contra hc
      simp only [not_le.mp hc, if_true] at h₁
      cases h₁
    · intro max hm
      rw [hm] at h₂
      by_contra hc
      simp only [not_le.mp hc, if_true] at h₂
      cases h₂
  · rintro ⟨h₁,h₂⟩
    constructor
    · cases hm : quota.maxVolumes with
      | none => rfl
      | some max => simp only [not_lt.mpr (h₁ max hm), if_false]
    · cases hm : quota.maxCapacity.lookup vol.spec.storage with
      | none => rfl
      | some max => simp only [not_lt.mpr (h₂ max hm), if_false]

def namespaceQuotaOf (t : TenantCluster) (vol : ProxmoxVolume) : Option TenantQuota :=
  if vol.spec.claimNamespace = "" then none
  else (t.namespaceQuotas.find? (fun q => q.ns = vol.spec.claimNamespace)).map NamespaceQuota.quota

def claimedFrom (ns : String) (vols : List ProxmoxVolume) : List ProxmoxVolume :=
  vols.filter (fun v => v.spec.claimNamespace = ns)

def Rooms (t : TenantCluster) (vol : ProxmoxVolume) (counted : List ProxmoxVolume) : Prop :=
  (∀ quota, t.quota = some quota → Room quota counted vol) ∧
  ∀ quota, namespaceQuotaOf t vol = some quota →
    Room quota (claimedFrom vol.spec.claimNamespace counted) vol

theorem namespaceUsage_find (quotas : List NamespaceQuota) (vols : List ProxmoxVolume) (ns : String) :
    (namespaceUsage quotas vols).find? (fun u => u.1 = ns) =
      (quotas.find? (fun q => q.ns = ns)).map (fun q => (q.ns,usage (claimedFrom q.ns vols))) := by
  unfold namespaceUsage claimedFrom
  rw [List.find?_map]
  rfl

theorem checkNamespaceQuota_none (t : TenantCluster) (vols : List ProxmoxVolume)
    (vol : ProxmoxVolume) : checkNamespaceQuota (aggregated t vols) vol = none ↔
      ∀ quota, namespaceQuotaOf t vol = some quota →
        Room quota (claimedFrom vol.spec.claimNamespace vols) vol := by
  unfold checkNamespaceQuota namespaceQuotaOf
  by_cases hc : vol.spec.claimNamespace = ""
  · simp [hc]
  · have hq : (aggregated t vols).namespaceQuotas = t.namespaceQuotas := rfl
    have hu : (aggregated t vols).namespaceUsed = namespaceUsage t.namespaceQuotas vols := rfl
    rw [hq, hu, namespaceUsage_find]
    cases hf : t.namespaceQuotas.find? (fun q => q.ns = vol.spec.claimNamespace) with
    | none => simp
    | some q =>
      have hne : t.namespaceQuotas ≠ [] := by
        intro h
        rw [h] at hf
        cases hf
      have hn : q.ns = vol.spec.claimNamespace := by simpa using List.find?_some hf
      simp only [hne, hc, or_self, if_false, Option.map_some, Option.getD_some, hn,
        quotaRefusal_none, Option.some.injEq, forall_eq']

end Checks

def refusedForQuota : Option (Reason × String) → Bool
  | some (.quotaExceeded,_) => true
  | some (.namespaceQuota,_) => true
  | _ => false

variable {vol : ProxmoxVolume} {x : Reason × String}

theorem quotaRefusal_reason {who : String} {reason : Reason} {quota : TenantQuota}
    {used : QuotaUsage} (h : quotaRefusal who reason quota used vol = some x) : x.1 = reason := by
  unfold quotaRefusal at h
  rcases Option.or_eq_some_iff.mp h with h | ⟨_,h⟩
  · split at h
    · split at h
      · cases h
        rfl
      · cases h
    · cases h
  · split at h
    · dsimp only at h
      split at h
      · cases h
        rfl
      · cases h
    · cases h

theorem checkQuota_refuses {t : TenantCluster} (h : checkQuota t vol = some x) :
    refusedForQuota (some x) := by
  obtain ⟨q,_,hq⟩ := Option.bind_eq_some_iff.mp h
  obtain ⟨reason,message⟩ := x
  have hr := quotaRefusal_reason hq
  subst hr
  rfl

theorem checkNamespaceQuota_refuses {t : TenantCluster} (h : checkNamespaceQuota t vol = some x) :
    refusedForQuota (some x) := by
  unfold checkNamespaceQuota at h
  split at h
  · cases h
  · split at h
    · cases h
    · obtain ⟨reason,message⟩ := x
      have hr := quotaRefusal_reason h
      subst hr
      rfl

theorem refused_iff_room {t : TenantCluster} {seen : Bool} {others counted : List ProxmoxVolume}
    (hc : counted.Perm (listedWith seen others vol)) (hplace : placementRefusal t vol = none)
    (hpolicy : checkParameterPolicy t.parameterPolicy vol.spec.parameters
      vol.spec.capacityBytes = none)
    (href : claimRefRefusal t vol = none) :
    refusedForQuota (refusal (aggregated t counted) vol) = false ↔
      Rooms t vol (listedWith seen others vol) := by
  have hall : refusal (aggregated t counted) vol = (checkQuota (aggregated t counted) vol).or
      (checkNamespaceQuota (aggregated t counted) vol) := by
    have hp : placementRefusal (aggregated t counted) vol = none := hplace
    have hr : claimRefRefusal (aggregated t counted) vol = none := href
    have hy : checkParameterPolicy (aggregated t counted).parameterPolicy vol.spec.parameters
        vol.spec.capacityBytes = none := hpolicy
    simp only [refusal, hp, hr, hy, Option.none_or, Option.map_none]
  have hquota : checkQuota (aggregated t counted) vol = none ↔
      ∀ quota, t.quota = some quota → Room quota (listedWith seen others vol) vol := by
    have hq : (aggregated t counted).quota = t.quota := rfl
    have hu : (aggregated t counted).used = usage counted := rfl
    unfold checkQuota
    rw [hq, hu, Option.bind_eq_none_iff]
    simp only [quotaRefusal_none, room_perm hc]
  have hns : checkNamespaceQuota (aggregated t counted) vol = none ↔
      ∀ quota, namespaceQuotaOf t vol = some quota →
        Room quota (claimedFrom vol.spec.claimNamespace (listedWith seen others vol)) vol := by
    rw [checkNamespaceQuota_none]
    have hp : (claimedFrom vol.spec.claimNamespace counted).Perm
        (claimedFrom vol.spec.claimNamespace (listedWith seen others vol)) := hc.filter _
    simp only [room_perm hp]
  rw [hall, Rooms, ← hquota, ← hns]
  cases h₁ : checkQuota (aggregated t counted) vol with
  | some x => simp [checkQuota_refuses h₁]
  | none =>
    cases h₂ : checkNamespaceQuota (aggregated t counted) vol with
    | some x => simp [checkNamespaceQuota_refuses h₂]
    | none => simp [refusedForQuota]

section Purpose

/-- The records that were not refused leave room for the new one. -/
def LeavesRoom (quota : TenantQuota) (others : List ProxmoxVolume) (vol : ProxmoxVolume) : Prop :=
  let live := others.filter (fun v => v.status.phase ≠ .rejected)
  (∀ max, quota.maxVolumes = some max → (live.length : ℤ)+1 ≤ max) ∧
  ∀ max, quota.maxCapacity.lookup vol.spec.storage = some max →
    ((live.filter (fun v => v.spec.storage = vol.spec.storage)).map countedBytes).sum+
      roundUpSizeBytes vol.spec.capacityBytes minChunkSizeBytes ≤ max.value

def LeavesRooms (t : TenantCluster) (vol : ProxmoxVolume) (others : List ProxmoxVolume) : Prop :=
  (∀ quota, t.quota = some quota → LeavesRoom quota others vol) ∧
  ∀ quota, namespaceQuotaOf t vol = some quota →
    LeavesRoom quota (claimedFrom vol.spec.claimNamespace others) vol

/-- A record that counts as it should: it was not refused and has a size. -/
def Counts (v : ProxmoxVolume) : Prop := v.status.phase ≠ .rejected ∧ 0 ≤ countedBytes v

theorem int32_le {n : ℤ} (h : 0 ≤ n) : int32 n ≤ n := by
  unfold int32
  rw [Int.bmod_def]
  omega

theorem int64_le {n : ℤ} (h : 0 ≤ n) : int64 n ≤ n := by
  unfold int64
  rw [Int.bmod_def]
  omega

theorem spent_le {vols : List ProxmoxVolume} (storage : String) (h : ∀ v ∈ vols, 0 ≤ countedBytes v) :
    0 ≤ spent storage vols ∧
      spent storage vols ≤ ((vols.filter (fun v => v.spec.storage = storage)).map
        countedBytes).sum := by
  have hpos : ∀ v ∈ vols.filter (fun v => v.spec.storage = storage), 0 ≤ countedBytes v :=
    fun v hv => h v (List.mem_of_mem_filter hv)
  have hsum : 0 ≤ ((vols.filter (fun v => v.spec.storage = storage)).map countedBytes).sum := by
    refine List.sum_nonneg ?_
    intro x hx
    obtain ⟨v,hv,rfl⟩ := List.mem_map.mp hx
    exact hpos v hv
  unfold spent
  split
  · exact ⟨le_refl 0,hsum⟩
  · have heq : (vols.filter (fun v => v.spec.storage = storage)).map
      (fun v => max 0 (countedBytes v)) =
        (vols.filter (fun v => v.spec.storage = storage)).map countedBytes :=
      List.map_congr_left (fun v hv => max_eq_right (hpos v hv))
    rw [heq]
    exact ⟨hsum,le_refl _⟩

theorem leavesRoom_room {quota : TenantQuota} {others : List ProxmoxVolume} {vol : ProxmoxVolume}
    (hothers : ∀ v ∈ others, Counts v) (h₁ : 0 ≤ vol.spec.capacityBytes)
    (h₂ : vol.spec.capacityBytes ≤ 2^63-2^29) (h : LeavesRoom quota others vol) :
    Room quota others vol := by
  have hlive : others.filter (fun v => v.status.phase ≠ .rejected) = others :=
    List.filter_eq_self.mpr (fun v hv => by simpa using (hothers v hv).1)
  unfold LeavesRoom at h
  rw [hlive] at h
  refine ⟨?_,?_⟩
  · intro max hm
    exact (int32_le (by omega)).trans (h.1 max hm)
  · intro max hm
    have hround := (ChunkRounding.roundUp_covers (n := vol.spec.capacityBytes) (by omega)
      (by omega)).mpr h₂
    obtain ⟨hpos,hle⟩ := spent_le vol.spec.storage (fun v hv => (hothers v hv).2)
    have hroom := h.2 max hm
    exact (int64_le (by omega)).trans (by omega)

theorem leavesRooms_rooms {t : TenantCluster} {others : List ProxmoxVolume} {vol : ProxmoxVolume}
    (hothers : ∀ v ∈ others, Counts v) (h₁ : 0 ≤ vol.spec.capacityBytes)
    (h₂ : vol.spec.capacityBytes ≤ 2^63-2^29) (h : LeavesRooms t vol others) : Rooms t vol others :=
  ⟨fun quota hq => leavesRoom_room hothers h₁ h₂ (h.1 quota hq),
    fun quota hq => leavesRoom_room (fun v hv => hothers v (List.mem_of_mem_filter hv)) h₁ h₂
      (h.2 quota hq)⟩

end Purpose

section Runs

def ofQuota (c : Condition) : Bool := c.reason = .quotaExceeded ∨ c.reason = .namespaceQuota

def rejectsForQuota : OpCall → Bool
  | .updateStatus vol => vol.status.phase = .rejected ∧ vol.status.conditions.any ofQuota
  | _ => false

/-- Nothing in the status tells of a quota. -/
def Unrefused (vol : ProxmoxVolume) : Prop := ∀ c ∈ vol.status.conditions, ofQuota c = false

/-- No call of any run of the pass rejects the record for a quota. -/
def Spares (r : Reconciler) (w : Ledger) (vol : ProxmoxVolume) : Prop :=
  ∀ d, Runs cluster ⟨[],w,(reconcileProvision r vol).run⟩ d →
    ∀ e ∈ d.hist, rejectsForQuota e.call = false

variable {r : Reconciler} {w : Ledger} {t : TenantCluster} {vol : ProxmoxVolume}

theorem mem_setStatusCondition {cs : List Condition} {c x : Condition}
    (h : x ∈ setStatusCondition cs c) : x = c ∨ x ∈ cs := by
  unfold setStatusCondition at h
  split at h
  · obtain ⟨y,hy,hx⟩ := List.mem_map.mp h
    split at hx
    · exact .inl hx.symm
    · exact .inr (hx ▸ hy)
  · rcases List.mem_append.mp h with h | h
    · exact .inr h
    · exact .inl (List.mem_singleton.mp h)

theorem setStatusCondition_mem (cs : List Condition) (c : Condition) :
    c ∈ setStatusCondition cs c := by
  unfold setStatusCondition
  split
  · rename_i h
    obtain ⟨x,hx,ht⟩ := List.any_eq_true.mp h
    exact List.mem_map.mpr ⟨x,hx,if_pos (of_decide_eq_true ht)⟩
  · simp

theorem addLabel_status (v : ProxmoxVolume) (label : String × String) :
    (addLabel v label).status = v.status := by
  unfold addLabel
  split
  · rfl
  · rfl

theorem held_status (vol : ProxmoxVolume) (t : TenantCluster) : (held vol t).status = vol.status := by
  have h : ∀ (ls : List (String × String)) (v : ProxmoxVolume),
    (ls.foldl addLabel v).status = v.status := by
    intro ls
    induction ls with
    | nil => exact fun _ => rfl
    | cons l ls ih => exact fun v => (ih (addLabel v l)).trans (addLabel_status v l)
  exact h _ _

theorem unrefused_spares (h : Unrefused vol) : rejectsForQuota
    (.updateStatus (VolumeReconciler.observed vol)) = false := by
  have hany : vol.status.conditions.any ofQuota = false := by
    rw [List.any_eq_false]
    exact fun c hc => Bool.eq_false_iff.mp (h c hc)
  simp [rejectsForQuota, VolumeReconciler.observed, hany]

theorem spares_permits (size : ℤ) : Permits Unrefused size (fun c => rejectsForQuota c = false) where
  notes c _ hc := by
    cases c with
    | updateStatus vol => exact absurd rfl (hc vol)
    | _ => rfl
  tells _ := unrefused_spares
  publishes _ _ _ := by simp [rejectsForQuota, VolumeReconciler.observed, published, setCondition]
  held vol t h := by
    unfold Unrefused
    rw [held_status]
    exact h
  phase _ _ h := h
  condition vol type status reason message h₁ h₂ h := by
    intro c hc
    rcases mem_setStatusCondition hc with rfl | hc
    · simp [ofQuota, h₁, h₂]
    · exact h c hc
  copies _ _ _ _ _ _ _ := rfl
  creates _ _ _ _ := rfl

theorem reject_rejects {reason : Reason} {message : String}
    (h : refusedForQuota (some (reason,message)) = true) :
    rejectsForQuota (.updateStatus (VolumeReconciler.observed
      (withPhase (setCondition (setCondition vol .admitted false
      reason message) .ready false reason message) .rejected))) = true := by
  have hq : reason = .quotaExceeded ∨ reason = .namespaceQuota := by
    cases reason <;> simp_all [refusedForQuota]
  have hany : (setCondition (setCondition vol .admitted false reason message) .ready false reason
      message).status.conditions.any ofQuota = true :=
    List.any_eq_true.mpr ⟨_,setStatusCondition_mem _ _,by simpa [ofQuota] using hq⟩
  simp [rejectsForQuota, VolumeReconciler.observed, withPhase, hany]

theorem tenant_listed {ns : String} {h : History OpCall OpReply Ledger} {w' : Ledger}
    {o : Option TenantCluster} (hr : Runs cluster ⟨[],w,(tenant ns).run⟩ ⟨h,w',.done (.ok o)⟩) :
    o = tenantFor ns w.tenants := by
  rcases runs_call hr with ⟨_,hp,_⟩ | ⟨w₁,a,w₂,hi,ho,hr⟩
  · cases hp
  · cases calm_interference cluster_calm hi
    cases a with
    | error e => cases (runs_done hr).2.1
    | ok ts =>
      cases (runs_done hr).2.1
      rw [read_tenants ho rfl]

theorem spared_runs {α : Type} {p : Prog OpCall OpReply α} {h : History OpCall OpReply Ledger}
    {d : Config OpCall OpReply Ledger α} (hr : Runs cluster ⟨h,w,p⟩ d)
    (hu : p.Uses (fun c => rejectsForQuota c = false))
    (hh : ∀ e ∈ h, rejectsForQuota e.call = false) : ∀ e ∈ d.hist, rejectsForQuota e.call = false := by
  refine (runs_uses (I := fun h _ => ∀ e ∈ h, rejectsForQuota e.call = false)
    (fun _ _ _ he => absurd he (cluster_calm _ _ _)) ?_ hr hu hh).2
  intro c h w a w' hc _ hh
  exact List.forall_mem_cons.mpr ⟨hc,hh⟩

theorem tenant_runs (w : Ledger) (ns : String) : ∃ e, Runs cluster ⟨[],w,(tenant ns).run⟩
    ⟨[e],w,.done (.ok (tenantFor ns w.tenants))⟩ :=
  ⟨⟨.listTenants,.ok w.tenants,w,w⟩,.single (.call (.served .listTenants w))⟩

/-- A pass over a new record rejects it for a quota exactly when the checks refuse it for one. -/
theorem spares_iff (ht : tenantFor vol.ns w.tenants = some t) (hready : isReady vol = false)
    (hun : Unrefused vol) : Spares r w vol ↔ refusedForQuota (refusal t vol) = false := by
  unfold Spares reconcileProvision
  simp only [hready, Bool.false_eq_true, if_false]
  constructor
  · intro h
    cases hx : refusal t vol with
    | none => rfl
    | some x =>
      obtain ⟨reason,message⟩ := x
      obtain ⟨e,he⟩ := tenant_runs w vol.ns
      rw [ht] at he
      refine Bool.eq_false_iff.mpr (fun hq => ?_)
      have hstart : Runs cluster ⟨[e],w,(reject vol reason message).run⟩ _ :=
        .single (.call (.served _ w))
      have hrun := h _ (runs_into he (by simpa only [hx] using hstart)) _ List.mem_cons_self
      exact absurd (hrun.symm.trans (reject_rejects hq)) (by decide)
  · intro h d hr
    have hlist : (tenant vol.ns).run.Uses (fun c => rejectsForQuota c = false) := uses_tenant rfl
    rcases runs_try_bind hr with ⟨q,hq⟩ | ⟨h₁,w₁,o,hq,hf⟩
    · exact spared_runs (d := ⟨d.hist,d.world,q⟩) hq hlist (List.forall_mem_nil _)
    · have hbefore : ∀ e ∈ h₁, rejectsForQuota e.call = false :=
        spared_runs hq hlist (List.forall_mem_nil _)
      rw [tenant_listed hq, ht] at hf
      refine spared_runs hf ?_ hbefore
      dsimp only
      split
      · rename_i reason message hx
        rw [hx] at h
        refine reject_uses (spares_permits 0) hun message ?_ ?_
        · rintro rfl
          cases h
        · rintro rfl
          cases h
      · exact provisionFor_uses r (spares_permits _) hun t

end Runs

/-- A new record that passes the other checks is rejected for a quota unless the quota has room
for it next to all records that were counted, itself and refused ones among them. When the record
was not listed and no other one was refused, there is room whenever there should be. -/
theorem quota_refuses_unless_room (t : TenantCluster) (vol : ProxmoxVolume) (seen : Bool)
    (others counted : List ProxmoxVolume) (hc : counted.Perm (listedWith seen others vol))
    (hplace : placementRefusal t vol = none)
    (hpolicy : checkParameterPolicy t.parameterPolicy vol.spec.parameters
      vol.spec.capacityBytes = none)
    (href : claimRefRefusal t vol = none) :
    (refusedForQuota (refusal (aggregated t counted) vol) = false ↔
      Rooms t vol (listedWith seen others vol)) ∧
    (∀ r w, tenantFor vol.ns w.tenants = some (aggregated t counted) → isReady vol = false →
      Unrefused vol → (Spares r w vol ↔ Rooms t vol (listedWith seen others vol))) ∧
    (seen = false → (∀ v ∈ others, Counts v) → 0 ≤ vol.spec.capacityBytes →
      vol.spec.capacityBytes ≤ 2^63-2^29 → LeavesRooms t vol others →
      Rooms t vol (listedWith seen others vol)) := by
  have hiff := refused_iff_room hc hplace hpolicy href
  refine ⟨hiff,?_,?_⟩
  · intro r w ht hready hun
    rw [spares_iff ht hready hun]
    exact hiff
  · rintro rfl hothers h₁ h₂ h
    exact leavesRooms_rooms hothers h₁ h₂ h

section Sample

inductive Task where
  | tenant (name : String)
  | volume (ns name : String)

def program (r : Registrar) (v : Reconciler) : Task → Prog OpCall OpReply (Except Failure Result)
  | .tenant name => (TenantReconciler.reconcile r name).run
  | .volume ns name => (VolumeLifecycle.reconcile v ns name).run

def sampleQuota (volumes : ℤ) : TenantQuota :=
  ⟨some volumes,(∅ : Quantities).insert "local" ⟨2147483648,"2Gi"⟩⟩

def sampleTenant : TenantCluster :=
  { blueTenant with
    quota := some (sampleQuota 1)
    subject := "blue"
    vmids := [100]
    finalizers := [tenantFinalizer] }

def sampleVolume : ProxmoxVolume := requestedVolume "pvc-a" 1

def sampleLedger : Ledger := blueLedger sampleTenant [sampleVolume] []

def lonePass : Stand Task OpCall OpReply Ledger :=
  turns prompt (program ⟨0⟩ plainReconciler) ⟨[],sampleLedger⟩
    [.tenant "blue",.volume "blue-ns" "pvc-a"]

theorem sample_leavesRoom : LeavesRoom (sampleQuota 1) [] sampleVolume := by
  refine ⟨?_,?_⟩
  · rintro max ⟨⟩
    decide
  · intro max hm
    have hq : (sampleQuota 1).maxCapacity.lookup sampleVolume.spec.storage =
        some ⟨2147483648,"2Gi"⟩ := by decide +kernel
    rw [hq] at hm
    cases hm
    decide +kernel

/-- The only volume of a tenant that may have one is refused for the quota. -/
theorem lone_volume_refused :
    sampleLedger.volumes.length = 1 ∧ LeavesRoom (sampleQuota 1) [] sampleVolume ∧
    namespaceQuotaOf sampleTenant sampleVolume = none ∧
    Work cluster (program ⟨0⟩ plainReconciler) ⟨[],sampleLedger⟩ lonePass ∧
    (lonePass.world.lookupVolume "blue-ns" "pvc-a").any (fun v => v.status.phase = .rejected ∧
      v.status.conditions.any (fun c => c.type = .admitted ∧ c.reason = .quotaExceeded)) ∧
    refusedForQuota (refusal (aggregated sampleTenant [sampleVolume]) sampleVolume) :=
  ⟨rfl,sample_leavesRoom,rfl,turns_work prompt_cluster _ _ _,by decide +kernel,by decide +kernel⟩

/-- Before it is listed the same volume is admitted. -/
theorem unlisted_volume_admitted :
    refusedForQuota (refusal (aggregated sampleTenant []) sampleVolume) = false ∧
    Spares plainReconciler (blueLedger (aggregated sampleTenant []) [sampleVolume] [])
      sampleVolume := by
  obtain ⟨hiff,hruns,hroom⟩ := quota_refuses_unless_room sampleTenant sampleVolume false [] []
    (List.Perm.refl _) (by decide +kernel) rfl (by decide +kernel)
  have hrooms := hroom rfl (by simp) (by decide) (by decide) ⟨by
    rintro quota ⟨⟩
    exact sample_leavesRoom,by
    intro quota hq
    cases hq⟩
  exact ⟨hiff.mpr hrooms,(hruns _ _ rfl rfl (by simp [Unrefused, sampleVolume, requestedVolume,
    Ledger.emptyStatus])).mpr hrooms⟩

end Sample

end ProxmoxCSI.QuotaChecks
