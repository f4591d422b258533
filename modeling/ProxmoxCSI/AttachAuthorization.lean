import ProxmoxCSI.TenantReconciler
import ProxmoxCSI.PassFootprints
import ProxmoxCSI.CallJournal

/-!
# How old an authorization may be

A disk is plugged only into a VM that the registration of the tenant lists. The
list carries the time at which the VMs were read; a listing that fails leaves
both as they were, and attaching never compares that time with the clock. So the
answer an attachment rests on is as recent as the last resolution that was
published, and no more recent. The time in a resolution is the one at which
Proxmox answered.
-/

set_option autoImplicit false

namespace ProxmoxCSI.AttachAuthorization
open CallProgram CallProgram.Prog CallSafety CallErrors CallTriples CallSessions CallJournal
open CallSchedule VolumeHandle ObjectStore OperatorRecords RecordWrites VolumeReconciler
open PassFootprints
open TenantReconciler (Registrar aggregated refused accepted resolvedTo poolMembers readiness)
open AttachmentReconciler (Attacher)

inductive Task where
  | tenant (name : String)
  | attachment (ns name : String)

def program (r : Registrar) (a : Attacher) : Task → Prog OpCall OpReply (Except Failure Result)
  | .tenant name => (TenantReconciler.reconcile r name).run
  | .attachment ns name => (AttachmentReconciler.reconcile a ns name).run

def later (l : Ledger) (d : ℕ) : Ledger := { l with clock := l.clock+d }

def timed : Service OpCall OpReply Ledger where
  outcome c l r l' := ∃ l₁ d, OpOutcome c l r l₁ ∧ l' = later l₁ d
  env _ _ _ := False

theorem timed_calm : Calm timed := fun _ _ _ he => he

abbrev Line := Entry Task OpCall OpReply Ledger

abbrev Log := Journal Task OpCall OpReply Ledger

section Statement

def attachTarget : OpCall → Option ℤ
  | .attachDisk _ vmid _ _ => some vmid
  | _ => none

/-- The VM belongs to the tenant, by an answer of Proxmox that is at most so old. -/
def Authorized (bound : ℤ) (x : Line) (_ : Log) : Prop :=
  ∀ ns name vmid, x.task = .attachment ns name → attachTarget x.event.call = some vmid →
    ∃ t, tenantFor ns x.event.before.tenants = some t ∧ vmid ∈ t.resolvedVMIDs ∧
      (t.pool ≠ "" → ∃ τ, t.vmidsObservedAt = some τ ∧ x.event.before.clock-τ ≤ bound)

def publication : Event OpCall OpReply Ledger → Option (String × ℤ)
  | ⟨.updateTenantStatus t,.ok _,_,_⟩ => t.vmidsObservedAt.map (fun τ => (t.name,τ))
  | _ => none

def Published (name : String) (τ : ℤ) (j : Log) : Prop :=
  ∃ x ∈ j, publication x.event = some (name,τ)

/-- When a disk is plugged for a tenant with a pool, a resolution at most so old was
published for the tenant. -/
def Resolved (bound : ℤ) (x : Line) (j : Log) : Prop :=
  ∀ ns name vmid t, x.task = .attachment ns name → attachTarget x.event.call = some vmid →
    tenantFor ns x.event.before.tenants = some t → t.pool ≠ "" →
    ∃ τ, Published t.name τ j ∧ x.event.before.clock-τ ≤ bound

def listing : Event OpCall OpReply Ledger → Option (String × List ListedVM × ℤ)
  | ⟨.listVMs region,.ok vms,_,w⟩ => some (region,vms,w.clock)
  | _ => none

/-- The VMs of a pool are those that Proxmox listed at the time of the resolution, unless the
resolution is older than the run. -/
def Backed (w₀ : Ledger) (j : Log) (t : TenantCluster) : Prop :=
  t.pool ≠ "" → ∀ τ, t.vmidsObservedAt = some τ →
    (∃ t₀, w₀.lookupTenant t.name = some t₀ ∧ t₀.vmidsObservedAt = some τ ∧
      t₀.resolvedVMIDs = t.resolvedVMIDs) ∨
    ∃ x ∈ j, ∃ vms, listing x.event = some (t.region,vms,τ) ∧
      t.resolvedVMIDs = (resolvedTo t (poolMembers t vms) τ).resolvedVMIDs

/-- What is published, and what a disk is plugged by, is what Proxmox answered. -/
structure Answered (w₀ : Ledger) (x : Line) (j : Log) : Prop where
  published : ∀ t, x.event.call = .updateTenantStatus t → Backed w₀ j t
  plugged : ∀ ns name vmid t, x.task = .attachment ns name → attachTarget x.event.call = some vmid →
    tenantFor ns x.event.before.tenants = some t → Backed w₀ j t

/-- The registrations have different names and were observed in the past. -/
structure Orderly (l : Ledger) : Prop where
  keyed : Keyed TenantCluster.name l.tenants
  past : ∀ name t τ, l.lookupTenant name = some t → t.vmidsObservedAt = some τ → τ ≤ l.clock

end Statement

section Invariant

variable {w₀ : Ledger} {bound : ℤ} {j : Log} {w w' : Ledger} {i : Task} {t t' : TenantCluster}
  {c : OpCall} {r : OpReply c}

/-- The registration is not newer than the clock, nor older than what was published. -/
structure Sound (w₀ : Ledger) (j : Log) (w : Ledger) (t : TenantCluster) : Prop where
  past : ∀ τ, t.vmidsObservedAt = some τ → τ ≤ w.clock
  recent : t.resolvedVMIDs ≠ [] → ∀ τ, Published t.name τ j →
    ∃ τ', t.vmidsObservedAt = some τ' ∧ τ ≤ τ'
  backed : Backed w₀ j t

structure Good (w₀ : Ledger) (bound : ℤ) (j : Log) (w : Ledger) : Prop where
  keyed : Keyed TenantCluster.name w.tenants
  sound : ∀ name t, w.lookupTenant name = some t → Sound w₀ j w t
  past : ∀ name τ, Published name τ j → τ ≤ w.clock
  authorized : Every (Authorized bound) j
  answered : Every (Answered w₀) j

/-- The two copies are of one specification. -/
structure SameSpec (t t' : TenantCluster) : Prop where
  name : t'.name = t.name
  region : t'.region = t.region
  pool : t'.pool = t.pool
  vmids : t'.vmids = t.vmids

/-- The two copies agree about the resolution. -/
structure SameResolution (t t' : TenantCluster) : Prop where
  spec : SameSpec t t'
  resolved : t'.resolvedVMIDs = t.resolvedVMIDs
  observed : t'.vmidsObservedAt = t.vmidsObservedAt

theorem backed_cons (x : Line) (h : Backed w₀ j t) : Backed w₀ (x::j) t := by
  intro hpool τ hτ
  rcases h hpool τ hτ with h | ⟨y,hy,h⟩
  · exact .inl h
  · exact .inr ⟨y,List.mem_cons_of_mem x hy,h⟩

theorem backed_same (hs : SameResolution t t') (h : Backed w₀ j t) : Backed w₀ j t' := by
  unfold Backed poolMembers resolvedTo at h ⊢
  rw [hs.spec.name, hs.spec.region, hs.spec.pool, hs.spec.vmids, hs.resolved, hs.observed]
  exact h

theorem sound_same (hs : SameResolution t t') (h : Sound w₀ j w t) : Sound w₀ j w t' := by
  refine ⟨?_,?_,backed_same hs h.backed⟩
  · intro τ ht
    rw [hs.observed] at ht
    exact h.past τ ht
  · intro hne τ hp
    rw [hs.resolved] at hne
    rw [hs.spec.name] at hp
    rw [hs.observed]
    exact h.recent hne τ hp

theorem orderly_good {l : Ledger} (h : Orderly l) : Good l bound [] l := by
  refine ⟨h.keyed,?_,?_,trivial,trivial⟩
  · intro name t ht
    refine ⟨fun τ hτ => h.past name t τ ht hτ,?_,?_⟩
    · rintro _ τ ⟨x,hx,_⟩
      cases hx
    · intro _ τ hτ
      have hn : t.name = name := (find_some ht).2
      exact .inl ⟨t,hn ▸ ht,hτ,rfl⟩
  · rintro name τ ⟨x,hx,_⟩
    cases hx

theorem sound_later (hc : w.clock ≤ w'.clock) {x : Line} (hx : publication x.event = none)
    (h : Sound w₀ j w t) : Sound w₀ (x::j) w' t := by
  refine ⟨?_,?_,backed_cons x h.backed⟩
  · intro τ ht
    exact (h.past τ ht).trans hc
  · rintro hne τ ⟨y,hy,hp⟩
    rcases List.mem_cons.mp hy with rfl | hy
    · rw [hx] at hp
      cases hp
    · exact h.recent hne τ ⟨y,hy,hp⟩

theorem published_cons {x : Line} (hx : publication x.event = none) {name : String} {τ : ℤ}
    (h : Published name τ (x::j)) : Published name τ j := by
  obtain ⟨y,hy,hp⟩ := h
  rcases List.mem_cons.mp hy with rfl | hy
  · rw [hx] at hp
    cases hp
  · exact ⟨y,hy,hp⟩

theorem publication_aside (hc : part c ≠ .tenants) {w₁ w₂ : Ledger} :
    publication ⟨c,r,w₁,w₂⟩ = none := by
  cases c <;> first | rfl | exact absurd rfl hc

theorem timed_clock (ho : timed.outcome c w r w') : w.clock ≤ w'.clock := by
  obtain ⟨l₁,d,ho,rfl⟩ := ho
  rw [← (outcome_kept ho).clock]
  show l₁.clock ≤ l₁.clock+d
  omega

theorem tenant_backed {ns : String} (hg : Good w₀ bound j w) (ht : tenantFor ns w.tenants = some t) :
    Backed w₀ j t :=
  (hg.sound t.name t (find_of_mem hg.keyed (List.mem_of_find?_eq_some ht))).backed

theorem line_answered (hg : Good w₀ bound j w) (hc : ∀ t, c = .updateTenantStatus t → Backed w₀ j t) :
    Answered w₀ ⟨i,⟨c,r,w,w'⟩⟩ j :=
  ⟨hc,fun _ _ _ _ _ _ ht => tenant_backed hg ht⟩

theorem good_aside (hg : Good w₀ bound j w) (hc : part c ≠ .tenants) (ho : timed.outcome c w r w')
    (ha : Authorized bound ⟨i,⟨c,r,w,w'⟩⟩ j) : Good w₀ bound (⟨i,⟨c,r,w,w'⟩⟩::j) w' := by
  have hclock := timed_clock ho
  have ht : w'.tenants = w.tenants := by
    obtain ⟨l₁,d,ho,rfl⟩ := ho
    exact (outcome_kept ho).tenants hc
  have hx : publication (⟨i,⟨c,r,w,w'⟩⟩ : Line).event = none := publication_aside hc
  refine ⟨ht ▸ hg.keyed,?_,?_,⟨ha,hg.authorized⟩,line_answered hg ?_,hg.answered⟩
  · intro name t hl
    rw [Ledger.lookupTenant, ht] at hl
    exact sound_later hclock hx (hg.sound name t hl)
  · intro name τ hp
    exact (hg.past name τ (published_cons hx hp)).trans hclock
  · rintro t rfl
    exact absurd rfl hc

theorem tenant_written {c : OpCall} {r : OpReply c} (hc : part c = .tenants)
    (ho : timed.outcome c w r w') : w'.tenants = w.tenants ∧ (∃ e, r = .error e) ∨
      w'.tenants = (answer w c).2.tenants ∧ (r = (answer w c).1 ∨ ∃ e, r = .error e) := by
  obtain ⟨l₁,d,ho,rfl⟩ := ho
  rcases outcome_record (by simp [hc]) ho with ⟨rfl,e,_,he⟩ | ⟨rfl,hr⟩
  · exact .inl ⟨rfl,e,he⟩
  · refine .inr ⟨rfl,?_⟩
    rcases hr with hr | ⟨e,_,he⟩
    · exact .inl hr
    · exact .inr ⟨e,he⟩

theorem not_attach (hc : attachTarget c = none) {w₁ w₂ : Ledger} :
    Authorized bound ⟨i,⟨c,r,w₁,w₂⟩⟩ j := by
  intro ns name vmid _ h
  cases hc.symm.trans h

theorem published_status {r : OpReply (.updateTenantStatus t)} {name : String} {τ : ℤ}
    (h : Published name τ (⟨i,⟨.updateTenantStatus t,r,w,w'⟩⟩::j)) :
    Published name τ j ∨ (∃ u, r = .ok u) ∧ name = t.name ∧ t.vmidsObservedAt = some τ := by
  obtain ⟨y,hy,hp⟩ := h
  rcases List.mem_cons.mp hy with rfl | hy
  · cases r with
    | error e => cases hp
    | ok u =>
      obtain ⟨τ',hτ,he⟩ := Option.map_eq_some_iff.mp hp
      cases he
      exact .inr ⟨⟨u,rfl⟩,rfl,hτ⟩
  · exact .inl ⟨y,hy,hp⟩

theorem sound_written {r : OpReply (.updateTenantStatus t)} (hs : Sound w₀ j w t)
    (hclock : w.clock ≤ w'.clock) : Sound w₀ (⟨i,⟨.updateTenantStatus t,r,w,w'⟩⟩::j) w' t := by
  refine ⟨?_,?_,backed_cons _ hs.backed⟩
  · intro τ ht
    exact (hs.past τ ht).trans hclock
  · intro hne τ hp
    rcases published_status hp with hp | ⟨_,_,hτ⟩
    · exact hs.recent hne τ hp
    · exact ⟨τ,hτ,le_refl τ⟩

def Current (w : Ledger) (t : TenantCluster) : Prop :=
  ∀ u, w.lookupTenant t.name = some u → SameSpec t u

theorem good_status {r : OpReply (.updateTenantStatus t)} (hg : Good w₀ bound j w)
    (hs : Sound w₀ j w t) (hcur : Current w t)
    (ho : timed.outcome (.updateTenantStatus t) w r w') :
    Good w₀ bound (⟨i,⟨.updateTenantStatus t,r,w,w'⟩⟩::j) w' := by
  have hclock := timed_clock ho
  have hk : ∀ u : TenantCluster, u.name = t.name → (reportedTenant t u).name = t.name := fun _ h => h
  have hold : ∀ name u, w.lookupTenant name = some u → (name = t.name → ∃ e, r = .error e) →
      Sound w₀ (⟨i,⟨.updateTenantStatus t,r,w,w'⟩⟩::j) w' u := by
    intro name u hu hr
    have hsu := hg.sound name u hu
    refine ⟨fun τ ht => (hsu.past τ ht).trans hclock,?_,backed_cons _ hsu.backed⟩
    intro hne τ hp
    rcases published_status hp with hp | ⟨⟨v,rfl⟩,hn,_⟩
    · exact hsu.recent hne τ hp
    · have hname : u.name = name := (find_some hu).2
      obtain ⟨e,he⟩ := hr (hname.symm.trans hn)
      cases he
  have hpast : ∀ name τ, Published name τ (⟨i,⟨.updateTenantStatus t,r,w,w'⟩⟩::j) → τ ≤ w'.clock := by
    intro name τ hp
    rcases published_status hp with hp | ⟨_,_,hτ⟩
    · exact (hg.past name τ hp).trans hclock
    · exact (hs.past τ hτ).trans hclock
  have hauth : Every (Authorized bound) (⟨i,⟨.updateTenantStatus t,r,w,w'⟩⟩::j) :=
    ⟨not_attach rfl,hg.authorized⟩
  have hans : Every (Answered w₀) (⟨i,⟨.updateTenantStatus t,r,w,w'⟩⟩::j) := by
    refine ⟨line_answered hg ?_,hg.answered⟩
    rintro u ⟨⟩
    exact hs.backed
  rcases tenant_written rfl ho with ⟨ht,e,he⟩ | ⟨ht,hr⟩
  · refine ⟨ht ▸ hg.keyed,?_,hpast,hauth,hans⟩
    intro name u hu
    rw [Ledger.lookupTenant, ht] at hu
    exact hold name u hu (fun _ => ⟨e,he⟩)
  · refine ⟨ht ▸ putTenant_keyed hk hg.keyed,?_,hpast,hauth,hans⟩
    intro name u hu
    rw [Ledger.lookupTenant, ht] at hu
    rcases putTenant_lookup hk hu with ⟨hu,he⟩ | ⟨rfl,v,hv,_,rfl⟩
    · refine hold name u hu ?_
      intro hn
      rcases hr with hr | hr
      · obtain ⟨e,he⟩ := he hn
        exact ⟨e,hr.trans he⟩
      · exact hr
    · have hspec := hcur v hv
      exact sound_same ⟨⟨hspec.name,hspec.region,hspec.pool,hspec.vmids⟩,rfl,rfl⟩
        (sound_written hs hclock)

theorem good_update {r : OpReply (.updateTenant t)} (hg : Good w₀ bound j w) (hcur : Current w t)
    (ho : timed.outcome (.updateTenant t) w r w') :
    Good w₀ bound (⟨i,⟨.updateTenant t,r,w,w'⟩⟩::j) w' := by
  have hclock := timed_clock ho
  have hk : ∀ u : TenantCluster, u.name = t.name → (writtenTenant t u).name = t.name := fun _ _ => rfl
  have hx : publication (⟨i,⟨.updateTenant t,r,w,w'⟩⟩ : Line).event = none := rfl
  have hpast : ∀ name τ, Published name τ (⟨i,⟨.updateTenant t,r,w,w'⟩⟩::j) → τ ≤ w'.clock :=
    fun name τ hp => (hg.past name τ (published_cons hx hp)).trans hclock
  have hauth : Every (Authorized bound) (⟨i,⟨.updateTenant t,r,w,w'⟩⟩::j) :=
    ⟨not_attach rfl,hg.authorized⟩
  have hans : Every (Answered w₀) (⟨i,⟨.updateTenant t,r,w,w'⟩⟩::j) :=
    ⟨line_answered hg (fun _ h => by cases h),hg.answered⟩
  rcases tenant_written rfl ho with ⟨ht,_⟩ | ⟨ht,_⟩
  · refine ⟨ht ▸ hg.keyed,?_,hpast,hauth,hans⟩
    intro name u hu
    rw [Ledger.lookupTenant, ht] at hu
    exact sound_later hclock hx (hg.sound name u hu)
  · refine ⟨ht ▸ putTenant_keyed hk hg.keyed,?_,hpast,hauth,hans⟩
    intro name u hu
    rw [Ledger.lookupTenant, ht] at hu
    rcases putTenant_lookup hk hu with ⟨hu,_⟩ | ⟨rfl,v,hv,_,rfl⟩
    · exact sound_later hclock hx (hg.sound name u hu)
    · have hspec := hcur v hv
      exact sound_same ⟨⟨hspec.name.symm,hspec.region.symm,hspec.pool.symm,hspec.vmids.symm⟩,rfl,rfl⟩
        (sound_later hclock hx (hg.sound _ v hv))

end Invariant

section Passes

variable {w₀ : Ledger} {bound : ℤ} {i : Task} {l : Log} {t t' : TenantCluster}

abbrev Leads {α : Type} (w₀ : Ledger) (bound : ℤ) (i : Task) (l : Log) (A : Log → Ledger → Prop)
  (x : P α)
    (Q : α → Log → Ledger → Prop) : Prop :=
  Triple timed (Given (Resolved bound) (Good w₀ bound) i l) (Given (Resolved bound) A i l) x
    (fun a => Given (Resolved bound) (Q a) i l)

abbrev Keeps {α : Type} (w₀ : Ledger) (bound : ℤ) (i : Task) (l : Log) (A : Log → Ledger → Prop)
  (x : P α) : Prop :=
  Leads w₀ bound i l A x (fun _ => Good w₀ bound)

def aside (c : OpCall) : Prop := part c ≠ .tenants ∧ attachTarget c = none

structure Holding (w₀ : Ledger) (bound : ℤ) (t : TenantCluster) (j : Log) (w : Ledger) : Prop where
  good : Good w₀ bound j w
  sound : Sound w₀ j w t
  current : Current w t

theorem current_same (hs : SameSpec t t') {w : Ledger} (h : Current w t) : Current w t' := by
  intro u hu
  have hu := h u (hs.name ▸ hu)
  exact ⟨hu.name.trans hs.name.symm,hu.region.trans hs.region.symm,hu.pool.trans hs.pool.symm,
    hu.vmids.trans hs.vmids.symm⟩

theorem holding_same (hs : SameResolution t t') {j : Log} {w : Ledger} (h : Holding w₀ bound t j w) :
    Holding w₀ bound t' j w :=
  ⟨h.good,sound_same hs h.sound,current_same hs.spec h.current⟩

theorem holding_aside {c : OpCall} {r : OpReply c} {j : Log} {w w' : Ledger} (hc : aside c)
    (ho : timed.outcome c w r w') (h : Holding w₀ bound t j w) :
    Holding w₀ bound t (⟨i,⟨c,r,w,w'⟩⟩::j) w' := by
  refine ⟨good_aside h.good hc.1 ho (not_attach hc.2),
    sound_later (timed_clock ho) (publication_aside hc.1) h.sound,?_⟩
  obtain ⟨l₁,d,ho,rfl⟩ := ho
  have ht : (later l₁ d).tenants = w.tenants := (outcome_kept ho).tenants hc.1
  intro u hu
  rw [Ledger.lookupTenant, ht] at hu
  exact h.current u hu

theorem aside_keeps {α : Type} {x : P α} (hx : x.run.Uses aside) :
    Keeps w₀ bound i l (Good w₀ bound) x :=
  triple_given_uses timed_calm (fun _ _ h => h)
    (fun _ _ _ _ _ hc ho hg _ => good_aside hg hc.1 ho (not_attach hc.2)) hx

theorem aside_holds {α : Type} {x : P α} (hx : x.run.Uses aside) :
    Leads w₀ bound i l (Holding w₀ bound t) x (fun _ => Holding w₀ bound t) :=
  triple_given_uses timed_calm (fun _ _ h => h.1)
    (fun _ _ _ _ _ hc ho h _ => holding_aside hc ho h) hx

section Tenant
open TenantReconciler

theorem seen_same (t : TenantCluster) : SameResolution t (seen t) := ⟨⟨rfl,rfl,rfl,rfl⟩,rfl,rfl⟩

theorem aggregated_same (t : TenantCluster) (vols : List ProxmoxVolume) :
    SameResolution t (aggregated t vols) := ⟨⟨rfl,rfl,rfl,rfl⟩,rfl,rfl⟩

theorem conditioned_same (t : TenantCluster) (type : ConditionType) (status : Bool)
    (reason : Reason) (message : String) :
    SameResolution t (conditioned t type status reason message) := ⟨⟨rfl,rfl,rfl,rfl⟩,rfl,rfl⟩

theorem updateStatus_keeps : Keeps w₀ bound i l (Holding w₀ bound t)
    (TenantReconciler.updateStatus t) := by
  refine triple_bind (Q := fun _ => Given (Resolved bound) (Good w₀ bound) i l) ?_ ?_
  · refine triple_given_call timed_calm (fun _ _ h => h.1) ?_
    intro j w r w' h ho _
    have hs := holding_same (seen_same t) h
    have hg := good_status (i := i) hs.good hs.sound hs.current ho
    exact ⟨hg,fun _ _ => hg⟩
  · intro _
    exact triple_given_pure timed_calm (fun _ _ h => ⟨h,h⟩)

theorem status_keeps {t' : TenantCluster} (hs : SameResolution t t') (result : Result) :
    Keeps w₀ bound i l (Holding w₀ bound t) (do TenantReconciler.updateStatus t'; pure result : P
      Result) := by
  refine triple_bind (Q := fun _ => Given (Resolved bound) (Good w₀ bound) i l) ?_ ?_
  · exact triple_given_mono updateStatus_keeps (fun _ _ h => holding_same hs h) (fun _ _ _ h => h)
  · intro _
    exact triple_given_pure timed_calm (fun _ _ h => ⟨h,h⟩)

theorem volumes_holds : Leads w₀ bound i l (Holding w₀ bound t) (volumes t)
    (fun _ => Holding w₀ bound t) := by
  unfold volumes
  split
  · exact triple_given_pure timed_calm (fun _ _ h => ⟨h.1,h⟩)
  · exact aside_holds (uses_need ⟨by simp [part],rfl⟩)

theorem aggregate_holds : Leads w₀ bound i l (Holding w₀ bound t) (aggregate t)
    (Holding w₀ bound) := by
  refine triple_bind volumes_holds ?_
  intro vols
  exact triple_given_pure timed_calm (fun _ _ h => ⟨h.1,holding_same (aggregated_same t vols) h⟩)

def copyAfter (t : TenantCluster) : Except String TenantCluster → TenantCluster
  | .ok t' => t'
  | .error _ => t

/-- The members of the pool are those that Proxmox has listed just now. -/
def JustListed (t : TenantCluster) (members : List ℤ) (j : Log) (w : Ledger) : Prop :=
  t.pool ≠ "" → ∃ x ∈ j, ∃ vms, listing x.event = some (t.region,vms,w.clock) ∧
    members = poolMembers t vms

/-- The time that is stamped is not older than anything published. -/
theorem stamped_holds (members : List ℤ) : Leads w₀ bound i l
    (fun j w => Holding w₀ bound t j w ∧ JustListed t members j w) (stamped t members)
    (fun answer => Holding w₀ bound (copyAfter t answer)) := by
  refine triple_bind (Q := fun now => Given (Resolved bound)
    (Holding w₀ bound (resolvedTo t members now)) i l) ?_ ?_
  · refine triple_given_call timed_calm (fun _ _ h => h.1.good) ?_
    rintro j w r w' ⟨h,hlisted⟩ ho _
    have hnext := holding_aside (i := i) (c := .now) ⟨by simp [part],rfl⟩ ho h
    refine ⟨hnext.good,?_⟩
    intro now hn
    have hnow : now = w.clock := by
      obtain ⟨l₁,d,ho,_⟩ := ho
      cases reads_ok rfl ho (mapError_ok hn)
      rfl
    have hclock := timed_clock ho
    have hspec : SameSpec t (resolvedTo t members now) := ⟨rfl,rfl,rfl,rfl⟩
    refine ⟨hnext.good,⟨?_,?_,?_⟩,current_same hspec hnext.current⟩
    · rintro τ ⟨⟩
      omega
    · intro _ τ hp
      have hle := h.good.past _ τ (published_cons (publication_aside (by simp [part])) hp)
      exact ⟨now,rfl,by omega⟩
    · rintro hpool τ ⟨⟩
      obtain ⟨x,hx,vms,hl,rfl⟩ := hlisted hpool
      rw [hnow]
      exact .inr ⟨x,List.mem_cons_of_mem _ hx,vms,hl,rfl⟩
  · intro now
    exact triple_given_pure timed_calm (fun _ _ h => ⟨h.1,h⟩)

theorem listVMs_holds (region : String) : Leads w₀ bound i l (Holding w₀ bound t)
    (ask (.listVMs region)) (fun answer j w => Holding w₀ bound t j w ∧ ∀ vms, answer = .ok vms →
      ∃ x ∈ j, listing x.event = some (region,vms,w.clock)) := by
  refine triple_given_call timed_calm (fun _ _ h => h.good) ?_
  intro j w r w' h ho _
  have hnext := holding_aside (i := i) (c := .listVMs region) ⟨by simp [part],rfl⟩ ho h
  refine ⟨hnext.good,?_⟩
  rintro answer ⟨⟩
  refine ⟨hnext,?_⟩
  rintro vms rfl
  exact ⟨_,List.mem_cons_self,rfl⟩

theorem resolveVMIDs_holds : Leads w₀ bound i l (Holding w₀ bound t) (resolveVMIDs t)
    (fun answer => Holding w₀ bound (copyAfter t answer)) := by
  unfold resolveVMIDs
  split
  · rename_i hpool
    exact triple_given_mono (stamped_holds []) (fun _ _ h => ⟨h,fun hp => absurd hpool hp⟩)
      (fun _ _ _ h => h)
  · refine triple_bind (listVMs_holds t.region) ?_
    intro answer
    cases answer with
    | error e => exact triple_given_pure timed_calm (fun _ _ h => ⟨h.1.good,h.1⟩)
    | ok vms =>
      refine triple_given_mono (stamped_holds (poolMembers t vms)) ?_ (fun _ _ _ h => h)
      rintro j w ⟨h,hl⟩
      obtain ⟨x,hx,hl⟩ := hl vms rfl
      exact ⟨h,fun _ => ⟨x,hx,vms,hl,rfl⟩⟩

theorem readiness_same (t : TenantCluster) : SameResolution t (readiness t) := by
  unfold readiness
  split
  · exact conditioned_same _ _ _ _ _
  · exact conditioned_same _ _ _ _ _

theorem admitTenant_keeps (r : Registrar) : Keeps w₀ bound i l (Holding w₀ bound t)
    (admitTenant r t) := by
  refine triple_bind resolveVMIDs_holds ?_
  intro answer
  cases answer with
  | ok t' => exact status_keeps (readiness_same t') _
  | error text =>
    refine triple_bind (Q := fun _ => Given (Resolved bound) (Good w₀ bound) i l) ?_ ?_
    · exact triple_given_mono updateStatus_keeps
        (fun _ _ h => holding_same (conditioned_same _ _ _ _ _) h) (fun _ _ _ h => h)
    · intro _
      exact triple_given_throw timed_calm (fun _ _ h => h)

theorem refused_holds {j : Log} {w : Ledger} (text : String) (h : Holding w₀ bound t j w) :
    Holding w₀ bound (refused t text) j w := by
  have hspec : SameSpec t (refused t text) := ⟨rfl,rfl,rfl,rfl⟩
  refine ⟨h.good,⟨?_,?_,?_⟩,current_same hspec h.current⟩
  · intro τ ht
    cases ht
  · intro hne
    exact absurd rfl hne
  · intro _ τ ht
    cases ht

theorem reconcileNormal_keeps (r : Registrar) :
    Keeps w₀ bound i l (Holding w₀ bound t) (reconcileNormal r t) := by
  refine triple_bind aggregate_holds ?_
  intro t
  have hconflict : Leads w₀ bound i l (Holding w₀ bound t) (conflict t)
    (fun _ => Holding w₀ bound t) :=
    aside_holds (uses_try_bind (uses_need ⟨by simp [part],rfl⟩) (fun _ => trivial))
  refine triple_bind hconflict ?_
  intro text
  show Keeps w₀ bound i l (Holding w₀ bound t) (ite _ _ _ : P Result)
  split
  · exact triple_given_mono (status_keeps (t := refused t text) ⟨⟨rfl,rfl,rfl,rfl⟩,rfl,rfl⟩ _)
      (fun _ _ h => refused_holds text h) (fun _ _ _ h => h)
  · exact triple_given_mono (admitTenant_keeps r)
      (fun _ _ h => holding_same (conditioned_same _ _ _ _ _) h) (fun _ _ _ h => h)

theorem updateTenant_keeps (pre : String) :
    Keeps w₀ bound i l (Holding w₀ bound t) (need (.updateTenant t) pre) := by
  refine triple_given_call timed_calm (fun _ _ h => h.good) ?_
  intro j w r w' h ho _
  have hg := good_update (i := i) h.good h.current ho
  exact ⟨hg,fun _ _ => hg⟩

theorem reconcileDelete_keeps (r : Registrar) :
    Keeps w₀ bound i l (Holding w₀ bound t) (TenantReconciler.reconcileDelete r t) := by
  unfold TenantReconciler.reconcileDelete
  split
  · exact triple_given_pure timed_calm (fun _ _ h => ⟨h.1,h.1⟩)
  · refine triple_bind volumes_holds ?_
    intro vols
    show Keeps w₀ bound i l (Holding w₀ bound t) (ite _ _ _ : P Result)
    split
    · exact status_keeps (conditioned_same _ _ _ _ _) _
    · have hreleased : SameResolution t (released t) := ⟨⟨rfl,rfl,rfl,rfl⟩,rfl,rfl⟩
      refine triple_bind (triple_given_mono (updateTenant_keeps _)
        (fun _ _ h => holding_same hreleased h) (fun _ _ _ h => h)) ?_
      intro _
      exact triple_given_pure timed_calm (fun _ _ h => ⟨h,h⟩)

theorem stored_holding {j : Log} {w : Ledger} {name : String} (hg : Good w₀ bound j w)
    (ht : w.lookupTenant name = some t) : Holding w₀ bound t j w := by
  refine ⟨hg,hg.sound name t ht,?_⟩
  intro u hu
  have hn : t.name = name := (find_some ht).2
  rw [hn, ht] at hu
  cases hu
  exact ⟨rfl,rfl,rfl,rfl⟩

/-- The copy that comes back from the write is the stored one. -/
theorem hold_holds : Leads w₀ bound i l (Holding w₀ bound t) (TenantReconciler.hold t)
    (Holding w₀ bound) := by
  unfold TenantReconciler.hold
  split
  · exact triple_given_pure timed_calm (fun _ _ h => ⟨h.1,h⟩)
  · refine triple_given_call timed_calm (fun _ _ h => h.1) ?_
    intro j w r w' h ho _
    have hspec : SameSpec t (registered t) := ⟨rfl,rfl,rfl,rfl⟩
    have hg := good_update (i := i) h.good (current_same hspec h.current) ho
    refine ⟨hg,?_⟩
    intro u hu
    have hr := mapError_ok hu
    refine stored_holding hg (show w'.lookupTenant (registered t).name = some u from ?_)
    rcases tenant_written rfl ho with ⟨_,e,he⟩ | ⟨ht,ha⟩
    · cases he.symm.trans hr
    · rw [Ledger.lookupTenant, ht]
      have hans : (w.putTenant (registered t) (writtenTenant (registered t))).1 = .ok u := by
        rcases ha with ha | ⟨e,he⟩
        · exact ha.symm.trans hr
        · cases he.symm.trans hr
      refine putTenant_kept (fun _ _ => rfl) hans ?_
      obtain ⟨u₀,_,_,rfl⟩ := putTenant_ok hans
      simp [Ledger.tenantGone, writtenTenant, registered]

theorem tenant_keeps (r : Registrar) (name : String) :
    Keeps w₀ bound i l (Good w₀ bound) (TenantReconciler.reconcile r name) := by
  refine triple_bind (Q := fun answer => Given (Resolved bound) (fun j w => Good w₀ bound j w ∧
    ∀ t, answer = .ok t → Holding w₀ bound t j w) i l) ?_ ?_
  · refine triple_given_call timed_calm (fun _ _ h => h) ?_
    intro j w r w' h ho _
    have hg := good_aside (i := i) h (by simp [part]) ho (not_attach rfl)
    refine ⟨hg,?_⟩
    rintro answer ⟨⟩
    refine ⟨hg,?_⟩
    rintro t rfl
    have hl : w.lookupTenant name = some t := by
      obtain ⟨l₁,d,ho,_⟩ := ho
      exact foundOr_ok (outcome_reads rfl ho).2 rfl
    exact holding_aside ⟨by simp [part],rfl⟩ ho (stored_holding h hl)
  · intro answer
    cases answer with
    | error e =>
      refine triple_given_mono (aside_keeps (uses_unread e)) (fun _ _ h => h.1) (fun _ _ _ h => h)
    | ok t =>
      refine triple_given_mono (P := Holding w₀ bound t) ?_ (fun _ _ h => h.2 t rfl) (fun _ _ _ h => h)
      show Keeps w₀ bound i l (Holding w₀ bound t) (reconcileTenant r t)
      unfold reconcileTenant
      split
      · exact reconcileDelete_keeps r
      · refine triple_bind hold_holds ?_
        intro t'
        exact reconcileNormal_keeps r

end Tenant

section Attach
open AttachmentReconciler

def Member (w₀ : Ledger) (bound : ℤ) (ns : String) (vmid : ℤ) (j : Log) (w : Ledger) : Prop :=
  Good w₀ bound j w ∧ ∃ t, tenantFor ns w.tenants = some t ∧ vmid ∈ t.resolvedVMIDs

/-- The answer an attachment rests on is as recent as a resolution that was published. -/
theorem member_authorized {ns : String} {vmid : ℤ} {c : OpCall} {r : OpReply c} {j : Log}
    {w w' : Ledger} (hi : ∀ n name, i = .attachment n name → n = ns)
    (hc : ∀ v, attachTarget c = some v → v = vmid) (h : Member w₀ bound ns vmid j w)
    (hres : Resolved bound ⟨i,⟨c,r,w,w'⟩⟩ j) : Authorized bound ⟨i,⟨c,r,w,w'⟩⟩ j := by
  obtain ⟨hg,t,ht,hm⟩ := h
  intro n name v htask htarget
  cases hi n name htask
  cases hc v htarget
  refine ⟨t,ht,hm,?_⟩
  intro hpool
  obtain ⟨τ,hp,hle⟩ := hres ns name vmid t htask htarget ht hpool
  have hl : w.lookupTenant t.name = some t := find_of_mem hg.keyed (List.mem_of_find?_eq_some ht)
  obtain ⟨τ',hτ',hττ⟩ := (hg.sound t.name t hl).recent (List.ne_nil_of_mem hm) τ hp
  refine ⟨τ',hτ',?_⟩
  have hle' : w.clock-τ ≤ bound := hle
  show w.clock-τ' ≤ bound
  omega

def plugging (vmid : ℤ) (c : OpCall) : Prop :=
  part c ≠ .tenants ∧ ∀ v, attachTarget c = some v → v = vmid

theorem member_keeps {α : Type} {ns : String} {vmid : ℤ} {x : P α}
    (hi : ∀ n name, i = .attachment n name → n = ns) (hx : x.run.Uses (plugging vmid)) :
    Keeps w₀ bound i l (Member w₀ bound ns vmid) x := by
  refine triple_given_mono (Q := fun _ => Member w₀ bound ns vmid) ?_ (fun _ _ h => h)
    (fun _ _ _ h => h.1)
  refine triple_given_uses timed_calm (fun _ _ h => h.1) ?_ hx
  intro c j w r w' hc ho h hres
  refine ⟨good_aside h.1 hc.1 ho (member_authorized hi hc.2 h hres),?_⟩
  obtain ⟨l₁,d,ho,rfl⟩ := ho
  have ht : (later l₁ d).tenants = w.tenants := (outcome_kept ho).tenants hc.1
  rw [ht]
  exact h.2

theorem notes_aside (c : OpCall) (h : attachmentNotes c) : aside c := by
  cases c <;> simp_all [attachmentNotes, aside, part, attachTarget]

theorem notes_plugging {vmid : ℤ} (c : OpCall) (h : attachmentNotes c) : plugging vmid c := by
  obtain ⟨hp,ha⟩ := notes_aside c h
  refine ⟨hp,?_⟩
  intro v hv
  cases ha.symm.trans hv

theorem settled_keeps (att : ProxmoxVolumeAttachment) (result : Result) :
    Keeps w₀ bound i l (Good w₀ bound) (settled att result) :=
  aside_keeps (uses_mono (settledAttachment_notes att result) notes_aside)

theorem holdAttachment_keeps (att : ProxmoxVolumeAttachment) (t : TenantCluster) {ns : String}
    {vmid : ℤ} : Leads w₀ bound i l (Member w₀ bound ns vmid) (holdAttachment att t)
      (fun att' j w => Member w₀ bound ns vmid j w ∧ att'.vmid = att.vmid) := by
  unfold holdAttachment
  split
  · exact triple_given_pure timed_calm (fun _ _ h => ⟨h.1,h,rfl⟩)
  · refine triple_given_call timed_calm (fun _ _ h => h.1) ?_
    intro j w r w' h ho _
    have hg := good_aside (i := i) h.1 (by simp [part]) ho (not_attach rfl)
    refine ⟨hg,?_⟩
    intro att' hatt
    obtain ⟨l₁,d,ho,rfl⟩ := ho
    have ht : (later l₁ d).tenants = w.tenants := (outcome_kept ho).tenants (by simp [part])
    refine ⟨⟨hg,?_⟩,?_⟩
    · rw [ht]
      exact h.2
    · have hans : (w.putAttachment (heldAttachment att t)
          (writtenAttachment (heldAttachment att t))).1 = .ok att' := by
        rcases outcome_record (by simp [part]) ho with ⟨_,e,_,he⟩ | ⟨_,hr | ⟨e,_,he⟩⟩
        · cases he.symm.trans (mapError_ok hatt)
        · exact hr.symm.trans (mapError_ok hatt)
        · cases he.symm.trans (mapError_ok hatt)
      obtain ⟨a₀,_,_,rfl⟩ := putAttachment_ok hans
      rfl

theorem attachFor_keeps (r : Attacher) (att : ProxmoxVolumeAttachment) (vol : ProxmoxVolume)
    (t : TenantCluster) (hi : ∀ n name, i = .attachment n name → n = att.ns) :
    Keeps w₀ bound i l (fun j w => Good w₀ bound j w ∧ tenantFor att.ns w.tenants = some t)
      (attachFor r att vol t) := by
  unfold attachFor
  split
  · exact triple_given_mono (settled_keeps _ _) (fun _ _ h => h.1) (fun _ _ _ h => h)
  · rename_i hr
    have hm : att.vmid ∈ t.resolvedVMIDs := by
      unfold attachRefusal at hr
      split at hr
      · cases hr
      · split at hr
        · cases hr
        · rename_i hm
          exact not_not.mp hm
    refine triple_given_mono (P := Member w₀ bound att.ns att.vmid) ?_ (fun _ _ h => ⟨h.1,t,h.2,hm⟩)
      (fun _ _ _ h => h)
    refine triple_bind (holdAttachment_keeps att t) ?_
    intro att'
    refine triple_given_fact ?_
    intro hv
    refine member_keeps hi ?_
    refine attachHeld_uses notes_plugging ?_ ?_ r vol ?_
    · intro region disk target
      exact ⟨by simp [part],fun v h => by cases h⟩
    · intro vol
      exact ⟨by simp [part],fun v h => by cases h⟩
    · intro region disk options
      exact ⟨by simp [part],fun v h => by cases h; exact hv⟩

theorem attach_keeps (r : Attacher) (att : ProxmoxVolumeAttachment)
    (hi : ∀ n name, i = .attachment n name → n = att.ns) :
    Keeps w₀ bound i l (Good w₀ bound) (reconcileAttach r att) := by
  unfold reconcileAttach
  split
  · exact triple_given_pure timed_calm (fun _ _ h => ⟨h,h⟩)
  · refine triple_bind (aside_keeps (uses_ask ⟨by simp [part],rfl⟩)) ?_
    intro answer
    cases answer with
    | error e => exact settled_keeps _ _
    | ok vol =>
      show Keeps w₀ bound i l (Good w₀ bound) (attachVolumeOf r att vol)
      unfold attachVolumeOf
      split
      · exact settled_keeps _ _
      · split
        · exact settled_keeps _ _
        · have htenant : Leads w₀ bound i l (Good w₀ bound) (tenant att.ns)
              (fun o j w => Good w₀ bound j w ∧ tenantFor att.ns w.tenants = o) := by
            refine triple_bind (Q := fun ts => Given (Resolved bound)
              (fun j w => Good w₀ bound j w ∧ ts = w.tenants) i l) ?_ ?_
            · refine triple_given_call timed_calm (fun _ _ h => h) ?_
              intro j w r w' h ho _
              have hg := good_aside (i := i) h (by simp [part]) ho (not_attach rfl)
              refine ⟨hg,?_⟩
              intro ts hts
              obtain ⟨l₁,d,ho,rfl⟩ := ho
              refine ⟨hg,?_⟩
              rw [read_tenants ho (mapError_ok hts)]
              exact ((outcome_kept ho).tenants (by simp [part])).symm
            · intro ts
              refine triple_given_pure timed_calm ?_
              rintro j w ⟨hg,rfl⟩
              exact ⟨hg,hg,rfl⟩
          refine triple_bind htenant ?_
          intro o
          cases o with
          | none => exact triple_given_mono (settled_keeps _ _) (fun _ _ h => h.1) (fun _ _ _ h => h)
          | some t => exact attachFor_keeps r att vol t hi

theorem attachment_keeps (r : Attacher) (ns name : String)
    (hi : ∀ n m, i = .attachment n m → n = ns) :
    Keeps w₀ bound i l (Good w₀ bound) (AttachmentReconciler.reconcile r ns name) := by
  refine triple_bind (Q := fun answer => Given (Resolved bound) (fun j w => Good w₀ bound j w ∧
    ∀ att, answer = .ok att → att.ns = ns) i l) ?_ ?_
  · refine triple_given_call timed_calm (fun _ _ h => h) ?_
    intro j w r w' h ho _
    have hg := good_aside (i := i) h (by simp [part]) ho (not_attach rfl)
    refine ⟨hg,?_⟩
    rintro answer ⟨⟩
    refine ⟨hg,?_⟩
    rintro att rfl
    obtain ⟨l₁,d,ho,_⟩ := ho
    exact (read_attachment ho rfl).2
  · intro answer
    cases answer with
    | error e =>
      exact triple_given_mono (aside_keeps (uses_unread e)) (fun _ _ h => h.1) (fun _ _ _ h => h)
    | ok att =>
      refine triple_given_mono (P := fun j w => Good w₀ bound j w ∧ att.ns = ns) ?_
        (fun j w h => ⟨h.1,h.2 att rfl⟩) (fun _ _ _ h => h)
      refine triple_given_fact ?_
      intro hn
      show Keeps w₀ bound i l (Good w₀ bound) (reconcileAttachment r att)
      unfold reconcileAttachment
      split
      · apply aside_keeps
        refine reconcileDetach_uses r att notes_aside (fun _ _ => ⟨by simp [part],rfl⟩) ?_
        exact renamedBack_uses notes_aside (fun _ _ _ => ⟨by simp [part],rfl⟩)
          (fun _ _ _ => ⟨by simp [part],rfl⟩) (fun _ => ⟨by simp [part],rfl⟩) r att
      · exact attach_keeps r att (fun n m h => (hi n m h).trans hn.symm)

end Attach

end Passes

theorem task_keeps (w₀ : Ledger) (bound : ℤ) (r : Registrar) (a : Attacher) (i : Task) (l : Log)
    (w : Ledger)
    (hw : Every (Resolved bound) l → Good w₀ bound l w) :
    Safe timed (Given (Resolved bound) (Good w₀ bound) i l) (fun _ _ _ => True) (program r a i) []
      w := by
  cases i with
  | tenant name => exact triple_task (tenant_keeps r name) hw
  | attachment ns name =>
    refine triple_task (attachment_keeps a ns name ?_) hw
    rintro n m ⟨⟩
    rfl

/-- Disks are plugged on an answer that is at most so old, in every run in which a
resolution at most so old was published for the tenant whenever a disk is plugged. What is
published of a pool is what Proxmox listed at the time of the resolution. -/
theorem attach_authorized_while_resolved (bound : ℤ) (r : Registrar) (a : Attacher) {w₀ : Ledger}
    {b : Stand Task OpCall OpReply Ledger} (h₀ : Orderly w₀)
    (hw : Work timed (program r a) ⟨[],w₀⟩ b) (hc : Every (Resolved bound) b.journal) :
    Every (Authorized bound) b.journal ∧ Every (Answered w₀) b.journal :=
  have hg := work_given (task_keeps w₀ bound r a) hw (orderly_good h₀) hc
  ⟨hg.authorized,hg.answered⟩

section Sample

def shift (k : ℤ) (l : Ledger) : Ledger := { l with clock := k }

def timeless : OpCall → Bool
  | .listTenants | .getTenant _ | .listVolumes _ | .listVMs _ | .getVolume _ _ => true
  | .getAttachment _ _ | .updateTenantStatus _ | .updateAttachmentStatus _ => true
  | .attachDisk _ _ _ _ | .lockVM _ _ | .unlockVM _ _ => true
  | _ => false

theorem answer_shift (l : Ledger) (k : ℤ) (c : OpCall) (hc : timeless c) :
    answer (shift k l) c = ((answer l c).1,shift k (answer l c).2) := by
  cases c with
  | updateTenantStatus t =>
    have hl : (shift k l).lookupTenant t.name = l.lookupTenant t.name := rfl
    simp only [answer, Ledger.putTenant, hl]
    cases l.lookupTenant t.name with
    | none => rfl
    | some u => by_cases hu : u.version = t.version <;> simp [hu, shift]
  | updateAttachmentStatus att =>
    have hl : (shift k l).lookupAttachment att.ns att.name = l.lookupAttachment att.ns att.name := rfl
    simp only [answer, Ledger.putAttachment, hl]
    cases l.lookupAttachment att.ns att.name with
    | none => rfl
    | some u => by_cases hu : u.version = att.version <;> simp [hu, shift]
  | _ => first | rfl | cases hc

def outageAnswer (l : Ledger) : (c : OpCall) → OpReply c × Ledger
  | .listVMs _ => (.error ⟨.other,"connection refused"⟩,l)
  | c => answer l c

def outage : Schedule OpCall OpReply Ledger := ⟨fun _ l => l,fun _ c l => outageAnswer l c⟩

theorem later_zero (l : Ledger) : later l 0 = l := by
  simp [later]

theorem served_timed (l : Ledger) (c : OpCall) :
    timed.outcome c l (answer l c).1 (answer l c).2 :=
  ⟨_,0,.served c l,(later_zero _).symm⟩

theorem prompt_timed : Lawful timed prompt := ⟨fun _ _ => .refl,fun _ c l => served_timed l c⟩

theorem outage_lawful : Lawful timed outage := by
  refine ⟨fun _ _ => .refl,?_⟩
  intro _ c l
  cases c with
  | listVMs region => exact ⟨_,0,.refused _ l _ rfl,(later_zero l).symm⟩
  | _ => exact served_timed l _

theorem outage_shift (k : ℤ) (l : Ledger) (c : OpCall) (hc : timeless c) :
    outageAnswer (shift k l) c = ((outageAnswer l c).1,shift k (outageAnswer l c).2) := by
  cases c with
  | listVMs region => rfl
  | _ => exact answer_shift l k _ hc

def sampleTenant (observed : Option ℤ) : TenantCluster :=
  { blueTenant with
    resolvedVMIDs := [101]
    pool := "blue-pool"
    vmidsObservedAt := observed
    version := 1
    finalizers := [TenantReconciler.tenantFinalizer] }

def sampleAttachment : ProxmoxVolumeAttachment :=
  ⟨"blue-ns","att-a",2,1,(∅ : Params).insert labelTenant "blue",
    [AttachmentReconciler.attachmentFinalizer],false,"pvc-a","r1/n1/local/vm-9999-pvc-a","n1",101,
    false,false,"","",false,0,[]⟩

def sampleLedger : Ledger :=
  { blueLedger (sampleTenant (some 0)) [provisionedVolume [volumeFinalizer]] [blueDisk "pvc-a"] with
    attachments := [sampleAttachment]
    listedVMs := [⟨"r1",101,"worker","blue-pool"⟩]
    vms := (∅ : VMConfigs.VMs).insert ("r1",101) ∅ }

def sampleAttacher : Attacher := ⟨0,false,fun _ _ => .ok ∅⟩

def sampleTasks : List Task := [.tenant "blue",.attachment "blue-ns" "att-a"]

@[irreducible] def outageRun (l : Ledger) : Stand Task OpCall OpReply Ledger :=
  turns outage (program ⟨0⟩ sampleAttacher) ⟨[],l⟩ sampleTasks

def plugsOld (x : Line) : Bool :=
  match x.task with
  | .attachment ns _ => (attachTarget x.event.call).isSome &&
      (tenantFor ns x.event.before.tenants).any (fun t => t.pool ≠ "" && t.vmidsObservedAt = some 0)
  | .tenant _ => false

theorem plugsOld_age {bound : ℤ} {x : Line} {j : Log} (h : plugsOld x)
    (ha : Authorized bound x j) : x.event.before.clock ≤ bound := by
  obtain ⟨i,e⟩ := x
  cases i with
  | tenant name => cases h
  | attachment ns name =>
    simp only [plugsOld, Bool.and_eq_true] at h
    obtain ⟨vmid,hv⟩ := Option.isSome_iff_exists.mp h.1
    obtain ⟨t,ht,_,hp⟩ := ha ns name vmid rfl hv
    have h2 := h.2
    simp only [ht, Option.any_some, Bool.and_eq_true, decide_eq_true_eq] at h2
    obtain ⟨τ,hτ,hle⟩ := hp (by simpa using h2.1)
    rw [h2.2] at hτ
    cases hτ
    simpa using hle

theorem outage_shifted (k : ℤ) : outageRun (shift k sampleLedger) =
    ⟨(outageRun sampleLedger).journal.map (mapEntry (shift k)),
      shift k (outageRun sampleLedger).world⟩ := by
  have hok : (outageRun sampleLedger).journal.all (fun x => timeless x.event.call) = true := by
    decide +kernel
  unfold outageRun at hok ⊢
  refine turns_map (p := fun c => timeless c) (fun _ _ => rfl) (fun _ c l hc => outage_shift k l c hc)
    _ ⟨[],sampleLedger⟩ _ ?_
  intro x hx
  exact List.all_eq_true.mp hok x hx

theorem sample_orderly {k : ℤ} (hk : 0 ≤ k) : Orderly (shift k sampleLedger) := by
  constructor
  · show Keyed TenantCluster.name [sampleTenant (some 0)]
    simp [Keyed]
  · intro name t τ ht hτ
    have hm : t ∈ [sampleTenant (some 0)] := (find_some ht).1
    cases List.mem_singleton.mp hm
    cases hτ
    exact hk

theorem plugsOld_shift (k : ℤ) (x : Line) : plugsOld (mapEntry (shift k) x) = plugsOld x := rfl

theorem outage_plugs (k : ℤ) : ∃ x ∈ (outageRun (shift k sampleLedger)).journal,
    plugsOld x ∧ x.event.before.clock = k := by
  have hb : (outageRun sampleLedger).journal.any plugsOld = true := by decide +kernel
  rw [outage_shifted]
  obtain ⟨x,hx,hp⟩ := List.any_eq_true.mp hb
  exact ⟨mapEntry (shift k) x,List.mem_map_of_mem hx,(plugsOld_shift k x).trans hp,rfl⟩

theorem outage_work (l : Ledger) :
    Work timed (program ⟨0⟩ sampleAttacher) ⟨[],l⟩ (outageRun l) := by
  unfold outageRun
  exact turns_work outage_lawful _ _ _

theorem plugsOld_unauthorized {bound : ℤ} {j : Log}
    (h : ∃ x ∈ j, plugsOld x ∧ bound < x.event.before.clock) : ¬Every (Authorized bound) j := by
  intro hall
  obtain ⟨x,hx,hp,hc⟩ := h
  obtain ⟨j',ha⟩ := every_mem hall hx
  exact absurd (plugsOld_age hp ha) (not_le.mpr hc)

/-- However long the VMs have not been listed, a disk is plugged by the last answer. -/
theorem no_authorization_expires : ¬∃ bound : ℤ, ∀ (r : Registrar) (a : Attacher) (l : Ledger)
    (b : Stand Task OpCall OpReply Ledger), Orderly l → Work timed (program r a) ⟨[],l⟩ b →
    Every (Authorized bound) b.journal := by
  rintro ⟨bound,h⟩
  obtain ⟨k,hk₀,hk⟩ : ∃ k : ℤ, 0 ≤ k ∧ bound < k := ⟨max 0 (bound+1),by omega,by omega⟩
  have hold : ∃ x ∈ (outageRun (shift k sampleLedger)).journal,
      plugsOld x ∧ bound < x.event.before.clock := by
    obtain ⟨x,hx,hp,hc⟩ := outage_plugs k
    exact ⟨x,hx,hp,hc ▸ hk⟩
  exact plugsOld_unauthorized hold (h ⟨0⟩ sampleAttacher (shift k sampleLedger) _
    (sample_orderly hk₀) (outage_work _))

def sampleRun : Stand Task OpCall OpReply Ledger :=
  turns prompt (program ⟨0⟩ sampleAttacher) ⟨[],sampleLedger⟩ sampleTasks

def resolvedNow (x : Line) (j : Log) : Bool :=
  match x.task with
  | .attachment ns _ => (tenantFor ns x.event.before.tenants).all (fun t =>
      (attachTarget x.event.call).isNone ||
        j.any (fun y => publication y.event = some (t.name,x.event.before.clock)))
  | .tenant _ => true

theorem resolvedNow_resolved (x : Line) (j : Log) (h : resolvedNow x j) : Resolved 0 x j := by
  obtain ⟨i,e⟩ := x
  intro ns name vmid t hi hv ht _
  cases hi
  have ht' : tenantFor ns e.before.tenants = some t := ht
  have hv' : attachTarget e.call = some vmid := hv
  simp only [resolvedNow, ht', hv', Option.all_some, Option.isNone_some, Bool.false_or] at h
  obtain ⟨y,hy,hp⟩ := List.any_eq_true.mp h
  exact ⟨e.before.clock,⟨y,hy,of_decide_eq_true hp⟩,by simp⟩

/-- The registration is resolved and the disk plugged at once. -/
theorem resolved_run_authorized :
    sampleRun.journal.any (fun x => (attachTarget x.event.call).isSome) = true ∧
    Every (Authorized 0) sampleRun.journal ∧ Every (Answered sampleLedger) sampleRun.journal := by
  obtain ⟨hsome,hc⟩ : sampleRun.journal.any (fun x => (attachTarget x.event.call).isSome) = true ∧
      tested resolvedNow sampleRun.journal = true := by decide +kernel
  have ho : Orderly sampleLedger := sample_orderly (le_refl 0)
  exact ⟨hsome,attach_authorized_while_resolved 0 ⟨0⟩ sampleAttacher ho
    (turns_work prompt_timed _ _ _) (every_tested (fun x _ => resolvedNow_resolved x) hc)⟩

end Sample

end ProxmoxCSI.AttachAuthorization
