import Mathlib.Data.String.Basic
import ProxmoxCSI.PassRules
import ProxmoxCSI.TenantReconciler

/-!
# The contest of registrations

Two registrations may not claim one namespace, one placeholder or one subject.
Of two that do the older one is admitted. Age is a strict total order of
registrations with different names, and a status write does not change it, so
passes in any order end with one and the same admitted set.
-/

set_option autoImplicit false

namespace ProxmoxCSI.RegistrationContest
open CallProgram CallProgram.Prog CallSafety CallErrors CallTriples CallSessions CallJournal
open CallSchedule OperatorRecords RecordWrites DiskOwners TenantReconciler PassRules
open ObjectStore (Keyed find find_some find_of_mem settle)
open VolumeLifecycle (unread)

section Order

variable {a b : TenantCluster}

theorem older_self (h : a.name = b.name) (hc : a.created = b.created) : older a b = false := by
  simp [older, h, hc]

theorem older_iff : older a b ↔
    a.created < b.created ∨ a.created = b.created ∧ a.name < b.name := by
  unfold older
  by_cases h : a.created = b.created
  · simp [h]
  · simp [h]

theorem older_total (h : a.name ≠ b.name) : older a b ∨ older b a := by
  rw [older_iff, older_iff]
  rcases lt_trichotomy a.created b.created with hc | hc | hc
  · exact .inl (.inl hc)
  · rcases lt_or_gt_of_ne h with hn | hn
    · exact .inl (.inr ⟨hc,hn⟩)
    · exact .inr (.inr ⟨hc.symm,hn⟩)
  · exact .inr (.inl hc)

end Order

section Contest

def Shares (o t : TenantCluster) : Prop :=
  o.ns = t.ns ∨ o.placeholderVMID = t.placeholderVMID ∨ o.subject = t.subject

def Unopposed (ts : List TenantCluster) (t : TenantCluster) : Prop :=
  ∀ o ∈ ts, older o t → ¬Shares o t

def admitted (t : TenantCluster) : Bool := isStatusConditionTrue t.conditions .admitted

/-- Of two that share something one is the older. -/
theorem unopposed_differ {ts : List TenantCluster} {t u : TenantCluster} (ht : t ∈ ts) (hu : u ∈ ts)
    (hn : t.name ≠ u.name) (hwt : Unopposed ts t) (hwu : Unopposed ts u) : ¬Shares t u := by
  intro hs
  rcases older_total hn with h | h
  · exact hwu t ht h hs
  · refine hwt u hu h ?_
    rcases hs with hs | hs | hs
    · exact .inl hs.symm
    · exact .inr (.inl hs.symm)
    · exact .inr (.inr hs.symm)

variable {t o : TenantCluster} {ts : List TenantCluster}

theorem claimsOf_nil : claimsOf t o = [] ↔ ¬Shares o t := by
  unfold claimsOf Shares
  by_cases hn : o.ns = t.ns
  · simp [hn]
  · by_cases hp : o.placeholderVMID = t.placeholderVMID
    · simp [hn, hp]
    · by_cases hs : o.subject = t.subject
      · simp [hn, hp, hs]
      · simp [hn, hp, hs]

theorem claimsOf_text {text : String} (h : text ∈ claimsOf t o) : text ≠ "" := by
  rintro rfl
  simp only [claimsOf, List.mem_append] at h
  rcases h with (h | h) | h
  · split at h
    · simp at h
    · cases h
  · split at h
    · simp at h
    · cases h
  · split at h
    · simp at h
    · cases h

theorem intercalate_empty {sep : String} {texts : List String} (h : ∀ x ∈ texts, x ≠ "")
    (he : String.intercalate sep texts = "") : texts = [] := by
  cases texts with
  | nil => rfl
  | cons x xs =>
    have hl := congrArg String.toList he
    rw [String.toList_intercalate] at hl
    have hx : x.toList = [] := by
      cases xs with
      | nil => simpa using hl
      | cons y ys =>
        simp only [List.map_cons, List.intercalate, List.intersperse_cons_cons, List.flatten_cons,
          String.toList_empty, List.append_eq_nil_iff] at hl
        exact hl.1
    exact absurd (String.toList_eq_nil_iff.mp hx) (h x List.mem_cons_self)

/-- The reasons of a refusal are the claims of older registrations. -/
theorem conflictAmong_empty (hc : ∀ o ∈ ts, o.name = t.name → o.created = t.created) :
    conflictAmong t ts = "" ↔ Unopposed ts t := by
  unfold conflictAmong
  constructor
  · intro h o ho hold hs
    have hne : o.name ≠ t.name := by
      intro hn
      rw [older_self hn (hc o ho hn)] at hold
      cases hold
    obtain ⟨text,htext⟩ := List.exists_mem_of_ne_nil _ (fun h => claimsOf_nil.mp h hs)
    have hmem : text ∈ ((ts.filter (fun o => ¬(o.name = t.name ∨ ¬older o t))).flatMap
        (claimsOf t)).insertionSort (fun a b => a ≤ b) := by
      rw [(List.perm_insertionSort _ _).mem_iff]
      exact List.mem_flatMap.mpr ⟨o,List.mem_filter.mpr ⟨ho,by simp [hne, hold]⟩,htext⟩
    rw [intercalate_empty ?_ h] at hmem
    · cases hmem
    · intro x hx
      rw [(List.perm_insertionSort _ _).mem_iff] at hx
      obtain ⟨o,_,hx⟩ := List.mem_flatMap.mp hx
      exact claimsOf_text hx
  · intro h
    have hnil : (ts.filter (fun o => ¬(o.name = t.name ∨ ¬older o t))).flatMap (claimsOf t) = [] := by
      rw [List.flatMap_eq_nil_iff]
      intro o ho
      obtain ⟨ho,hp⟩ := List.mem_filter.mp ho
      refine claimsOf_nil.mpr (h o ho ?_)
      by_contra hold
      simp [hold] at hp
    simp only [hnil, List.insertionSort_nil]
    rfl

end Contest

section Specs

def spec (t : TenantCluster) : TenantCluster :=
  { t with
    used := ⟨0,∅⟩, namespaceUsed := [], resolvedVMIDs := [], vmidsObservedAt := none, version := 0
    observedGeneration := 0, conditions := [] }

variable {t u : TenantCluster} {ts us : List TenantCluster}

theorem spec_field {α : Type} {f : TenantCluster → α} (hf : ∀ t, f (spec t) = f t)
    (h : spec t = spec u) : f t = f u := by
  rw [← hf t, ← hf u, h]

theorem spec_name (h : spec t = spec u) : t.name = u.name := spec_field (fun _ => rfl) h

theorem spec_created (h : spec t = spec u) : t.created = u.created := spec_field (fun _ => rfl) h

theorem spec_gone (h : spec t = spec u) : Ledger.tenantGone t = Ledger.tenantGone u :=
  spec_field (fun _ => rfl) h

theorem spec_older {v x : TenantCluster} (h : spec t = spec u) (h' : spec v = spec x) :
    older t v = older u x := by
  unfold older
  rw [spec_created h, spec_created h', spec_name h, spec_name h']

theorem spec_shares {v x : TenantCluster} (h : spec t = spec u) (h' : spec v = spec x) :
    Shares t v ↔ Shares u x := by
  have hl : Shares t v = Shares u v := spec_field (f := fun o => Shares o v) (fun _ => rfl) h
  have hr : Shares u v = Shares u x := spec_field (f := Shares u) (fun _ => rfl) h'
  rw [hl, hr]

theorem specs_mem (h : ts.map spec = us.map spec) (ht : t ∈ ts) : ∃ u ∈ us, spec u = spec t := by
  have hm : spec t ∈ us.map spec := h ▸ List.mem_map_of_mem ht
  exact List.mem_map.mp hm

theorem unopposed_specs (h : ts.map spec = us.map spec) (hs : spec t = spec u)
    (hw : Unopposed ts t) : Unopposed us u := by
  intro o ho hold
  obtain ⟨o',ho',he⟩ := specs_mem h.symm ho
  rw [← spec_shares he hs]
  exact hw o' ho' (by rw [spec_older he hs]; exact hold)

theorem unopposed_restated (hs : spec t = spec u) (hw : Unopposed ts t) : Unopposed ts u :=
  unopposed_specs rfl hs hw

theorem specs_names (h : ts.map spec = us.map spec) :
    ts.map TenantCluster.name = us.map TenantCluster.name := by
  have hm := congrArg (List.map TenantCluster.name) h
  rw [List.map_map, List.map_map] at hm
  exact hm

end Specs

def normalRun (r : Registrar) (name : String) : P Result := do
  match ← ask (.getTenant name) with
  | .error e => unread e
  | .ok t => reconcileNormal r t

def program (r : Registrar) (name : String) : Prog OpCall OpReply (Except Failure Result) :=
  (normalRun r name).run

/-- Names are different, and an object that nothing holds back any more is not there. -/
structure Register (l : Ledger) : Prop where
  keyed : Keyed TenantCluster.name l.tenants
  present : ∀ t ∈ l.tenants, Ledger.tenantGone t = false

def writesStatus : OpCall → Bool
  | .updateTenantStatus _ => true
  | _ => false

def Reconciled (name : String) (j : Log String) : Prop :=
  ∃ x ∈ j, x.task = name ∧ writesStatus x.event.call ∧ TookEffect x.event

/-- The status tells how the contest ends. -/
structure Judged (ts : List TenantCluster) (t : TenantCluster) : Prop where
  verdict : admitted t ↔ Unopposed ts t
  closed : ¬Unopposed ts t → t.resolvedVMIDs = []

section Invariant

variable {l w w' : Ledger} {j : Log String} {i : String} {t u : TenantCluster}

structure Good (l : Ledger) (j : Log String) (w : Ledger) : Prop where
  specs : w.tenants.map spec = l.tenants.map spec
  judged : ∀ t ∈ w.tenants, Reconciled t.name j → Judged w.tenants t

theorem reconciled_cons {x : Line String} {name : String}
    (hx : ¬(x.task = name ∧ writesStatus x.event.call ∧ TookEffect x.event))
    (h : Reconciled name (x::j)) : Reconciled name j := by
  obtain ⟨y,hy,hp⟩ := h
  rcases List.mem_cons.mp hy with rfl | hy
  · exact absurd hp hx
  · exact ⟨y,hy,hp⟩

theorem good_same {x : Line String} (hg : Good l j w) (ht : w'.tenants = w.tenants)
    (hx : ¬(writesStatus x.event.call ∧ TookEffect x.event)) : Good l (x::j) w' := by
  refine ⟨ht ▸ hg.specs,?_⟩
  rw [ht]
  intro t hm h
  exact hg.judged t hm (reconciled_cons (fun hp => hx hp.2) h)

theorem writesStatus_reads {c : OpCall} (h : reads c) : writesStatus c = false := by
  cases c <;> first | rfl | cases h

def frame (l : Ledger) : Frame String where
  cond _ _ := True
  Good := Good l
  good_read hc _ _ hg := good_same hg rfl (fun h => by
    rw [writesStatus_reads hc] at h
    cases h.1)

/-- A copy of the stored registration with another status. -/
structure Copies (w : Ledger) (i : String) (t : TenantCluster) : Prop where
  task : t.name = i
  stored : ∃ u, w.lookupTenant i = some u ∧ u.version = t.version ∧ spec u = spec t

theorem copies_same (h : Copies w i t) (hs : spec u = spec t) (hv : u.version = t.version) :
    Copies w i u := by
  obtain ⟨v,hl,hver,hspec⟩ := h.stored
  exact ⟨(spec_name hs).trans h.task,v,hl,hver.trans hv.symm,hspec.trans hs.symm⟩

theorem good_register (hl : Register l) (hg : Good l j w) : Register w := by
  constructor
  · rw [Keyed, specs_names hg.specs]
    exact hl.keyed
  · intro t ht
    obtain ⟨u,hu,hs⟩ := specs_mem hg.specs ht
    rw [← spec_gone hs]
    exact hl.present u hu

/-- The name in the list belongs to a registration of that age. -/
theorem copies_created (hw : Register w) (h : Copies w i t) {o : TenantCluster}
    (ho : o ∈ w.tenants) (hn : o.name = t.name) : o.created = t.created := by
  obtain ⟨u,hl,_,hs⟩ := h.stored
  have hf := find_of_mem hw.keyed ho
  rw [hn, h.task] at hf
  cases hf.symm.trans hl
  exact spec_created hs

def reported (w : Ledger) (t u : TenantCluster) : TenantCluster :=
  { reportedTenant t u with version := w.serial }

theorem spec_reported : spec (reported w t u) = spec u := rfl

theorem written_tenants (hw : Register w) (h : Copies w i t) :
    (answer w (.updateTenantStatus t)).2.tenants =
      ObjectStore.modify TenantCluster.name w.tenants t.name (reported w t) := by
  obtain ⟨u,hl,hv,_⟩ := h.stored
  rw [← h.task] at hl
  have hgone : Ledger.tenantGone (reported w t u) = false :=
    (spec_gone spec_reported).trans (hw.present u (find_some hl).1)
  have hne : ¬(u.version ≠ t.version) := fun hne => hne hv
  simp only [answer, Ledger.putTenant, hl, if_neg hne]
  show settle TenantCluster.name Ledger.tenantGone w.tenants t.name (reported w t) = _
  have hf : find TenantCluster.name w.tenants t.name = some u := hl
  simp only [settle, hf, hgone, Bool.false_eq_true, if_false]

theorem modify_specs : (ObjectStore.modify TenantCluster.name w.tenants t.name (reported w t)).map
    spec =
    w.tenants.map spec := by
  rw [ObjectStore.modify, List.map_map]
  apply List.map_congr_left
  intro u _
  by_cases h : u.name = t.name
  · simp [h, spec_reported]
  · simp [h]

theorem good_written {r : OpReply (.updateTenantStatus t)} (hl : Register l) (hg : Good l j w)
    (hc : Copies w i t) (hj : Judged w.tenants t)
    (hw' : w'.tenants = (answer w (.updateTenantStatus t)).2.tenants) :
    Good l (⟨i,⟨.updateTenantStatus t,r,w,w'⟩⟩::j) w' := by
  rw [written_tenants (good_register hl hg) hc] at hw'
  have hspecs : w'.tenants.map spec = w.tenants.map spec := by rw [hw', modify_specs]
  refine ⟨hspecs.trans hg.specs,?_⟩
  intro u hu hr
  rw [hw', ObjectStore.modify, List.mem_map] at hu
  obtain ⟨v,hv,rfl⟩ := hu
  by_cases hn : v.name = t.name
  · simp only [if_pos hn] at hr ⊢
    obtain ⟨v',hlook,_,hs⟩ := hc.stored
    have hf := find_of_mem (good_register hl hg).keyed hv
    rw [hn, hc.task] at hf
    cases hf.symm.trans hlook
    have hiff : Unopposed w'.tenants (reported w t v) ↔ Unopposed w.tenants t :=
      ⟨unopposed_specs hspecs hs,unopposed_specs hspecs.symm hs.symm⟩
    exact ⟨by rw [hiff]; exact hj.verdict,fun h => hj.closed (fun h' => h (hiff.mpr h'))⟩
  · simp only [if_neg hn] at hr ⊢
    have hold := hg.judged v hv (reconciled_cons (fun h => hn (h.1.symm.trans hc.task.symm)) hr)
    have hiff : Unopposed w'.tenants v ↔ Unopposed w.tenants v :=
      ⟨unopposed_specs hspecs rfl,unopposed_specs hspecs.symm rfl⟩
    exact ⟨by rw [hiff]; exact hold.verdict,fun h => hold.closed (fun h' => h (hiff.mpr h'))⟩

end Invariant

section Verdicts

variable {ts : List TenantCluster} {t u : TenantCluster}

theorem find_replaced (cs : List Condition) (c : Condition) (type : ConditionType)
    (h : cs.any (fun x => x.type = c.type) ∨ c.type ≠ type) :
    (cs.map (fun x => if x.type = c.type then c else x)).find? (fun x => x.type = type) =
      if c.type = type then some c else cs.find? (fun x => x.type = type) := by
  induction cs with
  | nil =>
    have hne : c.type ≠ type := h.resolve_left (by simp)
    simp [hne]
  | cons x cs ih =>
    by_cases hx : x.type = c.type
    · by_cases hc : c.type = type
      · simp [hx, hc]
      · have hxt : ¬x.type = type := fun he => hc (hx.symm.trans he)
        rw [if_neg hc] at ih ⊢
        simp only [List.map_cons, if_pos hx, List.find?_cons, hc, hxt, decide_false]
        exact ih (.inr hc)
    · have hany : cs.any (fun x => x.type = c.type) ∨ c.type ≠ type := by
        rcases h with h | h
        · simp only [List.any_cons, hx, decide_false, Bool.false_or] at h
          exact .inl h
        · exact .inr h
      simp only [List.map_cons, if_neg hx, List.find?_cons]
      by_cases hxt : x.type = type
      · have hc : ¬c.type = type := fun he => hx (hxt.trans he.symm)
        simp [hxt, hc]
      · simp only [hxt, decide_false]
        exact ih hany

theorem condition_set (cs : List Condition) (c : Condition) (type : ConditionType) :
    isStatusConditionTrue (setStatusCondition cs c) type =
      if c.type = type then c.status else isStatusConditionTrue cs type := by
  unfold isStatusConditionTrue setStatusCondition
  by_cases h : cs.any (fun x => x.type = c.type)
  · rw [if_pos h, find_replaced cs c type (.inl h)]
    by_cases hc : c.type = type
    · simp [hc]
    · simp [hc]
  · rw [if_neg h, List.find?_append]
    by_cases hc : c.type = type
    · have hn : cs.find? (fun x => x.type = type) = none := by
        simp only [List.any_eq_true, not_exists, not_and] at h
        rw [List.find?_eq_none]
        intro x hx
        simpa [hc] using h x hx
      simp [hn, hc]
    · simp [hc]

@[simp] theorem admitted_conditioned (t : TenantCluster) (type : ConditionType) (status : Bool)
    (reason : Reason) (message : String) : admitted (conditioned t type status reason message) =
      if type = .admitted then status else admitted t := condition_set _ _ _

/-- What a run writes is its copy with another status. -/
structure Restated (t u : TenantCluster) : Prop where
  spec : spec u = spec t
  version : u.version = t.version

theorem restated_readiness (t : TenantCluster) : Restated t (readiness t) := by
  unfold readiness
  split
  · exact ⟨rfl,rfl⟩
  · exact ⟨rfl,rfl⟩

theorem admitted_readiness (t : TenantCluster) : admitted (readiness t) = admitted t := by
  unfold readiness
  split
  · simp
  · simp

theorem judged_refused {text : String} (hs : spec u = spec t) (h : ¬Unopposed ts t) :
    Judged ts (refused u text) := by
  have hn : ¬Unopposed ts (refused u text) := fun hw => h (unopposed_restated hs hw)
  refine ⟨?_,fun _ => rfl⟩
  have ha : admitted (refused u text) = false := by simp [refused]
  simp [ha, hn]

theorem judged_admitted (hs : spec u = spec t) (h : Unopposed ts t) (ha : admitted u) :
    Judged ts u := by
  have hw : Unopposed ts u := unopposed_restated hs.symm h
  exact ⟨⟨fun _ => hw,fun _ => ha⟩,fun hn => absurd hw hn⟩

theorem judged_seen (h : Judged ts t) : Judged ts (seen t) := ⟨h.verdict,h.closed⟩

end Verdicts

section Runs

variable {l : Ledger} {i : String} {j : Log String} {t u : TenantCluster}

def Held (l : Ledger) (i : String) (t : TenantCluster) (j : Log String) (w : Ledger) : Prop :=
  Good l j w ∧ Copies w i t

theorem held_readable : Readable (frame l) (Held l i t) := fact_readable good_readable

def Placed (l : Ledger) (i : String) (t : TenantCluster) (j : Log String) (w : Ledger) : Prop :=
  Held l i t j w ∧ Unopposed w.tenants t

theorem placed_readable : Readable (frame l) (Placed l i t) := fact_readable held_readable

theorem updateStatus_keeps (hl : Register l) (hr : Restated t u) {Q : Log String → Ledger → Prop}
    (hQ : ∀ j w, Q j w → Held l i t j w ∧ Judged w.tenants u) :
    Keeps (frame l) i j Q (updateStatus u) := by
  refine triple_bind (Q := fun _ => Given (frame l).cond (Good l) i j) ?_
    (fun _ => keeps_pure (fun _ _ h => h))
  refine triple_given_call cluster_calm (fun j w h => (hQ j w h).1.1) ?_
  intro j w r w' hq ho _
  obtain ⟨⟨hg,hc⟩,hj⟩ := hQ j w hq
  have hcopy : Copies w i (seen u) := copies_same hc hr.spec hr.version
  suffices h : Good l (⟨i,⟨.updateTenantStatus (seen u),r,w,w'⟩⟩::j) w' from ⟨h,fun _ _ => h⟩
  by_cases he : w' = (answer w (.updateTenantStatus (seen u))).2
  · exact good_written hl hg hcopy (judged_seen hj) (by rw [← he])
  · rcases outcome_record (by simp [part]) ho with ⟨rfl,_⟩ | ⟨hw,_⟩
    · exact good_same hg rfl (fun h => he h.2)
    · exact absurd hw he

def Resolving (t : TenantCluster) : Except String TenantCluster → Prop
  | .ok u => Restated t u ∧ admitted u = admitted t
  | .error _ => True

theorem resolveVMIDs_leads {Q : Log String → Ledger → Prop} (hQ : Readable (frame l) Q) :
    Leads (frame l) i j Q (resolveVMIDs t) (fun a j w => Q j w ∧ Resolving t a) := by
  have hstamped : ∀ members, Leads (frame l) i j Q (stamped t members)
      (fun a j w => Q j w ∧ Resolving t a) := fun _ =>
    triple_bind (need_reads hQ rfl)
      (fun _ => leads_pure (fun _ _ h => ⟨hQ.good _ _ h,h,⟨rfl,rfl⟩,rfl⟩))
  unfold resolveVMIDs
  split
  · exact hstamped []
  · refine triple_bind (ask_reads hQ rfl) ?_
    intro r
    cases r with
    | error e => exact leads_pure (fun _ _ h => ⟨hQ.good _ _ h,h,trivial⟩)
    | ok vms => exact hstamped _

theorem admitTenant_keeps (hl : Register l) (r : Registrar) (ha : admitted t) :
    Keeps (frame l) i j (Placed l i t) (admitTenant r t) := by
  refine triple_bind (resolveVMIDs_leads placed_readable) ?_
  intro a
  cases a with
  | ok u =>
    refine triple_bind ?_ (fun _ => keeps_pure (fun _ _ h => h))
    apply triple_given_fact
    intro hu
    have hs : Restated t (readiness u) :=
      ⟨(restated_readiness u).spec.trans hu.1.spec,(restated_readiness u).version.trans hu.1.version⟩
    refine updateStatus_keeps hl hs (fun j w h => ⟨h.1,judged_admitted hs.spec h.2 ?_⟩)
    rw [admitted_readiness, hu.2]
    exact ha
  | error text =>
    refine triple_bind ?_ (fun _ => leads_throw (fun _ _ h => h))
    have hs : Restated t (conditioned t .ready false .proxmoxError text) := ⟨rfl,rfl⟩
    refine updateStatus_keeps hl hs ?_
    intro j w h
    exact ⟨h.1.1,judged_admitted (t := t) rfl h.1.2 (by simpa using ha)⟩

theorem conflict_leads (hl : Register l) : Leads (frame l) i j (Held l i t) (conflict t)
    (fun text j w => Held l i t j w ∧ (text = "" ↔ Unopposed w.tenants t)) := by
  refine triple_bind (Q := fun ts => Given (frame l).cond
    (fun j w => Held l i t j w ∧ ts = w.tenants) i j) (need_leads held_readable rfl ?_) ?_
  · intro w ts h
    cases h
    rfl
  · intro ts
    refine leads_pure ?_
    rintro j w ⟨h,rfl⟩
    exact ⟨h.1,h,conflictAmong_empty (fun o ho hn => copies_created (good_register hl h.1) h.2 ho hn)⟩

theorem volumes_leads {Q : Log String → Ledger → Prop} (hQ : Readable (frame l) Q) :
    Leads (frame l) i j Q (volumes t) (fun _ => Q) := by
  unfold volumes
  split
  · exact leads_pure (fun _ _ h => ⟨hQ.good _ _ h,h⟩)
  · exact need_reads hQ rfl

theorem aggregate_leads : Leads (frame l) i j (Held l i t) (aggregate t) (Held l i) :=
  triple_bind (volumes_leads held_readable) (fun _ => leads_pure (fun _ _ h =>
    ⟨h.1,h.1,copies_same h.2 rfl rfl⟩))

theorem reconcileNormal_keeps (hl : Register l) (r : Registrar) :
    Keeps (frame l) i j (Held l i t) (reconcileNormal r t) := by
  refine triple_bind aggregate_leads ?_
  intro t
  refine triple_bind (conflict_leads hl) ?_
  intro text
  show Keeps (frame l) i j _ (ite _ _ _)
  split
  · rename_i ht
    refine triple_bind ?_ (fun _ => keeps_pure (fun _ _ h => h))
    have hs : Restated t (refused t text) := ⟨rfl,rfl⟩
    refine updateStatus_keeps hl hs ?_
    intro j w h
    exact ⟨h.1,judged_refused rfl (fun hw => ht (h.2.mpr hw))⟩
  · rename_i ht
    refine leads_from (admitTenant_keeps hl r (by simp [accepted])) ?_
    intro j w h
    have hw : Unopposed w.tenants t := h.2.mp (by simpa using ht)
    exact ⟨⟨h.1.1,copies_same h.1.2 rfl rfl⟩,unopposed_restated rfl hw⟩

theorem normalRun_keeps (hl : Register l) (r : Registrar) :
    Keeps (frame l) i j (Good l) (normalRun r i) := by
  refine triple_bind (ask_finds good_readable rfl
    (P := fun t w => w.lookupTenant i = some t) ?_) ?_
  · intro w t h
    exact foundOr_ok (.inl rfl) h
  · intro res
    cases res with
    | error e => exact unread_keeps e (fun _ _ h => h.1)
    | ok t =>
      refine leads_from (reconcileNormal_keeps hl r) ?_
      intro j w h
      have hf := h.2 t rfl
      exact ⟨h.1,(find_some hf).2,t,hf,rfl,rfl⟩

theorem runs_good (hl : Register l) {r : Registrar} {b : Stand String OpCall OpReply Ledger}
    (hb : Work cluster (program r) ⟨[],l⟩ b) : Good l b.journal b.world := by
  have hc : Every (frame l).cond b.journal := every_of_forall (fun _ _ _ => trivial)
  refine work_given (G := Good l) ?_ hb ?_ hc
  · intro i j w hw
    exact triple_task (normalRun_keeps hl r) hw
  · refine ⟨rfl,?_⟩
    rintro t _ ⟨x,hx,_⟩
    cases hx

end Runs

section Outcome

def admittedNames (l : Ledger) : List String := (l.tenants.filter admitted).map TenantCluster.name

variable {l : Ledger} {r : Registrar} {b b' : Stand String OpCall OpReply Ledger}

def Complete (l : Ledger) (j : Log String) : Prop := ∀ t ∈ l.tenants, Reconciled t.name j

theorem complete_judged (hl : Register l) (hb : Work cluster (program r) ⟨[],l⟩ b)
    (hc : Complete l b.journal) {t : TenantCluster} (ht : t ∈ b.world.tenants) :
    Judged b.world.tenants t := by
  have hg := runs_good hl hb
  obtain ⟨u,hu,hs⟩ := specs_mem hg.specs ht
  exact hg.judged t ht (spec_name hs ▸ hc u hu)

theorem admitted_same {ts us : List TenantCluster} (h : ts.map spec = us.map spec)
    (hv : ∀ t ∈ ts, ∀ u ∈ us, spec t = spec u → admitted t = admitted u) :
    (ts.filter admitted).map TenantCluster.name = (us.filter admitted).map TenantCluster.name := by
  induction ts generalizing us with
  | nil =>
    cases us with
    | nil => rfl
    | cons u us => cases h
  | cons t ts ih =>
    cases us with
    | nil => cases h
    | cons u us =>
      rw [List.map_cons, List.map_cons, List.cons.injEq] at h
      have hrest := ih h.2 (fun t' ht' u' hu' =>
        hv t' (List.mem_cons_of_mem t ht') u' (List.mem_cons_of_mem u hu'))
      have ha := hv t List.mem_cons_self u List.mem_cons_self h.1
      rw [List.filter_cons, List.filter_cons, ← ha]
      split
      · rw [List.map_cons, List.map_cons, hrest, spec_name h.1]
      · exact hrest

theorem outcome_same (hl : Register l) (hb : Work cluster (program r) ⟨[],l⟩ b)
    (hc : Complete l b.journal) (hb' : Work cluster (program r) ⟨[],l⟩ b')
    (hc' : Complete l b'.journal) : admittedNames b.world = admittedNames b'.world := by
  have hs : b.world.tenants.map spec = b'.world.tenants.map spec :=
    (runs_good hl hb).specs.trans (runs_good hl hb').specs.symm
  refine admitted_same hs ?_
  intro t ht u hu he
  rw [Bool.eq_iff_iff, (complete_judged hl hb hc ht).verdict, (complete_judged hl hb' hc' hu).verdict]
  exact ⟨unopposed_specs hs he,unopposed_specs hs.symm he.symm⟩

/-- However often and in whatever order the runs are made, the registrations that no
older one opposes are admitted and the others list no VM. -/
theorem contest_settled (hl : Register l) (hb : Work cluster (program r) ⟨[],l⟩ b)
    (hc : Complete l b.journal) :
    b.world.tenants.map spec = l.tenants.map spec ∧
    (∀ t ∈ b.world.tenants, admitted t ↔ ∀ o ∈ b.world.tenants, older o t → ¬Shares o t) ∧
    (∀ t ∈ b.world.tenants, ∀ u ∈ b.world.tenants, admitted t → admitted u → t.name ≠ u.name →
      t.ns ≠ u.ns ∧ t.placeholderVMID ≠ u.placeholderVMID ∧ t.subject ≠ u.subject) ∧
    (∀ t ∈ b.world.tenants, ¬admitted t → t.resolvedVMIDs = []) ∧
    (∀ b', Work cluster (program r) ⟨[],l⟩ b' → Complete l b'.journal →
      admittedNames b'.world = admittedNames b.world) := by
  have hj : ∀ t ∈ b.world.tenants, Judged b.world.tenants t := fun t ht =>
    complete_judged hl hb hc ht
  refine ⟨(runs_good hl hb).specs,fun t ht => (hj t ht).verdict,?_,?_,?_⟩
  · intro t ht u hu hat hau hn
    have hd := unopposed_differ ht hu hn ((hj t ht).verdict.mp hat) ((hj u hu).verdict.mp hau)
    exact ⟨fun h => hd (.inl h),fun h => hd (.inr (.inl h)),fun h => hd (.inr (.inr h))⟩
  · intro t ht hna
    exact (hj t ht).closed (fun hw => hna ((hj t ht).verdict.mpr hw))
  · intro b' hb' hc'
    exact outcome_same hl hb' hc' hb hc

def sampleTenant (name ns : String) (placeholder : ℤ) (created : ℕ) : TenantCluster :=
  ⟨name,ns,"r1",placeholder,[],.enforce,["local"],none,none,[],⟨0,∅⟩,[],[7],[],"pvx:" ++ name,"","",
    [created],none,created,created,1,0,[tenantFinalizer],false⟩

def sampleLedger : Ledger :=
  ⟨[sampleTenant "green" "blue-ns" 9001 2,sampleTenant "blue" "blue-ns" 9000 1,
    sampleTenant "red" "red-ns" 9001 3],[],[],[],[],[],[],∅,4,0⟩

@[irreducible] def sampleRuns : Stand String OpCall OpReply Ledger :=
  turns prompt (program ⟨0⟩) ⟨[],sampleLedger⟩ ["green","red","blue","green"]

theorem sampleRuns_work : Work cluster (program ⟨0⟩) ⟨[],sampleLedger⟩ sampleRuns := by
  unfold sampleRuns
  exact turns_work prompt_cluster _ _ _

theorem sample_register : Register sampleLedger :=
  ⟨by simp [sampleLedger, sampleTenant, Keyed],by decide⟩

theorem sample_complete : Complete sampleLedger sampleRuns.journal := by
  have he : ∀ x ∈ sampleRuns.journal, TookEffect x.event := by
    unfold sampleRuns
    exact turns_events (fun _ _ _ => rfl) _ _ (by simp)
  have ha : sampleLedger.tenants.all (fun t => sampleRuns.journal.any (fun x =>
      x.task = t.name && writesStatus x.event.call)) := by
    unfold sampleRuns
    decide +kernel
  intro t ht
  obtain ⟨x,hx,hp⟩ := List.any_eq_true.mp (List.all_eq_true.mp ha t ht)
  obtain ⟨hn,hs⟩ := Bool.and_eq_true_iff.mp hp
  exact ⟨x,hx,of_decide_eq_true hn,hs,he x hx⟩

/-- The oldest registration is admitted alone. -/
theorem contest_settled_three : admittedNames sampleRuns.world = ["blue"] ∧
    (∀ t ∈ sampleRuns.world.tenants, ¬admitted t → t.resolvedVMIDs = []) := by
  refine ⟨?_,(contest_settled sample_register sampleRuns_work sample_complete).2.2.2.1⟩
  unfold sampleRuns
  decide +kernel

end Outcome

end ProxmoxCSI.RegistrationContest
