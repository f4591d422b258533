import ProxmoxCSI.MigratorRules

/-!
# What the rewire and the others do to the volumes

The owner of the claim, the binder and the provisioner delete and recreate
claims, bind volumes and provision new ones. The calls of the rewire add a
volume, remove one, or change the reclaim policy of one.
-/

set_option autoImplicit false

namespace ProxmoxCSI.RewireEffects
open CallProgram CallProgram.Prog CallSafety CallErrors ClusterState ClusterService
open MigratorCalls RewireProgram

variable {C : Type}

/-- Objects are stored under their own names. -/
structure WellNamed (w : World C) : Prop where
  volumes : ∀ n p, w.pvs.lookup n = some p → p.name = n
  claims : ∀ k c, w.pvcs.lookup k = some c → (c.ns,c.name) = k

/-- What is left of a volume when others may only bind it. -/
structure Same (p p' : PersistentVolume) : Prop where
  csi : p'.csi = p.csi
  policy : p'.reclaimPolicy = p.reclaimPolicy
  created : p'.created = p.created
  claim : ∀ ns name, refNames p.claimRef ns name → refNames p'.claimRef ns name

theorem same_refl (p : PersistentVolume) : Same p p := ⟨rfl,rfl,rfl,fun _ _ h => h⟩

theorem same_trans {p q r : PersistentVolume} (h : Same p q) (k : Same q r) : Same p r where
  csi := k.csi.trans h.csi
  policy := k.policy.trans h.policy
  created := k.created.trans h.created
  claim := fun ns name hp => k.claim ns name (h.claim ns name hp)

theorem same_handle {p p' : PersistentVolume} (h : Same p p') :
    volumeHandleOf p' = volumeHandleOf p := by
  unfold volumeHandleOf
  rw [h.csi]

/-- Everything but the volumes may change arbitrarily; a volume stays, and new
objects are stored under their own names. -/
structure Others (w w' : World C) : Prop where
  named : WellNamed w → WellNamed w'
  kept : ∀ n p, w.pvs.lookup n = some p → ∃ p', w'.pvs.lookup n = some p' ∧ Same p p'

def Lasting (A : World C → Prop) : Prop := ∀ w w', Others w w' → A w → A w'

theorem lasting_and {A B : World C → Prop} (hA : Lasting A) (hB : Lasting B) :
    Lasting (fun w => A w ∧ B w) := fun w w' ho h => ⟨hA w w' ho h.1,hB w w' ho h.2⟩

theorem lasting_imp {c : Prop} {A : World C → Prop} (hA : Lasting A) :
    Lasting (fun w => c → A w) := fun w w' ho h hc => hA w w' ho (h hc)

def Stored (v : PersistentVolume) (w : World C) : Prop :=
  ∃ p, w.pvs.lookup v.name = some p ∧ Same v p

theorem stored_lasting (v : PersistentVolume) : Lasting (Stored (C := C) v) := by
  rintro w w' ho ⟨p,hp,hs⟩
  obtain ⟨p',hp',hs'⟩ := ho.kept _ p hp
  exact ⟨p',hp',same_trans hs hs'⟩

theorem stored_read {w : World C} (hw : WellNamed w) {n : String} {v : PersistentVolume}
    (hv : w.pvs.lookup n = some v) : v.name = n ∧ Stored v w := by
  have hn := hw.volumes n v hv
  exact ⟨hn,v,hn ▸ hv,same_refl v⟩

section Effects

variable {w w' : World C}

def Api.keepsVolumes : Api → Bool
  | .createPV _ _ | .deletePV _ _ | .patchPVAnnotations _ _ | .patchPVReclaimPolicy _ _
  | .clearClaimRef _ => false
  | _ => true

theorem serve_keepsVolumes (w : World C) {a : Api} (h : Api.keepsVolumes a) :
    (serve w a).2.pvs = w.pvs := by
  cases a <;> first
    | exact Bool.noConfusion h
    | (simp only [serve, patchVolumeName, copyDisk, convertSlot] <;>
        repeat' (first | rfl | split))

theorem outcome_keepsVolumes {a : Api} (ha : Api.keepsVolumes a) {r : Except ApiError (Answer a)}
    (h : ApiOutcome a w r w') : w'.pvs = w.pvs := by
  cases h with
  | served => exact serve_keepsVolumes w ha
  | failed => rfl
  | lost => exact serve_keepsVolumes w ha
  | truncated => rfl
  | watched => rfl

theorem named_insert {κ β : Type} [DecidableEq κ] {t : Table κ β} {f : β → κ}
    (ht : ∀ k b, t.lookup k = some b → f b = k) {k : κ} {v : β} (hv : f v = k) (m : κ) (b : β)
    (hb : (t.insert k v).lookup m = some b) : f b = m := by
  by_cases hm : m = k
  · subst hm
    rw [AList.lookup_insert] at hb
    cases hb
    exact hv
  · rw [AList.lookup_insert_ne hm] at hb
    exact ht m b hb

theorem named_erase {κ β : Type} [DecidableEq κ] {t : Table κ β} {f : β → κ}
    (ht : ∀ k b, t.lookup k = some b → f b = k) (k m : κ) (b : β)
    (hb : (t.erase k).lookup m = some b) : f b = m := by
  by_cases hm : m = k
  · rw [hm, AList.lookup_erase] at hb
    cases hb
  · rw [AList.lookup_erase_ne hm] at hb
    exact ht m b hb

theorem amend_wellNamed (hw : WellNamed w) (n : String) (f : PersistentVolume → PersistentVolume)
    (hf : ∀ p, (f p).name = p.name) : WellNamed (amend w n f).2 := by
  unfold amend
  split
  · exact hw
  · rename_i p hp
    exact ⟨named_insert hw.volumes ((hf p).trans (hw.volumes n p hp)),hw.claims⟩

theorem serve_wellNamed (hw : WellNamed w) (a : Api) : WellNamed (serve w a).2 := by
  cases a with
  | createPV v site =>
    simp only [serve]
    split
    · exact hw
    · exact ⟨named_insert hw.volumes rfl,hw.claims⟩
  | deletePV n site =>
    simp only [serve]
    split
    · exact hw
    · exact ⟨named_erase hw.volumes n,hw.claims⟩
  | patchPVAnnotations n patch => exact amend_wellNamed hw n _ (fun _ => rfl)
  | patchPVReclaimPolicy n policy => exact amend_wellNamed hw n _ (fun _ => rfl)
  | clearClaimRef n => exact amend_wellNamed hw n _ (fun _ => rfl)
  | patchPVCVolumeName ns name volumeName =>
    simp only [serve, patchVolumeName]
    split
    · exact hw
    · rename_i c hc
      split
      · exact ⟨hw.volumes,named_insert hw.claims (hw.claims (ns,name) c hc)⟩
      · exact hw
  | createPVC c =>
    simp only [serve]
    split
    · exact hw
    · exact ⟨hw.volumes,named_insert hw.claims rfl⟩
  | deletePVC ns name =>
    simp only [serve]
    split
    · exact hw
    · exact ⟨hw.volumes,named_erase hw.claims (ns,name)⟩
  | _ =>
    refine ⟨?_,?_⟩
    · rw [serve_keepsVolumes w rfl]
      exact hw.volumes
    · simp only [serve, copyDisk, convertSlot]
      repeat' (first | exact hw.claims | split)

theorem outcome_wellNamed {a : Api} {r : Except ApiError (Answer a)} (h : ApiOutcome a w r w')
    (hw : WellNamed w) : WellNamed w' := by
  cases h with
  | served => exact serve_wellNamed hw a
  | failed => exact hw
  | lost => exact serve_wellNamed hw a
  | truncated => exact ⟨hw.volumes,hw.claims⟩
  | watched => exact hw

theorem others_keepsVolumes {a : Api} (ha : Api.keepsVolumes a) {r : Except ApiError (Answer a)}
    (h : ApiOutcome a w r w') : Others w w' where
  named := outcome_wellNamed h
  kept := fun _ p hp => ⟨p,(outcome_keepsVolumes ha h) ▸ hp,same_refl p⟩

theorem createPV_serve (w : World C) (v : PersistentVolume) (site : PVCreation) :
    (w.pvs.lookup v.name = none ∧ serve w (.createPV v site) =
      (.ok (),{ w with pvs := w.pvs.insert v.name { v with created := w.time } })) ∨
    serve w (.createPV v site) = (.error .alreadyExists,w) := by
  rw [serve]
  split
  · exact .inr rfl
  · rename_i hn
    exact .inl ⟨hn,rfl⟩

theorem createPV_others {v : PersistentVolume} {site : PVCreation} {r : Except ApiError Unit}
    (h : ApiOutcome (.createPV v site) w r w') : Others w w' := by
  refine ⟨outcome_wellNamed h,?_⟩
  intro n p hp
  refine ⟨p,?_,same_refl p⟩
  rcases outcome_effect (by simp) h with rfl | rfl
  · exact hp
  · rcases createPV_serve w v site with ⟨hn,hs⟩ | hs
    · have hne : n ≠ v.name := by
        rintro rfl
        rw [hn] at hp
        cases hp
      rw [hs]
      exact (AList.lookup_insert_ne hne).trans hp
    · rw [hs]
      exact hp

theorem createPV_ok {v : PersistentVolume} {site : PVCreation}
    (h : ApiOutcome (.createPV v site) w (.ok ()) w') :
    w.pvs.lookup v.name = none ∧ w'.pvs.lookup v.name = some { v with created := w.time } := by
  have hs := outcome_ok (by simp) h
  rcases createPV_serve w v site with ⟨hn,he⟩ | he
  · rw [he] at hs
    cases hs
    exact ⟨hn,AList.lookup_insert _⟩
  · rw [he] at hs
    cases hs

theorem deletePV_rest {n : String} {site : PVDeletion} {r : Except ApiError Unit}
    (h : ApiOutcome (.deletePV n site) w r w') {m : String} (hm : m ≠ n) :
    w'.pvs.lookup m = w.pvs.lookup m := by
  rcases outcome_effect (by simp) h with rfl | rfl
  · rfl
  · rw [serve]
    split
    · rfl
    · exact AList.lookup_erase_ne hm

theorem patchPolicy_rest {n : String} {policy : ReclaimPolicy} {r : Except ApiError Unit}
    (h : ApiOutcome (.patchPVReclaimPolicy n policy) w r w') {m : String} {p : PersistentVolume}
    (hp : w.pvs.lookup m = some p) : w'.pvs.lookup m = some p ∨
      m = n ∧ w'.pvs.lookup m = some { p with reclaimPolicy := policy } := by
  rcases outcome_effect (by simp) h with rfl | rfl
  · exact .inl hp
  · simp only [serve, amend]
    split
    · exact .inl hp
    · rename_i v hv
      by_cases hm : m = n
      · subst hm
        rw [hv] at hp
        cases hp
        exact .inr ⟨rfl,AList.lookup_insert _⟩
      · exact .inl ((AList.lookup_insert_ne hm).trans hp)

theorem patchPolicy_ok {n : String} {policy : ReclaimPolicy}
    (h : ApiOutcome (.patchPVReclaimPolicy n policy) w (.ok ()) w') :
    ∃ p, w.pvs.lookup n = some p ∧ w'.pvs.lookup n = some { p with reclaimPolicy := policy } := by
  have hs := outcome_ok (by simp) h
  simp only [serve, amend] at hs
  split at hs
  · cases hs
  · rename_i v hv
    cases hs
    exact ⟨v,hv,AList.lookup_insert _⟩

end Effects

end ProxmoxCSI.RewireEffects
