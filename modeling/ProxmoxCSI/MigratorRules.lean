import ProxmoxCSI.MigrateProgram
import ProxmoxCSI.CallSchedule
import ProxmoxCSI.CallTriples

/-!
# Rules for the migrator's programs

Each API call of a run has an outcome of the service; a call that only reads
leaves the cluster as it was. The schedules below serve every call except the
ones they are told to fail.
-/

set_option autoImplicit false

namespace ProxmoxCSI.MigratorRules
open CallProgram CallProgram.Prog CallSafety CallErrors CallSchedule CallTriples ClusterState
open ClusterService
open MigratorCalls RewireProgram MigrateProgram MigrationAnnotations

variable {C : Type} {env : History Call Reply (World C) → World C → World C → Prop}

section Outcomes

variable {h h' : History Call Reply (World C)} {w w' : World C}

theorem runs_ask {a : Api} {r : Except ApiError (Answer a)}
    (hr : Runs (cluster env) ⟨h,w,(ask a).run⟩ ⟨h',w',.done (.ok r)⟩) :
    ∃ w₁ w₂, Interference (cluster env) h w w₁ ∧ ApiOutcome a w₁ r w₂ ∧
      h' = ⟨.api a,r,w₁,w₂⟩::h ∧ Interference (cluster env) h' w₂ w' := by
  rcases runs_call hr with ⟨_,hp,_⟩ | ⟨w₁,r',w₂,hi,ho,hr'⟩
  · cases hp
  · obtain ⟨hh,hp,hi'⟩ := runs_done hr'
    cases hp
    cases hh
    cases ho with
    | api ho => exact ⟨w₁,w₂,hi,ho,rfl,hi'⟩

theorem runs_need_outcome {a : Api} {wrap : ApiError → GoError} {r : Except GoError (Answer a)}
    (hr : Runs (cluster env) ⟨h,w,(need a wrap).run⟩ ⟨h',w',.done r⟩) :
    ∃ x w₁ w₂, r = x.mapError wrap ∧ Interference (cluster env) h w w₁ ∧ ApiOutcome a w₁ x w₂ ∧
      h' = ⟨.api a,x,w₁,w₂⟩::h ∧ Interference (cluster env) h' w₂ w' := by
  rcases runs_call hr with ⟨_,hp,_⟩ | ⟨w₁,x,w₂,hi,ho,hr'⟩
  · cases hp
  · obtain ⟨hh,hp,hi'⟩ := runs_done hr'
    cases hh
    cases hp
    cases ho with
    | api ho => exact ⟨x,w₁,w₂,rfl,hi,ho,rfl,hi'⟩

theorem runs_need {a : Api} {wrap : ApiError → GoError} {x : Answer a}
    (hr : Runs (cluster env) ⟨h,w,(need a wrap).run⟩ ⟨h',w',.done (.ok x)⟩) :
    ∃ w₁ w₂, Interference (cluster env) h w w₁ ∧ ApiOutcome a w₁ (.ok x) w₂ ∧
      h' = ⟨.api a,.ok x,w₁,w₂⟩::h ∧ Interference (cluster env) h' w₂ w' := by
  obtain ⟨r,w₁,w₂,hx,hi,ho,hh,hi'⟩ := runs_need_outcome hr
  cases r with
  | ok y =>
    cases hx
    exact ⟨w₁,w₂,hi,ho,hh,hi'⟩
  | error e => cases hx

theorem runs_phase {p : Phase} {u : Unit}
    (hr : Runs (cluster env) ⟨h,w,(phase p).run⟩ ⟨h',w',.done (.ok u)⟩) :
    ∃ w₁ w₂, h' = ⟨.phase p,(),w₁,w₂⟩::h := by
  rcases runs_call hr with ⟨_,hp,_⟩ | ⟨w₁,_,w₂,_,_,hr'⟩
  · cases hp
  · exact ⟨w₁,w₂,(runs_done hr').1⟩

end Outcomes

section Triples

variable {I P : Assertion Call Reply (World C)} {a : Api}
  {R : Except ApiError (Answer a) → Assertion Call Reply (World C)}

theorem triple_ask (hP : Steady (cluster env) I P) (hR : ∀ r, Steady (cluster env) I (R r))
    (ho : ∀ h w r w', P h w → ApiOutcome a w r w' → R r (⟨.api a,r,w,w'⟩::h) w') :
    Triple (cluster env) I P (ask a) R := by
  refine triple_perform hP hR ?_
  intro h w r w' hp hc
  cases hc with
  | api hc => exact ho h w r w' hp hc

theorem triple_need {wrap : ApiError → GoError} (hP : Steady (cluster env) I P)
    (hR : ∀ r, Steady (cluster env) I (R r))
    (ho : ∀ h w r w', P h w → ApiOutcome a w r w' → R r (⟨.api a,r,w,w'⟩::h) w') :
    Triple (cluster env) I P (need a wrap) (fun x => R (.ok x)) := by
  refine triple_call hP hR ?_ ?_
  · intro h w r w' hp hc
    cases hc with
    | api hc => exact ho h w r w' hp hc
  · intro r x h w hg hr
    cases r with
    | ok y =>
      cases hg
      exact hr
    | error e => cases hg

theorem triple_accepting {tolerated : ApiError} {wrap : ApiError → GoError}
    {T : Assertion Call Reply (World C)} (hP : Steady (cluster env) I P)
    (hT : Steady (cluster env) I T)
    (ho : ∀ h w r w', P h w → ApiOutcome a w r w' → T (⟨.api a,r,w,w'⟩::h) w') :
    Triple (cluster env) I P (accepting a tolerated wrap) (fun _ => T) := by
  refine triple_bind (triple_ask hP (fun _ => hT) ho) ?_
  intro r
  cases r with
  | ok x => exact triple_pure hT (fun h w ht => ht)
  | error e =>
    by_cases he : e = tolerated
    · simp only [he, if_true]
      exact triple_pure hT (fun h w ht => ht)
    · simp only [he, if_false]
      exact triple_throw hT

end Triples

section Footprints

variable {ok : Call → Prop}

theorem uses_ask {a : Api} (h : ok (.api a)) : (ask a).run.Uses ok := ⟨h,fun _ => trivial⟩

theorem uses_need {a : Api} {wrap : ApiError → GoError} (h : ok (.api a)) :
    (need a wrap).run.Uses ok := ⟨h,fun _ => trivial⟩

theorem uses_accepting {a : Api} {e : ApiError} {wrap : ApiError → GoError} (h : ok (.api a)) :
    (accepting a e wrap).run.Uses ok := by
  refine uses_try_bind (uses_ask h) ?_
  intro r
  cases r with
  | ok x => trivial
  | error e' => by_cases he : e' = e <;> simp only [he, if_true, if_false] <;> trivial

theorem uses_phase {p : Phase} (h : ok (.phase p)) : (phase p).run.Uses ok :=
  uses_perform ⟨h,fun _ => trivial⟩

end Footprints

def Reads : Call → Prop
  | .api a => Api.readOnly a
  | _ => True

variable {w w' : World C}

theorem reads_outcome {c : Call} (hc : Reads c) {r : Reply c} (h : CallOutcome c w r w') :
    w' = w := by
  cases h with
  | api h => exact outcome_readOnly hc h
  | newUUID => rfl
  | now => rfl
  | phase => rfl

def solo : Service Call Reply (World C) := cluster (fun _ _ _ => False)

theorem solo_interference {h : History Call Reply (World C)} (hi : Interference solo h w w') :
    w' = w := by
  induction hi with
  | refl => rfl
  | tail _ he _ => exact he.elim

theorem solo_need {a : Api} (ha : ∀ n, a ≠ .nextEvent n) {wrap : ApiError → GoError} {x : Answer a}
    {h h' : History Call Reply (World C)}
    (hr : Runs solo ⟨h,w,(need a wrap).run⟩ ⟨h',w',.done (.ok x)⟩) : serve w a = (.ok x,w') := by
  obtain ⟨w₁,w₂,hi,ho,_,hi'⟩ := runs_need hr
  rw [solo_interference hi', ← solo_interference hi]
  exact outcome_ok ha ho

theorem solo_reads {α : Type} {c d : Config Call Reply (World C) α} (hr : Runs solo c d)
    (hu : c.prog.Uses Reads) : d.world = c.world := by
  refine (runs_uses (I := fun _ w => w = c.world) ?_ ?_ hr hu rfl).2
  · intro _ _ _ he
    exact he.elim
  · intro _ _ _ _ _ hc ho hw
    exact (reads_outcome hc ho).trans hw

def KeepsDisks : Call → Prop
  | .api a => Api.keepsDisks a
  | _ => True

theorem readOnly_keepsDisks {a : Api} (h : Api.readOnly a) : Api.keepsDisks a := by
  cases a <;> first | rfl | exact Bool.noConfusion h

theorem reads_keepsDisks {c : Call} (h : Reads c) : KeepsDisks c := by
  cases c with
  | api a => exact readOnly_keepsDisks h
  | _ => trivial

theorem solo_keepsDisks {α : Type} {c d : Config Call Reply (World C) α} (hr : Runs solo c d)
    (hu : c.prog.Uses KeepsDisks) : d.world.disks = c.world.disks := by
  refine (runs_uses (I := fun _ w => w.disks = c.world.disks) ?_ ?_ hr hu rfl).2
  · intro _ _ _ he
    exact he.elim
  · intro x _ w _ w' hx ho hw
    cases ho with
    | api ho => exact (outcome_keepsDisks hx ho).trans hw
    | _ => exact hw

theorem solo_location {α : Type} {c d : Config Call Reply (World C) α} (hr : Runs solo c d) :
    d.world.location = c.world.location := by
  refine runs_invariant (I := fun w => w.location = c.world.location) ?_ ?_ hr rfl
  · intro _ _ _ he
    exact he.elim
  · intro x w _ w' ho hw
    cases ho with
    | api ho => exact (outcome_location ho).trans hw
    | _ => exact hw

section Schedules

def faulty (fails : List ℕ) : Schedule Call Reply (World C) where
  others := fun _ w => w
  answer := fun n c w => match c with
    | .api a => if n ∈ fails then (.error (.other "unavailable"),w) else serve w a
    | .newUUID => (toString n,w)
    | .now => (w.time,w)
    | .phase _ => ((),w)

theorem faulty_lawful (fails : List ℕ) : Lawful (cluster env) (faulty fails) := by
  constructor
  · intro h w
    exact .refl
  · intro n c w
    cases c with
    | api a =>
      by_cases hn : n ∈ fails
      · simp only [faulty, hn, if_true]
        exact .api (.failed a w _ trivial)
      · simp only [faulty, hn, if_false]
        exact .api (.served a w)
    | newUUID => exact .newUUID w _
    | now => exact .now w
    | phase p => exact .phase w p

theorem solo_passes {α : Type} {P : α → World C → Bool} {p : M α} {w : World C} (fails : List ℕ)
    (hp : passes P (finish (faulty fails) p.run [] w)) :
    ∃ h w' a, Runs solo ⟨[],w,p.run⟩ ⟨h,w',.done (.ok a)⟩ ∧ P a w' :=
  passes_runs (faulty_lawful fails) hp

end Schedules

section ReadOnlyHelpers

theorem pvcResources_reads (ns name : String) : (pvcResources ns name).run.Uses Reads := by
  refine uses_try_bind (uses_need rfl) ?_
  intro pvc
  refine uses_try_bind (uses_need rfl) ?_
  intro pv
  trivial

theorem pvcPodUsage_reads (ns name : String) : (pvcPodUsage ns name).run.Uses Reads :=
  uses_try_bind (uses_need rfl) (fun _ => trivial)

theorem pvcConsumers_reads (ns name : String) : (pvcConsumers ns name).run.Uses Reads :=
  uses_try_bind (uses_need rfl) (fun _ => trivial)

theorem csiNodes_reads (driver : String) : (csiNodes driver).run.Uses Reads :=
  uses_try_bind (uses_need rfl) (fun _ => trivial)

theorem diskOnNode_reads (vol : VolumeHandle.Volume) (node : String) :
    (diskOnNode vol node).run.Uses Reads := by
  refine uses_try_bind (uses_need rfl) ?_
  intro content
  split <;> trivial

theorem waitForVolumeDetach_reads (polls : ℕ) (region : String) (vmID : ℤ) (disk : String) :
    (waitForVolumeDetach polls region vmID disk).run.Uses Reads := by
  unfold waitForVolumeDetach
  split
  · trivial
  · apply uses_rounds
    · intro _
      trivial
    intro again hagain s
    refine uses_try_bind (uses_ask rfl) ?_
    intro r
    split
    · trivial
    · trivial
    · split
      · exact hagain ()
      · trivial

theorem planFor_reads (m : Migrator) (req : Request) (pvc : PersistentVolumeClaim)
    (pv : PersistentVolume) (vol : VolumeHandle.Volume) :
    (planFor m req pvc pv vol).run.Uses Reads := by
  refine uses_try_bind uses_require ?_
  intro _
  refine uses_try_bind uses_require ?_
  intro _
  refine uses_try_bind uses_require ?_
  intro _
  refine uses_try_bind (uses_ask rfl) ?_
  intro zones
  refine uses_try_bind ?_ (fun _ => trivial)
  unfold checkZones
  split <;> trivial

theorem resolveRequest_reads (m : Migrator) (req : Request) :
    (resolveRequest m req).run.Uses Reads := by
  refine uses_try_bind (uses_relabel (pvcResources_reads _ _)) ?_
  intro found
  refine uses_try_bind uses_require ?_
  intro _
  split
  · trivial
  · exact planFor_reads m req _ _ _

theorem lookupVM_reads (vmName region reason : String) (node : KubeNode) :
    (lookupVM vmName region reason node).run.Uses Reads := by
  refine uses_try_bind uses_require ?_
  intro _
  refine uses_either (uses_ask rfl) (fun _ => uses_try_bind uses_require (fun _ => trivial))
    (fun _ => ?_)
  refine uses_try_bind (uses_need rfl) ?_
  intro vm
  exact uses_try_bind uses_require (fun _ => trivial)

theorem resolveUsage_reads (req : Request) (p : Plan) : (resolveUsage req p).run.Uses Reads := by
  refine uses_try_bind (uses_relabel (pvcPodUsage_reads _ _)) ?_
  intro used
  split
  · trivial
  · refine uses_try_bind ?_ (fun _ => trivial)
    refine uses_try_bind (uses_need rfl) ?_
    intro node
    split
    · unfold providerRegion
      split
      · trivial
      · exact uses_try_bind uses_require (fun _ => trivial)
    · exact lookupVM_reads _ _ _ _

theorem awaitPodsGone_reads {expired : List String → M Unit} (polls : ℕ) (ns name : String)
    (pods : List String) (he : ∀ ps, (expired ps).run.Uses Reads) :
    (rounds (awaitPodsGone ns name) expired polls pods).run.Uses Reads := by
  apply uses_rounds
  · exact he
  intro again hagain s
  refine uses_try_bind (uses_relabel (pvcPodUsage_reads _ _)) ?_
  intro used
  split
  · trivial
  · exact hagain _

theorem waitPodsGone_reads (polls : ℕ) (ns name : String) :
    (waitPodsGone polls ns name).run.Uses Reads :=
  awaitPodsGone_reads polls ns name [] (fun _ => trivial)

theorem verifyTarget_reads (req : Request) (p : Plan) : (verifyTarget req p).run.Uses Reads :=
  uses_try_bind (uses_relabel (diskOnNode_reads _ _)) (fun _ => uses_require)

end ReadOnlyHelpers

section Preparation

def Api.prepares : Api → Bool
  | .patchUnschedulable _ _ | .deletePod _ _ | .patchPVAnnotations _ _ => true
  | a => Api.readOnly a

def Prepares : Call → Prop
  | .api a => Api.prepares a
  | _ => True

theorem reads_prepares {c : Call} (h : Reads c) : Prepares c := by
  cases c with
  | api a => cases a <;> first | rfl | exact Bool.noConfusion h
  | _ => trivial

theorem prepares_keepsDisks {c : Call} (h : Prepares c) : KeepsDisks c := by
  cases c with
  | api a => cases a <;> first | rfl | exact Bool.noConfusion h
  | _ => trivial

theorem condonNodes_prepares (names : List String) : (condonNodes names).run.Uses Prepares := by
  induction names with
  | nil => trivial
  | cons name names ih =>
    refine uses_try_bind (uses_need rfl) ?_
    intro node
    split
    · exact ih
    · refine uses_try_bind (uses_need rfl) ?_
      intro _
      exact uses_try_bind ih (fun _ => trivial)

theorem cordon_prepares (req : Request) (u : Usage) : (cordon req u).run.Uses Prepares := by
  unfold cordon
  split
  · trivial
  · refine uses_try_bind uses_require ?_
    intro _
    refine uses_try_bind (uses_phase trivial) ?_
    intro _
    refine uses_try_bind (uses_mono (csiNodes_reads _) (fun _ => reads_prepares)) ?_
    intro nodes
    exact uses_relabel (condonNodes_prepares nodes)

theorem uncordon_prepares (nodes : List String) : (uncordon nodes).Uses Prepares := by
  unfold uncordon
  split
  · trivial
  · refine uses_bind ?_ (fun _ => trivial)
    induction nodes with
    | nil => trivial
    | cons name nodes ih =>
      refine uses_try_bind (uses_need rfl) ?_
      intro _
      by_cases hn : nodes = []
      · subst hn
        trivial
      · exact ih hn

variable {ok : Call → Prop}

theorem deletePods_uses {ns : String} (hd : ∀ pod, ok (.api (.deletePod ns pod)))
    (pods : List String) : (deletePods ns pods).run.Uses ok := by
  induction pods with
  | nil => trivial
  | cons pod pods ih => exact uses_try_bind (uses_need (hd pod)) (fun _ => ih)

theorem drain_uses (t : Patience) (req : Request) (u : Usage)
    (hd : ∀ pod, ok (.api (.deletePod req.ns pod))) (hr : ∀ c, Reads c → ok c) :
    (drain t req u).run.Uses ok := by
  unfold drain
  split
  · trivial
  · refine uses_try_bind (deletePods_uses hd _) ?_
    intro _
    exact uses_mono (waitPodsGone_reads _ _ _) hr

theorem stampMarker_uses (req : Request) (p : Plan) (hr : ∀ c, Reads c → ok c)
    (hp : ∀ patch, ok (.api (.patchPVAnnotations p.pv.name patch))) :
    (stampMarker req p).run.Uses ok := by
  refine uses_relabel (uses_try_bind (uses_need (hr _ rfl)) ?_)
  intro current
  exact uses_need (hp _)

theorem drain_prepares (t : Patience) (req : Request) (u : Usage) :
    (drain t req u).run.Uses Prepares := drain_uses t req u (fun _ => rfl) (fun _ => reads_prepares)

theorem stampMarker_prepares (req : Request) (p : Plan) :
    (stampMarker req p).run.Uses Prepares :=
  stampMarker_uses req p (fun _ => reads_prepares) (fun _ => rfl)

end Preparation

section Samples

def sampleVolume (handle : String) (policy : ReclaimPolicy) : PersistentVolume where
  name := "pv-a"
  annotations := ∅
  created := 1
  csi := some ⟨driverName,handle⟩
  storageClassName := "fast"
  capacity := 10
  accessModes := [.readWriteOnce]
  volumeMode := none
  reclaimPolicy := policy
  claimRef := some ⟨"ns","a","uid-0"⟩
  nodeAffinity := none
  phase := .bound

def sampleClaim : PersistentVolumeClaim where
  ns := "ns"
  name := "a"
  uid := "uid-0"
  annotations := ∅
  storageClassName := some "fast"
  volumeName := "pv-a"
  requests := some 10
  capacity := 10
  accessModes := [.readWriteOnce]
  volumeMode := none

def sampleMigrator : Migrator := ⟨["r"],0,false,false,∅,∅⟩

def sampleRequest : Request := ⟨"ns","a","n2","",false⟩

def samplePatience : Patience := ⟨1,1,1,1⟩

def sampleWorld (disk : String) (policy : ReclaimPolicy) : World ℕ :=
  { (World.empty : World ℕ) with
    pvcs := tableOf [(("ns","a"),sampleClaim)]
    pvs := tableOf [("pv-a",sampleVolume ("r/n1/data/" ++ disk) policy)]
    classes := [⟨"fast",driverName,∅,some .waitForFirstConsumer⟩]
    storageNodes := tableOf [(("r","data"),["n1","n2"])]
    location := fun _ node _ => if node = "n1" then 1 else 2
    disks := tableOf [((1,disk),⟨10,7,1⟩)]
    clock := 1
    serial := 1
    time := 5 }

end Samples

/-- A sequence of calls of `Migrate`, each stopped anywhere, with all their API
calls, the latest first. -/
inductive Attempts (S : Service Call Reply (World C)) (allowed : Request → Prop) :
    World C → World C → History Call Reply (World C) → Prop
  | none (w : World C) : Attempts S allowed w w []
  | next {w w₁ : World C} {es : History Call Reply (World C)} (hs : Attempts S allowed w w₁ es)
      (t : Patience) (m : Migrator) (req : Request) (hreq : allowed req)
      {d : Config Call Reply (World C) (Except GoError Unit)}
      (hr : Runs S ⟨[],w₁,(migrate t m req).run⟩ d) : Attempts S allowed w d.world (d.hist ++ es)

theorem attempts_finish {allowed : Request → Prop} {w w₁ : World C}
    {es : History Call Reply (World C)} (hs : Attempts solo allowed w w₁ es) (t : Patience)
    (m : Migrator) (req : Request) (hreq : allowed req) (fails : List ℕ) :
    Attempts solo allowed w (finish (faulty fails) (migrate t m req).run [] w₁).world
      ((finish (faulty fails) (migrate t m req).run [] w₁).hist ++ es) :=
  .next hs t m req hreq (finish_runs (faulty_lawful fails) _ _ _)

/-- What a resolved request has established. -/
structure Planned (w : World C) (m : Migrator) (req : Request) (p : Plan) : Prop where
  claim : w.pvcs.lookup (req.ns,req.pvcName) = some p.pvc
  volume : w.pvs.lookup p.pvc.volumeName = some p.pv
  driver : p.pv.csi.map CSISource.driver = some driverName
  handle : VolumeHandle.parseVolumeID (volumeHandleOf p.pv) = some p.vol
  pinned : p.vol.node ≠ ""
  moves : ¬(p.vol.node = req.targetNode ∧ targetStorageOf req p.vol = p.vol.storage)
  region : p.vol.region ∈ m.regions
  zones : ∃ zs, w.storageNodes.lookup (p.vol.region,targetStorageOf req p.vol) = some zs ∧
    req.targetNode ∈ zs
  target : p.targetVol = VolumeHandle.newVolume p.vol.region req.targetNode
    (targetStorageOf req p.vol) (targetDiskName p.vol.disk)

theorem found_ok {α : Type} {x : Option α} {a : α} (h : found x = .ok a) : x = some a := by
  cases x with
  | none => cases h
  | some b =>
    cases h
    rfl

theorem resolveRequest_planned {m : Migrator} {req : Request} {p : Plan}
    {h h' : History Call Reply (World C)}
    (hr : Runs solo ⟨h,w,(resolveRequest m req).run⟩ ⟨h',w',.done (.ok p)⟩) :
    Planned w m req p ∧ w' = w := by
  have hw : w' = w := solo_reads hr (resolveRequest_reads m req)
  obtain ⟨h₁,w₁,x,hfound,hr₁⟩ := runs_ok_bind hr
  have hw₁ : w₁ = w := solo_reads hfound (uses_relabel (pvcResources_reads _ _))
  obtain ⟨w₂,hres,_⟩ := runs_ok_relabel hfound
  obtain ⟨h₃,w₃,pvc,hpvc,hr₃⟩ := runs_ok_bind hres
  obtain ⟨h₄,w₄,pv,hpv,hr₄⟩ := runs_ok_bind hr₃
  obtain ⟨rfl,_,_⟩ := runs_ok_pure hr₄
  have hpvc' := solo_need (by simp) hpvc
  have hpv' := solo_need (by simp) hpv
  obtain ⟨hc,rfl⟩ := Prod.mk.inj hpvc'
  obtain ⟨hv,_⟩ := Prod.mk.inj hpv'
  obtain ⟨h₅,w₅,_,hdriver,hr₅⟩ := runs_ok_bind hr₁
  obtain ⟨hd,rfl,hi₅⟩ := runs_ok_require hdriver
  have hw₅ := solo_interference hi₅
  subst hw₅ hw₁
  split at hr₅
  · exact runs_ok_throw hr₅
  · rename_i vol hvol
    obtain ⟨_,_,_,hlocal,hr₆⟩ := runs_ok_bind hr₅
    obtain ⟨_,_,_,hmoves,hr₇⟩ := runs_ok_bind hr₆
    obtain ⟨_,_,_,hregion,hr₈⟩ := runs_ok_bind hr₇
    obtain ⟨_,_,zones,hask,hr₉⟩ := runs_ok_bind hr₈
    obtain ⟨_,_,_,hzones,hr₁₀⟩ := runs_ok_bind hr₉
    obtain ⟨rfl,_,_⟩ := runs_ok_pure hr₁₀
    obtain ⟨hl,_,hi₁⟩ := runs_ok_require hlocal
    obtain ⟨hm,_,hi₂⟩ := runs_ok_require hmoves
    obtain ⟨hreg,_,hi₃⟩ := runs_ok_require hregion
    obtain ⟨a,b,hi,ho,_,_⟩ := runs_ask hask
    have ha : a = w₅ := by
      rw [solo_interference hi, solo_interference hi₃, solo_interference hi₂, solo_interference hi₁]
    subst ha
    unfold checkZones at hzones
    split at hzones
    · exact runs_ok_throw hzones
    · exact runs_ok_throw hzones
    · have hz := found_ok (Prod.mk.inj (outcome_ok (by simp) ho)).1
      exact ⟨⟨found_ok hc,found_ok hv,hd,hvol,hl,hm,hreg,⟨_,hz,(runs_ok_require hzones).1⟩,rfl⟩,hw⟩

end ProxmoxCSI.MigratorRules
