import Mathlib.Logic.Relation
import ProxmoxCSI.BindGate
import ProxmoxCSI.DirectVolumes
import ProxmoxCSI.LiveModification
import ProxmoxCSI.RemoteSnapshots
import ProxmoxCSI.RenamedDisks
import ProxmoxCSI.SeparatedTexts

/-!
# The class of the claim

A publish takes the options of the class that the claim of the volume names. It
finds the claim by the name of the persistent volume in the disk name. A
migration gives the volume a new name and leaves the old one in the disk name.
-/

set_option autoImplicit false

namespace ProxmoxCSI.ClaimClasses
open TextScan VolumeHandle DiskNames HandleCodec SeparatedTexts ClusterState DriveOptions
open VolumeContexts
open RewireProgram MigrateProgram RemoteSnapshots
open OperatorRecords (Params valueOf)
open MigratorCalls (driverName)

section Lookup

/-- The volumes, the class every claim names, and the classes with their drivers. -/
structure Kube where
  pvs : List PersistentVolume
  claims : String → String → Option (Option String)
  classes : String → Option (String × Params)

def getPV (k : Kube) (name : String) : Option PersistentVolume :=
    k.pvs.find? (fun pv => pv.name = name)

def boundClaim (k : Kube) (pv : PersistentVolume) : Option (String × String) :=
  if pv.csi.map CSISource.driver = some driverName then
    match pv.claimRef with
    | none => none
    | some r => if r.ns = "" ∨ r.name = "" ∨ k.claims r.ns r.name = none then none
        else some (r.ns,r.name)
  else none

def claimForVolume (k : Kube) (vol : Volume) : Option (String × String) :=
  if pvName vol = "" then none else (getPV k (pvName vol)).bind (boundClaim k)

def volumeAttributesClassParameters (k : Kube) (name : String) : Option Params :=
  match k.classes name with
  | none => none
  | some (driver,parameters) => if driver = driverName then some parameters else none

def effectiveParameters (k : Kube) (claim : Option (String × String)) : Option Params :=
  match claim.bind (fun c => (k.claims c.1 c.2).join) with
  | none => none
  | some name => if name = "" then none else volumeAttributesClassParameters k name

def claimByHandle (k : Kube) (handle : String) : Option (String × String) :=
  (k.pvs.find? (fun pv => pv.csi.map CSISource.volumeHandle = some handle)).bind (boundClaim k)

def Includes (k : Kube) (handle : String) (passed : Except String Params) : Prop :=
  ∀ m vac o, effectiveParameters k (claimByHandle k handle) = some m →
    extractModifyVolumeParameters m = .ok vac → passed = .ok o →
    ∀ key val, vac.toCFG.lookup key = some val → o.lookup key = some val

def passed (k : Kube) (unsafeMount : Bool) (context : Params) (readonly : Bool) (vol : Volume) :
    Except String Params :=
  publishOptions unsafeMount context (effectiveParameters k (claimForVolume k vol)) readonly

end Lookup

section Options

theorem mergeMap_own {vac : ModifyVolumeParameters} {key val : String} (orig : Params)
    (h : vac.toCFG.lookup key = some val) : (vac.mergeMap orig).lookup key = some val := by
  have hv : valueOf vac.toCFG key ≠ "" := by
    rw [valueOf, h]
    exact LiveModification.class_nonempty vac h
  rw [mergeMap_lookup, if_pos hv, h]

theorem publishOptions_own {context m : Params} {unsafeMount readonly : Bool}
    {vac : ModifyVolumeParameters} {o : Params} {key val : String}
    (hm : extractModifyVolumeParameters m = .ok vac)
    (ho : publishOptions unsafeMount context (some m) readonly = .ok o)
      (h : vac.toCFG.lookup key = some val) :
    o.lookup key = some val := by
  unfold publishOptions at ho
  cases hp : extractParameters context with
  | error e => simp [hp, bind, Except.bind] at ho
  | ok p =>
    simp only [hp, bind, Except.bind, pure, Except.pure, withClass, hm, Except.ok.injEq] at ho
    subst ho
    exact mergeMap_own _ h

end Options

section Names

variable {v v' : Volume}

theorem firstPiece_extended (q e e' : List Char) :
    firstPiece (String.ofList (q ++ '.' :: e)) '.' = firstPiece (String.ofList (q ++ '.' :: e'))
      '.' := by
  unfold firstPiece cut
  rw [String.toList_ofList, String.toList_ofList, cutList_extend, cutList_extend]
  cases cutList '.' q with
  | none => simp [cutList]
  | some p => simp

theorem pvName_extension {b e e' : List Char} (h : v.disk.toList = b ++ '.' :: e)
    (h' : v'.disk.toList = b ++ '.' :: e') (he : '-' ∉ e) (he' : '-' ∉ e') : pvName v = pvName v' := by
  have hn : ∀ r : List Char, '-' ∉ r → cutList '-' ('.' :: r) = none := by
    intro r hr
    exact (cutList_eq_none _ _).mpr (by simpa using hr)
  unfold pvName splitN
  rw [h, h']
  simp only [splitList, cutList_extend, hn e he, hn e' he']
  cases cutList '-' b with
  | none => simp
  | some p =>
    simp only [cutList_extend, hn e he, hn e' he']
    cases cutList '-' p.2 with
    | none => simp
    | some q => exact firstPiece_extended q.2 e e'

theorem pvName_targetDiskName (h : v'.disk = targetDiskName v.disk) : pvName v' = pvName v := by
  unfold targetDiskName at h
  split at h
  · rename_i hs
    exact pvName_extension (by rw [h, String.toList_append]; rfl) (hasSuffix_split hs) (by decide)
      (by decide)
  · split at h
    · rename_i hs
      exact pvName_extension (by rw [h, String.toList_append]; rfl) (hasSuffix_split hs) (by decide)
        (by decide)
    · unfold pvName
      rw [h]

end Names

section History

/-- A volume of the driver, and whether a migration made it. -/
structure Tracked where
  pv : PersistentVolume
  moved : Bool

/-- The volumes there are and the names that were ever given. -/
structure Account where
  entries : List Tracked
  used : List String

def SlashFree (s : String) : Prop := '/' ∉ s.toList

instance (s : String) : Decidable (SlashFree s) := inferInstanceAs (Decidable (¬_))

/-- Names of new volumes are fresh. Modifying, publishing and unpublishing write no volume. -/
inductive Step : Account → Account → Prop
  | create {s : Account} {id : ℤ} {region zone storage name format handle : String}
      {pv : PersistentVolume} (hid : Numbered id) (hname : name ≠ "") (hdot : '.' ∉ name.toList)
      (hfresh : name ∉ s.used) (hr : SlashFree region) (hz : SlashFree zone) (hs : SlashFree storage)
      (hh : handle = (newVolumeFormat region zone storage (diskOf id name) format).volumeID ∨
        handle = volumeSharedID (newVolumeFormat region zone storage (diskOf id name) format))
      (hpv : pv.name = name) (hcsi : pv.csi = some ⟨driverName,handle⟩) :
      Step s ⟨⟨pv,false⟩ :: s.entries,name :: s.used⟩
  | served {s : Account} : Step s s
  | migrate {s : Account} {e : Tracked} {vol : Volume} {name node storage : String}
      {pv : PersistentVolume} (he : e ∈ s.entries) (hfresh : name ∉ s.used)
      (hvol : parseVolumeID (volumeHandleOf e.pv) = some vol)
      (hn : SlashFree node) (hs : SlashFree storage) (hpv : pv.name = name)
      (hcsi : pv.csi = some ⟨driverName,
        (newVolume vol.region node storage (targetDiskName vol.disk)).volumeID⟩) :
      Step s ⟨⟨pv,true⟩ :: s.entries.filter (fun x => x.pv.name ≠ e.pv.name),name :: s.used⟩

def origin (e : Tracked) : String := ((parseVolumeID (volumeHandleOf e.pv)).map pvName).getD ""

structure Known (s : Account) (e : Tracked) : Prop where
  driver : ∃ handle, e.pv.csi = some ⟨driverName,handle⟩
  parses : ∃ v, parseVolumeID (volumeHandleOf e.pv) = some v
  filled : origin e ≠ ""
  origin_used : origin e ∈ s.used
  name_used : e.pv.name ∈ s.used
  unmoved : e.moved = false → e.pv.name = origin e

structure Tidy (s : Account) : Prop where
  known : ∀ e ∈ s.entries, Known s e
  names : (s.entries.map (fun e => e.pv.name)).Nodup
  origins : (s.entries.map origin).Nodup
  gone : ∀ e ∈ s.entries, e.moved = true → ∀ x ∈ s.entries, x.pv.name ≠ origin e

theorem known_grows {s : Account} {e : Tracked} {es : List Tracked} {name : String} (h : Known s e) :
    Known ⟨es,name :: s.used⟩ e :=
  { h with
    origin_used := List.mem_cons_of_mem name h.origin_used
    name_used := List.mem_cons_of_mem name h.name_used }

section Steps

variable {s s' : Account} {e : Tracked}

theorem tidy_empty : Tidy ⟨[],[]⟩ := ⟨by simp,by simp,by simp,by simp⟩

theorem tidy_cons {es : List Tracked} {name : String} (h : Tidy s) (hsub : es.Sublist s.entries)
    (hname : e.pv.name = name) (hfresh : name ∉ s.used) (hk : Known ⟨e :: es,name :: s.used⟩ e)
    (horigin : ∀ x ∈ es, origin x ≠ origin e)
    (hgone : e.moved = true → ∀ x ∈ e :: es, x.pv.name ≠ origin e) :
    Tidy ⟨e :: es,name :: s.used⟩ := by
  have hold : ∀ x ∈ es, Known s x := fun x hx => h.known x (hsub.subset hx)
  refine ⟨?_,?_,?_,?_⟩
  · intro x hx
    rcases List.mem_cons.mp hx with rfl | hx
    · exact hk
    · exact known_grows (hold x hx)
  · rw [List.map_cons, List.nodup_cons]
    refine ⟨fun hm => ?_,h.names.sublist (hsub.map _)⟩
    obtain ⟨x,hx,hxe⟩ := List.mem_map.mp hm
    exact hfresh (hname ▸ hxe ▸ (hold x hx).name_used)
  · rw [List.map_cons, List.nodup_cons]
    refine ⟨fun hm => ?_,h.origins.sublist (hsub.map _)⟩
    obtain ⟨x,hx,hxe⟩ := List.mem_map.mp hm
    exact horigin x hx hxe
  · intro x hx hm y hy
    rcases List.mem_cons.mp hx with rfl | hx'
    · exact hgone hm y hy
    · rcases List.mem_cons.mp hy with rfl | hy'
      · intro he
        exact hfresh (hname ▸ he ▸ (hold x hx').origin_used)
      · exact h.gone x (hsub.subset hx') hm y (hsub.subset hy')

theorem origin_of_parse {e : Tracked} {v : Volume} (h : parseVolumeID (volumeHandleOf e.pv) = some v) :
    origin e = pvName v := by
  rw [origin, h]
  rfl

theorem handle_csi {pv : PersistentVolume} {c : CSISource} (h : pv.csi = some c) :
    volumeHandleOf pv = c.volumeHandle := by
  rw [volumeHandleOf, h]

/-- The handle of a created volume carries the name it was asked for with. -/
theorem created_name {id : ℤ} {region zone storage name format handle : String} (hid : Numbered id)
    (hdot : '.' ∉ name.toList) (hr : SlashFree region) (hz : SlashFree zone) (hs : SlashFree storage)
    (hh : handle = (newVolumeFormat region zone storage (diskOf id name) format).volumeID ∨
      handle = volumeSharedID (newVolumeFormat region zone storage (diskOf id name) format)) :
    ∃ v, parseVolumeID handle = some v ∧ pvName v = name := by
  have hn : pvName (newVolumeFormat region zone storage (diskOf id name) format) = name := by
    rw [pvName_newVolumeFormat hid, firstPiece_extension hdot]
  rcases hh with rfl | rfl
  · exact ⟨_,parse_volumeID format _ hr hz hs,hn⟩
  · exact ⟨_,parse_volumeSharedID _ hr hs,hn⟩

theorem tidy_created {pv : PersistentVolume} {name handle : String} {v : Volume} (h : Tidy s)
    (hname : name ≠ "") (hfresh : name ∉ s.used) (hv : parseVolumeID handle = some v)
    (hn : pvName v = name) (hpv : pv.name = name) (hcsi : pv.csi = some ⟨driverName,handle⟩) :
    Tidy ⟨⟨pv,false⟩ :: s.entries,name :: s.used⟩ := by
  have hvol : parseVolumeID (volumeHandleOf pv) = some v := by
    rw [handle_csi hcsi]
    exact hv
  have ho : origin ⟨pv,false⟩ = name := (origin_of_parse (e := ⟨pv,false⟩) hvol).trans hn
  refine tidy_cons h (List.Sublist.refl _) hpv hfresh ?_ ?_ (fun hm => Bool.noConfusion hm)
  · refine ⟨⟨handle,hcsi⟩,⟨v,hvol⟩,ho ▸ hname,?_,?_,fun _ => hpv.trans ho.symm⟩
    · rw [ho]
      exact List.mem_cons_self
    · show pv.name ∈ _
      rw [hpv]
      exact List.mem_cons_self
  · intro x hx he
    exact hfresh (ho ▸ he ▸ (h.known x hx).origin_used)

/-- The volume that takes the place of a migrated one keeps its origin. -/
theorem tidy_migrated {pv : PersistentVolume} {name handle : String} {v : Volume} (h : Tidy s)
    (he : e ∈ s.entries) (hfresh : name ∉ s.used) (hv : parseVolumeID handle = some v)
    (hn : pvName v = origin e) (hpv : pv.name = name) (hcsi : pv.csi = some ⟨driverName,handle⟩) :
    Tidy ⟨⟨pv,true⟩ :: s.entries.filter (fun x => x.pv.name ≠ e.pv.name),name :: s.used⟩ := by
  have hvol : parseVolumeID (volumeHandleOf pv) = some v := by
    rw [handle_csi hcsi]
    exact hv
  have ho : origin ⟨pv,true⟩ = origin e := (origin_of_parse (e := ⟨pv,true⟩) hvol).trans hn
  have hk := h.known e he
  have hleft : ∀ x ∈ s.entries.filter (fun x => x.pv.name ≠ e.pv.name),
      x ∈ s.entries ∧ x.pv.name ≠ e.pv.name := by
    intro x hx
    obtain ⟨hx,hne⟩ := List.mem_filter.mp hx
    exact ⟨hx,of_decide_eq_true hne⟩
  refine tidy_cons h List.filter_sublist hpv hfresh ?_ ?_ ?_
  · refine ⟨⟨handle,hcsi⟩,⟨v,hvol⟩,ho ▸ hk.filled,?_,?_,fun hm => Bool.noConfusion hm⟩
    · rw [ho]
      exact List.mem_cons_of_mem _ hk.origin_used
    · show pv.name ∈ _
      rw [hpv]
      exact List.mem_cons_self
  · intro x hx hxe
    obtain ⟨hx,hne⟩ := hleft x hx
    exact hne (congrArg (fun e : Tracked => e.pv.name)
      (List.inj_on_of_nodup_map h.origins hx he (hxe.trans ho)))
  · intro _ x hx
    rw [ho]
    rcases List.mem_cons.mp hx with rfl | hx'
    · show pv.name ≠ _
      intro hxe
      exact hfresh (hpv ▸ hxe ▸ hk.origin_used)
    · obtain ⟨hx',hne⟩ := hleft x hx'
      cases hm : e.moved with
      | false => exact hk.unmoved hm ▸ hne
      | true => exact h.gone e he hm x hx'

theorem tidy_step (h : Tidy s) (hs : Step s s') : Tidy s' := by
  cases hs with
  | served => exact h
  | create hid hname hdot hfresh hr hz hst hh hpv hcsi =>
    obtain ⟨v,hv,hn⟩ := created_name hid hdot hr hz hst hh
    exact tidy_created h hname hfresh hv hn hpv hcsi
  | @migrate e vol name node storage pv he hfresh hvol hn hst hpv hcsi =>
    obtain ⟨_,hreg,_,_⟩ := parseVolumeID_some hvol
    have hparse : parseVolumeID (newVolume vol.region node storage
      (targetDiskName vol.disk)).volumeID =
        some (newVolume vol.region node storage (targetDiskName vol.disk)) :=
      parseVolumeID_volumeID _ rfl hreg hn hst
    have ho : pvName (newVolume vol.region node storage (targetDiskName vol.disk)) = origin e := by
      rw [origin_of_parse hvol]
      exact pvName_targetDiskName rfl
    exact tidy_migrated h he hfresh hparse ho hpv hcsi

theorem tidy_reached (h : Relation.ReflTransGen Step ⟨[],[]⟩ s) : Tidy s := by
  induction h with
  | refl => exact tidy_empty
  | tail _ hs ih => exact tidy_step ih hs

end Steps

section Create
open CallProgram CallProgram.Prog CallSafety CallErrors DirectCalls DirectVolumes

/-- The disk that was asked for, under the name Proxmox gave it. -/
def Asked (req : CreateVolumeRequest) (id : ℤ) (zone storage format : String) (v : Volume) : Prop :=
  v = { newVolumeFormat req.region zone storage (diskOf id req.name) format with disk := v.disk }

theorem planVolume_asks (d : Controller) (req : CreateVolumeRequest) : (planVolume d req).run.Returns
    (IfOk (fun p => ∃ id zone storage format, Asked req id zone storage format p.vol)) := by
  refine returns_try_bind returns_any (fun _ _ => ?_)
  refine returns_try_bind returns_any (fun _ _ => ?_)
  split
  · trivial
  · trivial
  · refine returns_try_bind returns_any (fun _ _ => ?_)
    refine returns_try_bind returns_any (fun _ _ => ?_)
    refine returns_try_bind returns_any (fun _ _ => ?_)
    refine returns_try_bind returns_any (fun _ _ => ?_)
    refine returns_try_bind returns_any (fun _ _ => ?_)
    refine returns_try_bind returns_any (fun zone _ => ?_)
    refine returns_try_bind returns_any (fun r _ => ?_)
    refine returns_try_bind returns_any (fun _ _ => ?_)
    refine returns_try_bind returns_any (fun id _ => ?_)
    exact ⟨id,zone,_,_,rfl⟩

section Asked

variable {d : Controller} {req : CreateVolumeRequest} {id : ℤ} {zone storage format : String}

theorem createDisk_asked {vol : Volume} (hv : Asked req id zone storage format vol) (size : ℤ) :
    (createDisk vol size).run.Returns (IfOk (Asked req id zone storage format)) := by
  refine returns_try_bind returns_any (fun _ _ => ?_)
  split
  · trivial
  · refine returns_try_bind returns_any (fun volid _ => ?_)
    cases cut volid ':' with
    | some x =>
      show Asked _ _ _ _ _ { vol with disk := _ }
      rw [hv]
      rfl
    | none => exact hv

theorem ensureDisk_asked {p : VolumePlan} (hp : Asked req id zone storage format p.vol) :
    (ensureDisk d p).run.Returns (IfOk (fun a => Asked req id zone storage format a.2)) := by
  have hmake : (makeDisk d p).run.Returns (IfOk (Asked req id zone storage format)) := by
    unfold makeDisk
    split
    · exact returns_try_bind returns_any (fun _ _ => hp)
    · exact returns_relabel (createDisk_asked hp _)
  refine returns_try_bind returns_any (fun r _ => ?_)
  cases r with
  | ok size => exact hp
  | error e =>
    show Returns _ (ite _ _ _ : D _).run
    split
    · trivial
    · exact returns_try_bind hmake (fun vol hv => returns_try_bind returns_any (fun size _ => hv))

end Asked

theorem createVolume_answers (d : Controller) (req : CreateVolumeRequest) :
    (createVolume d req).run.Returns (IfOk (fun res => ∃ id zone storage format,
      Asked req id zone storage format res.disk ∧
      (res.volumeID = res.disk.volumeID ∨ res.volumeID = volumeSharedID res.disk))) := by
  refine returns_try_bind (planVolume_asks d req) ?_
  rintro p ⟨id,zone,storage,format,hp⟩
  refine returns_try_bind (ensureDisk_asked hp) ?_
  rintro ⟨size,vol⟩ hv
  refine returns_try_bind returns_any (fun _ _ => returns_try_bind returns_any (fun _ _ => ?_))
  refine ⟨id,zone,storage,format,hv,?_⟩
  show ite _ _ _ = _ ∨ ite _ _ _ = _
  split
  · exact .inr rfl
  · exact .inl rfl

/-- A volume that was created and bound under the name asked for is a step, if Proxmox has kept
the name of the disk. -/
theorem create_step {C : Type} {env : History DirectCall DirectReply (Site C) → Site C → Site C → Prop}
    {d : Controller} {req : CreateVolumeRequest} {res : CreatedVolume} {w w' : Site C}
    {h : History DirectCall DirectReply (Site C)}
    (hr : Runs (site env) ⟨[],w,(createVolume d req).run⟩ ⟨h,w',.done (.ok res)⟩) :
    ∃ id zone storage format, ∀ {s : Account} {pv : PersistentVolume}, Numbered id →
      res.disk.disk = (newVolumeFormat req.region zone storage (diskOf id req.name) format).disk →
      SlashFree req.region → SlashFree zone → SlashFree storage → '.' ∉ req.name.toList →
      req.name ∉ s.used → pv.name = req.name → pv.csi = some ⟨driverName,res.volumeID⟩ →
      Step s ⟨⟨pv,false⟩ :: s.entries,req.name :: s.used⟩ := by
  obtain ⟨_,_,p,hplan,_⟩ := runs_ok_bind hr
  obtain ⟨_,_,_,hname,_⟩ := runs_ok_bind hplan
  obtain ⟨id,zone,storage,format,hdisk,hid⟩ := runs_returns hr (createVolume_answers d req)
  refine ⟨id,zone,storage,format,?_⟩
  intro s pv hn hkept hr hz hs hdot hfresh hpv hcsi
  have hvol : res.disk = newVolumeFormat req.region zone storage (diskOf id req.name) format := by
    rw [hdisk, hkept]
  rw [hvol] at hid
  exact .create hn (runs_ok_require hname).1 hdot hfresh hr hz hs hid hpv hcsi

end Create

section Migrate
open CallProgram CallProgram.Prog CallErrors ClusterService RewireEffects RewireGuard
open MigrateFootprint
open MigratorRules (uncordon_prepares uses_need)
open BindGate (reachRewire_resolved replacePVTopology_rewired)

variable {C : Type} {env : Hist C → World C → World C → Prop} {w w' : World C} {h h' : Hist C}
  {t : Patience} {m : Migrator} {req : Request} {p : Plan}

theorem runs_wellNamed {α : Type} (henv : ∀ h w w', env h w w' → Others w w')
    {c d : Config Call Reply (World C) α} (hr : Runs (cluster env) c d) (hc : WellNamed c.world) :
    WellNamed d.world := by
  refine runs_invariant (fun h w w' he => (henv h w w' he).named) ?_ hr hc
  intro c w r w' ho hw
  cases ho with
  | api ho => exact outcome_wellNamed ho hw
  | _ => exact hw

theorem runs_made {α : Type} {c : Call} {next : Reply c → Act α} {a : α}
    (hr : Runs (cluster env) ⟨h,w,.call c next⟩ ⟨h',w',.done a⟩) : ∃ x ∈ h', x.call = c := by
  rcases runs_call hr with ⟨_,hp,_⟩ | ⟨_,_,_,_,_,hr⟩
  · cases hp
  · exact ⟨_,(runs_hist hr).subset List.mem_cons_self,rfl⟩

theorem replacePVTopology_retires {u : Unit}
    (hr : Runs (cluster env) ⟨h,w,(replacePVTopology t req.ns p.pvc p.pv p.targetVol).run⟩
      ⟨h',w',.done (.ok u)⟩) : ∃ x ∈ h', x.call = .api (.deletePV p.pv.name .oldPV) := by
  obtain ⟨_,_,_,_,hr⟩ := runs_ok_bind hr
  obtain ⟨_,_,_,_,hr⟩ := runs_ok_bind hr
  obtain ⟨_,_,_,_,hr⟩ := runs_ok_bind hr
  obtain ⟨_,_,_,hretire,hr⟩ := runs_ok_bind hr
  obtain ⟨_,_,_,_,hretire⟩ := runs_ok_bind hretire
  obtain ⟨_,_,_,hdelete,hwait⟩ := runs_ok_bind hretire
  obtain ⟨x,hx,hc⟩ := runs_made hdelete
  exact ⟨x,(runs_hist hr).subset ((runs_hist hwait).subset hx),hc⟩

/-- A completed migration is a step from the volume it deleted to one with the handle of the
target, if the driver of that one is its own. -/
theorem migrate_step (henv : ∀ h w w', env h w w' → Others w w') (hw : WellNamed w)
    (hn : SlashFree req.targetNode) (hs : SlashFree req.targetStorage)
    (hr : Runs (cluster env) ⟨[],w,(migrate t m req).run⟩ ⟨h,w',.done (.ok ())⟩) :
    ∃ old name pv, (∃ x ∈ h, x.call = .api (.deletePV old.name .oldPV)) ∧
      w'.pvs.lookup name = some pv ∧ refNames pv.claimRef req.ns req.pvcName ∧
      ∀ {s : Account} {e : Tracked}, e ∈ s.entries → e.pv.name = old.name →
        volumeHandleOf e.pv = volumeHandleOf old → name ∉ s.used →
        pv.csi.map CSISource.driver = some driverName →
        Step s ⟨⟨pv,true⟩ :: s.entries.filter (fun x => x.pv.name ≠ e.pv.name),name :: s.used⟩ := by
  have hwell : WellNamed w' := runs_wellNamed henv hr hw
  obtain ⟨h₁,w₁,a,hreach,hr⟩ := runs_ok_bind hr
  obtain ⟨hw₁,hp,_⟩ := reachRewire_resolved henv hw hreach
  obtain ⟨h₂,w₂,hrewire,hclean⟩ := runs_ok_deferred hr
  obtain ⟨h₃,w₃,_,hreplace,hreclaim⟩ := runs_ok_bind hrewire
  obtain ⟨w₄,hreplace,hi⟩ := runs_ok_relabel hreplace
  obtain ⟨hs₀,name,_,hrewired⟩ := replacePVTopology_rewired henv hw₁ hp hn hs hreplace
  obtain ⟨x,hx,hretired⟩ := replacePVTopology_retires hreplace
  have hkept : ∀ {A : World C → Prop}, Lasting A → A w₄ → A w' := by
    intro A hA ha
    have h₃ : A w₃ := runs_lasting henv hA (interference_runs (.done ()) hi) trivial ha
    have h₂ : A w₂ := reclaim_lasting henv hA hreclaim h₃
    exact runs_lasting henv hA hclean (uses_mono (uncordon_prepares _)
      (fun _ => prepares_approaches)) h₂
  obtain ⟨pv,hpv,hhandle,hclaim⟩ := hkept (carried_lasting _ name) hrewired.carried
  refine ⟨a.plan.pv,name,pv,⟨x,(runs_hist hclean).subset ((runs_hist hreclaim).subset hx),hretired⟩,
    hpv,hclaim,?_⟩
  intro s e he hname hsame hfresh hdriver
  have hcsi : pv.csi = some ⟨driverName,volumeHandleOf pv⟩ := by
    obtain ⟨c,hc,hd⟩ := Option.map_eq_some_iff.mp hdriver
    rw [handle_csi hc, hc, ← hd]
  have hstorage : SlashFree (targetStorageOf req a.plan.vol) := by
    unfold targetStorageOf
    split
    · exact (parseVolumeID_some hp.handle).2.2.2
    · exact hs
  exact .migrate he hfresh (hsame ▸ hp.handle) hn hstorage (hwell.volumes name pv hpv)
    (hcsi.trans (congrArg _ (congrArg _ hhandle)))

end Migrate

section Results

variable {s : Account} {e : Tracked} (claims : String → String → Option (Option String))
  (classes : String → Option (String × Params))

def kube (s : Account) (claims : String → String → Option (Option String))
    (classes : String → Option (String × Params)) : Kube := ⟨s.entries.map Tracked.pv,claims,classes⟩

def Under (v w : Volume) : Prop := w = v ∨ ∃ a, Numbered a ∧ v.withVMID a = some w

theorem under_pvName {v w : Volume} (h : Under v w) : pvName w = pvName v := by
  rcases h with rfl | ⟨a,ha,h⟩
  · rfl
  · exact (RenamedDisks.withVMID_renamed ha h).pv

theorem find_only {α : Type} {p : α → Bool} {l : List α} {a : α} (ha : a ∈ l) (hp : p a = true)
    (hu : ∀ x ∈ l, p x = true → x = a) : l.find? p = some a := by
  cases hf : l.find? p with
  | none => exact absurd hp (List.find?_eq_none.mp hf a ha)
  | some x => rw [hu x (List.mem_of_find?_eq_some hf) (List.find?_some hf)]

theorem handle_of_csi {pv : PersistentVolume} {handle : String}
    (h : pv.csi.map CSISource.volumeHandle = some handle) : volumeHandleOf pv = handle := by
  obtain ⟨c,hc,rfl⟩ := Option.map_eq_some_iff.mp h
  exact handle_csi hc

theorem claimByHandle_eq (h : Tidy s) (he : e ∈ s.entries) :
    claimByHandle (kube s claims classes) (volumeHandleOf e.pv) =
      boundClaim (kube s claims classes) e.pv := by
  obtain ⟨handle,hcsi⟩ := (h.known e he).driver
  have hh : volumeHandleOf e.pv = handle := handle_csi hcsi
  have hf : (kube s claims classes).pvs.find?
      (fun pv => pv.csi.map CSISource.volumeHandle = some (volumeHandleOf e.pv)) = some e.pv := by
    refine find_only (List.mem_map_of_mem he) (by simp [hcsi, hh]) ?_
    intro pv hm hp
    obtain ⟨x,hx,rfl⟩ := List.mem_map.mp hm
    have ho : origin x = origin e := by
      rw [origin, handle_of_csi (of_decide_eq_true hp)]
      rfl
    rw [List.inj_on_of_nodup_map h.origins hx he ho]
  rw [claimByHandle, hf]
  rfl

theorem claimForVolume_eq (h : Tidy s) (he : e ∈ s.entries) {w : Volume} (hw : pvName w = origin e) :
    claimForVolume (kube s claims classes) w =
      if e.moved then none else boundClaim (kube s claims classes) e.pv := by
  have hk := h.known e he
  rw [claimForVolume, hw, if_neg hk.filled]
  cases hm : e.moved with
  | false =>
    have hf : getPV (kube s claims classes) (origin e) = some e.pv := by
      refine find_only (List.mem_map_of_mem he) (by simp [hk.unmoved hm]) ?_
      intro pv hp hn
      obtain ⟨x,hx,rfl⟩ := List.mem_map.mp hp
      rw [List.inj_on_of_nodup_map h.names hx he ((of_decide_eq_true hn).trans (hk.unmoved hm).symm)]
    rw [hf]
    rfl
  | true =>
    have hf : getPV (kube s claims classes) (origin e) = none := by
      refine List.find?_eq_none.mpr ?_
      intro pv hp hn
      obtain ⟨x,hx,rfl⟩ := List.mem_map.mp hp
      exact h.gone e he hm x hx (of_decide_eq_true hn)
    rw [hf]
    rfl

/-- Exactly a volume that was migrated loses its claim, and then the options of the class
that the context of the volume does not have. -/
theorem claim_found_iff (hs : Relation.ReflTransGen Step ⟨[],[]⟩ s) (he : e ∈ s.entries)
    {v w : Volume} (hv : parseVolumeID (volumeHandleOf e.pv) = some v) (hw : Under v w)
    (unsafeMount : Bool) (context : Params) (readonly : Bool) :
    (claimForVolume (kube s claims classes) w =
        claimByHandle (kube s claims classes) (volumeHandleOf e.pv) ↔
      e.moved = false ∨ claimByHandle (kube s claims classes) (volumeHandleOf e.pv) = none) ∧
    (Includes (kube s claims classes) (volumeHandleOf e.pv)
        (passed (kube s claims classes) unsafeMount context readonly w) ↔
      e.moved = false ∨ Includes (kube s claims classes) (volumeHandleOf e.pv)
        (publishOptions unsafeMount context none readonly)) := by
  have ht := tidy_reached hs
  have hname : pvName w = origin e := by rw [under_pvName hw, origin_of_parse hv]
  have hfor := claimForVolume_eq claims classes ht he hname
  have hby := claimByHandle_eq claims classes ht he
  cases hm : e.moved with
  | false =>
    have hsame : claimForVolume (kube s claims classes) w =
        claimByHandle (kube s claims classes) (volumeHandleOf e.pv) := by
      rw [hfor, hby, hm]
      rfl
    refine ⟨iff_of_true hsame (.inl rfl),iff_of_true ?_ (.inl rfl)⟩
    intro m vac o hclass hx ho key val hkey
    rw [passed, hsame, hclass] at ho
    exact publishOptions_own hx ho hkey
  | true =>
    have hnone : claimForVolume (kube s claims classes) w = none := by
      rw [hfor, hm]
      rfl
    constructor
    · rw [hnone]
      simp [eq_comm]
    · rw [passed, hnone]
      simp only [effectiveParameters, Option.bind_none, Bool.true_eq_false, false_or]

end Results

section Samples
open CallProgram CallSchedule ClusterService MigratorCalls MigratorRules

def startWorld : World ℕ := sampleWorld "vm-9999-pv-a" .delete

def startVolume : PersistentVolume :=
  sampleVolume "r/n1/data/vm-9999-pv-a" .delete

def migration : Finished Call Reply (World ℕ) (Except GoError Unit) :=
  finish (faulty []) (migrate samplePatience sampleMigrator
    sampleRequest).run [] startWorld

def movedVolume : PersistentVolume :=
  { startVolume with
    name := "pvc-13"
    csi := some ⟨driverName,"r/n2/data/vm-9999-pv-a"⟩
    claimRef := some ⟨"ns","a",""⟩ }

def created : Account := ⟨[⟨startVolume,false⟩],["pv-a"]⟩

def migrated : Account :=
  ⟨⟨movedVolume,true⟩ :: created.entries.filter (fun x => x.pv.name ≠ startVolume.name),
    movedVolume.name :: created.used⟩

def sampleClaims (ns name : String) : Option (Option String) :=
  if ns = "ns" ∧ name = "a" then some (some "gold") else none

def sampleParameters : Params := AList.insert "diskIOPS" "100" ∅

def sampleClasses (name : String) : Option (String × Params) :=
  if name = "gold" then some (driverName,sampleParameters) else none

theorem created_reached : Relation.ReflTransGen Step ⟨[],[]⟩ created :=
  have hh : "r/n1/data/vm-9999-pv-a" =
      (newVolumeFormat "r" "n1" "data" (diskOf 9999 "pv-a") "").volumeID := by decide +kernel
  .single (.create ⟨by decide,by decide⟩ (by decide) (by decide) (by decide) (by decide) (by decide)
    (by decide) (.inl hh) rfl rfl)

theorem claim_found_created :
    claimForVolume (kube created sampleClaims sampleClasses)
        ⟨"r","n1","n1","data","vm-9999-pv-a"⟩ =
      claimByHandle (kube created sampleClaims sampleClasses) "r/n1/data/vm-9999-pv-a" :=
  (claim_found_iff sampleClaims sampleClasses created_reached List.mem_cons_self
    (show parseVolumeID "r/n1/data/vm-9999-pv-a" = _ by decide +kernel) (.inl rfl) false ∅ false).1.mpr
    (.inl rfl)

theorem migrated_step : Step created migrated := by
  have hvol : parseVolumeID (volumeHandleOf startVolume) =
      some ⟨"r","n1","n1","data","vm-9999-pv-a"⟩ := by decide +kernel
  have hcsi : movedVolume.csi = some ⟨driverName,
      (newVolume "r" "n2" "data" (targetDiskName "vm-9999-pv-a")).volumeID⟩ := by decide +kernel
  have hfresh : movedVolume.name ∉ created.used := by decide +kernel
  exact @Step.migrate created ⟨startVolume,false⟩ _ _ "n2" "data" movedVolume List.mem_cons_self hfresh
    hvol (by decide) (by decide) rfl hcsi

/-- The claim of a migrated volume asks for a class, and the attach gets none of its options. -/
theorem migrated_class_ignored :
    Runs solo ⟨[],startWorld,(migrate samplePatience sampleMigrator
      sampleRequest).run⟩ ⟨migration.hist,migration.world,.done migration.value⟩ ∧
      migration.value.isOk ∧ values startWorld.pvs = created.entries.map Tracked.pv ∧
      (values migration.world.pvs).map (fun pv => (pv.name,pv.csi,pv.claimRef)) =
        (migrated.entries.map Tracked.pv).map (fun pv => (pv.name,pv.csi,pv.claimRef)) ∧
      Relation.ReflTransGen Step ⟨[],[]⟩ migrated ∧
      claimByHandle (kube migrated sampleClaims sampleClasses) "r/n2/data/vm-9999-pv-a" =
        some ("ns","a") ∧
      claimForVolume (kube migrated sampleClaims sampleClasses)
        ⟨"r","n2","n2","data","vm-9999-pv-a"⟩ = none ∧
      ¬Includes (kube migrated sampleClaims sampleClasses) "r/n2/data/vm-9999-pv-a"
        (passed (kube migrated sampleClaims sampleClasses) false ∅ false
          ⟨"r","n2","n2","data","vm-9999-pv-a"⟩) := by
  have hnone : claimForVolume (kube migrated sampleClaims sampleClasses)
      ⟨"r","n2","n2","data","vm-9999-pv-a"⟩ = none := by decide +kernel
  have hclaim : claimByHandle (kube migrated sampleClaims sampleClasses) "r/n2/data/vm-9999-pv-a" =
      some ("ns","a") := by decide +kernel
  refine ⟨finish_runs (faulty_lawful []) _ _ _,by decide +kernel,rfl,by decide +kernel,
    created_reached.tail migrated_step,hclaim,hnone,?_⟩
  intro h
  rw [passed, hnone] at h
  have ho := h sampleParameters ⟨none,"",some 100,some 100,none,none⟩ _ (by rw [hclaim]; rfl) rfl rfl
    "iops_rd" "100" (by decide)
  exact absurd ho (by decide)

end Samples

end History

end ProxmoxCSI.ClaimClasses
