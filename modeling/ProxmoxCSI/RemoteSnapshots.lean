import ProxmoxCSI.HandleCodec
import ProxmoxCSI.RemoteController

/-!
# Source volumes of remote requests

The remote controller names the source of a copy or of a snapshot by the persistent
volume that the handle carries, and asks for the snapshots of that name. The handle
of a provisioned volume carries the name of its record up to the first dot.
-/

set_option autoImplicit false

namespace ProxmoxCSI.RemoteSnapshots
open CallProgram CallProgram.Prog CallErrors TextScan VolumeHandle DiskNames HandleCodec
open OperatorRecords VolumeReconciler VolumeService RemoteController
open DirectCalls (RpcError Code status)

section Requests

structure SnapshotRequest where
  name : String
  sourceVolumeID : String
  parameters : Params

structure CreatedSnapshot where
  snapshotID : String
  sourceVolumeID : String
  sizeBytes : ℤ
  readyToUse : Bool

def snapshotFrom (t : Option TenantCluster) (req : SnapshotRequest) (source : A String) :
    A CreatedSnapshot := do
  require (req.name ≠ "") (status .invalidArgument "Name must be provided")
  require (req.sourceVolumeID ≠ "") (status .invalidArgument "SourceVolumeId must be provided")
  let source ← source
  let resp ← relabel translateError (VolumeService.createSnapshot t
    ⟨req.name,source,valueOf req.parameters "zone"⟩)
  pure ⟨resp.snapshotID,req.sourceVolumeID,resp.restoreSizeBytes,resp.readyToUse⟩

def createSnapshot (t : Option TenantCluster) (req : SnapshotRequest) : A CreatedSnapshot :=
  snapshotFrom t req (sourceName req.sourceVolumeID)

structure ListRequest where
  snapshotID : String
  sourceVolumeID : String
  startingToken : String
  maxEntries : ℤ

def sourceFilter (volumeID : String) : String :=
  if volumeID = "" then ""
  else match parseVolumeID volumeID with
    | none => ""
    | some v => pvName v

def listOf (t : Option TenantCluster) (req : ListRequest) (source : String) :
    A ListSnapshotsResponse :=
  relabel translateError (VolumeService.listSnapshots t
    ⟨req.snapshotID,source,req.startingToken,req.maxEntries⟩)

def listSnapshots (t : Option TenantCluster) (req : ListRequest) : A ListSnapshotsResponse :=
  listOf t req (sourceFilter req.sourceVolumeID)

/-- As the source of a new volume, of a snapshot and of a list, the handle stands for
the record with the name. -/
structure Resolves (handle name : String) : Prop where
  volume : ∀ s t (req : CreateRequest), req.source = some ⟨none,some handle⟩ →
    createVolume s t req = createFrom s t req (pure (some ⟨name,""⟩))
  snapshot : ∀ t (req : SnapshotRequest), req.sourceVolumeID = handle →
    createSnapshot t req = snapshotFrom t req (pure name)
  list : ∀ t (req : ListRequest), req.sourceVolumeID = handle →
    listSnapshots t req = listOf t req name

end Requests

section Names

variable {id : ℤ}

theorem splitN_file (h : Numbered id) (name : String) :
    splitN (toString id ++ "/" ++ diskOf id name) '-' 3 =
      [toString id ++ "/vm",toString id,name] := by
  have hl : (toString id ++ "/" ++ diskOf id name).toList =
      (toString id ++ "/vm").toList ++ '-' :: ((toString id).toList ++ '-' :: name.toList) := by
    simp [diskOf]
  have hd : '-' ∉ (toString id ++ "/vm").toList := by
    rw [String.toList_append, List.mem_append, not_or]
    exact ⟨numeral_undashed h,by decide⟩
  rw [splitN, hl]
  simp only [splitList, cutList_append _ _ _ hd, cutList_append _ _ _ (numeral_undashed h),
    List.map_cons, List.map_nil, String.ofList_toList]

theorem pvName_newVolumeFormat (h : Numbered id) (region zone storage name format : String) :
    pvName (newVolumeFormat region zone storage (diskOf id name) format) =
      firstPiece (name ++ extension format) '.' := by
  have hdisk := newVolumeFormat_disk h region zone storage name format
  unfold pvName
  rw [hdisk]
  by_cases hf : format = ""
  · have he : (if format = "" then "" else toString id ++ "/") ++ diskOf id name ++
        extension format = "vm-" ++ toString id ++ "-" ++ (name ++ extension format) := by
      simp [hf, diskOf, extension]
    rw [he, splitN_name h]
  · have he : (if format = "" then "" else toString id ++ "/") ++ diskOf id name ++
        extension format = toString id ++ "/" ++ diskOf id (name ++ extension format) := by
      simp [hf, diskOf, String.append_assoc]
    rw [he, splitN_file h]

theorem firstPiece_extension {name : String} (hn : '.' ∉ name.toList) (format : String) :
    firstPiece (name ++ extension format) '.' = name := by
  unfold extension
  split
  · rw [String.append_empty]
    exact firstPiece_whole hn
  · exact firstPiece_cut (b := format) (by simp) hn

end Names

section Resolution

variable {t : TenantCluster} {vol : ProxmoxVolume}

theorem resolves_of_parse {handle : String} {v : Volume} (hp : parseVolumeID handle = some v)
    (hne : pvName v ≠ "") : Resolves handle (pvName v) := by
  have hname : sourceName handle = pure (pvName v) := by
    rw [sourceName, hp]
    simp only [if_neg hne]
  have hsource : volumeSource (some ⟨none,some handle⟩) = pure (some ⟨pvName v,""⟩) := by
    rw [volumeSource]
    simp only [hname]
    rfl
  have hfilter : sourceFilter handle = pvName v := by
    have hh : handle ≠ "" := by
      rintro rfl
      cases hp
    rw [sourceFilter, if_neg hh, hp]
  refine ⟨?_,?_,?_⟩
  · intro s t req hs
    rw [RemoteController.createVolume, hs, hsource]
  · intro t req hs
    rw [createSnapshot, hs, hname]
  · intro t req hs
    rw [listSnapshots, hs, hfilter]

theorem sources_resolve (plugin : String) (hid : Numbered t.placeholderVMID)
    (hr : '/' ∉ vol.spec.region.toList) (hz : '/' ∉ vol.spec.zone.toList)
    (hs : '/' ∉ vol.spec.storage.toList) (hn : vol.name ≠ "") :
    ((parseVolumeID (diskVolume t plugin vol).volumeID).map pvName = some vol.name ∧
      Resolves (diskVolume t plugin vol).volumeID vol.name) ↔ '.' ∉ vol.name.toList := by
  have hp : parseVolumeID (diskVolume t plugin vol).volumeID = some (diskVolume t plugin vol) := by
    obtain ⟨h₁,h₂,h₃,h₄⟩ := newVolumeFormat_place vol.spec.region vol.spec.zone vol.spec.storage
      (diskOf t.placeholderVMID vol.name)
      (diskFormat plugin (valueOf vol.spec.parameters "storageFormat"))
    refine parseVolumeID_volumeID _ (h₃.trans h₂.symm) ?_ ?_ ?_
    · exact h₁.symm ▸ hr
    · exact h₂.symm ▸ hz
    · exact h₄.symm ▸ hs
  have hpv := pvName_newVolumeFormat hid vol.spec.region vol.spec.zone vol.spec.storage vol.name
    (diskFormat plugin (valueOf vol.spec.parameters "storageFormat"))
  rw [hp]
  constructor
  · rintro ⟨hm,_⟩
    rw [Option.map_some, Option.some.injEq] at hm
    rw [← hm]
    exact hpv ▸ firstPiece_notMem _
  · intro hdot
    have he : pvName (diskVolume t plugin vol) = vol.name :=
      hpv.trans (firstPiece_extension hdot _)
    refine ⟨by rw [Option.map_some, he],?_⟩
    have hres := resolves_of_parse hp (he.symm ▸ hn)
    rwa [he] at hres

def sampleRecord (name : String) : ProxmoxVolume :=
  ⟨"blue-ns",name,0,1,0,∅,∅,[],false,⟨"r1","n1","local",1073741824,∅,none,∅,"",false,""⟩,
    ⟨"","",0,0,[],false,.pending,0,[]⟩⟩

theorem sources_resolve_plain :
    Resolves (diskVolume CapacityStream.sampleTenant "dir" (sampleRecord "pvc-a")).volumeID "pvc-a" :=
  ((@sources_resolve CapacityStream.sampleTenant (sampleRecord "pvc-a") "dir"
    ⟨by decide,by decide⟩ (by decide) (by decide) (by decide) (by decide)).mpr (by decide)).2

/-- A copy or a snapshot of `a.b` is asked for as one of `a`. -/
theorem dotted_name_cut :
    (parseVolumeID (diskVolume CapacityStream.sampleTenant "dir" (sampleRecord "a.b")).volumeID).map
      pvName = some "a" ∧
    Resolves (diskVolume CapacityStream.sampleTenant "dir" (sampleRecord "a.b")).volumeID "a" := by
  refine ⟨by decide +kernel,?_⟩
  exact resolves_of_parse (v := newVolume "r1" "n1" "local" "9999/vm-9999-a.b.raw")
    (by decide +kernel) (by decide +kernel)

end Resolution

end ProxmoxCSI.RemoteSnapshots
