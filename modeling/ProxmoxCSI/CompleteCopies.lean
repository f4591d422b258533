import ProxmoxCSI.DirectLookup

/-!
# Copies in direct mode are complete when they are reported

A retry takes a disk of the right name for the finished copy. If every copy
that failed left nothing behind, or all of it, then each disk that a session of
calls added holds the content of the source, and so does a disk that a call
reports.
-/

set_option autoImplicit false

namespace ProxmoxCSI.CompleteCopies
open CallProgram CallProgram.Prog CallSafety CallErrors CallTriples CallSessions CallSchedule
open VolumeHandle ClusterState DirectCalls DirectVolumes DirectLookup

variable {C ι : Type}

inductive Request where
  | volume (r : CreateVolumeRequest)
  | snapshot (r : CreateSnapshotRequest)

inductive Report where
  | volume (r : CreatedVolume)
  | snapshot (r : CreatedSnapshot)

def serveRequest (d : Controller) : Request → D Report
  | .volume r => Report.volume <$> createVolume d r
  | .snapshot r => Report.snapshot <$> createSnapshot d r

def Request.source : Request → Option String
  | .volume r => sourceHandle r
  | .snapshot r => some r.sourceVolumeID

def Report.delivered : Report → Option Volume
  | .volume r => some r.disk
  | .snapshot r => if r.readyToUse then some r.disk else none

def StoredAs (src v : Volume) : Prop :=
  ∃ node disk, (src.node ≠ "" → node = src.node) ∧ StoredName src disk ∧
    v = { src with node := node, disk := disk }

def SourceHolds (src : Volume) (c : C) (w : Site C) : Prop :=
  ∀ v x, StoredAs src v → w.disk v = some x → x.content = c

def Clean : Event DirectCall DirectReply (Site C) → Prop
  | ⟨.copyContent _ source node target,.error _,w,w'⟩ =>
      w' = w ∨ w' = (copyTo w source node target).2
  | _ => True

def CopiesOnly (src : Volume) : DirectCall → Prop
  | .copyContent _ source _ _ => StoredAs src source
  | c => c.keepsDisks

def Filled (w₀ : Site C) (c : C) : Assertion DirectCall DirectReply (Site C) := fun _ w =>
  w.location = w₀.location ∧
    ∀ k x, w.disks.lookup k = some x → w₀.disks.lookup k = some x ∨ x.content = c

section Effects

variable {src : Volume} {c : C} {w₀ w w' : Site C}

theorem filled_content (hw : SourceHolds src c w₀) {h : History DirectCall DirectReply (Site C)}
    (hf : Filled w₀ c h w) {v : Volume} {x : SiteDisk C} (hv : StoredAs src v)
    (hx : w.disk v = some x) : x.content = c := by
  obtain ⟨hl,hd⟩ := hf
  unfold Site.disk Site.diskOn Site.keyOn at hx
  rw [hl] at hx
  obtain ⟨k,hk,hx⟩ := Option.bind_eq_some_iff.mp hx
  rcases hd k x hx with h₀ | hc
  · apply hw v x hv
    unfold Site.disk Site.diskOn Site.keyOn
    rw [hk]
    exact h₀
  · exact hc

theorem filled_insert {h h' : History DirectCall DirectReply (Site C)} (hf : Filled w₀ c h w)
    {k : DiskKey} {x : SiteDisk C} (hx : x.content = c) :
    Filled w₀ c h' { w with disks := w.disks.insert k x } := by
  refine ⟨hf.1,?_⟩
  intro k' x' hk'
  by_cases he : k' = k
  · subst he
    have hk : some x = some x' := by simpa using hk'
    cases hk
    exact .inr hx
  · apply hf.2 k' x'
    simpa [AList.lookup_insert_ne he] using hk'

theorem filled_copy (hw : SourceHolds src c w₀) {h h' : History DirectCall DirectReply (Site C)}
    (hf : Filled w₀ c h w) {source target : Volume} {node : String} (hs : StoredAs src source) :
    Filled w₀ c h' (copyTo w source node target).2 := by
  rcases copyTo_cases source target node with he | ⟨x,k,hx,_,he⟩
  · rw [he]
    exact hf
  · rw [he]
    exact filled_insert hf (filled_content hw hf hs hx)

/-- Copies of the source that end cleanly add its content only. -/
theorem filled_call (hw : SourceHolds src c w₀) (a : DirectCall)
    (h : History DirectCall DirectReply (Site C)) (w : Site C) (r : DirectReply a) (w' : Site C)
    (ha : CopiesOnly src a) (ho : (restrict alone Clean).outcome a w r w') (hf : Filled w₀ c h w) :
    Filled w₀ c (⟨a,r,w,w'⟩::h) w' := by
  obtain ⟨ho,hc⟩ := ho
  by_cases hk : a.keepsDisks
  · obtain ⟨hd,hl⟩ := outcome_keepsDisks hk ho
    refine ⟨hl.trans hf.1,?_⟩
    intro k x hx
    rw [hd] at hx
    exact hf.2 k x hx
  · unfold CopiesOnly at ha
    split at ha
    · rename_i endpoint source node target
      cases r with
      | ok u =>
        have hserve : w' = (copyTo w source node target).2 := by
          replace ho : DirectOutcome _ w _ w' := ho
          generalize hr : (Except.ok u : DirectReply
            (.copyContent endpoint source node target)) = r at ho
          cases ho with
          | served => rfl
          | failed | lost | truncated => cases hr
        rw [hserve]
        exact filled_copy hw hf ha
      | error e =>
        rcases hc with rfl | rfl
        · exact hf
        · exact filled_copy hw hf ha
    · exact absurd ha hk

end Effects

section Reads

theorem parseHandle_reading (id : String) : Reading (parseHandle id) := by
  unfold parseHandle
  split <;> trivial

theorem parseOptional_reading (o : Option String) : Reading (parseOptional o) := by
  cases o with
  | none => trivial
  | some id => exact uses_try_bind (parseHandle_reading id) (fun _ => trivial)

theorem parseSources_reading (req : CreateVolumeRequest) : Reading (parseSources req) := by
  refine uses_try_bind (parseOptional_reading _) ?_
  intro vol
  exact uses_try_bind (parseOptional_reading _) (fun _ => trivial)

theorem planVolume_reading (d : Controller) (req : CreateVolumeRequest) :
    Reading (planVolume d req) := by
  refine uses_try_bind uses_require ?_
  intro _
  refine uses_try_bind uses_require ?_
  intro _
  split
  · trivial
  · trivial
  · refine uses_try_bind uses_require ?_
    intro _
    refine uses_try_bind uses_require ?_
    intro _
    refine uses_try_bind (parseSources_reading req) ?_
    intro source
    refine uses_try_bind ?_ ?_
    · cases source with
      | none => trivial
      | some src =>
        refine uses_try_bind uses_require ?_
        intro _
        exact uses_try_bind (checkVolume_reading d src) (fun _ => trivial)
    · intro srcVol
      refine uses_try_bind ⟨rfl,fun _ => trivial⟩ ?_
      intro _
      refine uses_try_bind ?_ ?_
      · unfold pickZone
        split
        · trivial
        · refine uses_try_bind ⟨rfl,fun _ => trivial⟩ ?_
          intro zones
          cases zones <;> trivial
      · intro zone
        refine uses_try_bind ⟨rfl,fun _ => trivial⟩ ?_
        intro r
        refine uses_try_bind ?_ ?_
        · unfold topologyFor
          split
          · refine uses_try_bind uses_require ?_
            intro _
            exact uses_try_bind ⟨rfl,fun _ => trivial⟩ (fun _ => trivial)
          · trivial
        · intro topology
          refine uses_try_bind ?_ (fun _ => trivial)
          unfold diskOwner
          split
          · exact uses_try_bind uses_require (fun _ => ⟨rfl,fun _ => trivial⟩)
          · trivial

theorem planSnapshot_reading (d : Controller) (req : CreateSnapshotRequest) :
    Reading (planSnapshot d req) := by
  refine uses_try_bind (parseHandle_reading _) ?_
  intro vol
  refine uses_try_bind uses_require ?_
  intro _
  refine uses_try_bind ⟨rfl,fun _ => trivial⟩ ?_
  intro _
  refine uses_try_bind ⟨rfl,fun _ => trivial⟩ ?_
  intro config
  refine uses_try_bind ?_ ?_
  · exact uses_try_bind uses_require (fun _ => uses_try_bind uses_require (fun _ => uses_require))
  · intro _
    refine uses_try_bind (checkVolume_reading d vol) ?_
    intro p
    refine uses_try_bind ?_ ?_
    · unfold placedVolume
      split
      · trivial
      · refine uses_try_bind (uses_relabel ?_) (fun _ => trivial)
        unfold getNodeForVolume
        split
        · trivial
        · refine uses_try_bind ⟨rfl,fun _ => trivial⟩ ?_
          intro nodes
          cases nodes <;> trivial
    · intro v
      refine uses_try_bind ?_ (fun _ => trivial)
      unfold snapshotZone
      split
      · trivial
      · exact uses_try_bind uses_require (fun _ => trivial)

end Reads

section Plans

variable {src : Volume}

theorem stored_as {src : Volume} {disk : String} (h : StoredName src disk) :
    StoredAs src { src with disk := disk } := ⟨src.node,disk,fun _ => rfl,h,rfl⟩

theorem parseHandle_returns (id : String) :
    (parseHandle id).run.Returns (IfOk (fun v => parseVolumeID id = some v)) := by
  unfold parseHandle
  split
  · assumption
  · trivial

theorem parseOptional_returns (o : Option String) : (parseOptional o).run.Returns
    (IfOk (fun v => v.isSome = o.isSome ∧ ∀ x, v = some x → o.bind parseVolumeID = some x)) := by
  cases o with
  | none =>
    refine ⟨rfl,?_⟩
    intro x hx
    cases hx
  | some id =>
    refine returns_try_bind (parseHandle_returns id) ?_
    intro v hv
    refine ⟨rfl,?_⟩
    rintro x ⟨⟩
    exact hv

theorem parseSources_returns {req : CreateVolumeRequest}
    (hs : (sourceHandle req).bind parseVolumeID = some src) :
    (parseSources req).run.Returns (IfOk (fun o => o = some src)) := by
  refine returns_try_bind (parseOptional_returns req.sourceVolume) ?_
  intro vol hvol
  refine returns_try_bind (parseOptional_returns req.sourceSnapshot) ?_
  intro snapshot hsnap
  show snapshot.or vol = some src
  unfold sourceHandle at hs
  cases snapshot with
  | some v =>
    have hv := hsnap.2 v rfl
    obtain ⟨id,hid,_⟩ := Option.bind_eq_some_iff.mp hv
    rw [hid] at hs hv
    exact hv.symm.trans hs
  | none =>
    have hn : req.sourceSnapshot = none := by simpa using hsnap.1
    rw [hn] at hs
    cases vol with
    | some v => exact (hvol.2 v rfl).symm.trans hs
    | none =>
      have hn' : req.sourceVolume = none := by simpa using hvol.1
      rw [hn'] at hs
      cases hs

/-- The plan copies from the source under a name it is stored as. -/
theorem planVolume_returns (d : Controller) {req : CreateVolumeRequest}
    (hs : (sourceHandle req).bind parseVolumeID = some src) :
    (planVolume d req).run.Returns (IfOk (fun p => ∃ v, p.srcVol = some v ∧ StoredAs src v)) := by
  refine returns_try_bind returns_any ?_
  intro _ _
  refine returns_try_bind returns_any ?_
  intro _ _
  split
  · trivial
  · trivial
  · refine returns_try_bind returns_any ?_
    intro _ _
    refine returns_try_bind returns_any ?_
    intro _ _
    refine returns_try_bind (parseSources_returns hs) ?_
    rintro source rfl
    have hcheck : (checkSource d req.region (some src)).run.Returns
        (IfOk (fun o => ∃ v, o = some v ∧ StoredAs src v)) := by
      refine returns_try_bind returns_any ?_
      intro _ _
      refine returns_try_bind (checkVolume_returns d src) ?_
      rintro ⟨size,v⟩ ⟨disk,hd,hv⟩
      cases hv
      exact ⟨_,rfl,stored_as hd⟩
    refine returns_try_bind hcheck ?_
    intro srcVol hsrc
    refine returns_try_bind returns_any ?_
    intro _ _
    refine returns_try_bind returns_any ?_
    intro zone _
    refine returns_try_bind returns_any ?_
    intro r _
    refine returns_try_bind returns_any ?_
    intro topology _
    refine returns_try_bind returns_any ?_
    intro id _
    exact hsrc

theorem planSnapshot_returns (d : Controller) {req : CreateSnapshotRequest}
    (hs : parseVolumeID req.sourceVolumeID = some src) :
    (planSnapshot d req).run.Returns (IfOk (fun p => StoredAs src p.1)) := by
  refine returns_try_bind (parseHandle_returns _) ?_
  intro vol hvol
  have hv : vol = src := Option.some.inj (hvol.symm.trans hs)
  subst hv
  refine returns_try_bind returns_any ?_
  intro _ _
  refine returns_try_bind returns_any ?_
  intro _ _
  refine returns_try_bind returns_any ?_
  intro config _
  refine returns_try_bind returns_any ?_
  intro _ _
  refine returns_try_bind (checkVolume_returns d vol) ?_
  rintro ⟨size,found⟩ ⟨disk,hd,rfl⟩
  have hplaced : (placedVolume { vol with disk := disk }).run.Returns (IfOk (StoredAs vol)) := by
    unfold placedVolume
    split
    · exact stored_as hd
    · rename_i hn
      refine returns_try_bind returns_any ?_
      intro node _
      refine ⟨node,disk,?_,hd,rfl⟩
      intro hne
      exact absurd hne hn
  refine returns_try_bind hplaced ?_
  intro v hv
  refine returns_try_bind returns_any ?_
  intro snapshot _
  exact hv

theorem copyVolume_copies {endpoint : CopyEndpoint} {source target : Volume}
    (hs : StoredAs src source) : (copyVolume endpoint source target).run.Uses (CopiesOnly src) := by
  refine uses_try_bind uses_require ?_
  intro _
  refine uses_try_bind uses_require ?_
  intro _
  exact ⟨hs,fun _ => trivial⟩

theorem reading_copies {α : Type} {x : D α} (hx : Reading x) : x.run.Uses (CopiesOnly src) := by
  refine uses_mono hx ?_
  intro c hc
  unfold CopiesOnly
  split
  · cases hc
  · exact hc

theorem copySource_copies {d : Controller} {vol source : Volume} (hs : StoredAs src source) :
    (copySource d vol source).run.Uses (CopiesOnly src) := by
  refine uses_try_bind (uses_relabel (reading_copies (getVolumeSize_reading source))) ?_
  intro size
  refine uses_try_bind uses_require ?_
  intro _
  refine uses_try_bind uses_require ?_
  intro _
  exact uses_relabel (copyVolume_copies hs)

end Plans

section Delivery

variable {src : Volume} {c : C} {w₀ : Site C}

theorem present_keeps {a : DirectCall} {w w' : Site C} {r : DirectReply a} {vol : Volume}
    (ha : a.keepsDisks) (ho : DirectOutcome a w r w') (hp : Present vol w) : Present vol w' := by
  obtain ⟨hd,hl⟩ := outcome_keepsDisks ha ho
  unfold Present Site.disk Site.diskOn Site.keyOn at *
  rw [hd, hl]
  exact hp

theorem filled_steady : Steady (restrict alone Clean) (Filled w₀ c) (Filled w₀ c) :=
  calm_steady (restrict_calm alone_calm) (fun _ _ hf => hf)

theorem filled_fact_steady {P : Assertion DirectCall DirectReply (Site C)} :
    Steady (restrict alone Clean) (Filled w₀ c) (fun h w => Filled w₀ c h w ∧ P h w) :=
  calm_steady (restrict_calm alone_calm) (fun _ _ hp => hp.1)

theorem reading_triple (hw : SourceHolds src c w₀) {α : Type} {x : D α} (hx : Reading x) :
    Triple (restrict alone Clean) (Filled w₀ c) (Filled w₀ c) x (fun _ => Filled w₀ c) :=
  triple_uses filled_steady (filled_call hw) (reading_copies hx)

theorem getStorageContent_triple (hw : SourceHolds src c w₀) (vol : Volume) :
    Triple (restrict alone Clean) (Filled w₀ c) (Filled w₀ c) (getStorageContent vol)
      (fun o h w => Filled w₀ c h w ∧ (o.isSome → Present vol w)) := by
  unfold getStorageContent
  split
  · exact triple_throw filled_steady
  · have hask : Reading (DirectCalls.ask (.storageStatus vol.region vol.node vol.storage)) :=
      ⟨rfl,fun _ => trivial⟩
    refine triple_bind (reading_triple hw hask) ?_
    intro r
    cases r with
    | error e =>
      show Triple _ _ _ (ite _ _ _ : D (Option ContentItem)) _
      split
      · exact triple_throw filled_steady
      · exact triple_throw filled_steady
    | ok _ =>
      have hneed : Triple (restrict alone Clean) (Filled w₀ c) (Filled w₀ c)
          (DirectCalls.need (.storageContent vol.region vol.node vol.storage) same)
          (fun l h w => Filled w₀ c h w ∧
            ((l.find? (fun i => i.volid = vol.volID)).isSome → Present vol w)) := by
        refine triple_calm_call (restrict_calm alone_calm) (fun _ _ hf => hf) ?_
        intro h w r w' hf ho
        have hf' := filled_call hw _ h w r w' rfl ho hf
        refine ⟨hf',?_⟩
        intro l hl
        refine ⟨hf',?_⟩
        intro hsome
        obtain ⟨item,hitem⟩ := Option.isSome_iff_exists.mp hsome
        have hv : item.volid = vol.volID := by simpa using List.find?_some hitem
        have hmem := List.mem_of_find?_eq_some hitem
        obtain ⟨ho,_⟩ := ho
        cases ho with
        | failed | lost => cases hl
        | served =>
          simp only [serve] at hl
          cases hloc : w.location vol.region vol.node vol.storage with
          | none =>
            rw [hloc] at hl
            cases hl
          | some loc =>
            rw [hloc] at hl
            cases hl
            exact content_present hloc hmem hv
      refine triple_bind hneed ?_
      intro l
      exact triple_pure filled_fact_steady (fun _ _ hp => hp)

theorem getVolumeSize_triple (hw : SourceHolds src c w₀) (vol : Volume) :
    Triple (restrict alone Clean) (Filled w₀ c) (Filled w₀ c) (getVolumeSize vol)
      (fun _ h w => Filled w₀ c h w ∧ Present vol w) := by
  refine triple_bind (getStorageContent_triple hw vol) ?_
  intro o
  cases o with
  | none => exact triple_throw filled_fact_steady
  | some item => exact triple_pure filled_fact_steady (fun _ _ hp => ⟨hp.1,hp.2 rfl⟩)

theorem sized_triple {α : Type} (hw : SourceHolds src c w₀) (vol : Volume)
    {k : Except RpcError ℤ → D α} {Q : α → Assertion DirectCall DirectReply (Site C)}
    (hok : ∀ size, Triple (restrict alone Clean) (Filled w₀ c)
      (fun h w => Filled w₀ c h w ∧ Present vol w) (k (.ok size)) Q)
    (herr : ∀ e, Triple (restrict alone Clean) (Filled w₀ c) (Filled w₀ c) (k (.error e)) Q) :
    Triple (restrict alone Clean) (Filled w₀ c) (Filled w₀ c)
      (observed (getVolumeSize vol) >>= k) Q := by
  refine triple_bind (triple_outcome (getVolumeSize_triple hw vol)) ?_
  intro r
  cases r with
  | ok size => exact triple_mono (hok size) (fun _ _ hp => hp.2) (fun _ _ _ hq => hq)
  | error e => exact triple_mono (herr e) (fun _ _ hp => hp.1) (fun _ _ _ hq => hq)

theorem sizeAfterCreation_triple (hw : SourceHolds src c w₀) (polls : ℕ) (vol : Volume) :
    Triple (restrict alone Clean) (Filled w₀ c) (Filled w₀ c) (sizeAfterCreation polls vol)
      (fun _ h w => Filled w₀ c h w ∧ Present vol w) := by
  apply triple_relabel
  refine triple_rounds (P := fun _ => Filled w₀ c) (fun _ => triple_throw filled_steady) ?_ polls ()
  intro again hagain u
  refine sized_triple hw vol (fun _ => triple_pure filled_fact_steady (fun _ _ hp => hp)) ?_
  intro e
  show Triple _ _ _ (ite _ _ _ : D ℤ) _
  split
  · exact hagain ()
  · exact triple_throw filled_steady

/-- Whether it was found or copied, the disk of the volume is there. -/
theorem ensureDisk_triple (hw : SourceHolds src c w₀) (d : Controller) {p : VolumePlan}
    (hp : ∃ v, p.srcVol = some v ∧ StoredAs src v) :
    Triple (restrict alone Clean) (Filled w₀ c) (Filled w₀ c) (ensureDisk d p)
      (fun x h w => Filled w₀ c h w ∧ Present x.2 w) := by
  obtain ⟨v,hv,hs⟩ := hp
  refine sized_triple hw p.vol (fun _ => triple_pure filled_fact_steady (fun _ _ hp => hp)) ?_
  intro e
  show Triple _ _ _ (ite _ _ _ : D (ℤ × Volume)) _
  split
  · exact triple_throw filled_steady
  · have hmake : Triple (restrict alone Clean) (Filled w₀ c) (Filled w₀ c) (makeDisk d p)
        (fun _ => Filled w₀ c) := by
      unfold makeDisk
      rw [hv]
      exact triple_uses filled_steady (filled_call hw)
        (uses_try_bind (copySource_copies hs) (fun _ => trivial))
    refine triple_bind hmake ?_
    intro vol
    refine triple_bind (sizeAfterCreation_triple hw d.polls vol) ?_
    intro size
    exact triple_pure filled_fact_steady (fun _ _ hp => hp)

def Delivered (r : Report) (w : Site C) : Prop := ∀ vol, r.delivered = some vol → Present vol w

theorem createVolume_triple (hw : SourceHolds src c w₀) (d : Controller)
    {req : CreateVolumeRequest} (hs : (sourceHandle req).bind parseVolumeID = some src) :
    Triple (restrict alone Clean) (Filled w₀ c) (Filled w₀ c) (serveRequest d (.volume req))
      (fun r h w => Filled w₀ c h w ∧ Delivered r w) := by
  have hplan := triple_returns (reading_triple hw (planVolume_reading d req)) (planVolume_returns d hs)
  have hbody : Triple (restrict alone Clean) (Filled w₀ c) (Filled w₀ c) (createVolume d req)
      (fun r h w => Filled w₀ c h w ∧ Present r.disk w) := by
    refine triple_bind hplan ?_
    intro p
    apply triple_fact
    intro hp
    refine triple_bind (ensureDisk_triple hw d hp) ?_
    rintro ⟨size,vol⟩
    refine triple_bind (triple_mono (triple_require filled_fact_steady) (fun _ _ hp => hp)
      (fun _ _ _ hq => hq.1)) ?_
    intro _
    have hrep : Reading (replicateDisk p vol) := by
      unfold replicateDisk
      split
      · exact ⟨rfl,fun _ => trivial⟩
      · trivial
    refine triple_bind (triple_uses filled_fact_steady ?_ hrep) ?_
    · intro a h w r w' ha ho hp
      refine ⟨filled_call hw a h w r w' ?_ ho hp.1,present_keeps ha ho.1 hp.2⟩
      unfold CopiesOnly
      split
      · cases ha
      · exact ha
    · intro _
      exact triple_pure filled_fact_steady (fun _ _ hp => hp)
  refine triple_bind hbody ?_
  intro r
  refine triple_pure filled_fact_steady ?_
  intro h w hp
  refine ⟨hp.1,?_⟩
  rintro vol ⟨⟩
  exact hp.2

theorem createSnapshot_triple (hw : SourceHolds src c w₀) (d : Controller)
    {req : CreateSnapshotRequest} (hs : parseVolumeID req.sourceVolumeID = some src) :
    Triple (restrict alone Clean) (Filled w₀ c) (Filled w₀ c) (serveRequest d (.snapshot req))
      (fun r h w => Filled w₀ c h w ∧ Delivered r w) := by
  have hplan := triple_returns (reading_triple hw (planSnapshot_reading d req))
    (planSnapshot_returns d hs)
  have hbody : Triple (restrict alone Clean) (Filled w₀ c) (Filled w₀ c) (createSnapshot d req)
      (fun r h w => Filled w₀ c h w ∧ Present r.disk w) := by
    refine triple_bind hplan ?_
    rintro ⟨vol,snapshot⟩
    apply triple_fact
    intro hsrc
    have hensure : Triple (restrict alone Clean) (Filled w₀ c) (Filled w₀ c)
        (ensureSnapshot d vol snapshot) (fun _ h w => Filled w₀ c h w ∧ Present snapshot w) := by
      refine sized_triple hw snapshot (fun _ => triple_pure filled_fact_steady (fun _ _ hp => hp)) ?_
      intro e
      show Triple _ _ _ (ite _ _ _ : D ℤ) _
      split
      · exact triple_throw filled_steady
      · have hcopy : Triple (restrict alone Clean) (Filled w₀ c) (Filled w₀ c)
            (relabel internal (copyVolume (d.copyEndpoint vol.region) vol snapshot))
            (fun _ => Filled w₀ c) :=
          triple_uses filled_steady (filled_call hw) (uses_relabel (copyVolume_copies hsrc))
        refine triple_bind hcopy ?_
        intro _
        exact triple_relabel (getVolumeSize_triple hw snapshot)
    refine triple_bind hensure ?_
    intro size
    exact triple_pure filled_fact_steady (fun _ _ hp => hp)
  refine triple_bind hbody ?_
  intro r
  refine triple_pure filled_fact_steady ?_
  intro h w hp
  refine ⟨hp.1,?_⟩
  intro vol hvol
  have he : (if r.readyToUse then some r.disk else none) = some vol := hvol
  split at he
  · cases he
    exact hp.2
  · cases he

theorem serveRequest_triple (hw : SourceHolds src c w₀) (d : Controller) {req : Request}
    (hs : req.source.bind parseVolumeID = some src) :
    Triple (restrict alone Clean) (Filled w₀ c) (Filled w₀ c) (serveRequest d req)
      (fun r h w => Filled w₀ c h w ∧ Delivered r w) := by
  cases req with
  | volume r => exact createVolume_triple hw d hs
  | snapshot r => exact createSnapshot_triple hw d hs

/-- In a session of calls that copy one source, any of which may stop or fail,
a delivered disk holds the content of the source: if every copy that failed
left nothing or all of it, and the name was free or held that content before. -/
theorem delivered_copy_complete (d : Controller) (reqs : ι → Request)
    (hsrc : ∀ i, (reqs i).source.bind parseVolumeID = some src) (hw : SourceHolds src c w₀)
    {h h' : History DirectCall DirectReply (Site C)} {w w' : Site C} {i : ι} {report : Report}
    {vol : Volume}
    (hs : Session alone (fun i => (serveRequest d (reqs i)).run) ⟨[],w₀⟩ ⟨h,w⟩)
    (hr : Runs alone ⟨h,w,(serveRequest d (reqs i)).run⟩ ⟨h',w',.done (.ok report)⟩)
    (hclean : ∀ e ∈ h', Clean e) (hv : report.delivered = some vol)
    (hfree : ∀ x, w₀.disk vol = some x → x.content = c) :
    ∃ x, w'.disk vol = some x ∧ x.content = c := by
  have hback : ∀ e ∈ h, Clean e := fun e he => hclean e ((runs_hist hr).subset he)
  have hstart : Filled w₀ c [] w₀ := ⟨rfl,fun _ _ hx => .inl hx⟩
  have hsess : Filled w₀ c h w := by
    refine session_invariant ?_ (session_restrict hs hback) hstart
    intro i h w hf
    exact safe_mono (serveRequest_triple hw d (hsrc i) h w hf) (fun _ _ hi => hi)
      (fun _ _ _ _ _ => trivial)
  obtain ⟨hfill,hdel⟩ := triple_result (serveRequest_triple hw d (hsrc i)) hsess
    (runs_restrict hr hclean)
  obtain ⟨x,hx⟩ := hdel vol hv
  refine ⟨x,hx,?_⟩
  unfold Site.disk Site.diskOn Site.keyOn at hx hfree
  rw [hfill.1] at hx
  obtain ⟨k,hk,hx⟩ := Option.bind_eq_some_iff.mp hx
  rcases hfill.2 k x hx with h₀ | hc
  · apply hfree x
    rw [hk]
    exact h₀
  · exact hc

end Delivery

section Samples

def sampleSite : Site ℕ := siteWith "lvmthin" "vm-9999-pvc-a" ⟨10,7⟩ 0

def sampleController : Controller := controllerWith false

def sampleSource : Volume := newVolume "r" "n1" "data" "vm-9999-pvc-a"

def sampleRequest : Request := .snapshot ⟨"r/n1/data/vm-9999-pvc-a","snap",""⟩

def interrupted : RpcError := plain "disk move task failed, exit status: interrupted"

def truncate (w : Site ℕ) (source : Volume) (node : String) (target : Volume) :
    Except RpcError Unit × Site ℕ :=
  match w.keyOn target node with
  | some k => if k ∈ w.disks then copyTo w source node target
      else (.error interrupted,{ w with disks := w.disks.insert k ⟨5,0⟩ })
  | none => copyTo w source node target

def truncating (w : Site ℕ) : (c : DirectCall) → DirectReply c × Site ℕ
  | .copyContent _ source node target => truncate w source node target
  | c => serve w c

theorem truncating_outcome (c : DirectCall) (w : Site ℕ) :
    DirectOutcome c w (truncating w c).1 (truncating w c).2 := by
  unfold truncating
  split
  · rename_i endpoint source node target
    unfold truncate
    split
    · rename_i k hk
      split
      · exact .served (.copyContent endpoint source node target) w
      · rename_i hn
        have he : Transient interrupted := ⟨rfl,by decide,by decide +kernel⟩
        exact .truncated endpoint source target node w k ⟨5,0⟩ interrupted he (by decide) hk hn
    · exact .served (.copyContent endpoint source node target) w
  · exact .served _ w

def truncated : Schedule DirectCall DirectReply (Site ℕ) := ⟨fun _ w => w,fun _ c w => truncating w c⟩

theorem truncated_lawful : Lawful alone truncated :=
  ⟨fun _ _ => .refl,fun _ c w => truncating_outcome c w⟩

theorem sample_sourceHolds : SourceHolds sampleSource 7 sampleSite := by
  intro v x _ hx
  obtain ⟨k,_,hk⟩ := Option.bind_eq_some_iff.mp hx
  have he : sampleSite.disks.entries = [⟨(0,"vm-9999-pvc-a"),⟨10,7⟩⟩] := by decide +kernel
  have hm := AList.mem_lookup_iff.mp hk
  rw [he, List.mem_singleton] at hm
  cases hm
  rfl

def sampleCall : Prog DirectCall DirectReply (Except RpcError Report) :=
  (serveRequest sampleController sampleRequest).run

def brokenCall : Finished DirectCall DirectReply (Site ℕ) (Except RpcError Report) :=
  finish truncated sampleCall [] sampleSite

def deliversContent (content : ℕ) (r : Report) (w : Site ℕ) : Bool :=
  match r.delivered with
  | some vol => decide (sampleSite.disk vol = none ∧ (w.disk vol).map SiteDisk.content = some content)
  | none => false

theorem deliversContent_spec {n : ℕ} {r : Report} {w : Site ℕ} (h : deliversContent n r w) :
    ∃ vol, r.delivered = some vol ∧ sampleSite.disk vol = none ∧
      ∃ x, w.disk vol = some x ∧ x.content = n := by
  unfold deliversContent at h
  split at h
  · rename_i vol hv
    obtain ⟨h₀,h₁⟩ := of_decide_eq_true h
    obtain ⟨x,hx,hc⟩ := Option.map_eq_some_iff.mp h₁
    exact ⟨vol,hv,h₀,x,hx,hc⟩
  · cases h

/-- A copy that failed on the way is reported as a finished snapshot by the retry. -/
theorem truncated_copy_delivered : ∃ h w h' w' report vol,
    Session alone (fun _ : Unit => (serveRequest sampleController sampleRequest).run)
      ⟨[],sampleSite⟩ ⟨h,w⟩ ∧
    Runs alone ⟨h,w,(serveRequest sampleController sampleRequest).run⟩ ⟨h',w',.done (.ok report)⟩ ∧
    SourceHolds sampleSource 7 sampleSite ∧ sampleSite.disk vol = none ∧
    report.delivered = some vol ∧ ∃ x, w'.disk vol = some x ∧ x.content ≠ 7 := by
  have hfirst := finish_runs truncated_lawful sampleCall [] sampleSite
  have hpass : passes (deliversContent 0)
      (finish served sampleCall brokenCall.hist brokenCall.world) := by decide +kernel
  obtain ⟨h',w',report,hr,hd⟩ := passes_runs served_lawful hpass
  obtain ⟨vol,hv,h₀,x,hx,hc⟩ := deliversContent_spec hd
  refine ⟨_,_,h',w',report,vol,.single ⟨(),_,hfirst⟩,hr,sample_sourceHolds,h₀,hv,x,hx,?_⟩
  rw [hc]
  decide

theorem clean_serve (c : DirectCall) (w : Site ℕ) : Clean ⟨c,(serve w c).1,w,(serve w c).2⟩ := by
  cases c with
  | copyContent endpoint source node target =>
    generalize hr : (serve w (.copyContent endpoint source node target)).1 = r
    cases r with
    | ok u => trivial
    | error e => exact .inr rfl
  | _ => trivial

theorem served_clean {α : Type} (p : Prog DirectCall DirectReply α)
    (h : History DirectCall DirectReply (Site ℕ)) (w : Site ℕ) (hh : ∀ e ∈ h, Clean e) :
    ∀ e ∈ (finish served p h w).hist, Clean e := by
  induction p generalizing h w with
  | done a => exact hh
  | call c next ih =>
    apply ih
    intro e he
    rcases List.mem_cons.mp he with rfl | he
    · exact clean_serve c w
    · exact hh e he

theorem snapshot_delivered_complete :
    ∃ report vol x, (finish served sampleCall [] sampleSite).value = .ok report ∧
      report.delivered = some vol ∧
      (finish served sampleCall [] sampleSite).world.disk vol = some x ∧ x.content = 7 := by
  have hpass : passes (deliversContent 7) (finish served sampleCall [] sampleSite) := by
    decide +kernel
  have hr := finish_runs served_lawful sampleCall [] sampleSite
  unfold passes at hpass
  split at hpass
  · rename_i report hreport
    obtain ⟨vol,hv,h₀,_⟩ := deliversContent_spec hpass
    rw [hreport] at hr
    obtain ⟨x,hx,hc⟩ := delivered_copy_complete (i := ()) sampleController
      (fun _ => sampleRequest) (fun _ => by decide +kernel) sample_sourceHolds .refl hr
      (served_clean sampleCall [] sampleSite (fun e he => absurd he List.not_mem_nil)) hv
      (fun x hx => absurd (h₀.symm.trans hx) (by simp))
    exact ⟨report,vol,x,hreport,hv,hx,hc⟩
  · cases hpass

end Samples

end ProxmoxCSI.CompleteCopies
