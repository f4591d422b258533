import ProxmoxCSI.OperatorRecords
import ProxmoxCSI.DirectCalls

/-!
# The stream of capacities

The operator streams the storages a tenant may use, by name and not by region.
The remote controller keeps the last message of every zone and storage and
answers from it. A storage that all nodes share is published without a zone, and
so is never found for the zone of a node.
-/

set_option autoImplicit false

namespace ProxmoxCSI.CapacityStream
open OperatorRecords
open DirectCalls (RpcError Code status)

section Messages

structure WatchCapacityRequest where
  storage : String
  zone : String

structure WatchCapacityResponse where
  storage : String
  zone : String
  availableBytes : ℤ
  totalBytes : ℤ
  shared : Bool
  deriving DecidableEq, Repr

def streamed (t : TenantCluster) (req : WatchCapacityRequest) (ps : ProxmoxStorage) : Bool :=
  ps.storage ∈ t.allowedStorages ∧ (req.storage = "" ∨ ps.storage = req.storage) ∧
    (req.zone = "" ∨ ps.zone = req.zone)

def message (ps : ProxmoxStorage) : WatchCapacityResponse :=
  ⟨ps.storage,ps.zone,ps.availableBytes,ps.totalBytes,ps.shared⟩

def messages (t : TenantCluster) (req : WatchCapacityRequest) (catalog : List ProxmoxStorage) :
    List WatchCapacityResponse := (catalog.filter (streamed t req)).map message

def sendCapacity (t : TenantCluster) (req : WatchCapacityRequest)
    (listing : Except Fault (List ProxmoxStorage)) : Except RpcError (List WatchCapacityResponse) :=
  match listing with
  | .error e => .error (status .internal ("listing storages: " ++ e.text))
  | .ok catalog => .ok (messages t req catalog)

/-- What a watch delivers, one listing a tick, until a listing fails. -/
def watchCapacity (t : TenantCluster) (req : WatchCapacityRequest) :
    List (Except Fault (List ProxmoxStorage)) → List WatchCapacityResponse
  | [] => []
  | listing::listings => match sendCapacity t req listing with
    | .error _ => []
    | .ok sent => sent ++ watchCapacity t req listings

end Messages

section Remote

abbrev Capacities := AList (fun _ : String => WatchCapacityResponse)

def capacityKey (zone storage : String) : String := zone ++ "/" ++ storage

def received (cache : Capacities) (resp : WatchCapacityResponse) : Capacities :=
  cache.insert (capacityKey resp.zone resp.storage) resp

/-- One stream until it ends; whether anything came is the second part. -/
def doWatch (cache : Capacities) (stream : List WatchCapacityResponse) : Capacities × Bool :=
  (stream.foldl received cache,!stream.isEmpty)

def labelTopologyZone : String := "topology.kubernetes.io/zone"

def getCapacity (cache : Capacities) (topology : Option Params) (parameters : Params) :
    Except RpcError ℤ :=
  match topology with
  | none => .error (status .invalidArgument "no topology specified")
  | some segments =>
    if valueOf parameters "storage" = "" then
      .error (status .invalidArgument "storage parameter is required")
    else match cache.lookup (capacityKey (valueOf segments labelTopologyZone)
        (valueOf parameters "storage")) with
      | none => .ok 0
      | some entry => .ok entry.availableBytes

def capacityOf (cache : Capacities) (zone storage : String) : Except RpcError ℤ :=
  getCapacity cache (some ((∅ : Params).insert labelTopologyZone zone))
    ((∅ : Params).insert "storage" storage)

end Remote

section Isolation

def Agree (t : TenantCluster) (c d : List ProxmoxStorage) : Prop :=
  ∀ ps : ProxmoxStorage, ps.region = t.region → ps.storage ∈ t.allowedStorages → (ps ∈ c ↔ ps ∈ d)

def SameMessages (t : TenantCluster) (req : WatchCapacityRequest) (c d : List ProxmoxStorage) : Prop :=
  ∃ sent sent', sendCapacity t req (.ok c) = .ok sent ∧ sendCapacity t req (.ok d) = .ok sent' ∧
    ∀ m, m ∈ sent ↔ m ∈ sent'

def Sends (t : TenantCluster) (req : WatchCapacityRequest) (c : List ProxmoxStorage) (here : Prop)
    (m : WatchCapacityResponse) : Prop :=
  ∃ ps ∈ c, (ps.region = t.region ↔ here) ∧ streamed t req ps ∧ message ps = m

variable {t : TenantCluster} {req : WatchCapacityRequest} {c d : List ProxmoxStorage}
  {m : WatchCapacityResponse}

theorem sameMessages_def :
    SameMessages t req c d ↔ ∀ m, m ∈ messages t req c ↔ m ∈ messages t req d :=
  ⟨fun ⟨_,_,hc,hd,h⟩ => by cases hc; cases hd; exact h,fun h => ⟨_,_,rfl,rfl,h⟩⟩

theorem mem_messages : m ∈ messages t req c ↔ Sends t req c True m ∨ Sends t req c False m := by
  unfold messages Sends
  rw [List.mem_map]
  constructor
  · rintro ⟨ps,hps,rfl⟩
    obtain ⟨hmem,hs⟩ := List.mem_filter.mp hps
    by_cases hr : ps.region = t.region
    · exact .inl ⟨ps,hmem,by simp [hr],hs,rfl⟩
    · exact .inr ⟨ps,hmem,by simp [hr],hs,rfl⟩
  · rintro (⟨ps,hmem,_,hs,rfl⟩ | ⟨ps,hmem,_,hs,rfl⟩)
    · exact ⟨ps,List.mem_filter.mpr ⟨hmem,hs⟩,rfl⟩
    · exact ⟨ps,List.mem_filter.mpr ⟨hmem,hs⟩,rfl⟩

theorem agree_sends (h : Agree t c d) : Sends t req c True m ↔ Sends t req d True m := by
  unfold Sends
  constructor
  · rintro ⟨ps,hmem,hr,hs,rfl⟩
    exact ⟨ps,(h ps (hr.mpr trivial) (of_decide_eq_true hs).1).mp hmem,hr,hs,rfl⟩
  · rintro ⟨ps,hmem,hr,hs,rfl⟩
    exact ⟨ps,(h ps (hr.mpr trivial) (of_decide_eq_true hs).1).mpr hmem,hr,hs,rfl⟩

/-- What another region has of a storage of the same name shows, unless the region itself
has the same to say. -/
theorem sameMessages_iff (h : Agree t c d) : SameMessages t req c d ↔
    ∀ m, ¬Sends t req c True m → (Sends t req c False m ↔ Sends t req d False m) := by
  rw [sameMessages_def]
  constructor
  · intro hs m hn
    have hm := hs m
    rw [mem_messages, mem_messages, ← agree_sends h] at hm
    simpa [hn] using hm
  · intro hs m
    rw [mem_messages, mem_messages, ← agree_sends h]
    by_cases hn : Sends t req c True m
    · simp [hn]
    · simp [hn, hs m hn]

end Isolation

section Answers

/-- What a listing tells of a storage besides its figures. -/
structure Place where
  region : String
  zone : String
  storage : String
  shared : Bool
  deriving DecidableEq, Repr

def place (ps : ProxmoxStorage) : Place := ⟨ps.region,ps.zone,ps.storage,ps.shared⟩

def serves (t : TenantCluster) (zone storage : String) (p : Place) : Bool :=
  p.region = t.region ∧ p.storage = storage ∧ storage ∈ t.allowedStorages ∧ (p.zone = zone ∨ p.shared)

def keyed (t : TenantCluster) (zone storage : String) (p : Place) : Bool :=
  p.storage ∈ t.allowedStorages ∧ capacityKey p.zone p.storage = capacityKey zone storage

def published : List (Except Fault (List ProxmoxStorage)) → List ProxmoxStorage
  | .ok catalog::listings => catalog ++ published listings
  | _ => []

def lastPublished (t : TenantCluster) (listings : List (Except Fault (List ProxmoxStorage)))
    (zone storage : String) : Option ProxmoxStorage :=
  (published listings).reverse.find? (fun ps => serves t zone storage (place ps))

def Right (t : TenantCluster) (listings : List (Except Fault (List ProxmoxStorage)))
    (zone storage : String) : Prop :=
  ∀ e, lastPublished t listings zone storage = some e →
    capacityOf (doWatch ∅ (watchCapacity t ⟨"",""⟩ listings)).1 zone storage = .ok e.availableBytes

/-- The last entry of the region that serves the zone is listed for that zone itself, and no
entry of an allowed storage with the same key is listed behind it. -/
def Foremost (t : TenantCluster) (zone storage : String) (places : List Place) : Prop :=
  ∀ before p behind, places = before ++ p::behind → serves t zone storage p →
    (∀ q ∈ behind, serves t zone storage q = false) →
    p.zone = zone ∧ ∀ q ∈ behind, q.storage ∈ t.allowedStorages →
      capacityKey q.zone q.storage ≠ capacityKey zone storage

variable {t : TenantCluster} {cache : Capacities} {key zone storage : String}
  {stream : List WatchCapacityResponse} {listings : List (Except Fault (List ProxmoxStorage))}

theorem lookup_doWatch : (doWatch cache stream).1.lookup key =
    (stream.reverse.find? (fun m => capacityKey m.zone m.storage = key)).or (cache.lookup key) := by
  induction stream generalizing cache with
  | nil => rfl
  | cons m stream ih =>
    have hcons : (doWatch cache (m::stream)).1 = (doWatch (received cache m) stream).1 := rfl
    rw [hcons, ih, List.reverse_cons, List.find?_append, Option.or_assoc]
    congr 1
    by_cases hk : capacityKey m.zone m.storage = key
    · simp [received, hk]
    · rw [received, AList.lookup_insert_ne (fun h => hk h.symm)]
      simp [hk]

theorem watchCapacity_eq : watchCapacity t ⟨"",""⟩ listings =
    ((published listings).filter (fun ps => ps.storage ∈ t.allowedStorages)).map message := by
  have hs : streamed t ⟨"",""⟩ = fun ps => decide (ps.storage ∈ t.allowedStorages) := by
    funext ps
    simp [streamed]
  induction listings with
  | nil => rfl
  | cons listing listings ih =>
    cases listing with
    | error e => rfl
    | ok catalog =>
      rw [published, List.filter_append, List.map_append, ← ih, ← hs]
      rfl

/-- The answer is the figure of the last entry under the key. -/
theorem capacityOf_eq (hs : storage ≠ "") :
    capacityOf (doWatch ∅ (watchCapacity t ⟨"",""⟩ listings)).1 zone storage =
      .ok ((((published listings).reverse.find? (fun ps => keyed t zone storage (place ps))).map
        ProxmoxStorage.availableBytes).getD 0) := by
  have hz : valueOf ((∅ : Params).insert labelTopologyZone zone) labelTopologyZone = zone := by
    rw [valueOf, AList.lookup_insert]
    rfl
  have hst : valueOf ((∅ : Params).insert "storage" storage) "storage" = storage := by
    rw [valueOf, AList.lookup_insert]
    rfl
  have hfind : (watchCapacity t ⟨"",""⟩ listings).reverse.find?
      (fun m => capacityKey m.zone m.storage = capacityKey zone storage) =
      ((published listings).reverse.find? (fun ps => keyed t zone storage (place ps))).map
        message := by
    rw [watchCapacity_eq, ← List.map_reverse, ← List.filter_reverse, List.find?_map, List.find?_filter]
    congr 2
    funext ps
    exact decide_eq_decide.mpr (and_congr decide_eq_true_iff decide_eq_true_iff)
  unfold capacityOf getCapacity
  simp only [hz, hst, if_neg hs, lookup_doWatch, hfind]
  cases (published listings).reverse.find? (fun ps => keyed t zone storage (place ps)) with
  | none => rfl
  | some ps => rfl

theorem foremost_right (hs : storage ≠ "")
    (h : Foremost t zone storage ((published listings).map place)) :
      Right t listings zone storage := by
  intro e he
  obtain ⟨hserves,before,behind,hsplit,hnone⟩ := List.find?_eq_some_iff_append.mp he
  have hlist : published listings = behind.reverse ++ e::before.reverse := by
    rw [← List.reverse_reverse (published listings), hsplit]
    simp
  obtain ⟨hzone,hlast⟩ := h (behind.reverse.map place) (place e) (before.reverse.map place)
    (by rw [hlist]; simp) hserves (by simpa using hnone)
  obtain ⟨_,hstorage,hallowed,_⟩ := of_decide_eq_true hserves
  have hkey : keyed t zone storage (place e) := by
    simp only [keyed, hzone, hstorage, hallowed, and_self, decide_true]
  have hbefore : before.find? (fun ps => keyed t zone storage (place ps)) = none := by
    rw [List.find?_eq_none]
    intro q hq hk
    obtain ⟨ha,hk⟩ := of_decide_eq_true hk
    exact hlast (place q) (by simpa using ⟨q,hq,rfl⟩) ha hk
  rw [capacityOf_eq hs, hsplit, List.find?_append, hbefore, Option.none_or, List.find?_cons, hkey]
  rfl

def figured (n : ℤ) (p : Place) : ProxmoxStorage := ⟨p.region,p.zone,p.storage,p.shared,"",n,n⟩

@[simp] theorem place_figured (n : ℤ) (p : Place) : place (figured n p) = p := rfl

@[simp] theorem figured_bytes (n : ℤ) (p : Place) : (figured n p).availableBytes = n := rfl

theorem find_figured (n : ℤ) (ps : List Place) (f : Place → Bool) :
    (ps.map (figured n)).reverse.find? (fun x => f (place x)) = (ps.reverse.find? f).map
      (figured n) := by
  rw [← List.map_reverse, List.find?_map]
  rfl

/-- The entry that counts shows something, all others nothing. -/
theorem right_foremost (hs : storage ≠ "") {places : List Place}
    (h : ∀ listings, (published listings).map place = places → Right t listings zone storage) :
    Foremost t zone storage places := by
  rintro before p behind rfl hserves hnone
  have hpublished : published [.ok (before.map (figured 0) ++ figured 1 p::behind.map (figured 0))] =
      before.map (figured 0) ++ figured 1 p::behind.map (figured 0) := List.append_nil _
  have hanswer := h [.ok (before.map (figured 0) ++ figured 1 p::behind.map (figured 0))]
    (by rw [hpublished]; simp [Function.comp_def]) (figured 1 p) (by
      rw [lastPublished, hpublished, List.reverse_append, List.reverse_cons, List.append_assoc,
        List.find?_append, find_figured, List.find?_eq_none.mpr (by simpa using hnone)]
      simp [hserves])
  rw [capacityOf_eq hs, hpublished, List.reverse_append, List.reverse_cons, List.append_assoc,
    List.find?_append, find_figured, List.find?_append, find_figured] at hanswer
  obtain ⟨_,hstorage,hallowed,_⟩ := of_decide_eq_true hserves
  cases hb : behind.reverse.find? (keyed t zone storage) with
  | some q => simp [hb] at hanswer
  | none =>
    by_cases hk : keyed t zone storage p
    · refine ⟨?_,?_⟩
      · have hkey := congrArg String.toList (of_decide_eq_true hk).2
        simp only [capacityKey, hstorage, String.toList_append, List.append_cancel_right_eq] at hkey
        exact String.toList_inj.mp hkey
      · intro q hq ha hkey
        exact List.find?_eq_none.mp hb q (List.mem_reverse.mpr hq) (decide_eq_true ⟨ha,hkey⟩)
    · cases ha : before.reverse.find? (keyed t zone storage) <;>
        simp [hb, ha, hk] at hanswer

end Answers

section Result

/-- Two catalogs that agree for the tenant are told apart by what other regions have under
the same names. The answer for a zone and a storage is right whatever the listed storages have
left exactly when the last one that serves the zone is also the last one under its key. -/
theorem stream_isolated_iff (t : TenantCluster) :
    (∀ req c d, Agree t c d → (SameMessages t req c d ↔
      ∀ m, ¬Sends t req c True m → (Sends t req c False m ↔ Sends t req d False m))) ∧
    (∀ zone storage places, storage ≠ "" →
      ((∀ listings, (published listings).map place = places → Right t listings zone storage) ↔
        Foremost t zone storage places)) :=
  ⟨fun _ _ _ h => sameMessages_iff h,fun _ _ _ hs => ⟨right_foremost hs,
    fun h _ hl => foremost_right hs (hl ▸ h)⟩⟩

def sampleTenant : TenantCluster :=
  { blueTenant with allowedStorages := ["local","ceph"] }

def ownCatalog : List ProxmoxStorage := [⟨"r1","n1","local",false,"lvmthin",100,60⟩]

def mixedCatalog : List ProxmoxStorage := ownCatalog ++ [⟨"r2","n9","local",false,"lvmthin",100,5⟩]

theorem stream_isolated_iff_node :
    Foremost sampleTenant "n1" "local" (mixedCatalog.map place) ∧
    lastPublished sampleTenant [.ok mixedCatalog] "n1" "local" =
      some ⟨"r1","n1","local",false,"lvmthin",100,60⟩ ∧
    capacityOf (doWatch ∅ (watchCapacity sampleTenant ⟨"",""⟩ [.ok mixedCatalog])).1 "n1" "local" =
      .ok 60 := by
  have hf : Foremost sampleTenant "n1" "local" (mixedCatalog.map place) := by
    rintro before p behind hsplit hserves hnone
    rcases before with _ | ⟨x,before⟩
    · obtain ⟨rfl,rfl⟩ := List.cons.inj hsplit
      exact ⟨rfl,by decide⟩
    · rcases before with _ | ⟨y,before⟩
      · obtain ⟨_,hrest⟩ := List.cons.inj hsplit
        obtain ⟨rfl,_⟩ := List.cons.inj hrest
        exact absurd hserves (by decide)
      · simp [mixedCatalog, ownCatalog] at hsplit
  exact ⟨hf,rfl,((stream_isolated_iff sampleTenant).2 "n1" "local" _ (by decide)).mpr hf
    [.ok mixedCatalog] rfl _ rfl⟩

def wideCatalog : List ProxmoxStorage := ownCatalog ++ [⟨"r2","n1","local",false,"lvmthin",100,5⟩]

def sharedCatalog : List ProxmoxStorage := [⟨"r1","","ceph",true,"rbd",1000,700⟩]

/-- A foreign storage is streamed and answered for, and a shared one is answered with nothing. -/
theorem foreign_storage_streamed :
    (Agree sampleTenant ownCatalog wideCatalog ∧
      ¬SameMessages sampleTenant ⟨"",""⟩ ownCatalog wideCatalog) ∧
    (lastPublished sampleTenant [.ok wideCatalog] "n1" "local" =
        some ⟨"r1","n1","local",false,"lvmthin",100,60⟩ ∧
      capacityOf (doWatch ∅ (watchCapacity sampleTenant ⟨"",""⟩ [.ok wideCatalog])).1 "n1" "local" =
        .ok 5) ∧
    (lastPublished sampleTenant [.ok sharedCatalog] "n1" "ceph" =
        some ⟨"r1","","ceph",true,"rbd",1000,700⟩ ∧
      capacityOf (doWatch ∅ (watchCapacity sampleTenant ⟨"",""⟩ [.ok sharedCatalog])).1 "n1" "ceph" =
        .ok 0) := by
  refine ⟨⟨?_,?_⟩,⟨rfl,by rfl⟩,⟨rfl,by rfl⟩⟩
  · intro ps hr _
    simp only [wideCatalog, List.mem_append, List.mem_singleton, iff_self_or]
    rintro rfl
    exact absurd hr (by decide)
  · intro h
    have hm := (sameMessages_def.mp h ⟨"local","n1",5,100,false⟩).mpr (by decide)
    exact absurd hm (by decide)

end Result

end ProxmoxCSI.CapacityStream
