import Mathlib.Data.List.AList
import ProxmoxCSI.CallSchedule
import ProxmoxCSI.CatalogNames

/-!
# Publishing the storages

A region's storages are written to the catalog one by one, and what the region no
longer lists is removed, unless something could not be read or written.

Times of the objects, their generations and further labels are not modelled.
-/

set_option autoImplicit false

namespace ProxmoxCSI.CatalogSync
open CallProgram CallProgram.Prog CallSafety CallSchedule CatalogNames

/-- A storage as Proxmox reports it. -/
structure Storage where
  region : Bytes
  zone : Bytes
  name : Bytes
  shared : Bool
  pluginType : String
  types : List String
  active : Bool
  totalBytes : ℤ
  availableBytes : ℤ
  usedBytes : ℤ
  statusErr : Option String
  deriving DecidableEq

structure StorageSpec where
  region : Bytes
  zone : Bytes
  storage : Bytes
  shared : Bool
  pluginType : String
  types : List String
  deriving DecidableEq

/-- The condition is that of readiness: its status, reason and message. -/
structure StorageStatus where
  active : Bool
  totalBytes : ℤ
  availableBytes : ℤ
  usedBytes : ℤ
  ready : Option (Bool × String × String)
  deriving DecidableEq

structure ProxmoxStorage where
  labelRegion : Option Bytes
  labelStorage : Option Bytes
  spec : StorageSpec
  status : StorageStatus
  deriving DecidableEq

def Storage.place (s : Storage) : Coordinate := ⟨s.region,s.zone,s.name⟩

def ProxmoxStorage.place (o : ProxmoxStorage) : Coordinate :=
  ⟨o.spec.region,o.spec.zone,o.spec.storage⟩

section Labels

def labelPermitted (c : UInt8) : Bool := alnum c || (65 ≤ c && c ≤ 90) || c == dash || c == dot || c
    == 95

def labelEdge (c : UInt8) : Bool := c == dash || c == dot || c == 95

def trimLabel (s : Bytes) : Bytes := (s.dropWhile labelEdge).rdropWhile labelEdge

def maxLabelLength : ℕ := 63

def labelValue (s : Bytes) : Bytes :=
  let value := trimLabel (s.map (fun c => if labelPermitted c then c else dash))
  if maxLabelLength < value.length then trimLabel (value.take maxLabelLength) else value

end Labels

section Calls

structure Fault where
  notFound : Bool
  text : String

inductive CatalogCall where
  | listStorages (region : Bytes)
  | get (name : Bytes)
  | create (name : Bytes) (o : ProxmoxStorage)
  | update (name : Bytes) (o : ProxmoxStorage)
  | updateStatus (name : Bytes) (status : StorageStatus)
  | list (labelRegion : Bytes)
  | delete (name : Bytes)

def CatalogAnswer : CatalogCall → Type
  | .listStorages _ => List Storage
  | .get _ => ProxmoxStorage
  | .list _ => List (Bytes × ProxmoxStorage)
  | _ => Unit

abbrev CatalogReply (c : CatalogCall) := Except Fault (CatalogAnswer c)

abbrev Catalog := AList (fun _ : Bytes => ProxmoxStorage)

/-- The catalog, and what the regions list. Every storage is listed by its region. -/
structure Site where
  catalog : Catalog
  storages : Bytes → Except String (List Storage)
  stamped : ∀ r ss, storages r = .ok ss → ∀ s ∈ ss, s.region = r

def blank : StorageStatus := ⟨false,0,0,0,none⟩

def absent : Fault := ⟨true,"not found"⟩

def Site.put (w : Site) (k : Catalog) : Site := { w with catalog := k }

def answer (w : Site) : (c : CatalogCall) → CatalogReply c × Site
  | .listStorages r => ((w.storages r).mapError (fun text => ⟨false,text⟩),w)
  | .get n => match w.catalog.lookup n with
    | some o => (.ok o,w)
    | none => (.error absent,w)
  | .create n o => match w.catalog.lookup n with
    | some _ => (.error ⟨false,"already exists"⟩,w)
    | none => (.ok (),w.put (w.catalog.insert n { o with status := blank }))
  | .update n o => match w.catalog.lookup n with
    | some old => (.ok (),w.put (w.catalog.insert n { o with status := old.status }))
    | none => (.error absent,w)
  | .updateStatus n status => match w.catalog.lookup n with
    | some old => (.ok (),w.put (w.catalog.insert n { old with status := status }))
    | none => (.error absent,w)
  | .list label => (.ok ((w.catalog.entries.filter (fun e => e.2.labelRegion = some label)).map
      (fun e => (e.1,e.2))),w)
  | .delete n => match w.catalog.lookup n with
    | some _ => (.ok (),w.put (w.catalog.erase n))
    | none => (.error absent,w)

/-- A call is answered, refused, or answered by an error after it took effect. -/
inductive Fate where
  | served
  | refused (e : Fault)
  | lost (e : Fault)

def struck (fate : ℕ → Fate) : Schedule CatalogCall CatalogReply Site :=
  ⟨fun _ w => w,fun n c w => match fate n with
    | .served => answer w c
    | .refused e => (.error e,w)
    | .lost e => (.error e,(answer w c).2)⟩

def served : Schedule CatalogCall CatalogReply Site := ⟨fun _ w => w,fun _ c w => answer w c⟩

end Calls

inductive SyncError where
  | storages (text : String)
  | publishing (name : Bytes) (text : String)
  | listing (region : Bytes) (text : String)
  | removing (name : Bytes) (text : String)

section Program

abbrev Sync := Prog CatalogCall CatalogReply

def specified (s : Storage) (o : ProxmoxStorage) : ProxmoxStorage :=
  { o with
    labelRegion := some (labelValue s.region)
    labelStorage := some (labelValue s.name)
    spec := ⟨s.region,s.zone,s.name,s.shared,s.pluginType,s.types⟩ }

def readyCondition (s : Storage) : Bool × String × String :=
  match s.statusErr with
  | some text => (false,"ProxmoxError",text)
  | none =>
    if s.active then (true,"Accepted","storage is active")
    else (false,"ProxmoxError","storage is not active on this node")

def statusOf (s : Storage) : StorageStatus :=
  ⟨s.active,s.totalBytes,s.availableBytes,s.usedBytes,some (readyCondition s)⟩

variable (R : Renderer)

def nameOf (s : Storage) : Bytes := objectName R s.place

def andThen (c : CatalogCall) (next : Sync (Except String Unit)) : Sync (Except String Unit) :=
  .call c (fun r : CatalogReply c => match r with
    | .ok _ => next
    | .error e => .done (.error e.text))

def upsert (s : Storage) : Sync (Except String Unit) :=
  let status := andThen (.updateStatus (nameOf R s) (statusOf s)) (.done (.ok ()))
  .call (.get (nameOf R s)) (fun r : Except Fault ProxmoxStorage => match r with
    | .ok old =>
      if specified s old = old then status
      else andThen (.update (nameOf R s) (specified s old)) status
    | .error e =>
      if e.notFound then
        andThen (.create (nameOf R s) (specified s ⟨none,none,⟨[],[],[],false,"",[]⟩,blank⟩)) status
      else .done (.error e.text))

def upsertAll : List Storage → Sync (List SyncError)
  | [] => .done []
  | s :: ss => do
    let x ← upsert R s
    let errs ← upsertAll ss
    match x with
    | .ok _ => .done errs
    | .error text => .done (.publishing (nameOf R s) text :: errs)

def removeAll (region : Bytes) (published : List Bytes) :
    List (Bytes × ProxmoxStorage) → Sync (List SyncError)
  | [] => .done []
  | (n,o) :: items =>
    if o.spec.region ≠ region then removeAll region published items
    else if n ∈ published then removeAll region published items
    else .call (.delete n) (fun r : CatalogReply (.delete n) => do
      let errs ← removeAll region published items
      match r with
      | .ok _ => .done errs
      | .error e => .done (if e.notFound then errs else .removing n e.text :: errs))

def prune (region : Bytes) (published : List Bytes) : Sync (List SyncError) :=
  .call (.list (labelValue region)) (fun r => match r with
    | .ok items => removeAll region published items
    | .error e => .done [.listing region e.text])

def publish (region : Bytes) (ss : List Storage) : Sync (List SyncError) := do
  let errs ← upsertAll R ss
  if errs.isEmpty then prune region (ss.map (nameOf R)) else .done errs

def syncRegion (region : Bytes) : Sync (List SyncError) :=
  .call (.listStorages region) (fun r => match r with
    | .ok ss => publish R region ss
    | .error e => .done [.storages e.text])

def sync : List Bytes → Sync (List (List SyncError))
  | [] => .done []
  | region :: regions => do
    let errs ← syncRegion R region
    let rest ← sync regions
    .done (errs :: rest)

end Program

section Served

variable {R : Renderer} {w : Site}

def published (s : Storage) : ProxmoxStorage :=
  ⟨some (labelValue s.region),some (labelValue s.name),
    ⟨s.region,s.zone,s.name,s.shared,s.pluginType,s.types⟩,statusOf s⟩

theorem served_call {α : Type} {c : CatalogCall} {next : CatalogReply c → Sync α}
    {r : CatalogReply c} {w₁ w₂ : Site} {a : α} (hc : answer w c = (r,w₁))
    (hn : Evaluates served (next r) w₁ a w₂) : Evaluates served (.call c next) w a w₂ :=
  evaluates_call (fun _ => hc) hn

theorem lookup_written (k : Catalog) (m : Bytes) (o : ProxmoxStorage) (n : Bytes) :
    (k.insert m o).lookup n = if n = m then some o else k.lookup n := by
  split
  · rename_i he
    rw [he, AList.lookup_insert]
  · rename_i he
    rw [AList.lookup_insert_ne he]

theorem status_served {s : Storage} {o : ProxmoxStorage}
    (ho : w.catalog.lookup (nameOf R s) = some (specified s o)) :
    ∃ k : Catalog, Evaluates served (andThen (.updateStatus (nameOf R s) (statusOf s))
        (.done (.ok ()))) w (.ok ()) (w.put k) ∧
      ∀ n, k.lookup n = if n = nameOf R s then some (published s) else w.catalog.lookup n := by
  refine ⟨_,served_call (c := .updateStatus (nameOf R s) (statusOf s)) (r := .ok ()) ?_
    (evaluates_done _),lookup_written w.catalog _ (published s)⟩
  rw [answer, ho]
  rfl

theorem written_served {s : Storage} {o : ProxmoxStorage} {c : CatalogCall}
    (hc : ∃ x : CatalogAnswer c,
      answer w c = (.ok x,w.put (w.catalog.insert (nameOf R s) (specified s o)))) :
    ∃ k : Catalog, Evaluates served (andThen c (andThen (.updateStatus (nameOf R s) (statusOf s))
        (.done (.ok ())))) w (.ok ()) (w.put k) ∧
      ∀ n, k.lookup n = if n = nameOf R s then some (published s) else w.catalog.lookup n := by
  obtain ⟨x,hc⟩ := hc
  obtain ⟨k,h,hk⟩ := status_served (R := R) (s := s) (o := o)
    (w := w.put (w.catalog.insert (nameOf R s) (specified s o))) (AList.lookup_insert _)
  refine ⟨k,served_call hc h,fun n => ?_⟩
  rw [hk]
  split
  · rfl
  · rename_i hn
    exact (lookup_written _ _ _ n).trans (if_neg hn)

/-- A storage that is written changes the object of its name, and no other. -/
theorem upsert_served (R : Renderer) (s : Storage) (w : Site) :
    ∃ k : Catalog, Evaluates served (upsert R s) w (.ok ()) (w.put k) ∧
      ∀ n, k.lookup n = if n = nameOf R s then some (published s) else w.catalog.lookup n := by
  cases hl : w.catalog.lookup (nameOf R s) with
  | none =>
    have hg : answer w (.get (nameOf R s)) = (.error absent,w) := by rw [answer, hl]
    obtain ⟨k,h,hk⟩ := written_served (R := R) (s := s) (w := w)
      (o := ⟨none,none,⟨[],[],[],false,"",[]⟩,blank⟩) (c := .create (nameOf R s) (specified s
        ⟨none,none,⟨[],[],[],false,"",[]⟩,blank⟩)) ⟨(),by rw [answer, hl]; rfl⟩
    exact ⟨k,served_call hg h,hk⟩
  | some old =>
    have hg : answer w (.get (nameOf R s)) = (.ok old,w) := by rw [answer, hl]
    by_cases he : specified s old = old
    · obtain ⟨k,h,hk⟩ := status_served (R := R) (s := s) (o := old) (he.symm ▸ hl)
      refine ⟨k,served_call hg ?_,hk⟩
      simp only [he]
      exact h
    · obtain ⟨k,h,hk⟩ := written_served (R := R) (s := s) (w := w) (o := old)
        (c := .update (nameOf R s) (specified s old)) ⟨(),by rw [answer, hl]; rfl⟩
      refine ⟨k,served_call hg ?_,hk⟩
      simp only [he, if_false]
      exact h

theorem upsertAll_served (R : Renderer) (ss : List Storage) (w : Site)
    (hn : (ss.map (nameOf R)).Nodup) :
    ∃ k : Catalog, Evaluates served (upsertAll R ss) w [] (w.put k) ∧ ∀ n o,
      k.lookup n = some o ↔ (∃ s ∈ ss, n = nameOf R s ∧ o = published s) ∨
        (n ∉ ss.map (nameOf R) ∧ w.catalog.lookup n = some o) := by
  induction ss generalizing w with
  | nil => exact ⟨w.catalog,evaluates_done _,fun n o => by simp⟩
  | cons s ss ih =>
    obtain ⟨k₁,h₁,hk₁⟩ := upsert_served R s w
    obtain ⟨hs,hn⟩ := List.nodup_cons.mp hn
    obtain ⟨k,h,hk⟩ := ih (w.put k₁) hn
    refine ⟨k,evaluates_bind h₁ (evaluates_bind h (evaluates_done _)),fun n o => ?_⟩
    rw [hk, show (w.put k₁).catalog.lookup n = k₁.lookup n from rfl, hk₁]
    by_cases he : n = nameOf R s
    · subst he
      have hno : ∀ t ∈ ss, nameOf R s ≠ nameOf R t :=
        fun t ht he => hs (List.mem_map.mpr ⟨t,ht,he.symm⟩)
      constructor
      · rintro (⟨t,ht,hname,_⟩ | ⟨_,ho⟩)
        · exact absurd hname (hno t ht)
        · rw [if_pos rfl] at ho
          cases ho
          exact .inl ⟨s,List.mem_cons_self,rfl,rfl⟩
      · rintro (⟨t,ht,hname,ho⟩ | ⟨hn',_⟩)
        · rcases List.mem_cons.mp ht with rfl | ht
          · exact .inr ⟨hs,by rw [if_pos rfl, ho]⟩
          · exact absurd hname (hno t ht)
        · exact absurd List.mem_cons_self hn'
    · rw [if_neg he]
      simp only [List.map_cons, List.mem_cons, he, false_or, exists_eq_or_imp, false_and]

theorem delete_served (n : Bytes) (w : Site) : ∃ r : CatalogReply (.delete n), ∃ k : Catalog,
    answer w (.delete n) = (r,w.put k) ∧ (∀ e, r = .error e → e.notFound = true) ∧
      ∀ m, k.lookup m = if m = n then none else w.catalog.lookup m := by
  cases hl : w.catalog.lookup n with
  | none =>
    refine ⟨.error absent,w.catalog,by rw [answer, hl]; rfl,?_,fun m => ?_⟩
    · rintro e ⟨⟩
      rfl
    split
    · rename_i he
      rw [he, hl]
    · rfl
  | some o =>
    refine ⟨.ok (),w.catalog.erase n,by rw [answer, hl],?_,fun m => ?_⟩
    · rintro e ⟨⟩
    split
    · rename_i he
      rw [he, AList.lookup_erase]
    · rename_i he
      rw [AList.lookup_erase_ne he]

theorem removeAll_served (region : Bytes) (names : List Bytes)
    (items : List (Bytes × ProxmoxStorage)) (w : Site) :
    ∃ k : Catalog, Evaluates served (removeAll region names items) w [] (w.put k) ∧ ∀ n o,
      k.lookup n = some o ↔ w.catalog.lookup n = some o ∧
        ¬∃ x, (n,x) ∈ items ∧ x.spec.region = region ∧ n ∉ names := by
  induction items generalizing w with
  | nil => exact ⟨w.catalog,evaluates_done _,fun n o => by simp⟩
  | cons item items ih =>
    obtain ⟨m,x⟩ := item
    by_cases hdel : x.spec.region = region ∧ m ∉ names
    · obtain ⟨hr,hm⟩ := hdel
      obtain ⟨r,k₁,hans,hnf,hk₁⟩ := delete_served m w
      obtain ⟨k,h,hk⟩ := ih (w.put k₁)
      refine ⟨k,?_,fun n o => ?_⟩
      · rw [removeAll, if_neg (not_not_intro hr), if_neg hm]
        refine served_call hans (evaluates_bind h ?_)
        cases r with
        | ok _ => exact evaluates_done _
        | error e =>
          simp only [hnf e rfl, if_true]
          exact evaluates_done _
      · rw [hk, show (w.put k₁).catalog.lookup n = k₁.lookup n from rfl, hk₁]
        by_cases he : n = m
        · subst he
          refine iff_of_false (fun h => by simp at h) ?_
          rintro ⟨_,hno⟩
          exact hno ⟨x,List.mem_cons_self,hr,hm⟩
        · simp only [he, if_false, List.mem_cons, Prod.mk.injEq, false_and, false_or]
    · obtain ⟨k,h,hk⟩ := ih w
      refine ⟨k,?_,fun n o => ?_⟩
      · rw [removeAll]
        by_cases hr : x.spec.region = region
        · rw [if_neg (not_not_intro hr), if_pos (not_not.mp fun hm => hdel ⟨hr,hm⟩)]
          exact h
        · rw [if_pos hr]
          exact h
      · rw [hk]
        refine and_congr_right fun _ => not_congr ⟨?_,?_⟩
        · rintro ⟨y,hy,hrest⟩
          exact ⟨y,List.mem_cons_of_mem _ hy,hrest⟩
        · rintro ⟨y,hy,hrest⟩
          rcases List.mem_cons.mp hy with he | hy
          · cases he
            exact absurd hrest hdel
          · exact ⟨y,hy,hrest⟩

end Served

section Region

/-- The objects are as they are written: under their own name, with their own labels. -/
structure Published (R : Renderer) (k : Catalog) : Prop where
  named : ∀ n o, k.lookup n = some o → n = objectName R o.place
  labelled : ∀ n o, k.lookup n = some o → o.labelRegion = some (labelValue o.spec.region) ∧
    o.labelStorage = some (labelValue o.spec.storage)

def Known (w : Site) (regions : List Bytes) (c : Coordinate) : Prop :=
  (∃ n o, w.catalog.lookup n = some o ∧ o.place = c) ∨
    ∃ r ∈ regions, ∃ ss, w.storages r = .ok ss ∧ ∃ s ∈ ss, s.place = c

structure Separate (R : Renderer) (w : Site) (regions : List Bytes) : Prop where
  names : ∀ c c', Known w regions c → Known w regions c' → objectName R c = objectName R c' → c = c'
  listed : ∀ r ∈ regions, ∀ ss, w.storages r = .ok ss → (ss.map Storage.place).Nodup

def Listed (R : Renderer) (w : Site) (r n : Bytes) (o : ProxmoxStorage) : Prop :=
  ∃ ss, w.storages r = .ok ss ∧ ∃ s ∈ ss, n = nameOf R s ∧ o = published s

/-- The objects of the region are what it lists, and those of other regions are as before. -/
structure Exact (R : Renderer) (w : Site) (r : Bytes) (k : Catalog) : Prop where
  region : ∀ n o, o.spec.region = r → (k.lookup n = some o ↔ Listed R w r n o)
  others : ∀ n o, o.spec.region ≠ r → (k.lookup n = some o ↔ w.catalog.lookup n = some o)

variable {R : Renderer} {w : Site} {r : Bytes} {ss : List Storage}

theorem names_nodup {regions : List Bytes} (hs : Separate R w regions) (hr : r ∈ regions)
    (hl : w.storages r = .ok ss) : (ss.map (nameOf R)).Nodup := by
  have hmap : ss.map (nameOf R) = (ss.map Storage.place).map (objectName R) := by
    rw [List.map_map]
    rfl
  rw [hmap]
  refine List.Nodup.map_on ?_ (hs.listed r hr ss hl)
  intro c hc c' hc' he
  obtain ⟨s,hm,rfl⟩ := List.mem_map.mp hc
  obtain ⟨s',hm',rfl⟩ := List.mem_map.mp hc'
  exact hs.names _ _ (.inr ⟨r,hr,ss,hl,s,hm,rfl⟩) (.inr ⟨r,hr,ss,hl,s',hm',rfl⟩) he

theorem syncRegion_exact {regions : List Bytes} (hp : Published R w.catalog)
    (hs : Separate R w regions) (hr : r ∈ regions) (hl : w.storages r = .ok ss) :
    ∃ k, Evaluates served (syncRegion R r) w [] (w.put k) ∧ Exact R w r k := by
  obtain ⟨k₁,h₁,hk₁⟩ := upsertAll_served R ss w (names_nodup hs hr hl)
  obtain ⟨k,h,hk⟩ := removeAll_served r (ss.map (nameOf R))
    ((k₁.entries.filter (fun e => e.2.labelRegion = some (labelValue r))).map
      (fun e => (e.1,e.2))) (w.put k₁)
  have hitem : ∀ n x, (n,x) ∈ (k₁.entries.filter (fun e => e.2.labelRegion =
      some (labelValue r))).map (fun e => (e.1,e.2)) ↔
      k₁.lookup n = some x ∧ x.labelRegion = some (labelValue r) := by
    intro n x
    simp only [List.mem_map, List.mem_filter, decide_eq_true_eq, Prod.mk.injEq]
    constructor
    · rintro ⟨⟨m,y⟩,⟨hm,hlab⟩,rfl,rfl⟩
      exact ⟨AList.mem_lookup_iff.mpr hm,hlab⟩
    · rintro ⟨hm,hlab⟩
      exact ⟨⟨n,x⟩,⟨AList.mem_lookup_iff.mp hm,hlab⟩,rfl,rfl⟩
  have hfinal : ∀ n o, k.lookup n = some o ↔ k₁.lookup n = some o ∧
      ¬∃ x, (k₁.lookup n = some x ∧ x.labelRegion = some (labelValue r)) ∧ x.spec.region = r ∧
        n ∉ ss.map (nameOf R) := by
    intro n o
    rw [hk, show (w.put k₁).catalog = k₁ from rfl]
    simp only [hitem]
  refine ⟨k,?_,?_,?_⟩
  · have hlist : answer w (.listStorages r) = (.ok ss,w) := by
      rw [answer, hl]
      rfl
    refine served_call hlist (evaluates_bind h₁ ?_)
    exact served_call rfl h
  · intro n o ho
    rw [hfinal, hk₁]
    constructor
    · rintro ⟨⟨s,hm,hname,hobj⟩ | ⟨hn,hold⟩,hkept⟩
      · exact ⟨ss,hl,s,hm,hname,hobj⟩
      · refine absurd ⟨o,⟨(hk₁ n o).mpr (.inr ⟨hn,hold⟩),?_⟩,ho,hn⟩ hkept
        rw [← ho]
        exact (hp.labelled n o hold).1
    · rintro ⟨ss',hl',s,hm,hname,hobj⟩
      cases hl.symm.trans hl'
      refine ⟨.inl ⟨s,hm,hname,hobj⟩,?_⟩
      rintro ⟨_,_,_,hn⟩
      exact hn (List.mem_map.mpr ⟨s,hm,hname.symm⟩)
  · intro n o ho
    rw [hfinal, hk₁]
    constructor
    · rintro ⟨⟨s,hm,_,rfl⟩ | ⟨_,hold⟩,_⟩
      · exact absurd (w.stamped r ss hl s hm) ho
      · exact hold
    · intro hold
      have hn : n ∉ ss.map (nameOf R) := by
        intro hmem
        obtain ⟨s,hm,hname⟩ := List.mem_map.mp hmem
        have hc := hs.names o.place s.place (.inl ⟨n,o,hold,rfl⟩) (.inr ⟨r,hr,ss,hl,s,hm,rfl⟩)
          ((hp.named n o hold).symm.trans hname.symm)
        exact ho ((congrArg Coordinate.region hc).trans (w.stamped r ss hl s hm))
      refine ⟨.inr ⟨hn,hold⟩,?_⟩
      rintro ⟨x,⟨hx,_⟩,hreg,_⟩
      rcases (hk₁ n x).mp hx with ⟨s,hm,hname,_⟩ | ⟨_,hx⟩
      · exact hn (List.mem_map.mpr ⟨s,hm,hname.symm⟩)
      · cases hold.symm.trans hx
        exact ho hreg

/-- A region that cannot be read is left alone, whatever becomes of the calls. -/
theorem syncRegion_unread (R : Renderer) (fate : ℕ → Fate) (w : Site)
    (h : (∃ text, w.storages r = .error text) ∨ fate 0 ≠ .served) :
    (finish (struck fate) (syncRegion R r) [] w).world = w := by
  have hans : ∃ e, (struck fate).answer 0 (.listStorages r) w = (.error e,w) := by
    cases hf : fate 0 with
    | served =>
      rcases h with ⟨text,ht⟩ | h
      · refine ⟨⟨false,text⟩,?_⟩
        show (match fate 0 with
          | .served => answer w (.listStorages r)
          | .refused e => (.error e,w)
          | .lost e => (.error e,(answer w (.listStorages r)).2)) = _
        rw [hf]
        show ((w.storages r).mapError _,w) = _
        rw [ht]
        rfl
      · exact absurd hf h
    | refused e => exact ⟨e,by simp [struck, hf]⟩
    | lost e => exact ⟨e,by simp [struck, hf, answer]⟩
  obtain ⟨e,he⟩ := hans
  show (finish (struck fate) (match ((struck fate).answer 0 (.listStorages r) w).1 with
    | .ok ss => publish R r ss
    | .error e => .done [.storages e.text]) _ ((struck fate).answer 0 (.listStorages r) w).2).world = w
  rw [he]
  rfl

end Region

section Failures

variable {R : Renderer} {α : Type}

def Kept (n : Bytes) (w : Site) : Prop := (w.catalog.lookup n).isSome = true

def Removes : CatalogCall → Prop
  | .delete _ => True
  | _ => False

theorem insert_kept {n m : Bytes} {o : ProxmoxStorage} {w : Site} (h : Kept n w) :
    Kept n (w.put (w.catalog.insert m o)) := by
  show ((w.catalog.insert m o).lookup n).isSome = true
  by_cases he : n = m
  · rw [he, AList.lookup_insert]
    rfl
  · rw [AList.lookup_insert_ne he]
    exact h

theorem answer_kept {n : Bytes} {w : Site} (c : CatalogCall) (hc : ¬Removes c) (h : Kept n w) :
    Kept n (answer w c).2 := by
  cases c with
  | listStorages r => exact h
  | get m =>
    rw [answer]
    split <;> exact h
  | create m o =>
    rw [answer]
    split
    · exact h
    · exact insert_kept h
  | update m o =>
    rw [answer]
    split
    · exact insert_kept h
    · exact h
  | updateStatus m status =>
    rw [answer]
    split
    · exact insert_kept h
    · exact h
  | list label => exact h
  | delete m => exact absurd trivial hc

theorem struck_kept {n : Bytes} (fate : ℕ → Fate) {p : Sync α} (hp : p.Uses (fun c => ¬Removes c))
    (hist : History CatalogCall CatalogReply Site) (w : Site) (h : Kept n w) :
    Kept n (finish (struck fate) p hist w).world := by
  induction p generalizing hist w with
  | done a => exact h
  | call c next ih =>
    refine ih _ (hp.2 _) _ _ ?_
    show Kept n (match fate hist.length with
      | .served => answer w c
      | .refused e => (.error e,w)
      | .lost e => (.error e,(answer w c).2)).2
    split
    · exact answer_kept c hp.1 h
    · exact h
    · exact answer_kept c hp.1 h

theorem andThen_uses {c : CatalogCall} {next : Sync (Except String Unit)} (hc : ¬Removes c)
    (hn : next.Uses (fun c => ¬Removes c)) : (andThen c next).Uses (fun c => ¬Removes c) := by
  refine ⟨hc,fun x => ?_⟩
  cases x with
  | ok _ => exact hn
  | error e => trivial

theorem upsert_uses (s : Storage) : (upsert R s).Uses (fun c => ¬Removes c) := by
  have hstatus : (andThen (.updateStatus (nameOf R s) (statusOf s)) (.done (.ok ()))).Uses
      (fun c => ¬Removes c) := andThen_uses (fun h => h) trivial
  refine ⟨fun h => h,fun x : Except Fault ProxmoxStorage => ?_⟩
  cases x with
  | ok old =>
    show (ite _ _ _ : Sync _).Uses _
    split
    · exact hstatus
    · exact andThen_uses (fun h => h) hstatus
  | error e =>
    show (ite _ _ _ : Sync _).Uses _
    split
    · exact andThen_uses (fun h => h) hstatus
    · trivial

theorem upsertAll_uses (ss : List Storage) : (upsertAll R ss).Uses (fun c => ¬Removes c) := by
  induction ss with
  | nil => trivial
  | cons s ss ih =>
    refine uses_bind (upsert_uses s) fun x => uses_bind ih fun errs => ?_
    cases x with
    | ok _ => trivial
    | error text => trivial

def IsPublishing : SyncError → Prop
  | .publishing _ _ => True
  | _ => False

theorem prune_returns (r : Bytes) (names : List Bytes) :
    (prune r names).Returns (fun errs => ∀ e ∈ errs, ¬IsPublishing e) := by
  have hall : ∀ items, (removeAll r names items).Returns
    (fun errs => ∀ e ∈ errs, ¬IsPublishing e) := by
    intro items
    induction items with
    | nil => exact fun e he => absurd he List.not_mem_nil
    | cons item items ih =>
      rw [removeAll]
      split
      · exact ih
      · split
        · exact ih
        · intro x
          refine returns_bind ih fun errs herrs => ?_
          cases x with
          | ok _ => exact herrs
          | error f =>
            show ∀ e ∈ (if f.notFound then errs else _ :: errs), ¬IsPublishing e
            split
            · exact herrs
            · intro e he
              rcases List.mem_cons.mp he with rfl | he
              · exact fun h => h
              · exact herrs e he
  intro x
  cases x with
  | ok items => exact hall items
  | error f =>
    intro e he
    obtain rfl := List.mem_singleton.mp he
    exact fun h => h

/-- After a failed write nothing is removed. -/
theorem syncRegion_keeps (R : Renderer) (fate : ℕ → Fate) (r : Bytes) (w : Site)
    (h : ∃ e ∈ (finish (struck fate) (syncRegion R r) [] w).value, IsPublishing e) {n : Bytes}
    (hn : Kept n w) : Kept n (finish (struck fate) (syncRegion R r) [] w).world := by
  have hread : Kept n ((struck fate).answer 0 (.listStorages r) w).2 := by
    show Kept n (match fate 0 with
      | .served => answer w (.listStorages r)
      | .refused e => (.error e,w)
      | .lost e => (.error e,(answer w (.listStorages r)).2)).2
    split <;> exact hn
  revert h
  show (∃ e ∈ (finish (struck fate) (match ((struck fate).answer 0 (.listStorages r) w).1 with
    | .ok ss => publish R r ss
    | .error e => .done [.storages e.text]) _ _).value, IsPublishing e) →
    Kept n (finish (struck fate) (match ((struck fate).answer 0 (.listStorages r) w).1 with
    | .ok ss => publish R r ss
    | .error e => .done [.storages e.text]) _ _).world
  cases ((struck fate).answer 0 (.listStorages r) w).1 with
  | error e => exact fun _ => hread
  | ok ss =>
    simp only [publish, finish_bind]
    generalize hu : finish (struck fate) (upsertAll R ss) _ _ = u
    have hkept : Kept n u.world := hu ▸ struck_kept fate (upsertAll_uses ss) _ _ hread
    split
    · rintro ⟨e,he,hpub⟩
      exact absurd hpub (finish_returns (prune_returns r _) _ _ e he)
    · exact fun _ => hkept

end Failures

section Order

variable {R : Renderer} {w : Site}

def Readable (w : Site) (r : Bytes) : Prop := ∃ ss, w.storages r = .ok ss

def Shows (R : Renderer) (w : Site) (regions : List Bytes) (k : Catalog) : Prop :=
  ∀ n o, k.lookup n = some o ↔
    (o.spec.region ∈ regions ∧ Readable w o.spec.region ∧ Listed R w o.spec.region n o) ∨
      (¬(o.spec.region ∈ regions ∧ Readable w o.spec.region) ∧ w.catalog.lookup n = some o)

theorem exact_published {r : Bytes} {k : Catalog} (hp : Published R w.catalog) (he : Exact R w r k) :
    Published R k := by
  have hone : ∀ n o, k.lookup n = some o → n = objectName R o.place ∧
      o.labelRegion = some (labelValue o.spec.region) ∧
      o.labelStorage = some (labelValue o.spec.storage) := by
    intro n o ho
    by_cases hr : o.spec.region = r
    · obtain ⟨_,_,s,_,rfl,rfl⟩ := (he.region n o hr).mp ho
      exact ⟨rfl,rfl,rfl⟩
    · have hold := (he.others n o hr).mp ho
      exact ⟨hp.named n o hold,hp.labelled n o hold⟩
  exact ⟨fun n o ho => (hone n o ho).1,fun n o ho => (hone n o ho).2⟩

theorem exact_separate {r : Bytes} {k : Catalog} {regions : List Bytes} (hr : r ∈ regions)
    (hs : Separate R w regions) (he : Exact R w r k) : Separate R (w.put k) regions := by
  have hknown : ∀ c, Known (w.put k) regions c → Known w regions c := by
    rintro c (⟨n,o,ho,rfl⟩ | h)
    · by_cases hreg : o.spec.region = r
      · obtain ⟨ss,hl,s,hm,_,rfl⟩ := (he.region n o hreg).mp ho
        exact .inr ⟨r,hr,ss,hl,s,hm,rfl⟩
      · exact .inl ⟨n,o,(he.others n o hreg).mp ho,rfl⟩
    · exact .inr h
  exact ⟨fun c c' h h' => hs.names c c' (hknown c h) (hknown c' h'),hs.listed⟩

theorem sync_shows {all : List Bytes} (regions : List Bytes) (hsub : ∀ r ∈ regions, r ∈ all)
    (hp : Published R w.catalog) (hs : Separate R w all) :
    ∃ k errs, Evaluates served (sync R regions) w errs (w.put k) ∧ Shows R w regions k := by
  induction regions generalizing w with
  | nil => exact ⟨w.catalog,[],evaluates_done _,fun n o => by simp⟩
  | cons r regions ih =>
    have hrest := fun x hx => hsub x (List.mem_cons_of_mem r hx)
    cases hl : w.storages r with
    | error text =>
      obtain ⟨k,errs,h,hk⟩ := ih hrest hp hs
      have hlist : answer w (.listStorages r) = (.error ⟨false,text⟩,w) := by
        rw [answer, hl]
        rfl
      refine ⟨k,_,evaluates_bind (served_call hlist (evaluates_done _))
        (evaluates_bind h (evaluates_done _)),fun n o => ?_⟩
      rw [hk n o]
      have hcond : (o.spec.region ∈ r :: regions ∧ Readable w o.spec.region) ↔
          (o.spec.region ∈ regions ∧ Readable w o.spec.region) := by
        constructor
        · rintro ⟨hm,ss,hss⟩
          rcases List.mem_cons.mp hm with he | hm
          · rw [he, hl] at hss
            cases hss
          · exact ⟨hm,ss,hss⟩
        · exact fun h => ⟨List.mem_cons_of_mem r h.1,h.2⟩
      rw [← and_assoc, ← and_assoc, hcond]
    | ok ss =>
      obtain ⟨k₁,h₁,he⟩ := syncRegion_exact hp hs (hsub r List.mem_cons_self) hl
      obtain ⟨k,errs,h,hk⟩ := ih (w := w.put k₁) hrest (exact_published hp he)
        (exact_separate (hsub r List.mem_cons_self) hs he)
      refine ⟨k,_,evaluates_bind h₁ (evaluates_bind h (evaluates_done _)),fun n o => ?_⟩
      rw [hk n o]
      show (_ ∧ Readable w _ ∧ Listed R w _ n o) ∨ (¬(_ ∧ Readable w _) ∧ k₁.lookup n = some o) ↔ _
      by_cases hm : o.spec.region ∈ regions ∧ Readable w o.spec.region
      · have hm' : o.spec.region ∈ r :: regions := List.mem_cons_of_mem r hm.1
        simp only [hm.1, hm.2, hm', true_and, and_self, not_true_eq_false, false_and, or_false]
      · by_cases hr : o.spec.region = r
        · subst hr
          have hread : Readable w o.spec.region := ⟨ss,hl⟩
          have hnm : o.spec.region ∉ regions := fun h => hm ⟨h,hread⟩
          rw [he.region n o rfl]
          simp only [hnm, List.mem_cons_self, hread, false_and, true_and, not_true_eq_false,
            not_false_eq_true, false_or, or_false, and_self]
        · have hcond : (o.spec.region ∈ r :: regions ∧ Readable w o.spec.region) ↔
              (o.spec.region ∈ regions ∧ Readable w o.spec.region) := by
            rw [List.mem_cons, or_iff_right hr]
          rw [he.others n o hr, ← and_assoc, ← and_assoc, hcond]

theorem sync_order {regions regions' : List Bytes} (hperm : regions.Perm regions')
    (hp : Published R w.catalog) (hs : Separate R w regions) (n : Bytes) :
    (finish served (sync R regions) [] w).world.catalog.lookup n =
      (finish served (sync R regions') [] w).world.catalog.lookup n := by
  obtain ⟨k,_,h,hk⟩ := sync_shows regions (fun _ hr => hr) hp hs
  obtain ⟨k',_,h',hk'⟩ := sync_shows regions' (fun _ hr => hperm.mem_iff.mpr hr) hp hs
  rw [evaluates_world h [], evaluates_world h' []]
  show k.lookup n = k'.lookup n
  refine Option.ext fun o => ?_
  rw [hk n o, hk' n o, hperm.mem_iff]

end Order

theorem catalog_exact (R : Renderer) (w : Site) (hp : Published R w.catalog) :
    (∀ r, Separate R w [r] → ∀ fate : ℕ → Fate,
      ((∃ text, w.storages r = .error text) ∨ fate 0 ≠ .served →
        (finish (struck fate) (syncRegion R r) [] w).world = w) ∧
      ((∃ ss, w.storages r = .ok ss) →
        Exact R w r (finish served (syncRegion R r) [] w).world.catalog) ∧
      ((∃ e ∈ (finish (struck fate) (syncRegion R r) [] w).value, IsPublishing e) →
        ∀ n, Kept n w → Kept n (finish (struck fate) (syncRegion R r) [] w).world)) ∧
    ∀ regions regions' : List Bytes, regions.Perm regions' → Separate R w regions → ∀ n,
      (finish served (sync R regions) [] w).world.catalog.lookup n =
        (finish served (sync R regions') [] w).world.catalog.lookup n := by
  refine ⟨fun r hs fate => ⟨syncRegion_unread R fate w,?_,
    fun h n => syncRegion_keeps R fate r w h⟩,fun _ _ hperm hs n => sync_order hperm hp hs n⟩
  rintro ⟨ss,hl⟩
  obtain ⟨k,h,he⟩ := syncRegion_exact hp hs (List.mem_singleton_self r) hl
  rw [evaluates_world h []]
  exact he

section Samples

def sampleStorage (region zone name : String) : Storage :=
  ⟨ascii region,ascii zone,ascii name,zone == "","rbd",["images"],true,100,60,40,none⟩

def sampleSite (n : Bytes) (o : ProxmoxStorage) : Site where
  catalog := (∅ : Catalog).insert n o
  storages r := if r = ascii "bne" then .ok [sampleStorage "bne" "" "rbd"] else .error "no cluster"
  stamped := by
    intro r ss h s hs
    split at h
    · rename_i hr
      cases h
      obtain rfl := List.mem_singleton.mp hs
      exact hr.symm
    · cases h

theorem sampleSite_lookup {m n : Bytes} {o x : ProxmoxStorage}
    (h : (sampleSite n o).catalog.lookup m = some x) : m = n ∧ x = o := by
  have hl := (lookup_written ∅ n o m).symm.trans h
  split at hl
  · rename_i he
    cases hl
    exact ⟨he,rfl⟩
  · cases hl

def goneStorage : Storage := sampleStorage "bne" "pve-1" "local"

def changedSite : Site := sampleSite (nameOf asciiRenderer goneStorage) (published goneStorage)

/-- A storage that is gone makes room, and the one that is listed is published. -/
theorem catalog_exact_replaced :
    Exact asciiRenderer changedSite (ascii "bne")
      (finish served (syncRegion asciiRenderer (ascii "bne")) [] changedSite).world.catalog := by
  have hp : Published asciiRenderer changedSite.catalog := by
    constructor
    · intro m x hx
      obtain ⟨rfl,rfl⟩ := sampleSite_lookup hx
      rfl
    · intro m x hx
      obtain ⟨rfl,rfl⟩ := sampleSite_lookup hx
      exact ⟨rfl,rfl⟩
  have hknown : ∀ c, Known changedSite [ascii "bne"] c → c = goneStorage.place ∨
      c = (sampleStorage "bne" "" "rbd").place := by
    rintro c (⟨m,x,hx,rfl⟩ | ⟨r,hr,ss,hl,s,hs,rfl⟩)
    · obtain ⟨rfl,rfl⟩ := sampleSite_lookup hx
      exact .inl rfl
    · obtain rfl := List.mem_singleton.mp hr
      cases hl
      obtain rfl := List.mem_singleton.mp hs
      exact .inr rfl
  have hs : Separate asciiRenderer changedSite [ascii "bne"] := by
    constructor
    · intro c c' hc hc' he
      rcases hknown c hc with rfl | rfl <;> rcases hknown c' hc' with rfl | rfl
      · rfl
      · exact absurd he (by decide)
      · exact absurd he (by decide)
      · rfl
    · intro r hr ss hl
      obtain rfl := List.mem_singleton.mp hr
      cases hl
      decide
  exact ((catalog_exact asciiRenderer changedSite hp).1 (ascii "bne") hs
    (fun _ => .served)).2.1 ⟨_,rfl⟩

def foreign : ProxmoxStorage := published (sampleStorage "syd" "" "rbd")

def listedName : Bytes := objectName asciiRenderer (sampleStorage "bne" "" "rbd").place

/-- An object of another region that has the name of a listed storage is written over. -/
theorem misnamed_object_overwritten :
    foreign.labelRegion = some (labelValue foreign.spec.region) ∧
      foreign.labelStorage = some (labelValue foreign.spec.storage) ∧
      foreign.spec.region ≠ ascii "bne" ∧ objectName asciiRenderer foreign.place ≠ listedName ∧
      (sampleSite listedName foreign).catalog.lookup listedName = some foreign ∧
      (finish served (syncRegion asciiRenderer (ascii "bne")) []
        (sampleSite listedName foreign)).world.catalog.lookup listedName ≠ some foreign := by
  decide +kernel

end Samples

section Overwriting

/-- Two storages keep apart when their names differ: publishing the one leaves the object of the
other as it is. -/
def KeptApart (R : Renderer) (c c' : Coordinate) : Prop :=
  objectName R c ≠ objectName R c' ∧ ∀ (w : Site) (s : Storage), s.place = c →
    (finish served (upsert R s) [] w).world.catalog.lookup (objectName R c') =
      w.catalog.lookup (objectName R c')

theorem keptApart_iff (R : Renderer) (c c' : Coordinate)
    (hd : R.digest (key c) = R.digest (key c') → key c = key c') :
    KeptApart R c c' ↔ ¬Clash R c c' := by
  rw [← objectName_eq_iff hd]
  refine ⟨fun h => h.1,fun h => ⟨h,?_⟩⟩
  rintro w s rfl
  obtain ⟨k,he,hk⟩ := upsert_served R s w
  rw [evaluates_world he []]
  exact (hk _).trans (if_neg fun he => h he.symm)

theorem keptApart_shared :
    KeptApart asciiRenderer ⟨ascii "bne",[],ascii "rbd"⟩ ⟨ascii "bne",ascii "pve-1",ascii "rbd"⟩ := by
  refine (keptApart_iff asciiRenderer _ _ (by decide)).mpr ?_
  intro h
  cases h with
  | plain _ _ he => exact absurd he (by decide)
  | digested _ h' _ => exact absurd (by decide +kernel) h'
  | digests h _ _ => exact absurd (by decide +kernel) h
  | keys h _ _ _ => exact absurd (by decide +kernel) h

/-- Letter case, the place of a dot, and a name that spells the digest of another. -/
theorem names_collide :
    objectName asciiRenderer ⟨ascii "BNE",[],ascii "rbd"⟩ =
        objectName asciiRenderer ⟨ascii "bne",[],ascii "rbd"⟩ ∧
      objectName asciiRenderer ⟨ascii "a.b",[],ascii "c"⟩ =
        objectName asciiRenderer ⟨ascii "a",ascii "b",ascii "c"⟩ ∧
      objectName asciiRenderer ⟨ascii "a",[],ascii "b_"⟩ =
        objectName asciiRenderer ⟨ascii "a",[],ascii "b-" ++ sumDigest
          (key ⟨ascii "a",[],ascii "b_"⟩)⟩ ∧
      sumDigest (key ⟨ascii "BNE",[],ascii "rbd"⟩) ≠ sumDigest (key ⟨ascii "bne",[],ascii "rbd"⟩) ∧
      sumDigest (key ⟨ascii "a.b",[],ascii "c"⟩) ≠
        sumDigest (key ⟨ascii "a",ascii "b",ascii "c"⟩) := by
  decide

end Overwriting

end ProxmoxCSI.CatalogSync
