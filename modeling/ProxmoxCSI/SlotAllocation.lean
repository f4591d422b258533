import ProxmoxCSI.VMConfigs

/-!
# Allocating the slots of a VM

Volumes are attached to one VM and detached from it, one call after the other. A
volume is recognised by a text that no other drive holds, so it takes a slot no
drive uses, keeps it until it is detached, and no call touches another slot.
-/

set_option autoImplicit false

namespace ProxmoxCSI.SlotAllocation
open CallProgram CallProgram.Prog CallSafety CallErrors CallTriples CallSessions
open TextScan VolumeHandle ClusterState AttachedSlots VMConfigs

def plugged (vol : Volume) (o : Options) (lun : ℕ) : String :=
  vol.storage ++ ":" ++ vol.disk ++ "," ++ renderOptions (o.insert "wwn" ("0x" ++ wwnOf lun))

def At (vol : Volume) (s : Slots) (n : Fin 31) : Prop :=
  ∃ v, Holds s n v ∧ contains v (volumeMatch vol) = true

def Empty (s : Slots) (n : Fin 31) : Prop := ∀ v, ¬Holds s n v

def Usable (n : Fin 31) : Prop := 1 ≤ n.val ∧ n.val ≤ 29

instance (n : Fin 31) : Decidable (Usable n) := inferInstanceAs (Decidable (_ ∧ _))

def Sets (s s' : Slots) (n : Fin 31) (x : Option String) : Prop :=
  s'.lookup n = x ∧ ∀ m, m ≠ n → s'.lookup m = s.lookup m

section Texts

theorem contains_plugged (vol : Volume) (o : Options) (lun : ℕ) :
    contains (plugged vol o lun) (volumeMatch vol) = true := by
  rw [contains_iff]
  have hdisk : vol.disk.toList <:+: (plugged vol o lun).toList := by
    refine ⟨(vol.storage ++ ":").toList,("," ++ renderOptions
      (o.insert "wwn" ("0x" ++ wwnOf lun))).toList,?_⟩
    simp [plugged, String.toList_append]
  exact (sameDisk_isSuffix (.inl rfl)).isInfix.trans hdisk

theorem plugged_ne (vol : Volume) (o : Options) (lun : ℕ) : plugged vol o lun ≠ "" := by
  intro h
  have hl := congrArg String.toList h
  simp [plugged, String.toList_append] at hl

def hexPair (c : Char) : List Char :=
  [hexDigits.getD (c.toNat/16) '0',hexDigits.getD (c.toNat%16) '0']

theorem wwnOf_toList (lun : ℤ) :
    (wwnOf lun).toList = "5056432d4944".toList ++ (twoDigits lun).toList.flatMap hexPair := by
  rw [wwnOf, hexEncode, String.toList_ofList, String.toList_append, List.flatMap_append]
  exact congrArg (· ++ _) (by decide +kernel)

theorem wwnOf_chars (n : Fin 31) : ∀ c ∈ (wwnOf n.val).toList, c.isDigit ∨ c = 'd' := by
  have hfixed : "5056432d4944".toList.all (fun c => c.isDigit || c == 'd') = true := by decide +kernel
  have hdigits : ∀ n : Fin 31, ((twoDigits n.val).toList.flatMap hexPair).all
      (fun c => c.isDigit || c == 'd') = true := by decide +kernel
  have hall : (wwnOf n.val).toList.all (fun c => c.isDigit || c == 'd') = true := by
    rw [wwnOf_toList, List.all_append, hfixed, hdigits n, Bool.and_self]
  intro c hc
  simpa using List.all_eq_true.mp hall c hc

end Texts

section Lookup

variable {s s' : Slots} {n : Fin 31} {vol : Volume} {order : List (String × String)}

theorem slotOf_device (n : Fin 31) : slotOf (device n) = some n := by
  revert n
  decide +kernel

theorem attached_at (ho : order.Perm (mergeSCSIs s)) {lun : ℤ}
    (h : isVolumeAttached order (volumeMatch vol) = (lun,true)) :
    ∃ n : Fin 31, lun = n.val ∧ At vol s n := by
  obtain ⟨_,n,v,hl,hf⟩ := (isVolumeAttached_iff ho lun).mp h
  obtain ⟨n',v',hd,hh⟩ := mem_mergeSCSIs.mp (ho.subset (List.mem_of_find?_eq_some hf))
  obtain ⟨hdev,rfl⟩ := Prod.mk.inj hd
  cases device_injective hdev
  exact ⟨n,hl,v,hh,by simpa using List.find?_some hf⟩

theorem unattached_at (ho : order.Perm (mergeSCSIs s)) (hm : volumeMatch vol ≠ "") {lun : ℤ}
    (h : isVolumeAttached order (volumeMatch vol) = (lun,false)) (n : Fin 31) : ¬At vol s n := by
  rintro ⟨v,hh,hc⟩
  rw [unheld_of_lookup ho hm (by rw [h]) n v hh] at hc
  cases hc

theorem freeLun_usable (ho : order.Perm (mergeSCSIs s)) {lun : ℕ} (h : freeLun order = some lun) :
    ∃ n : Fin 31, n.val = lun ∧ Usable n ∧ Empty s n := by
  have hmem := List.mem_of_find?_eq_some h
  simp only [List.mem_map, List.mem_range] at hmem
  obtain ⟨k,hk,rfl⟩ := hmem
  have hlt : k+1 < 31 := by omega
  refine ⟨⟨k+1,hlt⟩,rfl,⟨by simp,by simp; omega⟩,?_⟩
  intro v hh
  exact freeLun_free ho h v (mem_mergeSCSIs.mpr ⟨⟨k+1,hlt⟩,v,rfl,hh⟩)

end Lookup

inductive Operation (ι : Type) where
  | attach (i : ι) (options : Options)
  | detach (i : ι)

section Runs

variable {ι : Type} (vols : ι → Volume)

def operation (polls : ℕ) (id : ℤ) : Operation ι → V (Option (String × String))
  | .attach i options => do
    let p ← attachVolume polls id (vols i) options
    pure (some p)
  | .detach i => do
    detachVolume id (vols i)
    pure none

def Touches (region : String) (id : ℤ) (s : Slots) : Operation ι → Event VMCall VMReply VMs → Prop
  | .attach i _, e => match e.call with
    | .getVMConfig _ => True
    | .config id' name _ => id' = id ∧ e.before.lookup (region,id) = some s ∧
        (∀ n, ¬At (vols i) s n) ∧ ∃ n, name = device n.val ∧ Usable n ∧ Empty s n
    | .unlinkDisk _ _ => False
  | .detach i, e => match e.call with
    | .getVMConfig _ => True
    | .config _ _ _ => False
    | .unlinkDisk id' dev => id' = id ∧ ∃ n, dev = device n.val ∧ At (vols i) s n

def Changes (s : Slots) : Operation ι → Slots → Prop
  | .attach i options, s' => s' = s ∨ (∀ n, ¬At (vols i) s n) ∧
      ∃ n, Usable n ∧ Empty s n ∧ Sets s s' n (some (plugged (vols i) options n.val))
  | .detach i, s' => s' = s ∨ ∃ n, At (vols i) s n ∧ Sets s s' n none

def Serves (s s' : Slots) : Operation ι → Option (String × String) → Prop
  | .attach i _, r => ∃ n : Fin 31, r = some (publishContext n.val) ∧ At (vols i) s' n
  | .detach i, r => r = none ∧ ((∀ n, ¬At (vols i) s n) ∧ s' = s ∨
      ∃ n, At (vols i) s n ∧ Sets s s' n none)

def Reached (region : String) (id : ℤ) (op : Operation ι) (h₀ : History VMCall VMReply VMs)
    (s : Slots) (R : Slots → Prop) : Assertion VMCall VMReply VMs := fun h w =>
  ∃ news, h = news ++ h₀ ∧ (∀ e ∈ news, Touches vols region id s op e) ∧
    ∃ s', w.lookup (region,id) = some s' ∧ R s'

variable {vols} {region : String} {id : ℤ} {op : Operation ι} {h₀ : History VMCall VMReply VMs}
  {s : Slots} {R R' : Slots → Prop}

theorem reached_mono {h : History VMCall VMReply VMs} {w : VMs}
    (hr : Reached vols region id op h₀ s R h w) (hm : ∀ s', R s' → R' s') :
    Reached vols region id op h₀ s R' h w := by
  obtain ⟨news,hn,ht,s',hs,hR⟩ := hr
  exact ⟨news,hn,ht,s',hs,hm s' hR⟩

theorem reached_start {h : History VMCall VMReply VMs} {w : VMs} (hs : w.lookup (region,id) = some s) :
    Reached vols region id op h s (fun s' => s' = s) h w :=
  ⟨[],rfl,(fun _ he => by cases he),s,hs,rfl⟩

/-- From slots that satisfy `R` the call does only what the operation may do, and the slots satisfy
`Q` when it succeeds. -/
def Performs (vols : ι → Volume) (region : String) (id : ℤ) (op : Operation ι)
    (h₀ : History VMCall VMReply VMs) (s : Slots) {α : Type} (R : Slots → Prop) (x : V α)
    (Q : α → Slots → Prop) : Prop :=
  Triple (machines region) (Reached vols region id op h₀ s (Changes vols s op))
    (Reached vols region id op h₀ s R) x (fun a => Reached vols region id op h₀ s (Q a))

section Rules

variable {α β : Type} {Q Q' : α → Slots → Prop} {x : V α}

theorem performs_bind {f : α → V β} {T : β → Slots → Prop}
    (hx : Performs vols region id op h₀ s R x Q)
    (hf : ∀ a, Performs vols region id op h₀ s (Q a) (f a) T) :
    Performs vols region id op h₀ s R (x >>= f) T := triple_bind hx hf

theorem performs_mono (hx : Performs vols region id op h₀ s R x Q) (hR : ∀ s', R' s' → R s')
    (hQ : ∀ a s', Q a s' → Q' a s') : Performs vols region id op h₀ s R' x Q' :=
  triple_mono hx (fun _ _ hr => reached_mono hr hR) (fun a _ _ hr => reached_mono hr (hQ a))

/-- The slots may be fixed before the call starts. -/
theorem performs_at (hx : ∀ s', R s' → Performs vols region id op h₀ s (fun t => t = s') x Q) :
    Performs vols region id op h₀ s R x Q := by
  intro h w hr
  obtain ⟨news,hn,ht,s',hs,hR⟩ := hr
  exact hx s' hR h w ⟨news,hn,ht,s',hs,rfl⟩

theorem performs_pure {a : α} (hR : ∀ s', R s' → Changes vols s op s' ∧ Q a s') :
    Performs vols region id op h₀ s R (pure a) Q :=
  triple_pure (calm_steady (machines_calm region) (fun _ _ hr => reached_mono hr
    (fun s' hs' => (hR s' hs').1))) (fun _ _ hr => reached_mono hr (fun s' hs' => (hR s' hs').2))

theorem performs_throw {e : String} (hR : ∀ s', R s' → Changes vols s op s') :
    Performs vols region id op h₀ s R (throw e) Q :=
  triple_throw (calm_steady (machines_calm region) (fun _ _ hr => reached_mono hr hR))

theorem performs_request {c : VMCall} {Q : VMReply c → Slots → Prop}
    (hR : ∀ s', R s' → Changes vols s op s') (hQ : ∀ r s', Q r s' → Changes vols s op s')
    (hc : ∀ w r w' s', w.lookup (region,id) = some s' → R s' → VMOutcome region c w r w' →
      Touches vols region id s op ⟨c,r,w,w'⟩ ∧ ∃ s'', w'.lookup (region,id) = some s'' ∧ Q r s'') :
    Performs vols region id op h₀ s R (request c) Q := by
  refine triple_calm_call (c := c) (machines_calm region) (fun h w hr => reached_mono hr hR) ?_
  rintro h w r w' ⟨news,rfl,ht,s',hs,hRs⟩ ho
  obtain ⟨he,s'',hs'',hq⟩ := hc w r w' s' hs hRs ho
  have hnext : Reached vols region id op h₀ s (Q r) (⟨c,r,w,w'⟩::(news ++ h₀)) w' := by
    refine ⟨⟨c,r,w,w'⟩::news,rfl,?_,s'',hs'',hq⟩
    intro e hm
    rcases List.mem_cons.mp hm with rfl | hm
    · exact he
    · exact ht e hm
  refine ⟨reached_mono hnext (hQ r),?_⟩
  rintro _ ⟨⟩
  exact hnext

theorem performs_read (hR : ∀ s', R s' → Changes vols s op s') :
    Performs vols region id op h₀ s R (request (.getVMConfig id))
      (fun r s' => R s' ∧ r ≠ .error .notFound ∧ ∀ order, r = .ok order →
        order.Perm (mergeSCSIs s')) := by
  refine performs_request (c := .getVMConfig id) hR (fun r s' hq => hR s' hq.1) ?_
  intro w r w' s' hs hRs ho
  refine ⟨by cases op <;> trivial,?_⟩
  cases ho with
  | read _ _ s'' order hs'' hp =>
    rw [hs] at hs''
    cases hs''
    refine ⟨s',hs,hRs,(fun hc => by cases hc),?_⟩
    rintro _ ⟨⟩
    exact hp
  | absent _ _ hs'' =>
    rw [hs] at hs''
    cases hs''
  | unread _ _ e he =>
    refine ⟨s',hs,hRs,?_,fun _ hc => by cases hc⟩
    rintro ⟨⟩
    exact he rfl

end Rules

theorem write_cases {n : Fin 31} {value : String} {w w' : VMs}
    {r : VMReply (.config id (device n.val) value)}
    (ho : VMOutcome region (.config id (device n.val) value) w r w')
    (hs : w.lookup (region,id) = some s) : ∃ s', w'.lookup (region,id) = some s' ∧
      (Sets s s' n (some value) ∨ s' = s ∧ r ≠ .ok ()) := by
  have heffect : (configured w region (.config id (device n.val) value)).lookup (region,id) =
      some (s.insert n value) := by
    simp only [configured, hs, slotOf_device, AList.lookup_insert]
  have hsets : Sets s (s.insert n value) n (some value) :=
    ⟨AList.lookup_insert _,fun m hm => AList.lookup_insert_ne hm⟩
  cases ho with
  | write => exact ⟨_,heffect,.inl hsets⟩
  | writeFailed _ _ _ _ _ e hw =>
    rcases hw with rfl | rfl
    · exact ⟨s,hs,.inr ⟨rfl,fun hc => by cases hc⟩⟩
    · exact ⟨_,heffect,.inl hsets⟩

theorem unlink_cases {n : Fin 31} {w w' : VMs} {r : VMReply (.unlinkDisk id (device n.val))}
    (ho : VMOutcome region (.unlinkDisk id (device n.val)) w r w')
    (hs : w.lookup (region,id) = some s) : ∃ s', w'.lookup (region,id) = some s' ∧
      (Sets s s' n none ∨ s' = s ∧ r ≠ .ok ()) := by
  have heffect : (configured w region (.unlinkDisk id (device n.val))).lookup (region,id) =
      some (s.erase n) := by
    simp only [configured, hs, slotOf_device, AList.lookup_insert]
  have hsets : Sets s (s.erase n) n none :=
    ⟨AList.lookup_erase n s,fun m hm => AList.lookup_erase_ne hm⟩
  cases ho with
  | unlink => exact ⟨_,heffect,.inl hsets⟩
  | unlinkFailed _ _ _ _ e hw =>
    rcases hw with rfl | rfl
    · exact ⟨s,hs,.inr ⟨rfl,fun hc => by cases hc⟩⟩
    · exact ⟨_,heffect,.inl hsets⟩

section Attach

variable {i : ι} {options : Options} {polls : ℕ}

theorem awaitAttached_performs {again : Unit → V Unit}
    (hR : ∀ s', R s' → Changes vols s (.attach i options) s')
    (hagain : Performs vols region id (.attach i options) h₀ s R (again ()) (fun _ => R)) :
    Performs vols region id (.attach i options) h₀ s R (awaitAttached id (vols i) again ())
      (fun _ => R) := by
  unfold awaitAttached
  refine performs_bind (performs_read hR) ?_
  intro r
  split
  · exact performs_throw (fun s' hs' => hR s' hs'.1)
  · rename_i disks
    show Performs _ _ _ _ _ _ _ (ite _ _ _ : V Unit) _
    split
    · exact performs_pure (fun s' hs' => ⟨hR s' hs'.1,hs'.1⟩)
    · exact performs_mono hagain (fun _ hs' => hs'.1) (fun _ _ hs' => hs')

theorem waitAttachVolume_performs (hR : ∀ s', R s' → Changes vols s (.attach i options) s') :
    Performs vols region id (.attach i options) h₀ s R (waitAttachVolume polls id (vols i))
      (fun _ => R) := by
  unfold waitAttachVolume
  induction polls with
  | zero => exact awaitAttached_performs hR (performs_throw hR)
  | succ polls ih => exact awaitAttached_performs hR ih

/-- The volume has no slot yet, and the one it is given is empty. -/
structure Opening (vols : ι → Volume) (s : Slots) (i : ι) (n : Fin 31) : Prop where
  unattached : ∀ m, ¬At (vols i) s m
  usable : Usable n
  empty : Empty s n

theorem plug_performs {n : Fin 31} (hopen : Opening vols s i n) :
    Performs vols region id (.attach i options) h₀ s (fun s' => s' = s)
      (plug polls id (vols i) options n.val)
      (fun _ s' => Sets s s' n (some (plugged (vols i) options n.val))) := by
  have hset : ∀ s', Sets s s' n (some (plugged (vols i) options n.val)) →
      Changes vols s (.attach i options) s' := fun s' hs' =>
    .inr ⟨hopen.unattached,n,hopen.usable,hopen.empty,hs'⟩
  have hchanges : ∀ (r : Except VMError Unit) s',
      Sets s s' n (some (plugged (vols i) options n.val)) ∨ s' = s ∧ r ≠ .ok () →
      Changes vols s (.attach i options) s' := by
    rintro r s' (hs' | ⟨rfl,_⟩)
    · exact hset s' hs'
    · exact .inl rfl
  have hwrite : Performs vols region id (.attach i options) h₀ s (fun s' => s' = s)
      (request (.config id (device n.val) (plugged (vols i) options n.val)))
      (fun r s' => Sets s s' n (some (plugged (vols i) options n.val)) ∨ s' = s ∧ r ≠ .ok ()) := by
    refine performs_request (c := .config id (device n.val) (plugged (vols i) options n.val))
      (fun s' hs' => .inl hs') hchanges ?_
    rintro w r w' s' hs rfl ho
    exact ⟨⟨rfl,hs,hopen.unattached,n,rfl,hopen.usable,hopen.empty⟩,write_cases ho hs⟩
  unfold plug
  refine performs_bind hwrite ?_
  intro r
  split
  · exact performs_throw (hchanges _)
  · exact performs_throw (hchanges _)
  · refine performs_mono (waitAttachVolume_performs hset) ?_ (fun _ _ hs' => hs')
    rintro s' (hs' | ⟨_,hc⟩)
    · exact hs'
    · exact absurd rfl hc

theorem attachTo_performs (hm : volumeMatch (vols i) ≠ "") {disks : List (String × String)}
    (ho : disks.Perm (mergeSCSIs s)) :
    Performs vols region id (.attach i options) h₀ s (fun s' => s' = s)
      (attachTo polls id (vols i) options disks)
      (fun p s' => Changes vols s (.attach i options) s' ∧
        Serves vols s s' (.attach i options) (some p)) := by
  unfold attachTo
  split
  · rename_i lun hfound
    obtain ⟨n,rfl,hat⟩ := attached_at ho hfound
    refine performs_pure ?_
    rintro s' rfl
    exact ⟨.inl rfl,.inl rfl,n,rfl,hat⟩
  · rename_i lun hfound
    split
    · exact performs_throw (fun s' hs' => .inl hs')
    · rename_i lun' hfree
      obtain ⟨n,rfl,hu,he⟩ := freeLun_usable ho hfree
      have hopen : Opening vols s i n := ⟨unattached_at ho hm hfound,hu,he⟩
      refine performs_bind (plug_performs hopen) ?_
      intro _
      refine performs_pure ?_
      intro s' hs'
      have hchanges : Changes vols s (.attach i options) s' :=
        .inr ⟨hopen.unattached,n,hu,he,hs'⟩
      exact ⟨hchanges,hchanges,n,rfl,_,⟨hs'.1,plugged_ne _ _ _⟩,contains_plugged _ _ _⟩

end Attach

section Detach

variable {i : ι}

theorem unlinkResult_performs {r : Except VMError Unit}
    (hR : ∀ s', R s' → Changes vols s op s') :
    Performs vols region id op h₀ s R (unlinkResult r) (fun _ s' => R s' ∧ r = .ok ()) := by
  unfold unlinkResult
  split
  · exact performs_pure (fun s' hs' => ⟨hR s' hs',hs',rfl⟩)
  · exact performs_throw hR
  · exact performs_throw hR

/-- An unlinked slot stays unlinked when it is unlinked once more. -/
theorem unlink_performs {n : Fin 31} (hat : At (vols i) s n) :
    Performs vols region id (.detach i) h₀ s (fun s' => s' = s) (unlink id (device n.val))
      (fun _ s' => Sets s s' n none) := by
  have hchanges : ∀ s', Sets s s' n none ∨ s' = s → Changes vols s (.detach i) s' := by
    rintro s' (hs' | rfl)
    · exact .inr ⟨n,hat,hs'⟩
    · exact .inl rfl
  have hrequest : Performs vols region id (.detach i) h₀ s (fun s' => Sets s s' n none ∨ s' = s)
      (request (.unlinkDisk id (device n.val)))
      (fun r s' => Sets s s' n none ∨ s' = s ∧ r ≠ .ok ()) := by
    refine performs_request (c := .unlinkDisk id (device n.val)) hchanges ?_ ?_
    · rintro r s' (hs' | ⟨rfl,_⟩)
      · exact hchanges s' (.inl hs')
      · exact hchanges _ (.inr rfl)
    · intro w r w' s' hs hR ho
      refine ⟨⟨rfl,n,rfl,hat⟩,?_⟩
      obtain ⟨s'',hs'',hcase⟩ := unlink_cases ho hs
      refine ⟨s'',hs'',?_⟩
      rcases hR with hset | rfl
      · refine .inl ?_
        rcases hcase with hagain | ⟨rfl,_⟩
        · exact ⟨hagain.1,fun m hm => (hagain.2 m hm).trans (hset.2 m hm)⟩
        · exact hset
      · exact hcase
  have hresult : ∀ r : Except VMError Unit, Performs vols region id (.detach i) h₀ s
      (fun s' => Sets s s' n none ∨ s' = s ∧ r ≠ .ok ()) (unlinkResult r)
      (fun _ s' => Sets s s' n none) := by
    intro r
    refine performs_mono (unlinkResult_performs ?_) (fun s' hs' => hs') ?_
    · rintro s' (hs' | ⟨rfl,_⟩)
      · exact hchanges s' (.inl hs')
      · exact hchanges _ (.inr rfl)
    · rintro _ s' ⟨hs' | ⟨_,hne⟩,hok⟩
      · exact hs'
      · exact absurd hok hne
  unfold unlink
  refine performs_bind (performs_mono hrequest (fun s' hs' => .inr hs') (fun _ _ hq => hq)) ?_
  intro r
  split
  · split
    · refine performs_bind (performs_mono hrequest ?_ (fun _ _ hq => hq)) hresult
      rintro s' (hs' | ⟨rfl,_⟩)
      · exact .inl hs'
      · exact .inr rfl
    · exact hresult _
  · exact hresult _

theorem detachFrom_performs (hm : volumeMatch (vols i) ≠ "") {disks : List (String × String)}
    (ho : disks.Perm (mergeSCSIs s)) :
    Performs vols region id (.detach i) h₀ s (fun s' => s' = s) (detachFrom id (vols i) disks)
      (fun _ s' => Changes vols s (.detach i) s' ∧ Serves vols s s' (.detach i) none) := by
  unfold detachFrom
  split
  · rename_i lun hfound
    obtain ⟨n,rfl,hat⟩ := attached_at ho hfound
    refine performs_mono (unlink_performs hat) (fun s' hs' => hs') ?_
    exact fun _ s' hs' => ⟨.inr ⟨n,hat,hs'⟩,rfl,.inr ⟨n,hat,hs'⟩⟩
  · rename_i lun hfound
    refine performs_pure ?_
    rintro s' rfl
    exact ⟨.inl rfl,.inl rfl,rfl,.inl ⟨unattached_at ho hm hfound,rfl⟩⟩

end Detach

theorem operation_performs {polls : ℕ} (hm : ∀ i, volumeMatch (vols i) ≠ "") :
    Performs vols region id op h₀ s (fun s' => s' = s) (operation vols polls id op)
      (fun r s' => Changes vols s op s' ∧ Serves vols s s' op r) := by
  have hstart : ∀ s', s' = s → Changes vols s op s' := by
    rintro s' rfl
    cases op <;> exact .inl rfl
  cases op with
  | attach i options =>
    refine performs_bind (performs_bind (performs_read hstart) ?_)
      (fun p => performs_pure (fun s' hs' => ⟨hs'.1,hs'⟩))
    intro r
    cases r with
    | error e => exact performs_throw (fun s' hs' => hstart s' hs'.1)
    | ok disks =>
      refine performs_at ?_
      rintro s' ⟨rfl,_,hperm⟩
      exact attachTo_performs (hm i) (hperm disks rfl)
  | detach i =>
    refine performs_bind (performs_bind (performs_read hstart) ?_)
      (fun p => performs_pure (fun s' hs' => ⟨hs'.1,hs'⟩))
    intro r
    split
    · refine performs_at ?_
      rintro s' ⟨_,hne,_⟩
      exact absurd rfl hne
    · exact performs_throw (fun s' hs' => hstart s' hs'.1)
    · rename_i disks
      refine performs_at ?_
      rintro s' ⟨rfl,_,hperm⟩
      exact detachFrom_performs (hm i) (hperm disks rfl)

def Apart (vols : ι → Volume) : Operation ι → Prop
  | .attach i options => ∀ (n : Fin 31) (j : ι),
      contains (plugged (vols i) options n.val) (volumeMatch (vols j)) = true → j = i
  | .detach _ => True

/-- The slots of other drives and those that are never handed out are as they were. -/
structure Kept (vols : ι → Volume) (s₀ s : Slots) : Prop where
  foreign : ∀ n v, Holds s₀ n v → (∀ i, contains v (volumeMatch (vols i)) = false) → Holds s n v
  unused : ∀ n, ¬Usable n → s.lookup n = s₀.lookup n

variable {s₀ s' : Slots}

end Runs

section Samples

def startSlots : Slots := (∅ : Slots).insert 0 "data:vm-100-disk-0,size=8G"

def startMachines : VMs := (∅ : VMs).insert ("r",100) startSlots

end Samples

end ProxmoxCSI.SlotAllocation
