import ProxmoxCSI.RecordWrites
import ProxmoxCSI.CallJournal

/-!
# Who made a disk

The journal tells which entry put a disk on its storage. A target is owned when
every disk it names was put there, the last time, by entries of one kind; the
first call that adds a disk for somebody else ends that.
-/

set_option autoImplicit false

namespace ProxmoxCSI.DiskOwners
open CallProgram CallJournal OperatorRecords RecordWrites

variable {ι : Type}

abbrev Log (ι : Type) := Journal ι OpCall OpReply Ledger

abbrev Line (ι : Type) := Entry ι OpCall OpReply Ledger

def Adds (d : ListedDisk) (x : Line ι) : Prop :=
  d ∉ x.event.before.disks ∧ d ∈ x.event.after.disks

def MadeBy (own : Line ι → Prop) (d : ListedDisk) : Log ι → Prop := Latest (Adds d) own

def Owned (own : Line ι → Prop) (region zone storage name : String) (j : Log ι) (w : Ledger) :
    Prop := ∀ d ∈ w.disks, reaches region zone storage name d → MadeBy own d j

variable {own : Line ι → Prop} {region zone storage name : String} {j : Log ι} {w w' : Ledger}
  {x : Line ι}

theorem owned_step (hb : x.event.before = w) (ha : x.event.after = w')
    (ho : own x ∨ ∀ d, Adds d x → ¬reaches region zone storage name d)
    (h : Owned own region zone storage name j w) :
    Owned own region zone storage name (x::j) w' := by
  intro d hd hr
  by_cases hx : Adds d x
  · rcases ho with ho | ho
    · exact latest_here hx ho
    · exact absurd hr (ho d hx)
  · refine latest_keep hx (h d ?_ hr)
    rw [Adds, hb, ha] at hx
    by_contra hn
    exact hx ⟨hn,hd⟩

theorem no_adds {d : ListedDisk} (hb : x.event.before = w) (ha : x.event.after = w')
    (hs : w'.disks ⊆ w.disks) : ¬Adds d x := by
  intro h
  rw [Adds, hb, ha] at h
  exact h.1 (hs h.2)

theorem owned_shrink (hb : x.event.before = w) (ha : x.event.after = w') (hs : w'.disks ⊆ w.disks)
    (h : Owned own region zone storage name j w) :
    Owned own region zone storage name (x::j) w' :=
  owned_step hb ha (.inr (fun _ hx => absurd hx (no_adds hb ha hs))) h

theorem owned_same (hb : x.event.before = w) (ha : x.event.after = w') (hs : w'.disks = w.disks)
    (h : Owned own region zone storage name j w) :
    Owned own region zone storage name (x::j) w' :=
  owned_shrink hb ha (hs ▸ List.Subset.refl _) h

theorem made_before (hb : x.event.before = w) (ha : x.event.after = w') {d : ListedDisk}
    (hd : d ∈ w'.disks) (hm : MadeBy own d (x::j)) :
    Adds d x ∧ own x ∨ d ∈ w.disks ∧ MadeBy own d j := by
  rcases hm with hm | ⟨hn,hm⟩
  · exact .inl hm
  · refine .inr ⟨?_,hm⟩
    rw [Adds, hb, ha] at hn
    by_contra hd'
    exact hn ⟨hd',hd⟩

/-- A disk that was there all the time was made by nobody. -/
theorem present_unmade {d : ListedDisk} (h : ∀ x ∈ j, d ∈ x.event.before.disks) :
    ¬MadeBy own d j := by
  intro hm
  obtain ⟨x,hx,ha,_⟩ := latest_exists hm
  exact ha.1 (h x hx)

def madeTest (own : Line ι → Bool) (d : ListedDisk) : Log ι → Bool
  | [] => false
  | x::j => if d ∉ x.event.before.disks ∧ d ∈ x.event.after.disks then own x else madeTest own d j

theorem madeTest_madeBy {test : Line ι → Bool} {d : ListedDisk} (ht : ∀ x, test x → own x)
    (h : madeTest test d j) : MadeBy own d j := by
  induction j with
  | nil => cases h
  | cons x j ih =>
    unfold madeTest at h
    split at h
    · rename_i ha
      exact latest_here ha (ht x h)
    · rename_i ha
      exact latest_keep ha (ih h)

theorem owned_none (h : w.lookupDisk region zone storage name = none) :
    Owned own region zone storage name j w := by
  intro d hd hr
  rw [Ledger.lookupDisk, List.find?_eq_none] at h
  exact absurd hr (h d hd)

def namesDisk (v : ProxmoxVolume) (d : ListedDisk) : Bool :=
  v.status.diskName ≠ "" ∧ reaches v.spec.region v.spec.zone v.spec.storage v.status.diskName d

def deletionTarget : OpCall → Option (String × String × String × String)
  | .deleteDisk region zone storage disk => some (region,zone,storage,disk)
  | _ => none

theorem deletionTarget_some {c : OpCall} {region zone storage disk : String}
    (h : deletionTarget c = some (region,zone,storage,disk)) :
    c = .deleteDisk region zone storage disk := by
  cases c with
  | deleteDisk a b c d =>
    cases h
    rfl
  | _ => cases h

end ProxmoxCSI.DiskOwners
