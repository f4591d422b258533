import ProxmoxCSI.PassRules

/-!
# Disks of released records

Records of one kind are reconciled and removed, one task after the other, each of
which may stop anywhere. A call of a reconcile makes a disk, and the status that is
written next names it. A record that is released should leave no such disk behind.
-/

set_option autoImplicit false

namespace ProxmoxCSI.ReleasedDisks
open CallProgram CallProgram.Prog CallSafety CallErrors CallTriples CallSessions CallJournal
open OperatorRecords RecordWrites DiskOwners VolumeReconciler PassRules

inductive Task where
  | reconcile (ns name : String)
  | remove (ns name : String)
  deriving DecidableEq

/-- The calls that make a disk, name it and release its record, and the answers that
report it as deleted. -/
structure Kind where
  makes : OpCall → Bool
  names : String → String → OpCall → Prop
  releases : String → String → Line Task → Prop
  gone : Except Fault Unit → Prop

def removal (c : OpCall) : P Result := do
  _ ← need c ""
  pure ⟨0⟩

section Statement

variable (K : Kind)

def madeFor (ns name : String) (x : Line Task) : Bool :=
  x.task = .reconcile ns name && K.makes x.event.call

def Left (Q : ListedDisk → Prop) (ns name : String) (j : Log Task) (w : Ledger) : Prop :=
  ∀ d ∈ w.disks, MadeBy (fun x => madeFor K ns name x) d j → Q d

def Bare : String → String → Log Task → Ledger → Prop := Left K (fun _ => False)

def LeavesNothing (x : Line Task) (j : Log Task) : Prop :=
  ∀ ns name, K.releases ns name x → Bare K ns name j x.event.before

def JustMade (ns name : String) (j : Log Task) : Prop :=
  ∃ y ∈ j.head?, madeFor K ns name y ∧ ∃ d, Adds d y

/-- A disk that was made is named next, and the write takes effect. -/
def NamesNext (x : Line Task) (j : Log Task) : Prop :=
  ∀ ns name, JustMade K ns name j →
    x.task = .reconcile ns name ∧ K.names ns name x.event.call ∧ TookEffect x.event

/-- A disk that is reported as deleted is not there. -/
def TellsTruth (x : Line Task) : Prop :=
  ∀ region zone storage disk r w w', x.event = ⟨.deleteDisk region zone storage disk,r,w,w'⟩ →
    K.gone r → w'.lookupDisk region zone storage disk = none

end Statement

section Steps

variable {K : Kind} {Q Q' : ListedDisk → Prop} {ns name : String} {i : Task} {j : Log Task}
  {w w' : Ledger} {x : Line Task} {c : OpCall} {r : OpReply c}

theorem left_start (w : Ledger) : Left K Q ns name [] w := by
  rintro d _ ⟨⟩

theorem left_imp (h : Left K Q ns name j w) (hq : ∀ d, Q d → Q' d) : Left K Q' ns name j w :=
  fun d hd hm => hq d (h d hd hm)

theorem not_madeFor {e : Event OpCall OpReply Ledger} (hc : K.makes e.call = false) :
    ¬madeFor K ns name ⟨i,e⟩ := by
  rw [madeFor, hc, Bool.and_false]
  exact Bool.false_ne_true

theorem left_step (hb : x.event.before = w) (ha : x.event.after = w')
    (hx : ∀ d, Adds d x → madeFor K ns name x → Q d) (h : Left K Q ns name j w) :
    Left K Q ns name (x::j) w' := by
  intro d hd hm
  rcases made_before hb ha hd hm with hm | ⟨hd,hm⟩
  · exact hx d hm.1 hm.2
  · exact h d hd hm

theorem left_aside (hc : K.makes c = false) (h : Left K Q ns name j w) :
    Left K Q ns name (⟨i,⟨c,r,w,w'⟩⟩::j) w' :=
  left_step rfl rfl (fun _ _ hm => absurd hm (not_madeFor hc)) h

/-- Only a write that names the disk follows its making. -/
theorem not_justMade (hx : NamesNext K x j) (hc : ∀ ns name, ¬K.names ns name x.event.call) :
    ¬JustMade K ns name j := fun h => hc ns name (hx ns name h).2.1

theorem leavesNothing_other (h : ∀ ns name, ¬K.releases ns name x) : LeavesNothing K x j :=
  fun ns name hr => absurd hr (h ns name)

theorem bare_destroyed {region zone storage disk : String}
    {r : OpReply (.deleteDisk region zone storage disk)}
    (h : Left K (fun d => reaches region zone storage disk d) ns name j w)
    (hc : K.makes (.deleteDisk region zone storage disk) = false)
    (hx : TellsTruth K ⟨i,⟨_,r,w,w'⟩⟩) (hr : K.gone r) : Bare K ns name (⟨i,⟨_,r,w,w'⟩⟩::j) w' := by
  have hnone := hx _ _ _ _ r w w' rfl hr
  rw [Ledger.lookupDisk, List.find?_eq_none] at hnone
  intro d hd hm
  exact hnone d hd (left_aside hc h d hd hm)

theorem removal_keeps {F : Frame Task} {l : Log Task} (h : ∀ {j w r w'}, F.Good j w →
    OpOutcome c w r w' → F.cond ⟨i,⟨c,r,w,w'⟩⟩ j → F.Good (⟨i,⟨c,r,w,w'⟩⟩::j) w') :
    Keeps F i l F.Good (removal c) := by
  refine triple_bind (Q := fun _ => Given F.cond F.Good i l) ?_
    (fun _ => triple_given_pure cluster_calm (fun _ _ h => ⟨h,h⟩))
  refine triple_given_call cluster_calm (fun _ _ h => h) ?_
  intro j w r w' hg ho hx
  have hg' := h hg ho hx
  exact ⟨hg',fun _ _ => hg'⟩

end Steps

section Tests

variable {K : Kind} {x : Line Task} {j : Log Task}

def namedNext (K : Kind) (test : Line Task → Bool) (x : Line Task) (j : Log Task) : Bool :=
  j.head?.all (fun y => !K.makes y.event.call || (x.task = y.task && test x))

theorem namedNext_namesNext {test : Line Task → Bool} (he : TookEffect x.event)
    (ht : ∀ ns name, x.task = .reconcile ns name → test x → K.names ns name x.event.call)
    (h : namedNext K test x j) : NamesNext K x j := by
  rintro ns name ⟨y,hy,hm,_⟩
  obtain ⟨hi,hc⟩ := Bool.and_eq_true_iff.mp hm
  rw [namedNext, Option.mem_def.mp hy, Option.all_some, hc, Bool.not_true, Bool.false_or,
    Bool.and_eq_true, decide_eq_true_eq] at h
  have htask := h.1.trans (of_decide_eq_true hi)
  exact ⟨htask,ht ns name htask h.2,he⟩

/-- The journal ends with the release of a record whose disk is still there. -/
theorem left_behind {d : ListedDisk} {ns name : String} (hlen : 0 < j.length)
    (hr : K.releases ns name (j.get ⟨0,hlen⟩)) (hd : d ∈ (j.get ⟨0,hlen⟩).event.before.disks)
    (hm : madeTest (madeFor K ns name) d (j.drop 1)) : ¬Every (LeavesNothing K) j := by
  intro h
  exact every_get h ⟨0,hlen⟩ ns name hr d hd (madeTest_madeBy (fun _ hx => hx) hm)

end Tests

end ProxmoxCSI.ReleasedDisks
