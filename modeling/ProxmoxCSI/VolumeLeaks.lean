import ProxmoxCSI.ReleasedDisks
import ProxmoxCSI.VolumePasses

/-!
# The disks volumes leave behind

Reconciles of provisioned volumes are run one after the other, each of which may
stop anywhere. A record is released once the disk its status names is deleted.
The name is published after the disk is made, so a disk is left behind when its
making is reported as failed, when the status is lost, when a copy is made in
another region, and when a deletion is reported as done and was not.
-/

set_option autoImplicit false

namespace ProxmoxCSI.VolumeLeaks
open CallProgram CallProgram.Prog CallSafety CallErrors CallTriples CallSessions CallJournal
open CallSchedule VolumeHandle OperatorRecords RecordWrites DiskOwners ObjectStore
open VolumeReconciler VolumeLifecycle PassRules ReleasedDisks VolumePasses

def program (r : Reconciler) : Task → Prog OpCall OpReply (Except Failure Result)
  | .reconcile ns name => (VolumeLifecycle.reconcile r ns name).run
  | .remove ns name => (removal (.deleteVolume ns name)).run

section Statement

def kind : Kind where
  makes := makesDisk
  names ns name c := ∃ vol, c = .updateStatus vol ∧ vol.ns = ns ∧ vol.name = name ∧ isReady vol = true
  releases ns name x := ∃ vol s, x.event.call = .update vol ∧ vol.ns = ns ∧ vol.name = name ∧
    volumeFinalizer ∉ vol.finalizers ∧ x.event.before.lookupVolume ns name = some s ∧
    volumeFinalizer ∈ s.finalizers
  gone r := r = .ok ()

def SameRegion (x : Line Task) : Prop :=
  ∀ ns name vol region zone storage disk dstZone dstStorage dstDisk, x.task = .reconcile ns name →
    x.event.before.lookupVolume ns name = some vol →
    x.event.call = .copyDisk region zone storage disk dstZone dstStorage dstDisk →
    region = vol.spec.region

def Careful (x : Line Task) (j : Log Task) : Prop :=
  NamesNext kind x j ∧ SameRegion x ∧ TellsTruth kind x

end Statement

section Invariant

def Covered (vol : ProxmoxVolume) : Log Task → Ledger → Prop :=
  Left kind (fun d => namesDisk vol d) vol.ns vol.name

def Settled (vol : ProxmoxVolume) (j : Log Task) (w : Ledger) : Prop :=
  Bare kind vol.ns vol.name j w ∨ vol.spec.adopt = false ∧ vol.status.adopted = false ∧
    (isReady vol = true ∨ vol.deleting = true) ∧ Covered vol j w

def Fine (vol : ProxmoxVolume) (j : Log Task) (w : Ledger) : Prop :=
  Settled vol j w ∨ JustMade kind vol.ns vol.name j ∧ isReady vol = false

def Free (vol : ProxmoxVolume) (j : Log Task) (w : Ledger) : Prop :=
  Bare kind vol.ns vol.name j w ∨ JustMade kind vol.ns vol.name j

structure Good (j : Log Task) (w : Ledger) : Prop where
  fine : ∀ vol, Live vol w → Fine vol j w
  justified : Every (LeavesNothing kind) j

variable {i : Task} {j : Log Task} {w w' : Ledger} {x : Line Task} {c : OpCall} {r : OpReply c}
  {ns name : String} {vol a b : ProxmoxVolume} {t : TenantCluster} {disk : Volume}

theorem settled_step (hb : x.event.before = w) (ha : x.event.after = w')
    (hx : ∀ d, Adds d x → ¬madeFor kind vol.ns vol.name x) (h : Settled vol j w) :
    Settled vol (x::j) w' := by
  rcases h with h | ⟨hadopt,hown,hready,hcov⟩
  · exact .inl (left_step hb ha hx h)
  · exact .inr ⟨hadopt,hown,hready,left_step hb ha (fun d hd hm => absurd hm (hx d hd)) hcov⟩

theorem settled_aside (hc : makesDisk c = false) (h : Settled vol j w) :
    Settled vol (⟨i,⟨c,r,w,w'⟩⟩::j) w' := settled_step rfl rfl (fun _ _ => not_madeFor hc) h

theorem bare_same (hs : SameRecord a b) (h : Bare kind a.ns a.name j w) :
    Bare kind b.ns b.name j w := by
  rw [← hs.ns, ← hs.name]
  exact h

theorem covered_same (hs : SameRecord a b) (hn : a.status.diskName = b.status.diskName)
    (h : Covered a j w) : Covered b j w := by
  intro d hd hm
  rw [← hs.ns, ← hs.name] at hm
  rw [namesDisk, ← hs.spec, ← hn]
  exact h d hd hm

theorem settled_later (hs : SameRecord a b) (hst : a.status = b.status)
    (hd : a.deleting = true → b.deleting = true) (h : Settled a j w) : Settled b j w := by
  rcases h with h | ⟨hadopt,hown,hready,hcov⟩
  · exact .inl (bare_same hs h)
  · refine .inr ⟨by rw [← hs.spec, hadopt],by rw [← hst, hown],?_,
      covered_same hs (by rw [hst]) hcov⟩
    rcases hready with hready | hdel
    · left
      rw [isReady, ← hst]
      exact hready
    · exact .inr (hd hdel)

theorem settled_alike (ha : Alike a b) (h : Settled a j w) : Settled b j w := by
  rcases h with h | ⟨hadopt,hown,hready,hcov⟩
  · exact .inl (bare_same ha.toSameRecord h)
  · refine .inr ⟨by rw [← ha.spec, hadopt],by rw [← ha.adopted, hown],?_,
      covered_same ha.toSameRecord ha.diskName hcov⟩
    rcases hready with hready | hdel
    · rcases ha.settled with hu | hb
      · rw [Unsettled, hready, hadopt, ha.deleting] at hu
        exact .inr (by simpa using hu)
      · exact .inl hb
    · exact .inr (by rw [← ha.deleting, hdel])

theorem fine_alike (ha : Alike a b) (h : Fine a j w) : Fine b j w := by
  rcases h with h | ⟨hj,hr⟩
  · exact .inl (settled_alike ha h)
  · rw [ha.ns, ha.name] at hj
    refine .inr ⟨hj,?_⟩
    cases hb : isReady b with
    | false => rfl
    | true =>
      have hb' : b.status.phase = .ready ∧ b.status.volumeID ≠ "" := of_decide_eq_true hb
      have ha' : isReady a = true :=
        decide_eq_true ⟨ha.ready hb'.1,by rw [ha.volumeID]; exact hb'.2⟩
      rw [hr] at ha'
      cases ha'

theorem not_names (hc : ∀ vol, c ≠ .updateStatus vol) (ns name : String) :
    ¬kind.names ns name c := by
  rintro ⟨vol,he,_⟩
  exact hc vol he

theorem not_status (hv : part c ≠ .volumes) (vol : ProxmoxVolume) : c ≠ .updateStatus vol := by
  rintro rfl
  exact hv rfl

theorem settled_fine (hx : NamesNext kind x j) (hc : ∀ vol, x.event.call ≠ .updateStatus vol)
    (h : Fine vol j w) : Settled vol j w :=
  h.resolve_right (fun hj => not_justMade hx (not_names hc) hj.1)

theorem leaves_aside {e : Event OpCall OpReply Ledger} (hc : ∀ vol, e.call ≠ .update vol) :
    LeavesNothing kind ⟨i,e⟩ j := by
  refine leavesNothing_other ?_
  rintro ns name ⟨vol,_,he,_⟩
  exact hc vol he

theorem good_records (hg : Good j w) (hx : NamesNext kind ⟨i,⟨c,r,w,w'⟩⟩ j)
    (hc : makesDisk c = false) (hs : ∀ vol, c ≠ .updateStatus vol)
    (hl : LeavesNothing kind ⟨i,⟨c,r,w,w'⟩⟩ j)
    (hh : ∀ v', Live v' w' → ∃ v, Live v w ∧ SameRecord v v' ∧ v.status = v'.status ∧
      (v.deleting = true → v'.deleting = true)) : Good (⟨i,⟨c,r,w,w'⟩⟩::j) w' := by
  refine ⟨?_,hl,hg.justified⟩
  intro v' hv'
  obtain ⟨v,hv,hsame,hst,hd⟩ := hh v' hv'
  exact .inl (settled_aside hc (settled_later hsame hst hd (settled_fine hx hs (hg.fine v hv))))

theorem good_aside (hg : Good j w) (ho : OpOutcome c w r w')
    (hx : NamesNext kind ⟨i,⟨c,r,w,w'⟩⟩ j) (hc : makesDisk c = false) (hv : part c ≠ .volumes) :
    Good (⟨i,⟨c,r,w,w'⟩⟩::j) w' := by
  refine good_records hg hx hc (not_status hv) (leaves_aside ?_) ?_
  · rintro vol rfl
    exact hv rfl
  · intro v hl
    rw [Live, Ledger.lookupVolume, (outcome_kept ho).volumes hv] at hl
    exact ⟨v,hl,sameRecord_refl v,rfl,fun h => h⟩

theorem quiet_makes (hc : part c = .nothing) : makesDisk c = false := by
  cases hm : makesDisk c with
  | false => rfl
  | true =>
    rw [part_makesDisk hm] at hc
    cases hc

theorem good_quiet (hg : Good j w) (hc : part c = .nothing) (ho : OpOutcome c w r w')
    (hx : NamesNext kind ⟨i,⟨c,r,w,w'⟩⟩ j) : Good (⟨i,⟨c,r,w,w'⟩⟩::j) w' :=
  good_aside hg ho hx (quiet_makes hc) (by simp [hc])

theorem good_update {vol' : ProxmoxVolume} {r : OpReply (.update vol')} (hg : Good j w)
    (hlive : Live vol w) (hr : Revised vol vol') (ho : OpOutcome (.update vol') w r w')
    (hx : NamesNext kind ⟨i,⟨_,r,w,w'⟩⟩ j) (hl : LeavesNothing kind ⟨i,⟨_,r,w,w'⟩⟩ j) :
    Good (⟨i,⟨_,r,w,w'⟩⟩::j) w' := by
  refine good_records hg hx rfl (by rintro vol ⟨⟩) hl ?_
  intro v' hv'
  rcases outcome_record (by simp [part]) ho with ⟨rfl,_⟩ | ⟨rfl,_⟩
  · exact ⟨v',hv',sameRecord_refl v',rfl,fun h => h⟩
  · rcases putVolume_lookup (writtenVolume_key vol') hv' with h | ⟨hn,hm,v,h,_,rfl⟩
    · exact ⟨_,h,sameRecord_refl _,rfl,fun h => h⟩
    · have hv : v = vol := by
        rw [Live, hr.ns, hr.name] at hlive
        rw [hn, hm] at h
        exact Option.some.inj (h.symm.trans hlive)
      subst hv
      rw [written_revised hr]
      exact ⟨v,hlive,hr.toSameRecord,hr.status,fun hd => by rw [← hr.deleting, hd]⟩

theorem good_remove {m n : String} {r : OpReply (.deleteVolume m n)} (hg : Good j w)
    (ho : OpOutcome (.deleteVolume m n) w r w') (hx : NamesNext kind ⟨i,⟨_,r,w,w'⟩⟩ j) :
    Good (⟨i,⟨_,r,w,w'⟩⟩::j) w' := by
  refine good_records hg hx rfl (by rintro vol ⟨⟩) (leaves_aside (by rintro vol ⟨⟩)) ?_
  intro v' hv'
  rcases outcome_record (by simp [part]) ho with ⟨rfl,_⟩ | ⟨rfl,_⟩
  · exact ⟨v',hv',sameRecord_refl v',rfl,fun h => h⟩
  · rcases deleteVolume_lookup hv' with h | ⟨v,h,hv⟩
    · exact ⟨v',h,sameRecord_refl v',rfl,fun h => h⟩
    · have hk := (find_some h).2
      rw [volumeKey, Prod.mk.injEq] at hk
      subst hv
      refine ⟨v,?_,⟨rfl,rfl,rfl,rfl,rfl⟩,rfl,fun _ => rfl⟩
      rw [Live, hk.1, hk.2]
      exact h

theorem good_status {r : OpReply (.updateStatus vol)} (hg : Good j w) (hk : Known vol w)
    (hok : Fine vol j w) (ho : OpOutcome (.updateStatus vol) w r w')
    (hx : NamesNext kind ⟨i,⟨_,r,w,w'⟩⟩ j) : Good (⟨i,⟨_,r,w,w'⟩⟩::j) w' := by
  refine ⟨?_,leaves_aside (by rintro vol ⟨⟩),hg.justified⟩
  intro v' hv'
  refine .inl (settled_aside rfl ?_)
  obtain ⟨v,hv,hu,hs,hc,hd⟩ := hk
  have hkey := (find_some hv).2
  rw [volumeKey, Prod.mk.injEq] at hkey
  have halike : Alike vol (reportedVolume vol v) :=
    alike_same ⟨hkey.1.symm,hkey.2.symm,hu.symm,hc.symm,hs.symm⟩ hd.symm rfl rfl rfl (.inl rfl) rfl
  by_cases hj : JustMade kind v'.ns v'.name j
  · obtain ⟨_,⟨vol',hcall,hn,hm,hready⟩,he⟩ := hx _ _ hj
    cases hcall
    have he' : w' = (answer w (.updateStatus vol)).2 := he
    rw [Live, ← hn, ← hm, he'] at hv'
    rw [putVolume_stored (reportedVolume_key vol) hv hu hv']
    refine settled_alike halike (hok.resolve_right ?_)
    rintro ⟨_,hnot⟩
    rw [hready] at hnot
    cases hnot
  · rcases outcome_record (by simp [part]) ho with ⟨rfl,_⟩ | ⟨rfl,_⟩
    · exact (hg.fine v' hv').resolve_right (fun h => hj h.1)
    · rcases putVolume_lookup (reportedVolume_key vol) hv' with h | ⟨hn,hm,v₀,h,_,rfl⟩
      · exact (hg.fine v' h).resolve_right (fun h => hj h.1)
      · have hv₀ : v₀ = v := by
          rw [hn, hm] at h
          exact Option.some.inj (h.symm.trans hv)
        subst hv₀
        refine settled_alike halike (hok.resolve_right ?_)
        rw [← hn, ← hm]
        exact fun h => hj h.1

theorem good_make (hg : Good j w) (hi : i = .reconcile vol.ns vol.name)
    (ha : Admitted vol t disk w) (hm : Making vol disk w c) (ho : OpOutcome c w r w')
    (hx : NamesNext kind ⟨i,⟨c,r,w,w'⟩⟩ j) : Good (⟨i,⟨c,r,w,w'⟩⟩::j) w' := by
  have hc := making_makesDisk hm
  have hp : part c ≠ .volumes := by simp [part_makesDisk hc]
  refine ⟨?_,leaves_aside ?_,hg.justified⟩
  · intro v hv
    rw [Live, Ledger.lookupVolume, (outcome_kept ho).volumes hp] at hv
    have hset := settled_fine hx (not_status hp) (hg.fine v hv)
    by_cases hj : JustMade kind v.ns v.name ((⟨i,⟨c,r,w,w'⟩⟩ : Line Task)::j)
    · refine .inr ⟨hj,?_⟩
      obtain ⟨y,hy,hown,_⟩ := hj
      cases hy
      have hk : i = .reconcile v.ns v.name := of_decide_eq_true (Bool.and_eq_true_iff.mp hown).1
      obtain ⟨hn,hm⟩ := Task.reconcile.inj (hi.symm.trans hk)
      have hlive := ha.live
      rw [Live, hn, hm] at hlive
      rw [Option.some.inj (hv.symm.trans hlive)]
      exact ha.unready
    · exact .inl (settled_step rfl rfl (fun d hd hb => hj ⟨_,rfl,hb,d,hd⟩) hset)
  · rintro v rfl
    cases hc

/-- Where the disk of a record is made, the record will name it. -/
theorem making_named (hm : Making vol disk w c) (hl : Live vol w)
    (hi : i = .reconcile vol.ns vol.name) (ho : OpOutcome c w r w')
    (hx : SameRegion ⟨i,⟨c,r,w,w'⟩⟩) {d : ListedDisk} (hd : d ∈ w'.disks) :
    d ∈ w.disks ∨ reaches vol.spec.region vol.spec.zone vol.spec.storage disk.disk d := by
  cases hm with
  | fresh sizeBytes => exact outcome_makes rfl ho hd
  | volume name src hs hr =>
    refine (outcome_makes rfl ho hd).imp_right (fun h => ?_)
    rw [← hx _ _ vol _ _ _ _ _ _ _ hi hl rfl]
    exact reaches_copied h
  | snapshot snap v hs hn hr hv =>
    refine (outcome_makes rfl ho hd).imp_right (fun h => ?_)
    rw [← hx _ _ vol _ _ _ _ _ _ _ hi hl rfl]
    exact reaches_copied h

theorem diskVolume_named (t : TenantCluster) (pluginType : String) (vol : ProxmoxVolume) :
    (diskVolume t pluginType vol).disk ≠ "" := by
  unfold diskVolume newVolumeFormat
  split
  · simp [newVolume]
  · split
    · simp [newVolume]
    · simp [newVolume]

/-- The record may be published after its disk was made. -/
theorem settled_published {sizeBytes : ℤ} (hi : i = .reconcile vol.ns vol.name)
    (ha : Admitted vol t disk w) (hm : Making vol disk w c) (ho : OpOutcome c w r w')
    (hx : SameRegion ⟨i,⟨c,r,w,w'⟩⟩) (h : Settled (published vol t disk sizeBytes) j w) :
    Settled (published vol t disk sizeBytes) (⟨i,⟨c,r,w,w'⟩⟩::j) w' := by
  refine .inr ⟨ha.provisioned,rfl,.inl (published_ready vol t disk sizeBytes),?_⟩
  have hn : disk.disk ≠ "" := by
    obtain ⟨p,_,rfl⟩ := ha.named
    exact diskVolume_named t p vol
  refine left_step rfl rfl (fun d hadd _ => ?_) ?_
  · have hr := (making_named hm ha.live hi ho hx hadd.2).resolve_left hadd.1
    exact decide_eq_true ⟨hn,hr⟩
  · rcases h with h | ⟨_,_,_,hcov⟩
    · exact left_imp h (fun _ hf => hf.elim)
    · exact hcov

theorem bare_unready (h : Settled vol j w) (hr : isReady vol = false) (hd : vol.deleting = false) :
    Bare kind vol.ns vol.name j w := by
  refine h.resolve_right ?_
  rintro ⟨_,_,h,_⟩
  rw [hr, hd] at h
  simp at h

theorem free_unnamed (h : Fine vol j w) (hn : vol.status.diskName = "") : Free vol j w := by
  rcases h with (h | ⟨_,_,_,hcov⟩) | ⟨hj,_⟩
  · exact .inl h
  · refine .inl (left_imp hcov (fun d hnamed => ?_))
    simp [namesDisk, hn] at hnamed
  · exact .inr hj

theorem free_adopted (h : Fine vol j w) (ha : vol.status.adopted = true ∨ vol.spec.adopt = true) :
    Free vol j w := by
  rcases h with (h | ⟨hadopt,hown,_⟩) | ⟨hj,_⟩
  · exact .inl h
  · rw [hadopt, hown] at ha
    simp at ha
  · exact .inr hj

theorem free_destroyed
    {r : OpReply (.deleteDisk vol.spec.region vol.spec.zone vol.spec.storage vol.status.diskName)}
    (h : Settled vol j w) (hx : TellsTruth kind ⟨i,⟨_,r,w,w'⟩⟩) (hr : r = .ok ()) :
    Free vol (⟨i,⟨_,r,w,w'⟩⟩::j) w' := by
  refine .inl (bare_destroyed ?_ rfl hx hr)
  rcases h with h | ⟨_,_,_,hcov⟩
  · exact left_imp h (fun _ hf => hf.elim)
  · exact left_imp hcov (fun _ hnamed => (of_decide_eq_true hnamed).2)

theorem leavesNothing_held {vol' : ProxmoxVolume} {r : OpReply (.update vol')} (hl : Live vol w)
    (hr : Revised vol vol') (hf : vol.finalizers ⊆ vol'.finalizers) :
    LeavesNothing kind ⟨i,⟨_,r,w,w'⟩⟩ j := by
  rintro ns name ⟨v,s,hc,rfl,rfl,hnot,hs,hmem⟩
  cases hc
  rw [Live, hr.ns, hr.name] at hl
  cases hs.symm.trans hl
  exact absurd (hf hmem) hnot

theorem leavesNothing_free {r : OpReply (.update (unheld vol))} (hf : Bare kind vol.ns vol.name j w) :
    LeavesNothing kind ⟨i,⟨_,r,w,w'⟩⟩ j := by
  rintro ns name ⟨v,s,hc,rfl,rfl,_⟩
  cases hc
  exact hf

end Invariant

def discipline : Discipline Task where
  cond := Careful
  Good := Good
  Ok := Fine
  Free := Free
  runs r := r.writes = true
  owner i vol := i = .reconcile vol.ns vol.name
  owner_same hi hs := by rw [hi, hs.ns, hs.name]
  good_read hc ho hx hg := good_quiet hg (reads_part hc) ho hx.1
  good_apply _ _ _ _ ha ho hx hg := good_quiet hg (applying_part ha) ho hx.1
  ok_live hg hl := hg.fine _ hl
  ok_alike ha h := fine_alike ha h
  good_update hl hr hf ho hx hg := good_update hg hl hr ho hx.1 (leavesNothing_held hl hr hf)
  good_status hk hok ho hx hg := good_status hg hk hok ho hx.1
  good_make hi ha hm ho hx hg := good_make hg hi ha hm ho hx.1
  good_destroy _ hl _ _ ho hx hg := ⟨good_aside hg ho hx.1 rfl (by simp [part]),
    free_destroyed (settled_fine hx.1 (by rintro v ⟨⟩) (hg.fine _ hl)) hx.2.2⟩
  free_unnamed hg hl _ hn := free_unnamed (hg.fine _ hl) hn
  free_kept hr hg hl _ hn := by
    refine free_adopted (hg.fine _ hl) ?_
    rw [hr] at hn
    by_contra h
    simp at h
    simp [h] at hn
  good_release hl hf ho hx hg := good_update hg hl (unheld_revised _) ho hx.1
    (leavesNothing_free (hf.resolve_right (not_justMade hx.1 (not_names (by rintro v ⟨⟩)))))
  ok_read hc _ hx h := .inl (settled_aside (quiet_makes (reads_part hc))
    (settled_fine hx.1 (not_status (by simp [reads_part hc])) h))
  ok_update _ _ _ hx h := .inl (settled_aside rfl (settled_fine hx.1 (by rintro v ⟨⟩) h))
  ok_status hr ho hx h := by
    refine .inl (settled_aside rfl (h.resolve_right ?_))
    rw [hr]
    simp
  ok_make hi ha hm ho hx _ h := .inl (settled_published hi ha hm ho hx.2.1 (settled_fine hx.1
    (not_status (by simp [part_makesDisk (making_makesDisk hm)])) h))
  publish _ ha hx hg := by
    have h := settled_fine hx.1 (by rintro v ⟨⟩) (hg.fine _ ha.live)
    exact .inl (.inl (bare_same (published_same _ _ _ _) (bare_unready h ha.unready ha.undeleted)))
  adopt _ hl _ ha _ _ _ _ _ _ _ _ hx hg := by
    have h := settled_fine hx.1 (by rintro v ⟨⟩) (hg.fine _ hl)
    refine .inl (settled_aside rfl
      (.inl (bare_same (adoptedRecord_fields _ _ _ _).1 (h.resolve_right ?_))))
    rw [ha]
    simp

section Work

theorem task_keeps {r : Reconciler} (hr : r.writes = true) (i : Task) (l : Log Task) (w : Ledger)
    (hw : Every Careful l → Good l w) :
    Safe cluster (Given Careful Good i l) (fun _ _ _ => True) (program r i) [] w := by
  cases i with
  | reconcile ns name =>
    have hk : Keeps discipline.toFrame (.reconcile ns name) l Good
      (VolumeLifecycle.reconcile r ns name) :=
      reconcile_keeps hr (fun _ hn hm => by rw [← hn, ← hm]; rfl)
    exact triple_task hk hw
  | remove ns name =>
    have hk : Keeps discipline.toFrame (.remove ns name) l Good (removal (.deleteVolume ns name)) :=
      removal_keeps (fun hg ho hx => good_remove hg ho hx.1)
    exact triple_task hk hw

theorem good_start (w : Ledger) : Good [] w := by
  refine ⟨?_,trivial⟩
  intro vol _
  exact .inl (.inl (left_start w))

/-- As long as every disk that is made is published next, in the region of its record, and
deleted when that is said, a finalizer is given up only when no disk is left. -/
theorem released_volumes_leave_nothing {r : Reconciler} (hr : r.writes = true) {w₀ : Ledger}
    {b : Stand Task OpCall OpReply Ledger} (hw : Work cluster (program r) ⟨[],w₀⟩ b)
    (hc : Every Careful b.journal) : Every (LeavesNothing kind) b.journal :=
  (work_given (task_keeps hr) hw (good_start w₀) hc).justified

end Work

section Sample

def sampleLedger : Ledger := blueLedger blueTenant [requestedVolume "pvc-a" 1] []

def sampleTasks : List Task :=
  [.reconcile "blue-ns" "pvc-a",.remove "blue-ns" "pvc-a",.reconcile "blue-ns" "pvc-a"]

def timedAnswer (l : Ledger) : (c : OpCall) → OpReply c × Ledger
  | .createDisk region zone storage name size =>
      (.error ⟨.other,"got timeout"⟩,(answer l (.createDisk region zone storage name size)).2)
  | c => answer l c

def timed : Schedule OpCall OpReply Ledger := ⟨fun _ l => l,fun _ c l => timedAnswer l c⟩

theorem timed_lawful : Lawful cluster timed := by
  refine ⟨fun _ _ => .refl,?_⟩
  intro _ c l
  cases c with
  | createDisk region zone storage name size => exact .lost _ l _ rfl
  | _ => exact .served _ l

def unpublished : Stand Task OpCall OpReply Ledger :=
  turns timed (program plainReconciler) ⟨[],sampleLedger⟩ sampleTasks

def releasing (ns name : String) (x : Line Task) : Bool :=
  match x.event.call, x.event.before.lookupVolume ns name with
  | .update vol, some s => vol.ns = ns ∧ vol.name = name ∧ volumeFinalizer ∉ vol.finalizers ∧
      volumeFinalizer ∈ s.finalizers
  | _, _ => false

theorem releasing_releases {ns name : String} {x : Line Task} (h : releasing ns name x) :
    kind.releases ns name x := by
  unfold releasing at h
  split at h
  · rename_i vol s hc hs
    obtain ⟨hn,hm,hf,hf'⟩ := of_decide_eq_true h
    exact ⟨vol,s,hc,hn,hm,hf,hs,hf'⟩
  · cases h

/-- The disk that was reported as failed is left behind by its record. -/
theorem failed_creation_left_behind :
    Work cluster (program plainReconciler) ⟨[],sampleLedger⟩ unpublished ∧
    unpublished.world.volumes.length = 0 ∧ blueDisk "pvc-a" ∈ unpublished.world.disks ∧
    ¬Every (LeavesNothing kind) unpublished.journal := by
  obtain ⟨hnone,hleft,hlen,hlast,hbefore,hm⟩ : unpublished.world.volumes.length = 0 ∧
      blueDisk "pvc-a" ∈ unpublished.world.disks ∧ ∃ hlen : 0 < unpublished.journal.length,
      releasing "blue-ns" "pvc-a" (unpublished.journal.get ⟨0,hlen⟩) ∧
      blueDisk "pvc-a" ∈ (unpublished.journal.get ⟨0,hlen⟩).event.before.disks ∧
      madeTest (madeFor kind "blue-ns" "pvc-a") (blueDisk "pvc-a") (unpublished.journal.drop 1) := by
    decide +kernel
  exact ⟨turns_work timed_lawful _ _ _,hnone,hleft,
    left_behind hlen (releasing_releases hlast) hbefore hm⟩

def publishedRun : Stand Task OpCall OpReply Ledger :=
  turns prompt (program plainReconciler) ⟨[],sampleLedger⟩ sampleTasks

def publishes (ns name : String) : OpCall → Bool
  | .updateStatus vol => vol.ns = ns ∧ vol.name = name ∧ isReady vol
  | _ => false

def publishesFor (x : Line Task) : Bool :=
  match x.task with
  | .reconcile ns name => publishes ns name x.event.call
  | .remove _ _ => false

def carefully (x : Line Task) (j : Log Task) : Bool :=
  namedNext kind publishesFor x j &&
  match x.event.call with
  | .copyDisk _ _ _ _ _ _ _ => false
  | .deleteDisk region zone storage disk => x.event.after.lookupDisk region zone storage disk = none
  | _ => true

theorem publishes_status {ns name : String} {c : OpCall} (h : publishes ns name c) :
    ∃ vol, c = .updateStatus vol ∧ vol.ns = ns ∧ vol.name = name ∧ isReady vol = true := by
  cases c with
  | updateStatus vol =>
    obtain ⟨hn,hm,hr⟩ := of_decide_eq_true h
    exact ⟨vol,rfl,hn,hm,hr⟩
  | _ => cases h

theorem carefully_careful {x : Line Task} {j : Log Task} (he : TookEffect x.event)
    (h : carefully x j) : Careful x j := by
  obtain ⟨i,c,r,w,w'⟩ := x
  obtain ⟨hnext,hcall⟩ := Bool.and_eq_true_iff.mp h
  refine ⟨?_,?_,?_⟩
  · refine namedNext_namesNext he ?_ hnext
    rintro ns name rfl ht
    exact publishes_status ht
  · rintro ns name vol region zone storage disk dstZone dstStorage dstDisk _ _ ⟨⟩
    cases hcall
  · rintro region zone storage disk r w w' ⟨⟩ _
    exact of_decide_eq_true hcall

/-- The disk is published, and deleted with its record. -/
theorem published_disk_deleted : publishedRun.world.volumes.length = 0 ∧
    publishedRun.world.disks = [] ∧ Every (LeavesNothing kind) publishedRun.journal := by
  have hc : tested carefully publishedRun.journal = true := by decide +kernel
  have he : ∀ x ∈ publishedRun.journal, TookEffect x.event :=
    turns_events (fun _ _ _ => rfl) _ _ (by simp)
  have hw : Work cluster (program plainReconciler) ⟨[],sampleLedger⟩ publishedRun :=
    turns_work prompt_cluster _ _ _
  exact ⟨by decide +kernel,by decide +kernel,released_volumes_leave_nothing rfl hw
    (every_tested (fun x hx _ => carefully_careful (he x hx)) hc)⟩

end Sample

end ProxmoxCSI.VolumeLeaks
