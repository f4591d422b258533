import ProxmoxCSI.CreateIdempotency

/-!
# Snapshots page by page

A token is the number of snapshots that have been delivered. Following the tokens
from the start delivers every snapshot of the filtered list once, in its order,
whatever the sizes of the pages are. A token below zero is not refused: the handler
panics on it.
-/

set_option autoImplicit false

namespace ProxmoxCSI.SnapshotPages
open CallProgram CallProgram.Prog CallErrors CallSafety CallSchedule TextScan OperatorRecords
open VolumeService
open DirectCalls (RpcError Code status)

section Pages

def page (snaps : List ProxmoxVolumeSnapshot) (start : ℕ) (maxEntries : ℤ) : ListSnapshotsResponse :=
  let first := min start snaps.length
  let count := pageLength (snaps.length - first) maxEntries
  ⟨((snaps.drop first).take count).map snapshotEntry,
    if first + count < snaps.length then toString (first + count) else ""⟩

def pageAt (snaps : List ProxmoxVolumeSnapshot) (token : String) (maxEntries : ℤ) :
    Except RpcError ListSnapshotsResponse :=
  if token = "" then .ok (page snaps 0 maxEntries)
  else match atoi token with
    | none => .error (status .invalidArgument ("invalid starting_token: " ++ atoiText token))
    | some n => if n < 0 then .error recovered else .ok (page snaps n.toNat maxEntries)

def Negative (token : String) : Prop := ∃ n : ℤ, atoi token = some n ∧ n < 0

theorem pageAt_panics_iff (snaps : List ProxmoxVolumeSnapshot) (token : String) (maxEntries : ℤ) :
    pageAt snaps token maxEntries = .error recovered ↔ Negative token := by
  unfold pageAt Negative
  by_cases ht : token = ""
  · subst ht
    rw [if_pos rfl]
    constructor
    · intro h
      cases h
    · rintro ⟨n,hn,_⟩
      exact absurd (hn.symm.trans (by decide : atoi "" = none)) (by simp)
  · rw [if_neg ht]
    cases ha : atoi token with
    | none =>
      constructor
      · intro h
        have hk := congrArg RpcError.kind (Except.error.inj h)
        simp [status, recovered, internal] at hk
      · rintro ⟨n,hn,_⟩
        cases hn
    | some n =>
      by_cases hn : n < 0
      · simp [hn]
      · simp [hn]

variable {σ : Schedule OpCall OpReply Ledger} {h : History OpCall OpReply Ledger} {l : Ledger}
  {t : TenantCluster} {req : ListSnapshotsRequest} {snaps : List ProxmoxVolumeSnapshot}

def Lists (σ : Schedule OpCall OpReply Ledger) (h : History OpCall OpReply Ledger) (l : Ledger)
    (ns : String) (snaps : List ProxmoxVolumeSnapshot) : Prop :=
  (event σ h l (.listSnapshots ns)).reply = .ok snaps

theorem listSnapshots_value (hl : Lists σ h l t.ns snaps) (hid : req.snapshotID = "") :
    (finish σ (listSnapshots (some t) req).run h l).value =
      pageAt (listedSnapshots req snaps) req.startingToken req.maxEntries := by
  have hreply : (σ.answer h.length (.listSnapshots t.ns) (σ.others h.length l)).1 = .ok snaps := hl
  have hprog : (listSnapshots (some t) req).run = .call (.listSnapshots t.ns)
      (fun r : OpReply (.listSnapshots t.ns) => match r with
        | .error e => .done (.error (internal ("listing snapshots: " ++ e.text)))
        | .ok snaps => (do
          let start ← startOf req.startingToken
          snapshotPage (listedSnapshots req snaps) start req.maxEntries :
            A ListSnapshotsResponse).run) := by
    unfold listSnapshots withTenant
    simp only [hid, ne_eq, not_true_eq_false, if_false]
    refine congrArg (Prog.call (OpCall.listSnapshots t.ns)) (funext fun r => ?_)
    cases r with
    | error e => rfl
    | ok snaps => rfl
  rw [hprog, finish, hreply]
  unfold pageAt startOf
  by_cases ht : req.startingToken = ""
  · simp only [ht, if_true]
    rfl
  · simp only [ht, if_false]
    cases ha : atoi req.startingToken with
    | none => rfl
    | some n =>
      by_cases hn : n < 0
      · simp only [hn, if_true]
        show (finish σ (snapshotPage _ n _).run _ _).value = _
        rw [snapshotPage, if_pos hn]
        rfl
      · simp only [hn, if_false]
        show (finish σ (snapshotPage _ n _).run _ _).value = _
        rw [snapshotPage, if_neg hn]
        rfl

end Pages

section Walk

def collect (ask : String → ℤ → Except RpcError ListSnapshotsResponse) :
    ℕ → (ℕ → ℤ) → String → Option (List SnapshotEntry)
  | 0, _, _ => none
  | fuel+1, sizes, token => match ask token (sizes 0) with
    | .error _ => none
    | .ok resp =>
      if resp.nextToken = "" then some resp.entries
      else (collect ask fuel (fun k => sizes (k+1)) resp.nextToken).map (resp.entries ++ ·)

def TokenAt (token : String) (start : ℕ) : Prop :=
  token = "" ∧ start = 0 ∨ token = toString start ∧ start < 2^63

variable {snaps : List ProxmoxVolumeSnapshot}

theorem pageAt_position {token : String} {start : ℕ} (ht : TokenAt token start)
    (maxEntries : ℤ) : pageAt snaps token maxEntries = .ok (page snaps start maxEntries) := by
  rcases ht with ⟨rfl,rfl⟩ | ⟨rfl,hlt⟩
  · rw [pageAt, if_pos rfl]
  · rw [pageAt, if_neg (repr_ne start), atoi_repr start hlt]
    simp

theorem pageLength_pos (remaining : ℕ) {maxEntries : ℤ} (hm : 1 ≤ maxEntries) :
    pageLength remaining maxEntries ≤ remaining ∧
      (1 ≤ remaining → 1 ≤ pageLength remaining maxEntries) := by
  unfold pageLength
  split <;> omega

/-- From a position on, the pages are the rest of the list. -/
theorem collect_rest (hlen : snaps.length < 2^63) (fuel : ℕ) {sizes : ℕ → ℤ}
    (hs : ∀ k, 1 ≤ sizes k) {token : String} {start : ℕ} (ht : TokenAt token start)
    (hle : start ≤ snaps.length) :
    (∀ es, collect (pageAt snaps) fuel sizes token = some es →
      es = (snaps.drop start).map snapshotEntry) ∧
    (snaps.length - start < fuel →
      collect (pageAt snaps) fuel sizes token = some ((snaps.drop start).map snapshotEntry)) := by
  induction fuel generalizing sizes token start with
  | zero =>
    refine ⟨fun es h => ?_,fun h => absurd h (Nat.not_lt_zero _)⟩
    cases h
  | succ fuel ih =>
    obtain ⟨hcl,hcp⟩ := pageLength_pos (snaps.length - start) (hs 0)
    have hfirst : min start snaps.length = start := min_eq_left hle
    have hsplit : ∀ count, (snaps.drop start).map snapshotEntry =
        ((snaps.drop start).take count).map snapshotEntry ++
          (snaps.drop (start + count)).map snapshotEntry := by
      intro count
      rw [← List.map_append, ← List.drop_drop, List.take_append_drop]
    rw [collect, pageAt_position ht]
    simp only [page, hfirst]
    by_cases hmore : start + pageLength (snaps.length - start) (sizes 0) < snaps.length
    · simp only [hmore, if_true, repr_ne, if_false]
      have hnext : TokenAt (toString (start + pageLength (snaps.length - start) (sizes 0)))
          (start + pageLength (snaps.length - start) (sizes 0)) := .inr ⟨rfl,by omega⟩
      obtain ⟨hsome,hdone⟩ := ih (fun k => hs (k+1)) hnext hmore.le
      constructor
      · intro es he
        obtain ⟨rest,hr,rfl⟩ := Option.map_eq_some_iff.mp he
        rw [hsome rest hr, ← hsplit]
      · intro hf
        have h1 := hcp (by omega)
        rw [hdone (by omega), Option.map_some, ← hsplit]
    · simp only [hmore, if_false, if_true]
      have hall : ((snaps.drop start).take (pageLength (snaps.length - start) (sizes 0))) =
          snaps.drop start := by
        apply List.take_of_length_le
        rw [List.length_drop]
        omega
      rw [hall]
      exact ⟨fun es he => (Option.some.inj he).symm,fun _ => rfl⟩

end Walk

section Listing

variable {σ : Schedule OpCall OpReply Ledger} {h : History OpCall OpReply Ledger} {l : Ledger}
  {t : TenantCluster} {snaps : List ProxmoxVolumeSnapshot}

def answers (σ : Schedule OpCall OpReply Ledger) (h : History OpCall OpReply Ledger) (l : Ledger)
    (t : TenantCluster) (sourceVolumeName token : String) (maxEntries : ℤ) :
    Except RpcError ListSnapshotsResponse :=
  (finish σ (listSnapshots (some t) ⟨"",sourceVolumeName,token,maxEntries⟩).run h l).value

theorem answers_eq (hl : Lists σ h l t.ns snaps) (sourceVolumeName : String) :
    answers σ h l t sourceVolumeName =
      pageAt (listedSnapshots ⟨"",sourceVolumeName,"",0⟩ snaps) := by
  funext token maxEntries
  exact listSnapshots_value hl rfl

theorem snapshot_paging (hl : Lists σ h l t.ns snaps) (hlen : snaps.length < 2^63)
    (sourceVolumeName : String) :
    (∀ token maxEntries, answers σ h l t sourceVolumeName token maxEntries ≠ .error recovered ↔
      ¬Negative token) ∧
    ∀ sizes : ℕ → ℤ, (∀ k, 1 ≤ sizes k) →
      (∃ fuel, (collect (answers σ h l t sourceVolumeName) fuel sizes "").isSome = true) ∧
      ∀ fuel es, collect (answers σ h l t sourceVolumeName) fuel sizes "" = some es →
        es = (snaps.filter (fun s => s.snapshotID ≠ "" ∧
          (sourceVolumeName = "" ∨ s.sourceVolumeName = sourceVolumeName))).map snapshotEntry := by
  rw [answers_eq hl]
  refine ⟨fun token maxEntries => not_congr (pageAt_panics_iff _ _ _),fun sizes hs => ?_⟩
  have hshort : (listedSnapshots ⟨"",sourceVolumeName,"",0⟩ snaps).length < 2^63 :=
    lt_of_le_of_lt (List.length_filter_le _ _) hlen
  have hfirst : TokenAt "" 0 := .inl ⟨rfl,rfl⟩
  have hrest := fun fuel => collect_rest hshort fuel hs hfirst (Nat.zero_le _)
  refine ⟨⟨(listedSnapshots ⟨"",sourceVolumeName,"",0⟩ snaps).length+1,?_⟩,
    fun fuel es he => (hrest fuel).1 es he⟩
  rw [(hrest _).2 (by omega)]
  rfl

def sampleSnapshot (name id : String) : ProxmoxVolumeSnapshot :=
  ⟨"blue-ns",name,0,1,∅,[],false,"pvc-a","local","n1",id,true,5,1,[]⟩

def sampleStore : Ledger :=
  { CreateIdempotency.emptyLedger with
    snapshots := [sampleSnapshot "a" "id-a",sampleSnapshot "b" "",sampleSnapshot "c" "id-c"] }

theorem snapshot_paging_two :
    (∃ fuel, (collect (answers prompt [] sampleStore blueTenant "pvc-a") fuel
      (fun _ => 1) "").isSome = true) ∧
    ∀ fuel es, collect (answers prompt [] sampleStore blueTenant "pvc-a") fuel
      (fun _ => 1) "" = some es → es = [⟨"id-a","",true,5⟩,⟨"id-c","",true,5⟩] :=
  (snapshot_paging (σ := prompt) (h := []) (l := sampleStore) (t := blueTenant)
    rfl (by decide) "pvc-a").2 (fun _ => 1) (fun _ => Int.le_refl 1)

theorem negative_token_panics :
    answers prompt [] sampleStore blueTenant "" "-1" 1 = .error recovered := by
  rfl

end Listing

end ProxmoxCSI.SnapshotPages
