import Mathlib.Data.List.Sort
import ProxmoxCSI.CallTracks
import ProxmoxCSI.ModifyConvergence
import ProxmoxCSI.SeparatedTexts

/-!
# The fingerprint of mutable parameters

The digest is taken of all keys and values in the order of the keys, each closed
by a NUL. A parameter with a NUL inside reads like two texts, so the fingerprint
tells parameters apart exactly when none of them has one.
-/

set_option autoImplicit false

namespace ProxmoxCSI.ParameterHash
open CallProgram CallProgram.Prog CallSafety CallTracks TextScan SeparatedTexts OperatorRecords
open CallSchedule
open VolumeReconciler VolumeService ModifyConvergence

def sortedKeys (params : Params) : List String :=
  params.keys.insertionSort (fun a b => a ≤ b)

def pieces (params : Params) : List String :=
  (sortedKeys params).flatMap (fun k => [k,valueOf params k])

def hashedText (params : Params) : String :=
  String.ofList ((pieces params).flatMap (fun s => s.toList ++ ['\x00']))

def mutableParamsHash (digest : String → String) (params : Params) : String :=
  digest (hashedText params)

def Over (A : Set Char) (params : Params) : Prop :=
  ∀ k v, params.lookup k = some v → (∀ c ∈ k.toList, c ∈ A) ∧ ∀ c ∈ v.toList, c ∈ A

def Same (p q : Params) : Prop := ∀ k, p.lookup k = q.lookup k

section Injective

variable {p q : Params} {A : Set Char}

theorem mem_sortedKeys {k : String} : k ∈ sortedKeys p ↔ ∃ v, p.lookup k = some v := by
  rw [sortedKeys, List.mem_insertionSort, ← AList.mem_keys, ← AList.lookup_isSome,
    Option.isSome_iff_exists]

theorem pieces_over (h : Over A p) : ∀ s ∈ pieces p, ∀ c ∈ s.toList, c ∈ A := by
  intro s hs
  obtain ⟨k,hk,hs⟩ := List.mem_flatMap.mp hs
  obtain ⟨v,hv⟩ := mem_sortedKeys.mp hk
  rcases List.mem_pair.mp hs with rfl | rfl
  · exact (h s v hv).1
  · rw [valueOf, hv, Option.getD_some]
    exact (h k v hv).2

theorem flatMap_pair_injective {f g : String → String} {ks ks' : List String}
    (h : ks.flatMap (fun k => [k,f k]) = ks'.flatMap (fun k => [k,g k])) :
    ks = ks' ∧ ∀ k ∈ ks, f k = g k := by
  induction ks generalizing ks' with
  | nil =>
    cases ks' with
    | nil => exact ⟨rfl,by simp⟩
    | cons k ks' => cases h
  | cons k ks ih =>
    cases ks' with
    | nil => cases h
    | cons k' ks' =>
      simp only [List.flatMap_cons, List.cons_append, List.nil_append, List.cons.injEq] at h
      obtain ⟨rfl,hv,h⟩ := h
      obtain ⟨rfl,hrest⟩ := ih h
      refine ⟨rfl,?_⟩
      intro x hx
      rcases List.mem_cons.mp hx with rfl | hx
      · exact hv
      · exact hrest x hx

theorem same_of_pieces (h : pieces p = pieces q) : Same p q := by
  obtain ⟨hk,hv⟩ := flatMap_pair_injective h
  intro k
  have hmem : k ∈ sortedKeys p ↔ k ∈ sortedKeys q := by rw [hk]
  rw [mem_sortedKeys, mem_sortedKeys] at hmem
  cases hp : p.lookup k with
  | none =>
    cases hq : q.lookup k with
    | none => rfl
    | some v =>
      obtain ⟨w,hw⟩ := hmem.mpr ⟨v,hq⟩
      rw [hp] at hw
      cases hw
  | some v =>
    obtain ⟨w,hw⟩ := hmem.mp ⟨v,hp⟩
    have he := hv k (mem_sortedKeys.mpr ⟨v,hp⟩)
    rw [valueOf, valueOf, hp, hw, Option.getD_some, Option.getD_some] at he
    rw [hw, he]

theorem same_of_hashedText (hA : '\x00' ∉ A) (hp : Over A p) (hq : Over A q)
    (h : hashedText p = hashedText q) : Same p q := by
  have hsplit : ∀ {r : Params}, Over A r →
      ((pieces r).map String.toList).flatMap (fun s => s ++ ['\x00']) = (hashedText r).toList ∧
        ∀ s ∈ (pieces r).map String.toList, '\x00' ∉ s := by
    intro r hr
    refine ⟨by simp [hashedText, List.flatMap_map],?_⟩
    intro s hs hc
    obtain ⟨t,ht,rfl⟩ := List.mem_map.mp hs
    exact hA (pieces_over hr t ht _ hc)
  have ht := terminated_injective (hsplit hp).2 (hsplit hq).2
    ((hsplit hp).1.trans ((congrArg String.toList h).trans (hsplit hq).1.symm))
  exact same_of_pieces (List.map_injective_iff.mpr (fun _ _ => String.toList_inj.mp) ht)

end Injective

section Requests

variable {s : VolumeService.Service} {t : TenantCluster} {l : Ledger} {v : ProxmoxVolume}
  {params : Params}

/-- A request that is answered with success finds its own fingerprint on an attached volume. -/
theorem modifyVolume_recorded (hl : Holds l v.status.volumeID v) (hid : v.status.volumeID ≠ "")
    (hn : v.ns = t.ns) (hp : v.status.phase = .ready) (ha : Attached l v)
    (hok : (finish prompt (modifyVolume s (some t) v.status.volumeID params).run [] l).value =
      .ok ()) : Recorded s v params := by
  have hr : mutableRefusal t.parameterPolicy params = none := by
    have h := finish_returns (modifyVolume_returns s t v.status.volumeID params) (σ := prompt) [] l
    rw [hok] at h
    exact h
  cases hg : Ledger.volumeGone v with
  | true =>
    obtain ⟨e,l',he,_⟩ := modifyRecord_removes (s := s) (p := params) hl hg ha
    obtain ⟨h',hf⟩ := modifyVolume_evaluates hl hid hn rfl hp hr he []
    rw [hf] at hok
    cases hok
  | false =>
    obtain ⟨l',_,_,he⟩ := modifyRecord_evaluates (s := s) (p := params) hl hg ha
    obtain ⟨h',hf⟩ := modifyVolume_evaluates hl hid hn rfl hp hr he []
    rw [hf] at hok
    exact modifyAnswer_ok.mp hok

end Requests

section Histories

variable {W : Type}

def reread : History OpCall OpReply W → Option ProxmoxVolume
  | ⟨.getVolume _ _,.ok vol,_,_⟩::_ => some vol
  | _ => none

def Detached : History OpCall OpReply W → Prop
  | ⟨.listAttachments _,.ok as,_,_⟩::⟨.update vol,_,_,_⟩::_ => attachmentOf vol as = none
  | _ => False

/-- A request that is answered with success found the volume detached or read its own fingerprint. -/
theorem modifyVolume_tracks {fit : Event OpCall OpReply W → Prop} (s : VolumeService.Service)
    (t : TenantCluster) (id : String) (params : Params) (h : History OpCall OpReply W) :
    Tracks fit (fun _ _ => True) (fun _ h => Detached h ∨ ∃ vol, reread h = some vol ∧
      Recorded s vol params) (modifyVolume s (some t) id params) h := by
  refine tracks_bind (tracks_free (fun _ _ h => h) (uses_any _)) (fun _ h _ => ?_)
  refine tracks_bind (tracks_free (fun _ _ h => h) (uses_any _)) (fun vol h _ => ?_)
  split
  · exact tracks_throw
  · refine tracks_call trivial (fun u w w' _ _ _ => ?_)
    refine tracks_call trivial (fun r w w' _ as hr => ?_)
    cases CallErrors.mapError_ok hr
    split
    · rename_i hn
      exact tracks_pure (.inl hn)
    · refine tracks_call trivial (fun r w w' _ vol' hr => ?_)
      cases CallErrors.mapError_ok hr
      split
      · rename_i hv
        exact tracks_pure (.inr ⟨vol',rfl,hv⟩)
      · exact tracks_throw

end Histories

/-- A service that fingerprints with the digest answers a request for an attached volume with
success only if the parameters that were applied are the requested ones. -/
def AnswersApplied (digest : String → String) (A : Set Char) : Prop :=
  ∀ (s : VolumeService.Service) (t : TenantCluster) (l : Ledger) (v : ProxmoxVolume)
    (applied requested : Params), s.paramsHash = mutableParamsHash digest →
    Over A applied → Over A requested → Holds l v.status.volumeID v → v.status.volumeID ≠ "" →
    v.ns = t.ns → v.status.phase = .ready → Attached l v →
    valueOf v.annotations appliedMutableParamsAnnotation = mutableParamsHash digest applied →
    (finish prompt (modifyVolume s (some t) v.status.volumeID requested).run [] l).value = .ok () →
    Same applied requested

/-- The same of every run, whatever the answers are: the parameters are those of the record that
was read again, unless the volume was found detached. -/
def AnswersReread (digest : String → String) (A : Set Char) : Prop :=
  ∀ {W : Type} (S : CallProgram.Service OpCall OpReply W) (s : VolumeService.Service)
    (t : TenantCluster) (id : String) (applied requested : Params) (w w' : W)
    (h : History OpCall OpReply W), s.paramsHash = mutableParamsHash digest →
    Over A applied → Over A requested →
    Runs S ⟨[],w,(modifyVolume s (some t) id requested).run⟩ ⟨h,w',.done (.ok ())⟩ → ¬Detached h →
    ∃ vol, reread h = some vol ∧
      (valueOf vol.annotations appliedMutableParamsAnnotation = mutableParamsHash digest applied →
        Same applied requested)

theorem fingerprint_injective_iff (digest : String → String) (hd : Function.Injective digest)
    (A : Set Char) :
    ((∀ p q, Over A p → Over A q → mutableParamsHash digest p = mutableParamsHash digest q →
      Same p q) ∧ AnswersApplied digest A ∧ AnswersReread digest A) ↔ '\x00' ∉ A := by
  constructor
  · rintro ⟨h,_⟩ hA
    have hmade : ∀ k v : String, (∀ c ∈ k.toList, c ∈ A) → (∀ c ∈ v.toList, c ∈ A) →
        Over A ((∅ : Params).insert k v) := by
      intro k v hk hv k' v' he
      by_cases hkk : k' = k
      · subst hkk
        rw [AList.lookup_insert] at he
        cases he
        exact ⟨hk,hv⟩
      · rw [AList.lookup_insert_ne hkk] at he
        cases he
    have hnul : ∀ c ∈ "\x00".toList, c ∈ A := by
      intro c hc
      obtain rfl : c = '\x00' := by simpa using hc
      exact hA
    have hsame := h _ _ (hmade "" "\x00" (by simp) hnul) (hmade "\x00" "" hnul (by simp))
      (congrArg digest (by decide)) ""
    exact absurd hsame (by decide)
  · intro hA
    refine ⟨fun p q hp hq h => same_of_hashedText hA hp hq (hd h),?_,?_⟩
    · intro s t l v applied requested hs happlied hrequested hl hid hn hp ha hv hok
      have hr := modifyVolume_recorded hl hid hn hp ha hok
      rw [Recorded, hs, hv] at hr
      exact same_of_hashedText hA happlied hrequested (hd hr)
    · intro W S s t id applied requested w w' h hs happlied hrequested hrun hdetached
      rcases runs_follow hrun (modifyVolume_tracks s t id requested []) with hn | ⟨vol,hvol,hr⟩
      · exact absurd hn hdetached
      · refine ⟨vol,hvol,fun hv => ?_⟩
        rw [Recorded, hs, hv] at hr
        exact same_of_hashedText hA happlied hrequested (hd hr)

theorem fingerprint_injective_digits : AnswersApplied id {c : Char | c.isDigit = true} ∧
    AnswersReread id {c : Char | c.isDigit = true} :=
  ((fingerprint_injective_iff id Function.injective_id _).mpr
    (show ¬Char.isDigit '\x00' = true by decide)).2

/-- One value with two NULs inside, and two parameters. -/
theorem fingerprint_collides :
    hashedText ((∅ : Params).insert "a" "b\x00c\x00d") =
      hashedText (((∅ : Params).insert "c" "d").insert "a" "b") ∧
    ¬Same ((∅ : Params).insert "a" "b\x00c\x00d") (((∅ : Params).insert "c" "d").insert "a" "b") := by
  refine ⟨by decide,?_⟩
  intro h
  exact absurd (h "c") (by decide)

end ProxmoxCSI.ParameterHash
