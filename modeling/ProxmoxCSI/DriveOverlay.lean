import ProxmoxCSI.AttachedSlots
import ProxmoxCSI.SeparatedTexts

/-!
# Updating the options of a drive

An update reads the options of the drive back from its text and writes them
again under the requested ones. An option whose text is not one key and one
value, and one that shares its key with another, does not survive this; neither
does a requested value that is empty.
-/

set_option autoImplicit false

namespace ProxmoxCSI.DriveOverlay
open CallProgram CallProgram.Prog CallErrors TextScan SeparatedTexts VolumeHandle AttachedSlots

def optionTexts (value : String) : List String := (split value ',').tail

def optionKey (text : String) : String := firstPiece text '='

def optionText (key value : String) : String := key ++ "=" ++ value

/-- The drive refers to the same disk, has the requested options and keeps the others. -/
structure Overlay (value : String) (options : Options) (written : String) : Prop where
  disk : firstPiece written ',' = firstPiece value ','
  requested : ∀ k x, options.lookup k = some x → optionText k x ∈ optionTexts written
  others : ∀ p ∈ optionTexts value, optionKey p ∉ options → p ∈ optionTexts written
  distinct : ((optionTexts written).map optionKey).Nodup

/-- An option has one key and one value, and its text can be told from the next. -/
structure Clean (options : Options) : Prop where
  keys : ∀ k ∈ options, ',' ∉ k.toList ∧ '=' ∉ k.toList
  values : ∀ k x, options.lookup k = some x → ',' ∉ x.toList

/-- Every option that is kept is one key and one value, the only one of its key, and no requested
value is empty where the drive has one. -/
structure Overlayable (value : String) (options : Options) : Prop where
  pairs : ∀ p ∈ optionTexts value, optionKey p ∉ options → ∃ k x, split p '=' = [k,x]
  single : ∀ p ∈ optionTexts value, ∀ q ∈ optionTexts value, optionKey p = optionKey q →
    optionKey p ∉ options → p = q
  given : ∀ k, options.lookup k = some "" → ∀ p ∈ optionTexts value, ∀ x, split p '=' = [k,x] →
    x = ""

section Texts

theorem optionText_toList (k x : String) :
    (optionText k x).toList = k.toList ++ '='::x.toList := by
  simp [optionText]

theorem optionKey_text {k x : String} (hk : '=' ∉ k.toList) : optionKey (optionText k x) = k := by
  rw [optionKey, firstPiece, cut, optionText_toList, cutList_append _ _ _ hk]
  simp

theorem text_of_pair {p k x : String} (h : split p '=' = [k,x]) : p = optionText k x := by
  refine String.toList_inj.mp ?_
  rw [optionText_toList]
  exact (split_pair.mp h).1

theorem pair_key {p k x : String} (h : split p '=' = [k,x]) : optionKey p = k := by
  rw [text_of_pair h]
  exact optionKey_text (split_pair.mp h).2.1

theorem optionText_inj {k x y : String} (h : optionText k x = optionText k y) : x = y := by
  have hl := congrArg String.toList h
  rw [optionText_toList, optionText_toList] at hl
  exact String.toList_inj.mp (List.cons.inj (List.append_cancel_left hl)).2

end Texts

section Merging

variable {o : Options} {k : String}

def valueIn (o : Options) (k : String) : String := (o.lookup k).getD ""

theorem keepOption_other {p : String} (hk : ∀ x, split p '=' ≠ [k,x]) :
    (keepOption o p).lookup k = o.lookup k := by
  unfold keepOption
  split
  · rename_i k' v hs
    split
    · refine AList.lookup_insert_ne ?_
      rintro rfl
      exact hk v hs
    · rfl
  · rfl

theorem keepOption_pair {p x : String} (hp : split p '=' = [k,x]) : (keepOption o p).lookup k =
    if valueIn o k = "" then some x else o.lookup k := by
  unfold keepOption valueIn
  rw [hp]
  simp only
  split
  · exact AList.lookup_insert o
  · rfl

theorem kept_value (ps : List String) (hk : valueIn o k ≠ "") :
    (ps.foldl keepOption o).lookup k = o.lookup k := by
  induction ps generalizing o with
  | nil => rfl
  | cons p ps ih =>
    have hp : (keepOption o p).lookup k = o.lookup k := by
      by_cases hx : ∃ x, split p '=' = [k,x]
      · obtain ⟨x,hx⟩ := hx
        rw [keepOption_pair hx, if_neg hk]
      · exact keepOption_other (fun x hs => hx ⟨x,hs⟩)
    rw [List.foldl_cons, ih (by rw [valueIn, hp]; exact hk), hp]

/-- An option comes from the requested ones or from the drive. -/
theorem kept_origin {ps : List String} {y : String} (h : (ps.foldl keepOption o).lookup k = some y) :
    o.lookup k = some y ∨ ∃ p ∈ ps, split p '=' = [k,y] := by
  induction ps generalizing o with
  | nil => exact .inl h
  | cons p ps ih =>
    rcases ih h with hp | ⟨q,hq,hs⟩
    · by_cases hx : ∃ x, split p '=' = [k,x]
      · obtain ⟨x,hx⟩ := hx
        rw [keepOption_pair hx] at hp
        split at hp
        · cases hp
          exact .inr ⟨p,List.mem_cons_self,hx⟩
        · exact .inl hp
      · rw [keepOption_other (fun x hs => hx ⟨x,hs⟩)] at hp
        exact .inl hp
    · exact .inr ⟨q,List.mem_cons_of_mem _ hq,hs⟩

theorem kept_nonempty {ps : List String} {p x : String} (hp : p ∈ ps) (hs : split p '=' = [k,x])
    (hx : x ≠ "") : valueIn (ps.foldl keepOption o) k ≠ "" := by
  induction ps generalizing o with
  | nil => cases hp
  | cons q ps ih =>
    rcases List.mem_cons.mp hp with rfl | hp
    · have hne : valueIn (keepOption o p) k ≠ "" := by
        rw [valueIn, keepOption_pair hs]
        split
        · exact hx
        · rename_i hv
          exact hv
      rw [List.foldl_cons, valueIn, kept_value ps hne]
      exact hne
    · exact ih hp

theorem keepOption_mem {p : String} (hk : k ∈ o ∨ ∃ x, split p '=' = [k,x]) : k ∈ keepOption o p := by
  rw [← AList.lookup_isSome]
  by_cases hx : ∃ x, split p '=' = [k,x]
  · obtain ⟨x,hx⟩ := hx
    rw [keepOption_pair hx]
    split
    · rfl
    · rename_i hv
      cases hl : o.lookup k with
      | none => exact absurd (by rw [valueIn, hl]; rfl) hv
      | some y => rfl
  · rw [keepOption_other (fun x hs => hx ⟨x,hs⟩)]
    exact AList.lookup_isSome.mpr (hk.resolve_right hx)

theorem kept_mem {ps : List String} (hk : k ∈ o ∨ ∃ p ∈ ps, ∃ x, split p '=' = [k,x]) :
    k ∈ ps.foldl keepOption o := by
  induction ps generalizing o with
  | nil => exact hk.resolve_right (by simp)
  | cons p ps ih =>
    refine ih ?_
    rcases hk with hk | ⟨q,hq,hx⟩
    · exact .inl (keepOption_mem (.inl hk))
    · rcases List.mem_cons.mp hq with rfl | hq
      · exact .inl (keepOption_mem (.inr hx))
      · exact .inr ⟨q,hq,hx⟩

/-- The only value the drive has for a key is the one that is kept. -/
theorem kept_single {ps : List String} {p x : String} (hp : p ∈ ps) (hs : split p '=' = [k,x])
    (hall : ∀ q ∈ ps, ∀ y, split q '=' = [k,y] → y = x) (ho : valueIn o k = "") :
    (ps.foldl keepOption o).lookup k = some x := by
  have hmem := AList.lookup_isSome.mpr (kept_mem (o := o) (.inr ⟨p,hp,x,hs⟩))
  obtain ⟨y,hy⟩ := Option.isSome_iff_exists.mp hmem
  rw [hy]
  rcases kept_origin hy with hl | ⟨q,hq,hsq⟩
  · have hempty : y = "" := by rwa [valueIn, hl] at ho
    by_contra hne
    have hx : x ≠ "" := fun hx => hne (by rw [hempty, hx])
    have hval := kept_nonempty (o := o) hp hs hx
    rw [valueIn, hy] at hval
    exact hval hempty
  · rw [hall q hq y hsq]

end Merging

section Rendering

variable {a : String} {o : Options}

/-- The options of a rendered drive are the ones it is rendered from. -/
theorem optionTexts_render (ha : ',' ∉ a.toList) (hc : Clean o) (hne : o.entries ≠ []) :
    optionTexts (a ++ "," ++ renderOptions o) = o.entries.map (fun e => optionText e.1 e.2) := by
  have hplain : ∀ p ∈ o.entries.map (fun e => optionText e.1 e.2), ',' ∉ p.toList := by
    intro p hp
    obtain ⟨e,he,rfl⟩ := List.mem_map.mp hp
    have hl : o.lookup e.1 = some e.2 := AList.mem_lookup_iff.mpr he
    have hk := hc.keys e.1 (AList.lookup_isSome.mp (by rw [hl]; rfl))
    have hv := hc.values e.1 e.2 hl
    rw [optionText_toList]
    simp [hk.1, hv]
  have hjoin := split_joined (c := ',') (by simpa using hne) hplain
  have htext : (a ++ "," ++ renderOptions o).toList = a.toList ++ ','::(renderOptions o).toList := by
    simp
  rw [optionTexts, split_cut ha htext]
  exact hjoin

theorem mem_render (ha : ',' ∉ a.toList) (hc : Clean o) (hne : o.entries ≠ []) {p : String} :
    p ∈ optionTexts (a ++ "," ++ renderOptions o) ↔ ∃ k x, o.lookup k = some x ∧
      p = optionText k x := by
  rw [optionTexts_render ha hc hne, List.mem_map]
  constructor
  · rintro ⟨e,he,rfl⟩
    exact ⟨e.1,e.2,AList.mem_lookup_iff.mpr he,rfl⟩
  · rintro ⟨k,x,hl,rfl⟩
    exact ⟨⟨k,x⟩,AList.mem_lookup_iff.mp hl,rfl⟩

end Rendering

section Written

variable {value : String} {options : Options}

def merged (value : String) (options : Options) : Options :=
  (optionTexts value).foldl keepOption options

theorem merged_clean (hc : Clean options) : Clean (merged value options) := by
  constructor
  · intro k hk
    obtain ⟨y,hy⟩ := Option.isSome_iff_exists.mp (AList.lookup_isSome.mpr hk)
    rcases kept_origin hy with hl | ⟨p,hp,hs⟩
    · exact hc.keys k (AList.lookup_isSome.mp (by rw [hl]; rfl))
    · obtain ⟨ht,hk,_⟩ := split_pair.mp hs
      refine ⟨?_,hk⟩
      intro hcomma
      refine notMem_split (List.mem_of_mem_tail hp) ?_
      rw [ht]
      exact List.mem_append_left _ hcomma
  · intro k y hy
    rcases kept_origin hy with hl | ⟨p,hp,hs⟩
    · exact hc.values k y hl
    · intro hcomma
      refine notMem_split (List.mem_of_mem_tail hp) ?_
      rw [(split_pair.mp hs).1]
      exact List.mem_append_right _ (List.mem_cons_of_mem _ hcomma)

theorem merged_ne (hne : options ≠ ∅) : (merged value options).entries ≠ [] := by
  intro he
  have hempty : merged value options = ∅ := AList.ext he
  cases hx : options.entries with
  | nil => exact hne (AList.ext hx)
  | cons e es =>
    have hk : e.1 ∈ options := by
      rw [AList.mem_keys, AList.keys, hx]
      simp
    have hm : e.1 ∈ merged value options := kept_mem (.inl hk)
    rw [hempty] at hm
    exact AList.notMem_empty _ hm

theorem mem_written (hc : Clean options) (hne : options ≠ ∅) {p : String} :
    p ∈ optionTexts (firstPiece value ',' ++ "," ++ renderOptions (merged value options)) ↔
      ∃ k x, (merged value options).lookup k = some x ∧ p = optionText k x :=
  mem_render (firstPiece_notMem value) (merged_clean hc) (merged_ne hne)

def updated (value : String) (options : Options) : String :=
  firstPiece value ',' ++ "," ++ renderOptions (merged value options)

theorem lookup_not_mem {k : String} (hk : k ∉ options) : valueIn options k = "" := by
  rw [valueIn, AList.lookup_eq_none.mpr hk]
  rfl

theorem merged_keys_distinct (hc : Clean options) (hne : options ≠ ∅) :
    ((optionTexts (updated value options)).map optionKey).Nodup := by
  have hkeys : (optionTexts (updated value options)).map optionKey =
      (merged value options).entries.map Sigma.fst := by
    rw [updated, optionTexts_render (firstPiece_notMem value) (merged_clean hc) (merged_ne hne),
      List.map_map]
    refine List.map_congr_left ?_
    intro e he
    have hl : (merged value options).lookup e.1 = some e.2 := AList.mem_lookup_iff.mpr he
    exact optionKey_text ((merged_clean hc).keys e.1 (AList.lookup_isSome.mp (by rw [hl]; rfl))).2
  rw [hkeys]
  exact (merged value options).nodupKeys

theorem overlay_of_overlayable (hc : Clean options) (hne : options ≠ ∅)
    (h : Overlayable value options) : Overlay value options (updated value options) := by
  refine ⟨firstPiece_append (firstPiece_notMem value),?_,?_,merged_keys_distinct hc hne⟩
  · intro k x hx
    refine (mem_written hc hne).mpr ⟨k,x,?_,rfl⟩
    by_cases hv : x = ""
    · subst hv
      by_cases hp : ∃ p ∈ optionTexts value, ∃ y, split p '=' = [k,y]
      · obtain ⟨p,hp,y,hs⟩ := hp
        have hy : y = "" := h.given k hx p hp y hs
        subst hy
        exact kept_single hp hs (fun q hq y hs => h.given k hx q hq y hs) (by rw [valueIn, hx]; rfl)
      · have hmem : k ∈ merged value options :=
          kept_mem (.inl (AList.lookup_isSome.mp (by rw [hx]; rfl)))
        obtain ⟨y,hy⟩ := Option.isSome_iff_exists.mp (AList.lookup_isSome.mpr hmem)
        rcases kept_origin hy with hl | ⟨q,hq,hs⟩
        · rw [hy, ← hl, hx]
        · exact absurd ⟨q,hq,y,hs⟩ hp
    · have hval : valueIn options k ≠ "" := by rwa [valueIn, hx]
      rw [merged, kept_value _ hval, hx]
  · intro p hp hk
    obtain ⟨k,x,hs⟩ := h.pairs p hp hk
    rw [pair_key hs] at hk
    refine (mem_written hc hne).mpr ⟨k,x,kept_single hp hs ?_ (lookup_not_mem hk),text_of_pair hs⟩
    intro q hq y hsq
    have he : p = q := h.single p hp q hq (by rw [pair_key hs, pair_key hsq]) (by rwa [pair_key hs])
    subst he
    rw [hs] at hsq
    cases hsq
    rfl

theorem overlayable_of_overlay (hc : Clean options) (hne : options ≠ ∅)
    (h : Overlay value options (updated value options)) : Overlayable value options := by
  have hother : ∀ p ∈ optionTexts value, optionKey p ∉ options → ∃ k x,
      (merged value options).lookup k = some x ∧ split p '=' = [k,x] := by
    intro p hp hk
    obtain ⟨k,x,hl,rfl⟩ := (mem_written hc hne).mp (h.others p hp hk)
    have hclean := (merged_clean hc).keys k (AList.lookup_isSome.mp (by rw [hl]; rfl))
    rw [optionKey_text hclean.2] at hk
    rcases kept_origin hl with ho | ⟨q,hq,hs⟩
    · exact absurd (AList.lookup_isSome.mp (by rw [ho]; rfl)) hk
    · rw [text_of_pair hs] at hs
      exact ⟨k,x,hl,hs⟩
  constructor
  · intro p hp hk
    obtain ⟨k,x,_,hs⟩ := hother p hp hk
    exact ⟨k,x,hs⟩
  · intro p hp q hq he hk
    obtain ⟨k,x,hl,hs⟩ := hother p hp hk
    obtain ⟨k',x',hl',hs'⟩ := hother q hq (he ▸ hk)
    have hkk : k = k' := by rw [← pair_key hs, he, pair_key hs']
    subst hkk
    rw [hl] at hl'
    cases hl'
    rw [text_of_pair hs, text_of_pair hs']
  · intro k hk p hp x hs
    by_contra hx
    obtain ⟨k',y,hl,ht⟩ := (mem_written hc hne).mp (h.requested k "" hk)
    have hkey : k = k' := by
      have h₁ := (hc.keys k (AList.lookup_isSome.mp (by rw [hk]; rfl))).2
      have h₂ := ((merged_clean hc).keys k' (AList.lookup_isSome.mp (by rw [hl]; rfl))).2
      rw [← optionKey_text (x := "") h₁, ht, optionKey_text h₂]
    subst hkey
    have hy : y = "" := (optionText_inj ht).symm
    have hval := kept_nonempty (o := options) hp hs hx
    rw [valueIn, show (List.foldl keepOption options (optionTexts value)).lookup k = some y from hl]
      at hval
    exact hval hy

end Written

/-- What an update writes into the slot of the disk. -/
theorem updateVolume_writes_iff (id : ℤ) {s : Slots} {vol : Volume}
    {order : List (String × String)} {n : Fin 31} {value : String} (options : Options)
    (P : String → Prop) (ho : order.Perm (mergeSCSIs s)) (hh : Holds s n value)
    (hfound : isVolumeAttached order (volumeMatch vol) = ((n.val : ℤ),true)) :
    (∃ next, (updateVolume id vol options).run = .call (.getVMConfig id) next ∧
      ∃ written rest, next (.ok order) = .call (.config id (device n) written) rest ∧
        P written) ↔ P (updated value options) := by
  have hval : updatedValue vol options (valueAt order (deviceAt n.val)) = updated value options := by
    rw [show valueAt order (deviceAt n.val) = value from valueAt_of_mem ho hh, updatedValue,
      if_neg hh.2]
    rfl
  have hrest : ∃ next, (updateVolume id vol options).run = .call (.getVMConfig id) next ∧
      ∃ rest, next (.ok order) = .call (.config id (device n) (updated value options)) rest := by
    refine ⟨_,rfl,?_⟩
    rw [← hval]
    show ∃ rest, (updateOn id vol options order).run = _
    unfold updateOn
    rw [hfound]
    exact ⟨_,rfl⟩
  obtain ⟨next,hnext,rest,hrest⟩ := hrest
  constructor
  · rintro ⟨next',hnext',written,rest',hw,hp⟩
    cases hnext.symm.trans hnext'
    cases hrest.symm.trans hw
    exact hp
  · intro hp
    exact ⟨next,hnext,_,rest,hrest,hp⟩

/-- An update keeps the drive apart from the requested options, for exactly the drives of which
every other option is one key and one value of its own. -/
theorem update_overlays_iff (id : ℤ) {s : Slots} {vol : Volume} {order : List (String × String)}
    {n : Fin 31} {value : String} {options : Options} (ho : order.Perm (mergeSCSIs s))
    (hh : Holds s n value) (hfound : isVolumeAttached order (volumeMatch vol) = ((n.val : ℤ),true))
    (hc : Clean options) (hne : options ≠ ∅) :
    (∃ next, (updateVolume id vol options).run = .call (.getVMConfig id) next ∧
      ∃ written rest, next (.ok order) = .call (.config id (device n) written) rest ∧
        Overlay value options written) ↔ Overlayable value options := by
  rw [updateVolume_writes_iff id options (Overlay value options) ho hh hfound]
  exact ⟨overlayable_of_overlay hc hne,overlay_of_overlayable hc hne⟩

section Samples

def throttle : Options := (∅ : Options).insert "mbps_rd" "5"

theorem throttle_clean : Clean throttle := by
  have hkey : ∀ k, k ∈ throttle → k = "mbps_rd" := by
    intro k hk
    rcases (AList.mem_insert _).mp hk with h | h
    · exact h
    · exact absurd h (AList.notMem_empty k)
  constructor
  · intro k hk
    rw [hkey k hk]
    decide
  · intro k x hx
    obtain rfl := hkey k (AList.lookup_isSome.mp (by rw [hx]; rfl))
    rw [throttle, AList.lookup_insert] at hx
    cases hx
    decide

def labelledDrive : String := "data:vm-9999-pvc-1,serial=ab==,cache=none"

def labelledSlots : Slots := (∅ : Slots).insert 1 labelledDrive

/-- A value that holds the sign between key and value is lost. -/
theorem update_loses_option : ∃ next, (updateVolume 100 soughtVolume throttle).run =
      .call (.getVMConfig 100) next ∧
    ∃ written rest, next (.ok (mergeSCSIs labelledSlots)) = .call (.config 100 "scsi1" written) rest ∧
      written = "data:vm-9999-pvc-1,cache=none,mbps_rd=5" ∧
      ¬Overlay labelledDrive throttle written := by
  have hlost : "serial=ab==" ∉ optionTexts "data:vm-9999-pvc-1,cache=none,mbps_rd=5" := by
    decide +kernel
  have hold : "serial=ab==" ∈ optionTexts labelledDrive ∧ optionKey "serial=ab==" ≠ "mbps_rd" := by
    decide +kernel
  refine ⟨_,rfl,updated labelledDrive throttle,_,rfl,by decide +kernel,?_⟩
  intro hov
  have hkept := hov.others _ hold.1 ?_
  · rw [show updated labelledDrive throttle = "data:vm-9999-pvc-1,cache=none,mbps_rd=5" by
      decide +kernel] at hkept
    exact hlost hkept
  · intro hk
    rcases (AList.mem_insert _).mp hk with h | h
    · exact hold.2 h
    · exact AList.notMem_empty _ h

def plainDrive : String := "data:vm-9999-pvc-1,cache=none"

def plainSlots : Slots := (∅ : Slots).insert 1 plainDrive

theorem plain_overlayable : Overlayable plainDrive throttle := by
  have htexts : optionTexts plainDrive = ["cache=none"] := by decide +kernel
  constructor
  · intro p hp _
    rw [htexts, List.mem_singleton] at hp
    exact ⟨"cache","none",by rw [hp]; decide +kernel⟩
  · intro p hp q hq _ _
    rw [htexts, List.mem_singleton] at hp hq
    rw [hp, hq]
  · intro k hk
    have hm : k ∈ throttle := AList.lookup_isSome.mp (by rw [hk]; rfl)
    rcases (AList.mem_insert _).mp hm with rfl | h
    · rw [throttle, AList.lookup_insert] at hk
      exact absurd (Option.some.inj hk) (by decide)
    · exact absurd h (AList.notMem_empty k)

theorem update_overlays_iff_plain : ∃ next, (updateVolume 100 soughtVolume throttle).run =
      .call (.getVMConfig 100) next ∧
    ∃ written rest, next (.ok (mergeSCSIs plainSlots)) = .call (.config 100 "scsi1" written) rest ∧
      Overlay plainDrive throttle written := by
  have hholds : Holds plainSlots 1 plainDrive := ⟨AList.lookup_insert _,by decide⟩
  have hfound : isVolumeAttached (mergeSCSIs plainSlots) (volumeMatch soughtVolume) =
      (((1 : Fin 31).val : ℤ),true) := by decide +kernel
  have hne : throttle ≠ ∅ := fun h => absurd (congrArg AList.entries h) (by decide +kernel)
  exact (update_overlays_iff 100 (List.Perm.refl _) hholds hfound throttle_clean hne).mpr
    plain_overlayable

end Samples

end ProxmoxCSI.DriveOverlay
