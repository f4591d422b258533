import ProxmoxCSI.MigrationAnnotations

/-!
# What a normalized patch leaves behind

A patch is a map from keys to new values, where nothing deletes the key. The
patch that folds the legacy names in adds, for every legacy name the object
carries, its value under the canonical name and the deletion of the legacy one,
unless the patch speaks about them itself.
-/

set_option autoImplicit false

namespace ProxmoxCSI.AnnotationPatches
open ClusterState MigratorCalls MigrationAnnotations

theorem lookup_none_iff {p : Patch} {key : String} :
    p.lookup key = none ↔ key ∉ p.map Prod.fst := by
  rw [List.lookup_eq_none_iff, List.mem_map]
  constructor
  · rintro h ⟨x,hx,rfl⟩
    simpa using h x hx
  · intro h x hx
    have hne : key ≠ x.1 := fun he => h ⟨x,hx,he.symm⟩
    simpa using hne

theorem addressed_iff {p : Patch} {key : String} :
    addressed p key = true ↔ (p.lookup key).isSome := by
  rw [addressed, decide_eq_true_iff, ← not_iff_not, Option.not_isSome_iff_eq_none, lookup_none_iff]

theorem applyPatch_value {p : Patch} (hp : (p.map Prod.fst).Nodup) (a : Annotations)
    (key : String) : (applyPatch a p).lookup key = (p.lookup key).getD (a.lookup key) := by
  induction p generalizing a with
  | nil => rfl
  | cons x p ih =>
    obtain ⟨k,v⟩ := x
    rw [List.map_cons, List.nodup_cons] at hp
    by_cases hk : key = k
    · subst hk
      have hv : ∀ b : Annotations, (applyPatch b p).lookup key = b.lookup key :=
        fun b => applyPatch_lookup hp.1 b
      rw [List.lookup_cons_self, Option.getD_some]
      cases v with
      | none => exact (hv (a.erase key)).trans (AList.lookup_erase key a)
      | some v => exact (hv (a.insert key v)).trans (AList.lookup_insert a)
    · have hne : (key == k) = false := by simpa using hk
      have hv : ∀ b : Annotations, b.lookup key = a.lookup key →
          (applyPatch b p).lookup key = (p.lookup key).getD (a.lookup key) := by
        intro b hb
        rw [ih hp.2, hb]
      rw [List.lookup_cons, hne]
      cases v with
      | none => exact hv (a.erase k) (AList.lookup_erase_ne hk)
      | some v => exact hv (a.insert k v) (AList.lookup_insert_ne hk)

section Fold

variable (c : Annotations)

theorem lookup_add (p : Patch) (key : String) (v : Option String) (x : String) :
    (addUnlessAddressed p key v).lookup x =
      (p.lookup x).or (if x = key then some v else none) := by
  unfold addUnlessAddressed
  by_cases ha : addressed p key = true
  · rw [if_pos ha]
    by_cases hx : x = key
    · subst hx
      obtain ⟨y,hy⟩ := Option.isSome_iff_exists.mp (addressed_iff.mp ha)
      rw [hy, Option.some_or]
    · rw [if_neg hx, Option.or_none]
  · rw [if_neg ha, List.lookup_append]
    by_cases hx : x = key
    · subst hx
      simp
    · have hne : (x == key) = false := by simpa using hx
      rw [if_neg hx, List.lookup_cons, hne]
      rfl

def folded (names : String × String) (x : String) : Option (Option String) :=
  if (c.lookup names.2).isNone then none
  else if x = names.1 ∧ getAnnotation c names.1 ≠ "" then some (some <| getAnnotation c names.1)
  else if x = names.2 then some none
  else none

theorem lookup_foldLegacy (p : Patch) {names : String × String} (hn : names.1 ≠ names.2)
    (x : String) : (foldLegacy c p names).lookup x = (p.lookup x).or (folded c names x) := by
  unfold foldLegacy folded
  by_cases hl : (c.lookup names.2).isNone
  · rw [if_pos hl, if_pos hl, Option.or_none]
  · rw [if_neg hl, if_neg hl, lookup_add]
    by_cases he : getAnnotation c names.1 ≠ ""
    · rw [if_pos he, lookup_add]
      by_cases hx : x = names.1
      · subst hx
        rw [if_pos rfl, if_neg hn, Option.or_none, if_pos ⟨rfl,he⟩]
      · have hx' : ¬(x = names.1 ∧ getAnnotation c names.1 ≠ "") := fun h => hx h.1
        rw [if_neg hx, Option.or_none, if_neg hx']
    · have he' : ¬(x = names.1 ∧ getAnnotation c names.1 ≠ "") := fun h => he h.2
      rw [if_neg he, if_neg he']

theorem folded_other {names : String × String} {x : String} (h₁ : x ≠ names.1) (h₂ : x ≠ names.2) :
    folded c names x = none := by
  unfold folded
  split_ifs with h h'
  · rfl
  · exact absurd h'.1 h₁
  · rfl

def bothNames (names : String × String) : List String := [names.1,names.2]

theorem lookup_fold_other {names : List (String × String)} {x : String}
    (hx : x ∉ names.flatMap bothNames) (hn : ∀ n ∈ names, n.1 ≠ n.2) (p : Patch) :
    (names.foldl (foldLegacy c) p).lookup x = p.lookup x := by
  induction names generalizing p with
  | nil => rfl
  | cons n names ih =>
    rw [List.flatMap_cons, List.mem_append, not_or] at hx
    have h₁ : x ≠ n.1 := fun he => hx.1 (by simp [bothNames, he])
    have h₂ : x ≠ n.2 := fun he => hx.1 (by simp [bothNames, he])
    rw [List.foldl_cons, ih hx.2 (fun m hm => hn m (List.mem_cons_of_mem _ hm)),
      lookup_foldLegacy c p (hn n List.mem_cons_self), folded_other c h₁ h₂, Option.or_none]

theorem lookup_fold {names : List (String × String)} (hd : (names.flatMap bothNames).Nodup)
    {n : String × String} (hm : n ∈ names) {x : String} (hx : x = n.1 ∨ x = n.2) (p : Patch) :
    (names.foldl (foldLegacy c) p).lookup x = (p.lookup x).or (folded c n x) := by
  induction names generalizing p with
  | nil => cases hm
  | cons m names ih =>
    rw [List.flatMap_cons, List.nodup_append] at hd
    obtain ⟨hown,hrest,hsep⟩ := hd
    have hne : ∀ k ∈ m::names, k.1 ≠ k.2 := by
      intro k hk
      rcases List.mem_cons.mp hk with rfl | hk
      · simpa [bothNames] using hown
      · have hsub : (bothNames k).Sublist (names.flatMap bothNames) := by
          obtain ⟨l,r,rfl⟩ := List.append_of_mem hk
          rw [List.flatMap_append, List.flatMap_cons]
          exact (List.sublist_append_left _ _).trans (List.sublist_append_right _ _)
        simpa [bothNames] using hrest.sublist hsub
    rw [List.foldl_cons]
    have hmem : ∀ k : String × String, x = k.1 ∨ x = k.2 → x ∈ bothNames k := by
      rintro k (rfl | rfl)
      · exact List.mem_cons_self
      · exact List.mem_cons_of_mem _ List.mem_cons_self
    rcases List.mem_cons.mp hm with rfl | hm
    · have hout : x ∉ names.flatMap bothNames := fun hin => hsep x (hmem n hx) x hin rfl
      rw [lookup_fold_other c hout (fun k hk => hne k (List.mem_cons_of_mem _ hk)),
        lookup_foldLegacy c p (hne n List.mem_cons_self)]
    · have hin : x ∈ names.flatMap bothNames := List.mem_flatMap.mpr ⟨n,hm,hmem n hx⟩
      have h₁ : x ≠ m.1 := fun he => hsep x (hmem m (.inl he)) x hin rfl
      have h₂ : x ≠ m.2 := fun he => hsep x (hmem m (.inr he)) x hin rfl
      rw [ih hrest hm, lookup_foldLegacy c p (hne m List.mem_cons_self), folded_other c h₁ h₂,
        Option.or_none]

end Fold

theorem nodup_add {p : Patch} (hp : (p.map Prod.fst).Nodup) (key : String) (v : Option String) :
    ((addUnlessAddressed p key v).map Prod.fst).Nodup := by
  unfold addUnlessAddressed
  by_cases ha : addressed p key = true
  · rw [if_pos ha]
    exact hp
  · rw [if_neg ha, List.map_append]
    refine List.Nodup.append hp (by simp) ?_
    intro x hx hk
    rw [List.map_cons, List.map_nil, List.mem_singleton] at hk
    subst hk
    exact ha (by simpa [addressed] using hx)

theorem nodup_normalizeLegacy (c : Annotations) {p : Patch} (hp : (p.map Prod.fst).Nodup) :
    ((normalizeLegacy c p).map Prod.fst).Nodup := by
  unfold normalizeLegacy
  generalize legacyAnnotationAliases = names
  induction names generalizing p with
  | nil => exact hp
  | cons n names ih =>
    refine ih ?_
    unfold foldLegacy
    split_ifs
    · exact hp
    · exact nodup_add (nodup_add hp _ _) _ _
    · exact nodup_add hp _ _

theorem aliases_nodup : (legacyAnnotationAliases.flatMap bothNames).Nodup := by decide +kernel

def Protocol (key legacy : String) : Prop := (key,legacy) ∈ legacyAnnotationAliases

instance (key legacy : String) : Decidable (Protocol key legacy) :=
  inferInstanceAs (Decidable (_ ∈ _))

theorem legacy_of {key legacy : String} (h : Protocol key legacy) :
    legacyAnnotation key = legacy := by
  have hall : ∀ n ∈ legacyAnnotationAliases, legacyAnnotation n.1 = n.2 := by decide +kernel
  exact hall _ h

section Values

variable {key legacy : String} {p : Patch}

/-- The canonical name after the patch. `c` is what the writer read, `a` what it
writes to. -/
theorem canonical_value (hk : Protocol key legacy) (hp : (p.map Prod.fst).Nodup)
    (c a : Annotations) : (applyPatch a (normalizeLegacy c p)).lookup key =
      ((p.lookup key).or (folded c (key,legacy) key)).getD (a.lookup key) := by
  rw [applyPatch_value (nodup_normalizeLegacy c hp), normalizeLegacy,
    lookup_fold c aliases_nodup hk (.inl rfl)]

theorem legacy_value (hk : Protocol key legacy) (hp : (p.map Prod.fst).Nodup)
    (c a : Annotations) : (applyPatch a (normalizeLegacy c p)).lookup legacy =
      ((p.lookup legacy).or (folded c (key,legacy) legacy)).getD (a.lookup legacy) := by
  rw [applyPatch_value (nodup_normalizeLegacy c hp), normalizeLegacy,
    lookup_fold c aliases_nodup hk (.inr rfl)]

theorem names_differ (hk : Protocol key legacy) : legacy ≠ key := by
  have hall : ∀ n ∈ legacyAnnotationAliases, n.2 ≠ n.1 := by decide +kernel
  exact hall _ hk

theorem getAnnotation_eq (hk : Protocol key legacy) (a : Annotations) :
    getAnnotation a key = if valueOf a key ≠ "" then valueOf a key else valueOf a legacy := by
  unfold getAnnotation
  rw [legacy_of hk]

theorem annotation_set (hk : Protocol key legacy) (hp : (p.map Prod.fst).Nodup) {v : String}
    (hv : p.lookup key = some (some v)) (hne : v ≠ "") (c a : Annotations) :
    getAnnotation (applyPatch a (normalizeLegacy c p)) key = v := by
  have hval : valueOf (applyPatch a (normalizeLegacy c p)) key = v := by
    rw [valueOf, canonical_value hk hp, hv, Option.some_or, Option.getD_some, Option.getD_some]
  unfold getAnnotation
  rw [hval, if_pos hne]

theorem legacy_removed (hk : Protocol key legacy) (hp : (p.map Prod.fst).Nodup)
    (hl : p.lookup legacy = none) (a : Annotations) :
    (applyPatch a (normalizeLegacy a p)).lookup legacy = none := by
  rw [legacy_value hk hp, hl, Option.none_or]
  unfold folded
  by_cases hn : (a.lookup legacy).isNone
  · rw [if_pos hn, Option.getD_none, Option.isNone_iff_eq_none.mp hn]
  · rw [if_neg hn, if_neg (fun h => names_differ hk h.1), if_pos rfl, Option.getD_some]

/-- A key the patch mentions has its value, and none if it is deleted. -/
theorem annotation_patched (hk : Protocol key legacy) (hp : (p.map Prod.fst).Nodup)
    {v : Option String} (hv : p.lookup key = some v) (hl : p.lookup legacy = none)
    (a : Annotations) : getAnnotation (applyPatch a (normalizeLegacy a p)) key = v.getD "" := by
  have hval : valueOf (applyPatch a (normalizeLegacy a p)) key = v.getD "" := by
    rw [valueOf, canonical_value hk hp, hv, Option.some_or, Option.getD_some]
  have hleg : valueOf (applyPatch a (normalizeLegacy a p)) legacy = "" := by
    rw [valueOf, legacy_removed hk hp hl, Option.getD_none]
  rw [getAnnotation_eq hk, hval, hleg]
  by_cases he : v.getD "" = ""
  · rw [he]
    rfl
  · rw [if_pos he]

/-- A key the patch does not mention keeps the value it had when it was read and
when it is written. -/
theorem annotation_kept (hk : Protocol key legacy) (hp : (p.map Prod.fst).Nodup)
    (hv : p.lookup key = none) (hl : p.lookup legacy = none) {c a : Annotations}
    (hc : getAnnotation c key = getAnnotation a key) :
    getAnnotation (applyPatch a (normalizeLegacy c p)) key = getAnnotation a key := by
  have hcan := canonical_value hk hp c a
  have hleg := legacy_value hk hp c a
  rw [hv, Option.none_or] at hcan
  rw [hl, Option.none_or] at hleg
  by_cases hn : (c.lookup legacy).isNone
  · have hfk : folded c (key,legacy) key = none := by rw [folded, if_pos hn]
    have hfl : folded c (key,legacy) legacy = none := by rw [folded, if_pos hn]
    rw [hfk, Option.getD_none] at hcan
    rw [hfl, Option.getD_none] at hleg
    rw [getAnnotation_eq hk, getAnnotation_eq hk, valueOf, valueOf, hcan, hleg]
    rfl
  · have hfl : folded c (key,legacy) legacy = some none := by
      rw [folded, if_neg hn, if_neg (fun h => names_differ hk h.1), if_pos rfl]
    rw [hfl, Option.getD_some] at hleg
    by_cases he : getAnnotation c key ≠ ""
    · have hfk : folded c (key,legacy) key = some (some <| getAnnotation c key) := by
        rw [folded, if_neg hn, if_pos ⟨rfl,he⟩]
      rw [hfk, Option.getD_some] at hcan
      rw [getAnnotation_eq hk, valueOf, hcan, Option.getD_some, if_pos he, hc]
    · have hfk : folded c (key,legacy) key = none := by
        rw [folded, if_neg hn, if_neg (fun h => he h.2), if_neg (fun h => names_differ hk h.symm)]
      rw [hfk, Option.getD_none] at hcan
      have hz : getAnnotation a key = "" := by
        rw [← hc]
        exact not_not.mp he
      have hza : valueOf a key = "" := by
        rw [getAnnotation_eq hk] at hz
        by_contra hne
        rw [if_pos hne] at hz
        exact hne hz
      rw [hz, getAnnotation_eq hk, valueOf, hcan, valueOf, hleg]
      show (if valueOf a key ≠ "" then valueOf a key else "") = ""
      rw [hza]
      rfl

def Canonical (p : Patch) : Prop := ∀ key ∈ p.map Prod.fst, ∃ legacy, Protocol key legacy

theorem legacy_unaddressed (hc : Canonical p) (hk : Protocol key legacy) : p.lookup legacy = none := by
  have hall : ∀ n ∈ legacyAnnotationAliases, ∀ m ∈ legacyAnnotationAliases, n.1 ≠ m.2 := by
    decide +kernel
  rw [lookup_none_iff]
  intro hm
  obtain ⟨other,ho⟩ := hc legacy hm
  exact hall _ ho _ hk rfl

theorem normalizeLegacy_settled {a : Annotations}
    (h : ∀ n ∈ legacyAnnotationAliases, a.lookup n.2 = none) (p : Patch) :
    normalizeLegacy a p = p := by
  unfold normalizeLegacy
  generalize legacyAnnotationAliases = names at h
  induction names with
  | nil => rfl
  | cons n names ih =>
    have hn : foldLegacy a p n = p := by
      rw [foldLegacy, if_pos (by rw [h n List.mem_cons_self]; rfl)]
    rw [List.foldl_cons, hn]
    exact ih (fun m hm => h m (List.mem_cons_of_mem _ hm))

theorem untouched {x : String} (hx : x ∉ legacyAnnotationAliases.flatMap bothNames)
    (hc : Canonical p) (hp : (p.map Prod.fst).Nodup) (a : Annotations) :
    (applyPatch a (normalizeLegacy a p)).lookup x = a.lookup x := by
  have hn : ∀ n ∈ legacyAnnotationAliases, n.1 ≠ n.2 := by decide +kernel
  have hout : p.lookup x = none := by
    rw [lookup_none_iff]
    intro hm
    obtain ⟨legacy,hl⟩ := hc x hm
    exact hx (List.mem_flatMap.mpr ⟨(x,legacy),hl,List.mem_cons_self⟩)
  rw [applyPatch_value (nodup_normalizeLegacy a hp), normalizeLegacy, lookup_fold_other a hx hn, hout,
    Option.getD_none]

theorem legacy_folded_losslessly (a : Annotations) {p : Patch} (hp : (p.map Prod.fst).Nodup)
    (hc : Canonical p) :
    let b := applyPatch a (normalizeLegacy a p)
    (∀ key legacy, Protocol key legacy → b.lookup legacy = none) ∧
    (∀ key legacy, Protocol key legacy → p.lookup key = none →
      getAnnotation b key = getAnnotation a key) ∧
    (∀ key legacy v, Protocol key legacy → p.lookup key = some v → getAnnotation b key = v.getD "") ∧
    (∀ x, x ∉ legacyAnnotationAliases.flatMap bothNames → b.lookup x = a.lookup x) ∧
    normalizeLegacy b [] = [] ∧ applyPatch b (normalizeLegacy b []) = b := by
  intro b
  have hgone : ∀ key legacy, Protocol key legacy → b.lookup legacy = none :=
    fun key legacy hk => legacy_removed hk hp (legacy_unaddressed hc hk) a
  have hsettled : normalizeLegacy b [] = [] :=
    normalizeLegacy_settled (fun n hn => hgone n.1 n.2 hn) []
  refine ⟨hgone,?_,?_,fun x hx => untouched hx hc hp a,hsettled,?_⟩
  · intro key legacy hk hv
    exact annotation_kept hk hp hv (legacy_unaddressed hc hk) rfl
  · intro key legacy v hk hv
    exact annotation_patched hk hp hv (legacy_unaddressed hc hk) a
  · rw [hsettled]
    rfl

/-- A finished request, still under its legacy name. -/
theorem legacy_folded_finished :
    getAnnotation (applyPatch ((∅ : Annotations).insert (driverName ++ "/migrate-node") "n2")
      (normalizeLegacy ((∅ : Annotations).insert (driverName ++ "/migrate-node") "n2")
        [(annotationMigrateNode,none)])) annotationMigrateNode = "" :=
  (legacy_folded_losslessly _ (p := [(annotationMigrateNode,none)]) (by decide)
    (by
      intro key hk
      rw [List.mem_singleton.mp hk]
      exact ⟨driverName ++ "/migrate-node",by decide +kernel⟩)).2.2.1 annotationMigrateNode
    (driverName ++ "/migrate-node") none (by decide +kernel) (by decide +kernel)

end Values

end ProxmoxCSI.AnnotationPatches
