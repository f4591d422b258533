import ProxmoxCSI.MigratorCalls

/-!
# Identifiers of nodes and instances

A node calls itself `<name>/<vmid>`, or `<name>` without a vmid. Kubernetes knows
its machine as `proxmox://<region>/<vmid>`.
-/

set_option autoImplicit false

namespace ProxmoxCSI.ProviderIDs
open TextScan MigratorCalls

def nodeString (id : ℤ) (node : String) : String :=
  if id ≠ 0 then node ++ "/" ++ toString id else node

def providerName : String := "proxmox"

def getProviderID (region : String) (vmid : ℤ) : String :=
  providerName ++ "://" ++ region ++ "/" ++ toString vmid

/-- The groups of `^proxmox://([^/]*)/([^/]+)$`. -/
def providerIDRegexp (s : String) : Option (String × String) :=
  if hasPrefix s (providerName ++ "://") then
    match cut (trimPrefix s (providerName ++ "://")) '/' with
    | some (region,instance_) =>
      if instance_ = "" ∨ '/' ∈ instance_.toList then none else some (region,instance_)
    | none => none
  else none

def parseProviderID (providerID : String) : Except String (ℤ × String) :=
  if hasPrefix providerID providerName = false then
    .error ("foreign providerID or empty \"" ++ providerID ++ "\"")
  else match providerIDRegexp providerID with
    | none => .error ("providerID \"" ++ providerID ++ "\" didn't match expected format \"" ++
        providerName ++ "://region/InstanceID\"")
    | some (region,instance_) => match atoi instance_ with
      | none => .error ("InstanceID have to be a number, but got \"" ++ instance_ ++ "\"")
      | some vmid => .ok (vmid,region)

def getVMID (providerID : String) : Except String ℤ :=
  if hasPrefix providerID providerName = false then
    .error ("foreign providerID or empty \"" ++ providerID ++ "\"")
  else match providerIDRegexp providerID with
    | none => .error ("providerID \"" ++ providerID ++ "\" didn't match expected format \"" ++
        providerName ++ "://region/InstanceID\"")
    | some (_,instance_) => match atoi instance_ with
      | none => .error ("InstanceID have to be a number, but got \"" ++ instance_ ++ "\"")
      | some vmid => .ok vmid

section Nodes

variable {node : String} {id : ℤ}

theorem parseNodeID_plain (hn : node ≠ "") (hs : '/' ∉ node.toList) :
    parseNodeID node = some (0,node) := by
  have h : splitN node '/' 2 = [node] := by
    rw [splitN, splitList, (cutList_eq_none '/' _).mpr hs]
    simp
  rw [parseNodeID, h]
  exact if_neg hn

theorem parseNodeID_numbered (hn : node ≠ "") (hs : '/' ∉ node.toList) (h₁ : -2^63 ≤ id)
    (h₂ : id < 2^63) : parseNodeID (node ++ "/" ++ toString id) = some (id,node) := by
  have hl : (node ++ "/" ++ toString id).toList = node.toList ++ '/' :: (toString id).toList := by
    simp
  have h : splitN (node ++ "/" ++ toString id) '/' 2 = [node,toString id] := by
    rw [splitN, hl]
    simp only [splitList, cutList_append _ _ _ hs, List.map_cons, List.map_nil,
      String.ofList_toList]
  rw [parseNodeID, h]
  simp only [hn, if_false, atoi_numeral h₁ h₂, Option.map_some]

theorem parseNodeID_nodeString (hn : node ≠ "") (hs : '/' ∉ node.toList) (h₁ : 0 ≤ id)
    (h₂ : id < 2^63) : parseNodeID (nodeString id node) = some (id,node) := by
  unfold nodeString
  split
  · exact parseNodeID_numbered hn hs (by omega) h₂
  · rename_i h0
    rw [parseNodeID_plain hn hs, not_not.mp h0]

end Nodes

section Providers

variable {region : String} {vmid : ℤ}

theorem providerIDRegexp_getProviderID (vmid : ℤ) (hr : '/' ∉ region.toList) :
    providerIDRegexp (getProviderID region vmid) = some (region,toString vmid) := by
  have hl : (getProviderID region vmid).toList = (providerName ++ "://").toList ++
      (region.toList ++ '/' :: (toString vmid).toList) := by
    simp [getProviderID]
  have hp : hasPrefix (getProviderID region vmid) (providerName ++ "://") = true := by
    rw [hasPrefix, hl, decide_eq_true_iff]
    exact List.prefix_append _ _
  have ht : (trimPrefix (getProviderID region vmid) (providerName ++ "://")).toList =
      region.toList ++ '/' :: (toString vmid).toList := by
    rw [trimPrefix, if_pos hp, String.toList_ofList, hl, List.drop_left]
  rw [providerIDRegexp, if_pos hp, cut, ht, cutList_append _ _ _ hr]
  simp only [Option.map_some, String.ofList_toList]
  rw [if_neg]
  rintro (h | h)
  · exact numeral_ne vmid h
  · exact numeral_notMem rfl (by decide) vmid h

theorem getProviderID_prefixed (region : String) (vmid : ℤ) :
    hasPrefix (getProviderID region vmid) providerName = true := by
  have hl : (getProviderID region vmid).toList = providerName.toList ++
      ("://" ++ region ++ "/" ++ toString vmid).toList := by
    simp [getProviderID]
  rw [hasPrefix, hl, decide_eq_true_iff]
  exact List.prefix_append _ _

theorem parseProviderID_getProviderID (hr : '/' ∉ region.toList) (h₁ : -2^63 ≤ vmid)
    (h₂ : vmid < 2^63) : parseProviderID (getProviderID region vmid) = .ok (vmid,region) := by
  rw [parseProviderID, getProviderID_prefixed, if_neg (by decide),
    providerIDRegexp_getProviderID vmid hr]
  simp only [atoi_numeral h₁ h₂]

/-- The two readers are one reader, errors included. -/
theorem getVMID_eq (s : String) : getVMID s = (parseProviderID s).map Prod.fst := by
  unfold getVMID parseProviderID
  split
  · rfl
  · split
    · rfl
    · split
      · rfl
      · rfl

end Providers

theorem identifiers_round_trip :
    (∀ (node : String) (id : ℤ), node ≠ "" → '/' ∉ node.toList → 0 ≤ id → id < 2^63 →
      parseNodeID (nodeString id node) = some (id,node)) ∧
    (∀ (region : String) (vmid : ℤ), '/' ∉ region.toList → -2^63 ≤ vmid → vmid < 2^63 →
      parseProviderID (getProviderID region vmid) = .ok (vmid,region) ∧
        getVMID (getProviderID region vmid) = .ok vmid) ∧
    ∀ (s : String) (vmid : ℤ), getVMID s = .ok vmid ↔
      ∃ region, parseProviderID s = .ok (vmid,region) := by
  refine ⟨fun node id hn hs h₁ h₂ => parseNodeID_nodeString hn hs h₁ h₂,?_,?_⟩
  · intro region vmid hr h₁ h₂
    have hp := parseProviderID_getProviderID hr h₁ h₂
    refine ⟨hp,?_⟩
    rw [getVMID_eq, hp]
    rfl
  · intro s vmid
    rw [getVMID_eq]
    cases parseProviderID s with
    | error e => simp [Except.map]
    | ok x =>
      obtain ⟨n,region⟩ := x
      simp [Except.map]

theorem identifiers_round_trip_negative :
    parseNodeID (nodeString 100 "worker") = some (100,"worker") ∧
      parseProviderID (getProviderID "" (-1)) = .ok (-1,"") :=
  ⟨identifiers_round_trip.1 "worker" 100 (by decide) (by decide) (by decide) (by decide),
    (identifiers_round_trip.2.1 "" (-1) (by decide) (by decide) (by decide)).1⟩

end ProxmoxCSI.ProviderIDs
