import MultiNicCni.Daemon.Selector
import MultiNicCni.Daemon.NumaMap

/-!
# Selecting by NUMA node

The topology strategy is meant to attach the NICs that share their NUMA node with most of the
GPUs of the pod. It counts the GPUs of each node, sorts the candidates by the count of the node of
their NIC and keeps the first ones. Candidates with the same count may come in any order: the
sort is not stable, and the map it sorts has a random order.

A GPU without a bus ID is looked up under the empty one. It counts for a node that the NUMA map
has there (`countedGPUs`), though it shares no node with a NIC (`sharedGPUs`).

- `numaPriority_getD`, `lookup_nicPriority`: what the loops count;
- `select_eq`, `sortedOrOrigin_sorted`: the candidates, cut off in the order of these counts;
- `numaAware_select_iff`: **every order selects the nearest NICs exactly when** the counts do not
  put a candidate at the place of a nearer one;
- `countsFit_of_known`: which is so if all GPUs have a bus ID, or nothing is under the empty
  one.
-/

namespace MultiNicCni.Selector

open Go Lib

namespace NumaAwareSelector

variable {gpuIds nets : List String} {order : GoMap.EntryOrder String String}
  {req : NICSelectRequest}

/-! ## What is counted -/

section Count

variable (s : NumaAwareSelector)

/-- The NUMA node of a GPU, if its bus ID and the node of that are known. -/
def gpuNode (gpuId : String) : Option String :=
  (s.gpuIDBusMap.lookup gpuId).bind fun pciAddress => s.numaMap.lookup pciAddress

/-- The GPUs on a node. -/
def sharedGPUs (gpuIds : List String) (node : String) : Nat :=
  gpuIds.countP fun gpuId => s.gpuNode gpuId = some node

/-- The GPUs that are counted for a node: a missing bus ID is the empty one. -/
def countedGPUs (gpuIds : List String) (node : String) : Nat :=
  gpuIds.countP fun gpuId => s.numaMap.lookup ((s.gpuIDBusMap.lookup gpuId).getD "") = some node

/-- One more GPU of a node: the step of the loop of `numaPriority`. -/
def countGPU (numaPriority : GoMap String Nat) (numaId : String) : GoMap String Nat :=
  match numaPriority.lookup numaId with
  | some priority => numaPriority.insert numaId (priority + 1)
  | none => numaPriority.insert numaId 1

theorem lookup_countGPU (numaPriority : GoMap String Nat) (numaId node : String) :
    ((countGPU numaPriority numaId).lookup node).getD 0 =
      (numaPriority.lookup node).getD 0 + if numaId = node then 1 else 0 := by
  unfold countGPU
  by_cases hid : numaId = node
  · subst hid
    split
    · next priority hpriority => simp [hpriority, AList.lookup_insert]
    · next hnone => simp [hnone, AList.lookup_insert]
  · rw [if_neg hid, Nat.add_zero]
    split
    · rw [AList.lookup_insert_ne (Ne.symm hid)]
    · rw [AList.lookup_insert_ne (Ne.symm hid)]

/-- The map has the count of each node, except for the empty one. -/
theorem numaPriority_getD (gpuIds : List String) {node : String} (hnode : node ≠ "") :
    ((s.numaPriority gpuIds).lookup node).getD 0 = s.countedGPUs gpuIds node := by
  have hid : ∀ gpuId, s.gpuNumaId gpuId = node ↔
      s.numaMap.lookup ((s.gpuIDBusMap.lookup gpuId).getD "") = some node := by
    intro gpuId
    rw [gpuNumaId]
    cases s.numaMap.lookup ((s.gpuIDBusMap.lookup gpuId).getD "") with
    | none => simpa using hnode.symm
    | some node' => simp
  -- from any counts
  have hloop : ∀ (l : List String) (m : GoMap String Nat),
      ((l.foldl (fun m gpuId => countGPU m (s.gpuNumaId gpuId)) m).lookup node).getD 0 =
        (m.lookup node).getD 0 + s.countedGPUs l node := by
    intro l
    induction l with
    | nil => exact fun m => rfl
    | cons gpuId l ih =>
      intro m
      rw [List.foldl_cons, ih, lookup_countGPU, countedGPUs, countedGPUs, List.countP_cons]
      simp only [hid, decide_eq_true_eq]
      omega
  have hcount := hloop gpuIds ∅
  rwa [AList.lookup_empty, Option.getD_none, Nat.zero_add] at hcount

/-- Without a GPU that is counted by mistake, the counts are right. -/
theorem countedGPUs_eq_sharedGPUs
    (h : (∀ gpuId ∈ gpuIds, gpuId ∈ s.gpuIDBusMap) ∨ s.numaMap.lookup "" = none) (node : String) :
    s.countedGPUs gpuIds node = s.sharedGPUs gpuIds node := by
  refine List.countP_congr fun gpuId hgpu => ?_
  rw [gpuNode]
  cases hbus : s.gpuIDBusMap.lookup gpuId with
  | some pciAddress => rfl
  | none =>
    rcases h with hknown | hempty
    · exact absurd (hknown gpuId hgpu) (AList.lookup_eq_none.mp hbus)
    · simp [hempty]

end Count

/-! ## The order of the candidates -/

section Order

variable (s : NumaAwareSelector) (interfaceMap : GoMap String InterfaceInfo)
  (interfaceNameMap : GoMap String String)

/-- A count for the network of a NIC. -/
def onNic (count : String → Nat) (netAddress : String) : Nat :=
  (s.nicNumaId interfaceMap interfaceNameMap netAddress).elim 0 count

/-- The NUMA nodes of the NICs are known and not empty. -/
def NodesKnown (nets : List String) : Prop :=
  ∀ net ∈ nets, ∃ node, s.nicNumaId interfaceMap interfaceNameMap net = some node ∧ node ≠ ""

variable {s interfaceMap interfaceNameMap}

theorem lookup_nicPriority (hnets : nets.Nodup) (numaPriority : GoMap String Nat) (net : String)
    (priority : Nat) :
    (s.nicPriority interfaceMap interfaceNameMap numaPriority nets).lookup net = some priority ↔
      net ∈ nets ∧ ∃ node, s.nicNumaId interfaceMap interfaceNameMap net = some node ∧
        (numaPriority.lookup node).getD 0 = priority := by
  have hmap : s.nicPriority interfaceMap interfaceNameMap numaPriority nets =
      GoMap.insertAll (nets.filterMap fun net =>
        (s.nicNumaId interfaceMap interfaceNameMap net).map fun node =>
          (net, (numaPriority.lookup node).getD 0)) := by
    rw [nicPriority, GoMap.insertAll, List.foldl_filterMap]
    refine List.foldl_ext _ _ _ fun m net _ => ?_
    cases s.nicNumaId interfaceMap interfaceNameMap net with
    | none => rfl
    | some node => rfl
  have hkeys : ((nets.filterMap fun net =>
      (s.nicNumaId interfaceMap interfaceNameMap net).map fun node =>
        (net, (numaPriority.lookup node).getD 0)).map Prod.fst).Nodup := by
    rw [List.map_filterMap]
    refine hnets.filterMap fun net net' key hkey hkey' => ?_
    simp only [Option.map_map, Option.mem_def, Option.map_eq_some_iff] at hkey hkey'
    obtain ⟨node, -, rfl⟩ := hkey
    obtain ⟨node', -, heq⟩ := hkey'
    exact heq.symm
  rw [hmap, GoMap.lookup_insertAll_iff hkeys, List.mem_filterMap]
  constructor
  · rintro ⟨net', hnet', hsome⟩
    obtain ⟨node, hnode, heq⟩ := Option.map_eq_some_iff.mp hsome
    obtain ⟨rfl, rfl⟩ := Prod.mk.inj heq
    exact ⟨hnet', node, hnode, rfl⟩
  · rintro ⟨hnet, node, hnode, rfl⟩
    exact ⟨net, hnet, Option.map_eq_some_iff.mpr ⟨node, hnode, rfl⟩⟩

/-- The keys are candidates, each once. -/
theorem keys_nicPriority_subperm (hnets : nets.Nodup) (numaPriority : GoMap String Nat) :
    (s.nicPriority interfaceMap interfaceNameMap numaPriority nets).keys.Subperm nets := by
  refine List.subperm_of_subset (AList.keys_nodup _) fun net hnet => ?_
  obtain ⟨priority, hl⟩ := Option.isSome_iff_exists.mp
    (AList.lookup_isSome.mpr (AList.mem_keys.mpr hnet))
  exact ((lookup_nicPriority hnets numaPriority net priority).mp hl).1

section Known

variable (hnets : nets.Nodup) (hknown : NodesKnown s interfaceMap interfaceNameMap nets)

include hnets hknown

/-- With all nodes known, no candidate is missing. -/
theorem keys_nicPriority_perm (numaPriority : GoMap String Nat) :
    (s.nicPriority interfaceMap interfaceNameMap numaPriority nets).keys.Perm nets := by
  refine (List.perm_ext_iff_of_nodup (AList.keys_nodup _) hnets).mpr fun net => ?_
  rw [← AList.mem_keys, ← AList.lookup_isSome, Option.isSome_iff_exists]
  constructor
  · rintro ⟨priority, hl⟩
    exact ((lookup_nicPriority hnets numaPriority net priority).mp hl).1
  · intro hnet
    obtain ⟨node, hnode, -⟩ := hknown net hnet
    exact ⟨_, (lookup_nicPriority hnets numaPriority net _).mpr ⟨hnet, node, hnode, rfl⟩⟩

/-- The priority of a candidate is the count of its node. -/
theorem nicPriority_getD (gpuIds : List String) {net : String} (hnet : net ∈ nets) :
    ((s.nicPriority interfaceMap interfaceNameMap (s.numaPriority gpuIds) nets).lookup net).getD 0 =
      s.onNic interfaceMap interfaceNameMap (s.countedGPUs gpuIds) net := by
  obtain ⟨node, hnode, hne⟩ := hknown net hnet
  rw [(lookup_nicPriority hnets _ net _).mpr ⟨hnet, node, hnode, rfl⟩, Option.getD_some,
    numaPriority_getD s gpuIds hne, onNic, hnode]
  rfl

end Known

end Order

/-! ## The selection -/

section Selection

variable (s : NumaAwareSelector) (sort : KeySort) (interfaceMap : GoMap String InterfaceInfo)
  (interfaceNameMap : GoMap String String) (resourceMap : GoMap String (List String))

/-- The GPUs of the pod. -/
def podGPUs : List String := (resourceMap.lookup gpuResourceName).getD []

/-- The GPUs of the pod on the node of the NIC of a network. -/
def shared (netAddress : String) : Nat :=
  s.onNic interfaceMap interfaceNameMap (s.sharedGPUs (podGPUs resourceMap)) netAddress

/-- The GPUs that are counted for it. -/
def counted (netAddress : String) : Nat :=
  s.onNic interfaceMap interfaceNameMap (s.countedGPUs (podGPUs resourceMap)) netAddress

/-- The candidates as they are sorted, or as they are if one is missing then. -/
def sortedOrOrigin (nets : List String) : List String :=
  let sorted := s.sortByNumaAware sort interfaceMap interfaceNameMap resourceMap nets
  if sorted.length ≠ nets.length then nets else sorted

variable {s sort interfaceMap interfaceNameMap resourceMap}

theorem sortedOrOrigin_perm (hnets : nets.Nodup) :
    (s.sortedOrOrigin sort interfaceMap interfaceNameMap resourceMap nets).Perm nets := by
  unfold sortedOrOrigin sortByNumaAware
  cases resourceMap.lookup gpuResourceName with
  | none => simp
  | some gpuIds =>
    dsimp only
    split_ifs with hmap hlen hlen
    · rfl
    · rfl
    · rfl
    · -- as many keys as candidates are all of them
      have hperm := sort.perm (s.nicPriority interfaceMap interfaceNameMap (s.numaPriority gpuIds) nets)
      refine hperm.trans ((keys_nicPriority_subperm hnets _).perm_of_length_le ?_)
      rw [← hperm.length_eq, not_ne_iff.mp hlen]

/-- The selection is the first of the candidates, in this order. -/
theorem select_eq (order : GoMap.EntryOrder String String) (req : NICSelectRequest) :
    s.select sort interfaceMap interfaceNameMap resourceMap order req =
      if 0 < req.nicSet.numOfInterfaces ∧
          req.nicSet.numOfInterfaces < (candidates interfaceNameMap order req).length then
        (s.sortedOrOrigin sort interfaceMap interfaceNameMap resourceMap
          (candidates interfaceNameMap order req)).take req.nicSet.numOfInterfaces.toNat
      else candidates interfaceNameMap order req := rfl

section Known

variable (hnets : nets.Nodup) (hknown : NodesKnown s interfaceMap interfaceNameMap nets)

include hnets hknown

/-- With all nodes known and a GPU, the candidates are sorted by priority. -/
theorem sortedOrOrigin_eq (hgpus : resourceMap.lookup gpuResourceName = some gpuIds)
    (hne : nets ≠ []) :
    s.sortedOrOrigin sort interfaceMap interfaceNameMap resourceMap nets =
      sort.keys (s.nicPriority interfaceMap interfaceNameMap (s.numaPriority gpuIds) nets) := by
  have hmap : s.numaMap.entries.length ≠ 0 := by
    obtain ⟨net, hnet⟩ := List.exists_mem_of_ne_nil nets hne
    obtain ⟨node, hnode, -⟩ := hknown net hnet
    obtain ⟨devName, -, hnode⟩ := Option.bind_eq_some_iff.mp hnode
    obtain ⟨info, -, hnode⟩ := Option.bind_eq_some_iff.mp hnode
    exact (List.length_pos_of_mem (AList.mem_lookup_iff.mp hnode)).ne'
  have hlen := ((sort.perm _).trans
    (keys_nicPriority_perm hnets hknown (s.numaPriority gpuIds))).length_eq
  have hsort : s.sortByNumaAware sort interfaceMap interfaceNameMap resourceMap nets =
      sort.keys (s.nicPriority interfaceMap interfaceNameMap (s.numaPriority gpuIds) nets) := by
    rw [sortByNumaAware, hgpus]
    exact if_neg hmap
  rw [sortedOrOrigin, hsort]
  exact if_neg (not_not_intro hlen)

/-- With all nodes known, the candidates are sorted by the counts of their nodes. -/
theorem sortedOrOrigin_sorted :
    (s.sortedOrOrigin sort interfaceMap interfaceNameMap resourceMap nets).Pairwise fun a b =>
      s.counted interfaceMap interfaceNameMap resourceMap b ≤
        s.counted interfaceMap interfaceNameMap resourceMap a := by
  have hperm : (s.sortedOrOrigin sort interfaceMap interfaceNameMap resourceMap nets).Perm nets :=
    sortedOrOrigin_perm hnets
  by_cases hne : nets = []
  · subst hne
    rw [hperm.eq_nil]
    exact List.Pairwise.nil
  cases hgpus : resourceMap.lookup gpuResourceName with
  | none =>
    -- no GPU is counted at all
    refine List.pairwise_of_forall fun a b => ?_
    rw [counted, counted, podGPUs, hgpus]
    cases hnode : s.nicNumaId interfaceMap interfaceNameMap b with
    | none => simp [onNic, hnode]
    | some node => simp [onNic, hnode, countedGPUs]
  | some gpuIds =>
    have heq : s.sortedOrOrigin sort interfaceMap interfaceNameMap resourceMap nets = _ :=
      sortedOrOrigin_eq hnets hknown hgpus hne
    rw [heq] at hperm ⊢
    refine List.Pairwise.imp_of_mem ?_ (sort.sorted _)
    intro a b ha hb hle
    rw [nicPriority_getD hnets hknown gpuIds (hperm.mem_iff.mp ha),
      nicPriority_getD hnets hknown gpuIds (hperm.mem_iff.mp hb)] at hle
    rw [counted, counted, podGPUs, hgpus]
    exact hle

end Known

end Selection

/-! ## The nearest NICs -/

section Nearest

variable (s : NumaAwareSelector) (interfaceMap : GoMap String InterfaceInfo)
  (interfaceNameMap : GoMap String String) (resourceMap : GoMap String (List String))

/-- The selection of as many candidates as asked for, all if that is not positive, each once. If
the nodes of all of them are known, none that is left out is nearer to the GPUs than one that is
selected. -/
structure SelectsNearest (maxSize : Int) (nets selected : List String) : Prop where
  number : selected.length = if 0 < maxSize then min maxSize.toNat nets.length else nets.length
  distinct : selected.Nodup
  member : selected ⊆ nets
  nearest : NodesKnown s interfaceMap interfaceNameMap nets →
    ∀ a ∈ selected, ∀ b ∈ nets, b ∉ selected →
      s.shared interfaceMap interfaceNameMap resourceMap b ≤
        s.shared interfaceMap interfaceNameMap resourceMap a

/-- No candidate `a` can be selected in the place of a nearer one `b`: with the GPUs as they are
counted, at least as many candidates as asked for come before `a`, or fewer than that come with or
before `b`. -/
def CountsFit (maxSize : Int) (nets : List String) : Prop :=
  NodesKnown s interfaceMap interfaceNameMap nets → ∀ a ∈ nets, ∀ b ∈ nets,
    s.shared interfaceMap interfaceNameMap resourceMap a <
        s.shared interfaceMap interfaceNameMap resourceMap b →
      maxSize ≤ nets.countP (fun c => decide
          (s.counted interfaceMap interfaceNameMap resourceMap a <
            s.counted interfaceMap interfaceNameMap resourceMap c)) ∨
        nets.countP (fun c => decide (c ≠ b ∧
          s.counted interfaceMap interfaceNameMap resourceMap b ≤
            s.counted interfaceMap interfaceNameMap resourceMap c)) < maxSize

variable {s interfaceMap interfaceNameMap resourceMap}

/-- A selection from the candidates in any order. -/
theorem take_spec {l : List String} (hperm : l.Perm nets) (hnets : nets.Nodup) (n : Nat) :
    (l.take n).Nodup ∧ l.take n ⊆ nets ∧ (∀ b ∈ nets, b ∉ l.take n → b ∈ l.drop n) := by
  refine ⟨(hperm.nodup_iff.mpr hnets).sublist (List.take_sublist n l),
    fun a ha => hperm.mem_iff.mp (List.mem_of_mem_take ha), fun b hb hnot => ?_⟩
  have hmem := hperm.mem_iff.mpr hb
  rw [← List.take_append_drop n l] at hmem
  exact (List.mem_append.mp hmem).resolve_left hnot

/-- The counts are enough for the nearest to be selected, in whatever order. -/
theorem selectsNearest_of_countsFit (hnets : (candidates interfaceNameMap order req).Nodup)
    (hfit : CountsFit s interfaceMap interfaceNameMap resourceMap req.nicSet.numOfInterfaces
      (candidates interfaceNameMap order req)) (sort : KeySort) :
    SelectsNearest s interfaceMap interfaceNameMap resourceMap req.nicSet.numOfInterfaces
      (candidates interfaceNameMap order req)
      (s.select sort interfaceMap interfaceNameMap resourceMap order req) := by
  set nets := candidates interfaceNameMap order req with hdef
  rw [select_eq, ← hdef]
  by_cases hcut : 0 < req.nicSet.numOfInterfaces ∧ req.nicSet.numOfInterfaces < nets.length
  · rw [if_pos hcut]
    have hperm : (s.sortedOrOrigin sort interfaceMap interfaceNameMap resourceMap nets).Perm nets :=
      sortedOrOrigin_perm hnets
    obtain ⟨hdistinct, hmember, hdrop⟩ := take_spec hperm hnets req.nicSet.numOfInterfaces.toNat
    refine ⟨?_, hdistinct, hmember, ?_⟩
    · rw [if_pos hcut.1, List.length_take, hperm.length_eq]
    · intro hknown a ha b hb hnot
      by_contra hlt
      have hsorted := @sortedOrOrigin_sorted nets s sort interfaceMap interfaceNameMap resourceMap
        hnets hknown
      have hbefore := countP_lt_of_mem_take hsorted ha
      have hwith := le_countP_of_mem_drop hsorted (hperm.nodup_iff.mpr hnets) (hdrop b hb hnot)
      rw [hperm.countP_eq] at hbefore hwith
      rcases hfit hknown a (hmember ha) b hb (not_le.mp hlt) with hfew | hmany
      · omega
      · omega
  · -- all candidates are selected
    rw [if_neg hcut]
    refine ⟨?_, hnets, fun a ha => ha, fun _ a _ b hb hnot => absurd hb hnot⟩
    split
    · omega
    · rfl

/-- A sort with a given result on one map. -/
theorem exists_keySort {m : GoMap String Nat} {l : List String} (hperm : l.Perm m.keys)
    (hsorted : l.Pairwise fun a b => (m.lookup b).getD 0 ≤ (m.lookup a).getD 0) :
    ∃ sort : KeySort, sort.keys m = l := by
  classical
  refine ⟨⟨fun m' => if m' = m then l else KeySort.stable.keys m', ?_, ?_⟩, if_pos rfl⟩
  · intro m'
    split
    · next heq => rw [heq]; exact hperm
    · exact KeySort.stable.perm m'
  · intro m'
    split
    · next heq => rw [heq]; exact hsorted
    · exact KeySort.stable.sorted m'

/-- Otherwise some order selects a candidate in the place of a nearer one. -/
theorem countsFit_of_selectsNearest (hnets : (candidates interfaceNameMap order req).Nodup)
    (h : ∀ sort, SelectsNearest s interfaceMap interfaceNameMap resourceMap
      req.nicSet.numOfInterfaces (candidates interfaceNameMap order req)
      (s.select sort interfaceMap interfaceNameMap resourceMap order req)) :
    CountsFit s interfaceMap interfaceNameMap resourceMap req.nicSet.numOfInterfaces
      (candidates interfaceNameMap order req) := by
  set nets := candidates interfaceNameMap order req with hdef
  set n := req.nicSet.numOfInterfaces with hn
  intro hknown a ha b hb hlt
  by_contra hnot
  obtain ⟨hbefore, hwith⟩ := not_or.mp hnot
  rw [not_le] at hbefore
  rw [not_lt] at hwith
  have hne : a ≠ b := by
    rintro rfl
    exact lt_irrefl _ hlt
  -- there is a GPU, or `b` would not be nearer
  obtain ⟨gpuIds, hgpus⟩ : ∃ gpuIds, resourceMap.lookup gpuResourceName = some gpuIds := by
    cases hgpus : resourceMap.lookup gpuResourceName with
    | some gpuIds => exact ⟨gpuIds, rfl⟩
    | none =>
      rw [shared, shared, podGPUs, hgpus] at hlt
      cases hnode : s.nicNumaId interfaceMap interfaceNameMap b with
      | none => simp [onNic, hnode] at hlt
      | some node => simp [onNic, hnode, sharedGPUs] at hlt
  have hfirst : nets.countP (fun c => decide (s.counted interfaceMap interfaceNameMap resourceMap a <
      s.counted interfaceMap interfaceNameMap resourceMap c)) < n.toNat := by omega
  have hlast : n.toNat ≤ nets.countP fun c => decide (c ≠ b ∧
      s.counted interfaceMap interfaceNameMap resourceMap b ≤
        s.counted interfaceMap interfaceNameMap resourceMap c) := by omega
  have hcut : 0 < n ∧ n < nets.length := by
    have hless : nets.countP (fun c => decide (c ≠ b ∧
        s.counted interfaceMap interfaceNameMap resourceMap b ≤
          s.counted interfaceMap interfaceNameMap resourceMap c)) < nets.length :=
      List.countP_lt_length_iff.mpr ⟨b, hb, by simp⟩
    exact ⟨by omega, by omega⟩
  obtain ⟨l, hperm, hsorted, htake, hdrop⟩ := exists_sorted_separating hnets ha hb hne hfirst hlast
  have hsorted' : l.Pairwise fun c d =>
      ((s.nicPriority interfaceMap interfaceNameMap (s.numaPriority gpuIds) nets).lookup d).getD 0 ≤
        ((s.nicPriority interfaceMap interfaceNameMap (s.numaPriority gpuIds) nets).lookup
          c).getD 0 := by
    refine hsorted.imp_of_mem fun {c d} hc hd hle => ?_
    rw [nicPriority_getD hnets hknown gpuIds (hperm.mem_iff.mp hc),
      nicPriority_getD hnets hknown gpuIds (hperm.mem_iff.mp hd)]
    rwa [counted, counted, podGPUs, hgpus] at hle
  obtain ⟨sort, hsort⟩ := exists_keySort
    (hperm.trans (keys_nicPriority_perm hnets hknown (s.numaPriority gpuIds)).symm) hsorted'
  have hselect : s.select sort interfaceMap interfaceNameMap resourceMap order req =
      l.take n.toNat := by
    rw [select_eq, ← hdef, ← hn, if_pos hcut,
      sortedOrOrigin_eq hnets hknown hgpus (List.ne_nil_of_mem ha), hsort]
  have hnearest := (h sort).nearest hknown a (hselect ▸ htake) b hb
  refine absurd (hnearest ?_) (not_le.mpr hlt)
  rw [hselect]
  intro htake'
  exact List.disjoint_take_drop (hperm.nodup_iff.mpr hnets) le_rfl htake' hdrop

/-- **The nearest NICs are selected, in every order of candidates with the same count, exactly
when** the counts do not let a candidate take the place of a nearer one (`CountsFit`). -/
theorem numaAware_select_iff {order : GoMap.EntryOrder String String} {req : NICSelectRequest}
    (hnets : (candidates interfaceNameMap order req).Nodup) :
    (∀ sort, SelectsNearest s interfaceMap interfaceNameMap resourceMap
        req.nicSet.numOfInterfaces (candidates interfaceNameMap order req)
        (s.select sort interfaceMap interfaceNameMap resourceMap order req)) ↔
      CountsFit s interfaceMap interfaceNameMap resourceMap req.nicSet.numOfInterfaces
        (candidates interfaceNameMap order req) :=
  ⟨countsFit_of_selectsNearest hnets, fun hfit => selectsNearest_of_countsFit hnets hfit⟩

/-- The counts are right if all GPUs of the pod have a bus ID, or the NUMA map has nothing under
the empty one. -/
theorem countsFit_of_known (maxSize : Int)
    (h : (∀ gpuId ∈ podGPUs resourceMap, gpuId ∈ s.gpuIDBusMap) ∨ s.numaMap.lookup "" = none) :
    CountsFit s interfaceMap interfaceNameMap resourceMap maxSize nets := by
  have hcounts : ∀ net, s.counted interfaceMap interfaceNameMap resourceMap net =
      s.shared interfaceMap interfaceNameMap resourceMap net := by
    intro net
    rw [counted, shared, onNic, onNic]
    cases s.nicNumaId interfaceMap interfaceNameMap net with
    | none => rfl
    | some node => exact s.countedGPUs_eq_sharedGPUs h node
  intro _ a ha b hb hlt
  simp only [hcounts]
  -- those with or before `b`, and `b` itself, come before `a`
  have hle : nets.countP (fun c => decide (c ≠ b ∧
      s.shared interfaceMap interfaceNameMap resourceMap b ≤
        s.shared interfaceMap interfaceNameMap resourceMap c)) <
      nets.countP (fun c => decide (s.shared interfaceMap interfaceNameMap resourceMap a <
        s.shared interfaceMap interfaceNameMap resourceMap c)) := by
    have himp : ∀ c ∈ nets, decide (c ≠ b ∧ s.shared interfaceMap interfaceNameMap resourceMap b ≤
        s.shared interfaceMap interfaceNameMap resourceMap c) = true →
        decide (s.shared interfaceMap interfaceNameMap resourceMap a <
          s.shared interfaceMap interfaceNameMap resourceMap c) = true := by
      intro c _ hc
      exact decide_eq_true (lt_of_lt_of_le hlt (of_decide_eq_true hc).2)
    refine lt_of_le_of_ne (List.countP_mono_left himp) fun heq => ?_
    have hself := (countP_eq_iff_of_imp himp).mp heq b hb (decide_eq_true hlt)
    exact (of_decide_eq_true hself).1 rfl
  omega

end Nearest

/-! ## Runs -/

/-- A topology with a bridge that has no bus ID. The first NIC is behind it, the second one on the
other node, with a GPU. -/
def bridgeWithoutId : List Daemon.CPUTag :=
  [⟨"0", [⟨"", [⟨"0000:01:00.0", []⟩]⟩]⟩, ⟨"1", [⟨"0000:02:00.0", []⟩, ⟨"0000:03:00.0", []⟩]⟩]

/-- The bus ID of one GPU is known. -/
def oneKnownGPU : NumaAwareSelector :=
  ⟨AList.singleton "GPU-2" "0000:03:00.0", Daemon.getNumaMap bridgeWithoutId .nil⟩

def numaInterfaces : GoMap String InterfaceInfo :=
  ((∅ : GoMap String InterfaceInfo).insert "eth1"
    ⟨⟨"eth1", "10.0.1.0/24", "10.0.1.1"⟩, "15b3", "1019", "0000:01:00.0"⟩).insert "eth2"
      ⟨⟨"eth2", "10.0.2.0/24", "10.0.2.1"⟩, "15b3", "1019", "0000:02:00.0"⟩

def numaNames : GoMap String String :=
  ((∅ : GoMap String String).insert "10.0.1.0/24" "eth1").insert "10.0.2.0/24" "eth2"

/-- One of both NICs is asked for. -/
def oneOfBoth : NICSelectRequest := ⟨["10.0.1.0/24", "10.0.2.0/24"], ⟨1, [], ""⟩⟩

/-- The NIC on the node of the GPU is selected. -/
theorem numaAware_select_one :
    (∀ sort, SelectsNearest oneKnownGPU numaInterfaces numaNames
        (AList.singleton gpuResourceName ["GPU-2"]) 1 (candidates numaNames .listed oneOfBoth)
        (oneKnownGPU.select sort numaInterfaces numaNames
          (AList.singleton gpuResourceName ["GPU-2"]) .listed oneOfBoth)) ∧
      oneKnownGPU.select .stable numaInterfaces numaNames
        (AList.singleton gpuResourceName ["GPU-2"]) .listed oneOfBoth = ["10.0.2.0/24"] := by
  refine ⟨?_, by decide +kernel⟩
  have hknown : ∀ gpuId ∈ podGPUs (AList.singleton gpuResourceName ["GPU-2"]),
      gpuId ∈ oneKnownGPU.gpuIDBusMap := by decide +kernel
  have hnets : (candidates numaNames .listed oneOfBoth).Nodup := by decide +kernel
  exact (numaAware_select_iff hnets).mpr (countsFit_of_known 1 (Or.inl hknown))

/-- Two GPUs without a bus ID count for the node of the bridge, and the NIC on the node of the
third GPU is left out. -/
theorem numaAware_select_misled :
    NodesKnown oneKnownGPU numaInterfaces numaNames (candidates numaNames .listed oneOfBoth) ∧
      oneKnownGPU.select .stable numaInterfaces numaNames
        (AList.singleton gpuResourceName ["GPU-0", "GPU-1", "GPU-2"]) .listed oneOfBoth =
          ["10.0.1.0/24"] ∧
      ¬ SelectsNearest oneKnownGPU numaInterfaces numaNames
        (AList.singleton gpuResourceName ["GPU-0", "GPU-1", "GPU-2"]) 1
        (candidates numaNames .listed oneOfBoth)
        (oneKnownGPU.select .stable numaInterfaces numaNames
          (AList.singleton gpuResourceName ["GPU-0", "GPU-1", "GPU-2"]) .listed oneOfBoth) := by
  have hknown : NodesKnown oneKnownGPU numaInterfaces numaNames
      (candidates numaNames .listed oneOfBoth) := by
    have hnets : candidates numaNames .listed oneOfBoth = ["10.0.1.0/24", "10.0.2.0/24"] := by
      decide +kernel
    rw [hnets]
    intro net hnet
    rcases List.mem_pair.mp hnet with rfl | rfl
    · exact ⟨"0", by decide +kernel, by decide⟩
    · exact ⟨"1", by decide +kernel, by decide⟩
  have hselect : oneKnownGPU.select .stable numaInterfaces numaNames
      (AList.singleton gpuResourceName ["GPU-0", "GPU-1", "GPU-2"]) .listed oneOfBoth =
        ["10.0.1.0/24"] := by decide +kernel
  refine ⟨hknown, hselect, ?_⟩
  rw [hselect]
  intro h
  have hle := h.nearest hknown "10.0.1.0/24" (by decide) "10.0.2.0/24" (by decide +kernel) (by decide)
  exact absurd hle (by decide +kernel)

end NumaAwareSelector

end MultiNicCni.Selector
