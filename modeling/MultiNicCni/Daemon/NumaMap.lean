import MultiNicCni.Go.Map
import MultiNicCni.Go.Text

/-!
# The NUMA nodes of PCI devices (`daemon/src/selector/topology.go`)

The topology strategy needs the NUMA node of each NIC and GPU by PCI address. `getNumaMap` takes
it from the topology document, a tree of `pci` elements under each `cpu` element, or else from
the `numa_node` files under `/sys/devices`.

Both are trees of any depth. The document is read two levels deep, so a device behind two
bridges has no NUMA node. In sysfs the file of a directory is entered under the name of the
directory above.

- `lookup_numaMapOfCPUs`: the map has the two upper levels of the document;
- `lookup_getNumaMapFromSysfs`: a name in the map has the node of the last directory below it;
- `getNumaMap_correct_iff`: **when the map gives every PCI device its node**.
-/

namespace MultiNicCni.Daemon

open Go

/-! ## The topology document -/

/-- `PCITag`, with the attribute that is read. -/
structure PCITag where
  busId : String
  pcis : List PCITag

/-- `CPUTag`. -/
structure CPUTag where
  numaId : String
  pcis : List PCITag

/-- The loops of `getNumaMap` over the topology. -/
def numaMapOfCPUs (cpus : List CPUTag) : GoMap String String :=
  cpus.foldl (fun numaMap cpu => cpu.pcis.foldl (fun numaMap pci =>
    pci.pcis.foldl (fun numaMap subpci => numaMap.insert subpci.busId cpu.numaId)
      (numaMap.insert pci.busId cpu.numaId)) numaMap) ∅

/-! ## sysfs -/

/-- The contents of a directory, in the order in which `filepath.Walk` visits them. A link is not
followed and counts as a file. -/
inductive Dir where
  | nil
  | file (name content : String) (rest : Dir)
  | dir (name : String) (contents : Dir) (rest : Dir)

/-- A path from its last element up to the root. -/
abbrev Path := List String

/-- `filepath.Dir`. -/
def pathDir (path : Path) : Path := path.tail

/-- `filepath.Base`. -/
def pathBase (path : Path) : String := path.headD "/"

/-- The files that `filepath.Walk` visits, with their contents. -/
def walk (path : Path) : Dir → List (Path × String)
  | .nil => []
  | .file name content rest => (name :: path, content) :: walk path rest
  | .dir name contents rest => walk (name :: path) contents ++ walk path rest

/-- `/sys/devices`. -/
def deviceDir : Path := ["devices", "sys"]

/-- The function that `getNumaMapFromSysfs` passes to `Walk`. -/
def visitFile (numaMap : GoMap String String) (file : Path × String) : GoMap String String :=
  if pathBase file.1 = "numa_node" then
    let numaNodePath := pathDir file.1
    let directoryName := pathBase (pathDir numaNodePath)
    numaMap.insert directoryName (trimSpace file.2)
  else numaMap

/-- `getNumaMapFromSysfs`. -/
def getNumaMapFromSysfs (devices : Dir) : GoMap String String :=
  (walk deviceDir devices).foldl visitFile ∅

/-- `getNumaMap`. -/
def getNumaMap (cpus : List CPUTag) (devices : Dir) : GoMap String String :=
  if cpus.length = 0 then getNumaMapFromSysfs devices else numaMapOfCPUs cpus

/-! ## The elements of the document -/

mutual

/-- The bus IDs of an element and of all below it. -/
def PCITag.busIds : PCITag → List String
  | ⟨busId, pcis⟩ => busId :: PCITag.listBusIds pcis

def PCITag.listBusIds : List PCITag → List String
  | [] => []
  | pci :: pcis => pci.busIds ++ PCITag.listBusIds pcis

end

theorem PCITag.busIds_eq (pci : PCITag) : pci.busIds = pci.busId :: PCITag.listBusIds pci.pcis := by
  obtain ⟨busId, pcis⟩ := pci
  rfl

theorem PCITag.listBusIds_eq (pcis : List PCITag) :
    PCITag.listBusIds pcis = pcis.flatMap PCITag.busIds := by
  induction pcis with
  | nil => rfl
  | cons pci pcis ih => rw [PCITag.listBusIds, ih, List.flatMap_cons]

/-- An element with any bus IDs below has elements below. -/
theorem PCITag.listBusIds_eq_nil_iff (pcis : List PCITag) :
    PCITag.listBusIds pcis = [] ↔ pcis = [] := by
  cases pcis with
  | nil => simp [PCITag.listBusIds]
  | cons pci pcis => simp [PCITag.listBusIds, PCITag.busIds_eq]

namespace CPUTag

/-- The bus IDs of all elements of a `cpu`. -/
def busIds (cpu : CPUTag) : List String := cpu.pcis.flatMap PCITag.busIds

/-- Those of its two upper levels. -/
def upperIds (cpu : CPUTag) : List String :=
  cpu.pcis.flatMap fun pci => pci.busId :: pci.pcis.map PCITag.busId

/-- Those of the levels below. -/
def lowerIds (cpu : CPUTag) : List String :=
  cpu.pcis.flatMap fun pci => pci.pcis.flatMap fun subpci => PCITag.listBusIds subpci.pcis

theorem busIds_perm (cpu : CPUTag) : cpu.busIds.Perm (cpu.upperIds ++ cpu.lowerIds) := by
  have hpci : ∀ pci : PCITag, pci.busIds.Perm ((pci.busId :: pci.pcis.map PCITag.busId) ++
      pci.pcis.flatMap fun subpci => PCITag.listBusIds subpci.pcis) := by
    intro pci
    have hsub := List.map_append_flatMap_perm pci.pcis PCITag.busId
      fun subpci => PCITag.listBusIds subpci.pcis
    simp only [← PCITag.busIds_eq] at hsub
    rw [PCITag.busIds_eq, PCITag.listBusIds_eq, List.cons_append]
    exact hsub.symm.cons _
  refine (List.Perm.flatMap_left cpu.pcis fun pci _ => hpci pci).trans ?_
  exact (List.flatMap_append_perm ..).symm

theorem lowerIds_eq_nil_iff (cpu : CPUTag) : cpu.lowerIds = [] ↔
    ∀ pci ∈ cpu.pcis, ∀ subpci ∈ pci.pcis, subpci.pcis = [] := by
  simp only [lowerIds, List.flatMap_eq_nil_iff, PCITag.listBusIds_eq_nil_iff]

end CPUTag

/-- The loops fill the map from the two upper levels. -/
theorem numaMapOfCPUs_eq (cpus : List CPUTag) : numaMapOfCPUs cpus =
    GoMap.insertAll (cpus.flatMap fun cpu => cpu.upperIds.map fun busId => (busId, cpu.numaId)) := by
  rw [numaMapOfCPUs, GoMap.insertAll, List.foldl_flatMap]
  refine List.foldl_ext _ _ _ fun numaMap cpu _ => ?_
  rw [List.foldl_map, CPUTag.upperIds, List.foldl_flatMap]
  refine List.foldl_ext _ _ _ fun numaMap pci _ => ?_
  rw [List.foldl_cons, List.foldl_map]

/-- With distinct bus IDs: a bus ID of the two upper levels has the node of its `cpu`. -/
theorem lookup_numaMapOfCPUs {cpus : List CPUTag} (hids : (cpus.flatMap CPUTag.upperIds).Nodup)
    (busId numaId : String) : (numaMapOfCPUs cpus).lookup busId = some numaId ↔
      ∃ cpu ∈ cpus, cpu.numaId = numaId ∧ busId ∈ cpu.upperIds := by
  rw [numaMapOfCPUs_eq, GoMap.lookup_insertAll_iff]
  · simp only [List.mem_flatMap, List.mem_map, Prod.mk.injEq]
    constructor
    · rintro ⟨cpu, hcpu, busId', hmem, rfl, rfl⟩
      exact ⟨cpu, hcpu, rfl, hmem⟩
    · rintro ⟨cpu, hcpu, rfl, hmem⟩
      exact ⟨cpu, hcpu, busId, hmem, rfl, rfl⟩
  · simpa only [List.map_flatMap, List.map_map, Function.comp_def, List.map_id'] using hids

/-! ## The files of sysfs -/

/-- The nodes in the directories directly below one of this name, in the order of the walk. -/
def nodesBelow (devices : Dir) (name : String) : List String :=
  ((walk deviceDir devices).filter fun file => pathBase file.1 = "numa_node" ∧
    pathBase (pathDir (pathDir file.1)) = name).map fun file => trimSpace file.2

/-- The map has under a name what the last directory below it says. -/
theorem lookup_getNumaMapFromSysfs (devices : Dir) (name : String) :
    (getNumaMapFromSysfs devices).lookup name = (nodesBelow devices name).getLast? := by
  have hmap : getNumaMapFromSysfs devices = GoMap.insertAll
      (((walk deviceDir devices).filter fun file => pathBase file.1 = "numa_node").map
        fun file => (pathBase (pathDir (pathDir file.1)), trimSpace file.2)) := by
    rw [getNumaMapFromSysfs, GoMap.insertAll, List.foldl_map, List.foldl_filter]
    refine List.foldl_ext _ _ _ fun numaMap file _ => ?_
    simp only [visitFile, decide_eq_true_eq]
  rw [hmap, GoMap.lookup_insertAll, nodesBelow, List.filter_map, List.getLast?_map,
    List.getLast?_map, List.filter_filter, Option.map_map]
  simp only [Function.comp_def, Bool.decide_and, Bool.and_comm]

/-! ## When the map is right -/

def isHex (s : String) : Bool :=
  s != "" && s.toList.all fun c => decide (c ∈ "0123456789abcdefABCDEF".toList)

/-- Is this the address of a PCI device: domain, bus, device and function? -/
def isPCIAddress (name : String) : Bool :=
  match split name ':' with
  | [domain, bus, deviceFunction] =>
    match split deviceFunction '.' with
    | [device, function] => [domain, bus, device, function].all isHex
    | _ => false
  | _ => false

/-- The directory of a PCI device, at any depth, has a `numa_node` file with this content. -/
def HasNumaNode (devices : Dir) (pciAddress content : String) : Prop :=
  isPCIAddress pciAddress = true ∧
    ∃ above, ("numa_node" :: pciAddress :: above, content) ∈ walk deviceDir devices

/-- The map gives every device its node: with a topology, the `numaid` of the `cpu` around its
element, and nothing else; without one, what its `numa_node` file says. -/
structure NumaMapCorrect (cpus : List CPUTag) (devices : Dir) (numaMap : GoMap String String) :
    Prop where
  document : cpus ≠ [] → ∀ busId numaId, numaMap.lookup busId = some numaId ↔
    ∃ cpu ∈ cpus, cpu.numaId = numaId ∧ busId ∈ cpu.busIds
  sysfs : cpus = [] → ∀ pciAddress content, HasNumaNode devices pciAddress content →
    numaMap.lookup pciAddress = some (trimSpace content)

/-- With a topology, no element is nested deeper than in an element of a `cpu`. Without one, each
PCI device with a `numa_node` file has a directory below with such a file, and the last of them
has the same node. -/
structure NumaSourcesFit (cpus : List CPUTag) (devices : Dir) : Prop where
  document : ∀ cpu ∈ cpus, ∀ pci ∈ cpu.pcis, ∀ subpci ∈ pci.pcis, subpci.pcis = []
  sysfs : cpus = [] → ∀ pciAddress content, HasNumaNode devices pciAddress content →
    (nodesBelow devices pciAddress).getLast? = some (trimSpace content)

/-- The map of a document is right iff all elements are in its two upper levels. -/
theorem numaMapOfCPUs_correct_iff {cpus : List CPUTag} (hids : (cpus.flatMap CPUTag.busIds).Nodup) :
    (∀ busId numaId, (numaMapOfCPUs cpus).lookup busId = some numaId ↔
        ∃ cpu ∈ cpus, cpu.numaId = numaId ∧ busId ∈ cpu.busIds) ↔
      ∀ cpu ∈ cpus, ∀ pci ∈ cpu.pcis, ∀ subpci ∈ pci.pcis, subpci.pcis = [] := by
  have hperm : (cpus.flatMap CPUTag.busIds).Perm
      (cpus.flatMap CPUTag.upperIds ++ cpus.flatMap CPUTag.lowerIds) :=
    (List.Perm.flatMap_left cpus fun cpu _ => cpu.busIds_perm).trans
      (List.flatMap_append_perm ..).symm
  obtain ⟨hupper, -, hdisjoint⟩ := List.nodup_append.mp (hperm.nodup_iff.mp hids)
  simp only [lookup_numaMapOfCPUs hupper, ← CPUTag.lowerIds_eq_nil_iff]
  constructor
  · intro h cpu hcpu
    -- a bus ID of a lower level would be one of the two upper levels as well
    refine List.eq_nil_iff_forall_not_mem.mpr fun busId hlower => ?_
    have hmem : busId ∈ cpu.busIds :=
      cpu.busIds_perm.mem_iff.mpr (List.mem_append_right _ hlower)
    obtain ⟨cpu', hcpu', -, hupper'⟩ := (h busId cpu.numaId).mpr ⟨cpu, hcpu, rfl, hmem⟩
    exact hdisjoint busId (List.mem_flatMap.mpr ⟨cpu', hcpu', hupper'⟩) busId
      (List.mem_flatMap.mpr ⟨cpu, hcpu, hlower⟩) rfl
  · intro h busId numaId
    refine exists_congr fun cpu => and_congr_right fun hcpu => and_congr_right fun _ => ?_
    rw [cpu.busIds_perm.mem_iff, h cpu hcpu, List.append_nil]

/-- **`getNumaMap` is right exactly when** the document has no element below the second level;
or, without a document, when the last directory below each PCI device agrees with it. -/
theorem getNumaMap_correct_iff {cpus : List CPUTag} (hids : (cpus.flatMap CPUTag.busIds).Nodup)
    (devices : Dir) :
    NumaMapCorrect cpus devices (getNumaMap cpus devices) ↔ NumaSourcesFit cpus devices := by
  unfold getNumaMap
  by_cases hcpus : cpus = []
  · rw [if_pos (by rw [hcpus]; rfl)]
    constructor
    · rintro ⟨-, hsysfs⟩
      refine ⟨by simp [hcpus], fun _ pciAddress content hnode => ?_⟩
      rw [← lookup_getNumaMapFromSysfs]
      exact hsysfs hcpus pciAddress content hnode
    · rintro ⟨-, hsysfs⟩
      refine ⟨fun hne => absurd hcpus hne, fun _ pciAddress content hnode => ?_⟩
      rw [lookup_getNumaMapFromSysfs]
      exact hsysfs hcpus pciAddress content hnode
  · rw [if_neg fun hlen => hcpus (List.length_eq_zero_iff.mp hlen)]
    constructor
    · rintro ⟨hdocument, -⟩
      exact ⟨(numaMapOfCPUs_correct_iff hids).mp (hdocument hcpus), fun h => absurd h hcpus⟩
    · rintro ⟨hdocument, -⟩
      exact ⟨fun _ => (numaMapOfCPUs_correct_iff hids).mpr hdocument, fun h => absurd h hcpus⟩

/-- A device behind a bridge. -/
def behindBridge : List CPUTag := [⟨"1", [⟨"0000:00:01.0", [⟨"0000:01:00.0", []⟩]⟩]⟩]

/-- A device with a `numa_node` file, and a directory below it with the same one. -/
def nodeBelow : Dir :=
  .dir "pci0000:00" (.dir "0000:00:1f.0" (.file "numa_node" "1\n"
    (.dir "eth1" (.file "numa_node" "1\n" .nil) .nil)) .nil) .nil

theorem getNumaMap_correct_bridge :
    NumaMapCorrect behindBridge .nil (getNumaMap behindBridge .nil) ∧
    HasNumaNode nodeBelow "0000:00:1f.0" "1\n" ∧
      NumaMapCorrect [] nodeBelow (getNumaMap [] nodeBelow) := by
  refine ⟨(getNumaMap_correct_iff (by decide) .nil).mpr ⟨by simp [behindBridge], nofun⟩,
    ⟨by decide +kernel, _, List.mem_cons_self⟩,
    (getNumaMap_correct_iff (by decide) nodeBelow).mpr ⟨nofun, fun _ => ?_⟩⟩
  rintro pciAddress content ⟨hpci, above, hmem⟩
  rcases List.mem_cons.mp hmem with heq | hmem
  · cases heq
    decide +kernel
  · -- the directory below is no PCI device
    cases List.mem_singleton.mp hmem
    exact absurd hpci (by decide +kernel)

/-- A device behind two bridges. -/
def behindSwitch : List CPUTag :=
  [⟨"1", [⟨"0000:00:01.0", [⟨"0000:01:00.0", [⟨"0000:02:00.0", []⟩]⟩]⟩]⟩]

/-- A device on the root bus, with its `numa_node` file. -/
def onRootBus : Dir :=
  .dir "pci0000:00" (.dir "0000:00:1f.0" (.file "numa_node" "1\n" .nil) .nil) .nil

/-- The device behind two bridges has no node; in sysfs the bus has the node of the device. -/
theorem getNumaMap_incorrect_nested :
    ((behindSwitch.flatMap CPUTag.busIds).Nodup ∧
      (getNumaMap behindSwitch .nil).lookup "0000:02:00.0" = none ∧
      ¬ NumaMapCorrect behindSwitch .nil (getNumaMap behindSwitch .nil)) ∧
    HasNumaNode onRootBus "0000:00:1f.0" "1\n" ∧
      (getNumaMap [] onRootBus).lookup "pci0000:00" = some "1" ∧
      (getNumaMap [] onRootBus).lookup "0000:00:1f.0" = none ∧
      ¬ NumaMapCorrect [] onRootBus (getNumaMap [] onRootBus) := by
  have hswitch : (getNumaMap behindSwitch .nil).lookup "0000:02:00.0" = none := by decide +kernel
  have hbus : (getNumaMap [] onRootBus).lookup "0000:00:1f.0" = none := by decide +kernel
  have hnode : HasNumaNode onRootBus "0000:00:1f.0" "1\n" :=
    ⟨by decide +kernel, _, List.mem_cons_self⟩
  refine ⟨⟨by decide, hswitch, ?_⟩, hnode, by decide +kernel, hbus, ?_⟩
  · intro hcorrect
    have hin : "0000:02:00.0" ∈ CPUTag.busIds
        ⟨"1", [⟨"0000:00:01.0", [⟨"0000:01:00.0", [⟨"0000:02:00.0", []⟩]⟩]⟩]⟩ := by decide
    have hlookup := (hcorrect.document nofun "0000:02:00.0" "1").mpr
      ⟨_, List.mem_cons_self, rfl, hin⟩
    rw [hswitch] at hlookup
    cases hlookup
  · intro hcorrect
    have hlookup := hcorrect.sysfs rfl _ _ hnode
    rw [hbus] at hlookup
    cases hlookup

end MultiNicCni.Daemon
