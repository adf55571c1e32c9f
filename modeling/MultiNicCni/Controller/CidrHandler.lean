import MultiNicCni.Controller.IPPoolHandler

/-!
# Computing the CIDR resource (`controllers/cidr_handler.go`)

`NewCIDR` lays out the networks of a definition, `UpdateEntries` brings the entries up to
date with a snapshot of the discovered host interfaces. A Go map is a `GoMap`, whose order
is the order the map happens to be iterated in; the answers of the node lookups come from a
stream, one per call.

The search loops of the source have no bound of their own, so they take a `fuel`. The
result is `none` when the Go code panics or when the fuel does not suffice.
-/

namespace MultiNicCni.Controller

open Go Compute

variable {config : PluginConfig} {snapshot : GoMap String HostInterface}

/-! ## A host of a network -/

/-- The errors the handler makes itself. -/
inductive HandlerError where
  /-- "wrong request (no available host index)" -/
  | noHostIndex
  /-- "wrong request (overflow interface index)" -/
  | overflowInterfaceIndex
  /-- "failed to add host to CIDR entry" -/
  | addHostFailed
  deriving DecidableEq, Repr

/-- The index `addNewHost` tries next: one after the last, or the first gap. -/
def nextHostIndex (maxHostIndex : Int) (sorted : List Int) : Except HandlerError Int :=
  match sorted.getLast? with
  | none => .ok 0
  | some last =>
    if last + 1 > maxHostIndex then
      let nodeIndex := findAvailableIndex sorted 0 0
      if nodeIndex = -1 then .error .noHostIndex else .ok nodeIndex
    else .ok (last + 1)

/-- The loop of `addNewHost` over the indexes found in use or unusable so far. -/
def addNewHostLoop (maxHostIndex : Int) (vlanCIDR : String) (nodeBlock : Int)
    (excludes : List String) : Nat → List Int → Option (Except HandlerError (String × Int))
  | 0, _ => none
  | fuel + 1, excludedIndexes =>
    let sorted := sortInts excludedIndexes
    match nextHostIndex maxHostIndex sorted with
    | .error e => some (.error e)
    | .ok nodeIndex => do
      match ← computeNet vlanCIDR nodeIndex nodeBlock with
      | .ok vlanInByte =>
        if ← checkIfTabuIndex vlanCIDR nodeIndex nodeBlock excludes then
          addNewHostLoop maxHostIndex vlanCIDR nodeBlock excludes fuel (sorted ++ [nodeIndex])
        else
          let podCIDR ← getCIDRFromByte vlanInByte vlanCIDR nodeBlock
          some (.ok (podCIDR, nodeIndex))
      | .error _ =>
        addNewHostLoop maxHostIndex vlanCIDR nodeBlock excludes fuel (sorted ++ [nodeIndex])

/-- `addNewHost`: an available host index with its pod CIDR. -/
def addNewHost (fuel : Nat) (hosts : List HostInterfaceInfo) (maxHostIndex : Int)
    (vlanCIDR : String) (nodeBlock : Int) (excludes : List String) :
    Option (Except HandlerError (String × Int)) :=
  if maxHostIndex = 0 then some (.ok (vlanCIDR, 0))
  else addNewHostLoop maxHostIndex vlanCIDR nodeBlock excludes fuel (hosts.map (·.hostIndex))

/-- `tryAddNewHost`: the entry with the host added, or unchanged and `false`. -/
def tryAddNewHost (fuel : Nat) (existingHosts : List HostInterfaceInfo) (entry : CIDREntry)
    (maxHostIndex : Int) (config : PluginConfig) (hostName interfaceName hostIP : String) :
    Option (CIDREntry × Bool) := do
  match ← addNewHost fuel existingHosts maxHostIndex entry.vlanCIDR config.hostBlock
      config.excludeCIDRs with
  | .ok (podCIDR, hostIndex) =>
    let newHost : HostInterfaceInfo :=
      { hostIndex, hostName, interfaceName, hostIP, podCIDR,
        ipPool := getIPPoolName config.name podCIDR }
    let hosts := sortStable HostInterfaceInfo.hostIndex (existingHosts ++ [newHost])
    some ({ entry with hosts }, true)
  | .error _ => some (entry, false)

/-- `getHostIndex`: the position of a host in the list; `none` for -1. -/
def getHostIndex (hosts : List HostInterfaceInfo) (hostName : String) : Option Nat :=
  hosts.findIdx? (·.hostName == hostName)

/-! ## The entry of a network -/

/-- The interface index `getInterfaceEntry` tries next: the first gap, or one after the last. -/
def nextInterfaceIndex (sorted : List Int) : Int :=
  let masterIndex := findAvailableIndex sorted 0 0
  if masterIndex < 0 then
    match sorted.getLast? with
    | some last => last + 1
    | none => 0
  else masterIndex

/-- The loop of `getInterfaceEntry`: an index with its VLAN CIDR, or nothing available. -/
def interfaceIndexLoop (config : PluginConfig) (maxInterfaceIndex : Int) :
    Nat → List Int → Option (Option (Int × String))
  | 0, _ => none
  | fuel + 1, excludedIndexes =>
    let sorted := sortInts excludedIndexes
    let masterIndex := nextInterfaceIndex sorted
    if masterIndex > maxInterfaceIndex then some none
    else do
      if ← checkIfTabuIndex config.subnet masterIndex config.interfaceBlock config.excludeCIDRs then
        interfaceIndexLoop config maxInterfaceIndex fuel (sorted ++ [masterIndex])
      else
        match ← computeNet config.subnet masterIndex config.interfaceBlock with
        | .error _ => interfaceIndexLoop config maxInterfaceIndex fuel (sorted ++ [masterIndex])
        | .ok vlanInByte =>
          let vlanCIDR ← getCIDRFromByte vlanInByte config.subnet config.interfaceBlock
          some (some (masterIndex, vlanCIDR))

/-- `getInterfaceEntry`: the entry of a network address, made anew if there is none; the
inner `none` is `success = false`. -/
def getInterfaceEntry (fuel : Nat) (config : PluginConfig) (entriesMap : GoMap String CIDREntry)
    (newNetAddress : String) : Option (Option CIDREntry) :=
  match entriesMap.lookup newNetAddress with
  | some entry => some (some entry)
  | none =>
    if config.subnet = "" then
      -- the index of a static entry is the number of entries
      some (some ⟨newNetAddress, entriesMap.entries.length, newNetAddress, []⟩)
    else do
      let excludedIndexes := entriesMap.values.map (·.interfaceIndex)
      let found ← interfaceIndexLoop config (powMinusOne config.interfaceBlock) fuel excludedIndexes
      some (found.map fun (masterIndex, vlanCIDR) => ⟨newNetAddress, masterIndex, vlanCIDR, []⟩)

/-! ## `UpdateEntries` -/

/-- What a node lookup can answer. -/
inductive NodeLookup where
  | found (terminated : Bool)
  | notFound
  | failed
  deriving DecidableEq, Repr

/-- The host counts as died. -/
def NodeLookup.died : NodeLookup → Bool
  | .found terminated => terminated
  | .notFound => true
  | .failed => false

/-- The variables of the first loop: the hosts kept of the current entry, the hosts found
died, the changed flag and the number of node lookups made. -/
structure ScanState where
  newHostList : List HostInterfaceInfo
  diedHost : List String
  changed : Bool
  lookups : Nat

/-- The body of the inner loop: is this host of the entry kept? -/
def scanHost (snapshot : GoMap String HostInterface) (nodes : Nat → NodeLookup)
    (netAddress : String) (st : ScanState) (host : HostInterfaceInfo) : ScanState :=
  match snapshot.lookup host.hostName with
  | some hif =>
    -- to not include hanging entry
    if hif.interfaces.any (·.netAddress == netAddress) then
      { st with newHostList := st.newHostList ++ [host] }
    else st
  | none =>
    if host.hostName ∈ st.diedHost then { st with changed := true }
    else if (nodes st.lookups).died then
      { st with diedHost := host.hostName :: st.diedHost, lookups := st.lookups + 1 }
    else
      -- use the previous value
      { st with newHostList := st.newHostList ++ [host], lookups := st.lookups + 1 }

/-- The state between two entries of the first loop. -/
structure FilterState where
  entriesMap : GoMap String CIDREntry
  diedHost : List String
  changed : Bool
  lookups : Nat

/-- The hosts of one entry, filtered. -/
def scanEntry (snapshot : GoMap String HostInterface) (nodes : Nat → NodeLookup)
    (st : FilterState) (entry : CIDREntry) : ScanState :=
  entry.hosts.foldl (scanHost snapshot nodes entry.netAddress)
    ⟨[], st.diedHost, st.changed, st.lookups⟩

/-- The body of the first loop: an entry is kept if it is new or still has a host. -/
def filterEntry (snapshot : GoMap String HostInterface) (nodes : Nat → NodeLookup)
    (st : FilterState) (entry : CIDREntry) : FilterState :=
  let scan := scanEntry snapshot nodes st entry
  { entriesMap :=
      if entry.hosts.length = 0 ∨ 0 < scan.newHostList.length then
        st.entriesMap.insert entry.netAddress { entry with hosts := scan.newHostList }
      else st.entriesMap
    diedHost := scan.diedHost
    changed := scan.changed || decide (entry.hosts.length ≠ scan.newHostList.length ∨
      0 < scan.diedHost.length)
    lookups := scan.lookups }

/-- The first loop of `UpdateEntries`. -/
def filterEntries (snapshot : GoMap String HostInterface) (nodes : Nat → NodeLookup)
    (changed : Bool) (entries : List CIDREntry) : FilterState :=
  entries.foldl (filterEntry snapshot nodes) ⟨∅, [], changed, 0⟩

/-- An existing host with the fields a pass brings up to date. -/
def refreshHost (config : PluginConfig) (iface : InterfaceInfoType) (podCIDR : String)
    (host : HostInterfaceInfo) : HostInterfaceInfo :=
  { host with
    podCIDR
    interfaceName := iface.interfaceName
    hostIP := iface.hostIP
    -- ippool not set (snapshot from previous version)
    ipPool := if host.ipPool = "" then getIPPoolName config.name podCIDR else host.ipPool }

/-- Give a host whose index is no longer usable a new one. The element is removed from the
slice in place, so the list the new index is searched in is the shifted one, with its last
element doubled. -/
def moveHost (fuel : Nat) (config : PluginConfig) (entry : CIDREntry) (itemIndex : Nat)
    (hostName : String) (iface : InterfaceInfoType) : Option (CIDREntry × Bool) :=
  let (hosts, existingHosts) := appendTo entry.hosts itemIndex (entry.hosts.drop (itemIndex + 1))
  tryAddNewHost fuel existingHosts { entry with hosts } (powMinusOne config.hostBlock) config
    hostName iface.interfaceName iface.hostIP

/-- The host of an interface in the entry of its network: added, refreshed or moved. -/
def placeHost (fuel : Nat) (config : PluginConfig) (excludesInStr : List String)
    (hostName : String) (iface : InterfaceInfoType) (entry : CIDREntry) (changed : Bool) :
    Option (CIDREntry × Bool) :=
  match getHostIndex entry.hosts hostName with
  | none =>
    tryAddNewHost fuel entry.hosts entry (powMinusOne config.hostBlock) config hostName
      iface.interfaceName iface.hostIP
  | some itemIndex => do
    let host ← entry.hosts[itemIndex]?
    match ← computeNet entry.vlanCIDR host.hostIndex config.hostBlock with
    | .error _ => moveHost fuel config entry itemIndex hostName iface
    | .ok podInByte =>
      if ← checkIfTabuIndex entry.vlanCIDR host.hostIndex config.hostBlock excludesInStr then
        moveHost fuel config entry itemIndex hostName iface
      else
        let podCIDR ← getCIDRFromByte podInByte entry.vlanCIDR config.hostBlock
        some ({ entry with hosts := entry.hosts.set itemIndex (refreshHost config iface podCIDR host) },
          changed || decide (podCIDR ≠ host.podCIDR ∨ iface.interfaceName ≠ host.interfaceName ∨
            iface.hostIP ≠ host.hostIP ∨ host.ipPool = ""))

/-- The body of the second loop for one interface of a host. -/
def placeInterface (fuel : Nat) (config : PluginConfig) (excludesInStr : List String)
    (hostName : String) (st : GoMap String CIDREntry × Bool) (iface : InterfaceInfoType) :
    Option (GoMap String CIDREntry × Bool) :=
  if config.masterNetAddrs ≠ [] ∧ iface.netAddress ∉ config.masterNetAddrs then some st
  else do
    match ← getInterfaceEntry fuel config st.1 iface.netAddress with
    | none => some st
    | some entry =>
      let (entry, changed) ← placeHost fuel config excludesInStr hostName iface entry st.2
      some (st.1.insert iface.netAddress entry, changed)

/-- The second loop of `UpdateEntries`, over the hosts of the snapshot. -/
def placeHosts (fuel : Nat) (config : PluginConfig) (excludesInStr : List String)
    (st : GoMap String CIDREntry × Bool) (hifs : List HostInterface) :
    Option (GoMap String CIDREntry × Bool) :=
  hifs.foldlM (fun st hif =>
    hif.interfaces.foldlM (placeInterface fuel config excludesInStr hif.hostName) st) st

/-- The entry without the hosts found died, unless that leaves it empty. -/
def dropDied (diedHost : List String) (entry : CIDREntry) : CIDREntry :=
  let aliveHosts := entry.hosts.filter (·.hostName ∉ diedHost)
  if aliveHosts.length = 0 then entry else { entry with hosts := aliveHosts }

/-- `UpdateEntries`: the entries by network address, and whether anything changed. -/
def updateEntries (fuel : Nat) (cidrSpec : CIDRSpec) (excludes : List IPValue) (changed : Bool)
    (snapshot : GoMap String HostInterface) (nodes : Nat → NodeLookup) :
    Option (GoMap String CIDREntry × Bool) := do
  let st := filterEntries snapshot nodes changed cidrSpec.cidrs
  let (entriesMap, changed) ← placeHosts fuel cidrSpec.config (excludes.map (·.address))
    (st.entriesMap, st.changed) snapshot.values
  if 0 < st.diedHost.length then some (entriesMap.mapValues (dropDied st.diedHost), changed)
  else some (entriesMap, changed)

/-! ## `NewCIDR` -/

/-- The inner loop of `NewCIDR`: the next usable index from `masterIndex` on. -/
def vlanLoop (config : PluginConfig) (maxInterfaceIndex : Int) :
    Nat → Int → Option (Except HandlerError (Int × String))
  | 0, _ => none
  | fuel + 1, masterIndex => do
    match ← computeNet config.subnet masterIndex config.interfaceBlock with
    -- invalid VLAN value (out of range), find next interface index
    | .error _ => vlanLoop config maxInterfaceIndex fuel (masterIndex + 1)
    | .ok vlanInByte =>
      if ← checkIfTabuIndex config.subnet masterIndex config.interfaceBlock config.excludeCIDRs then
        if masterIndex + 1 > maxInterfaceIndex then some (.error .overflowInterfaceIndex)
        else vlanLoop config maxInterfaceIndex fuel (masterIndex + 1)
      else
        let vlanCIDR ← getCIDRFromByte vlanInByte config.subnet config.interfaceBlock
        some (.ok (masterIndex, vlanCIDR))

/-- The outer loop of `NewCIDR`, over the defined network addresses. -/
def newEntries (fuel : Nat) (config : PluginConfig) :
    Int → List String → Option (Except HandlerError (List CIDREntry))
  | _, [] => some (.ok [])
  | masterIndex, master :: masters => do
    match ← vlanLoop config (powMinusOne config.interfaceBlock) fuel masterIndex with
    | .error e => some (.error e)
    | .ok (index, vlanCIDR) =>
      match ← newEntries fuel config (index + 1) masters with
      | .error e => some (.error e)
      | .ok entries => some (.ok (⟨master, index, vlanCIDR, []⟩ :: entries))

/-- The maps of `GenerateCIDRFromHostSubnet` with the next index. -/
structure HostSubnetState where
  vlanIndexMap : GoMap String Int
  entryMap : GoMap String CIDREntry
  lastIndex : Int

/-- A network address met for the first time gets the next index and an empty entry. -/
def registerNet (st : HostSubnetState) (netAddr : String) : HostSubnetState :=
  match st.vlanIndexMap.lookup netAddr with
  | some _ => st
  | none =>
    { vlanIndexMap := st.vlanIndexMap.insert netAddr st.lastIndex
      entryMap := st.entryMap.insert netAddr ⟨netAddr, st.lastIndex, netAddr, []⟩
      lastIndex := st.lastIndex + 1 }

/-- The body of `GenerateCIDRFromHostSubnet` for one interface of a host. -/
def addHostSubnet (fuel : Nat) (config : PluginConfig) (hostName : String)
    (st : Except HandlerError HostSubnetState) (iface : InterfaceInfoType) :
    Option (Except HandlerError HostSubnetState) :=
  match st with
  | .error e => some (.error e)
  | .ok st => do
    let st := registerNet st iface.netAddress
    let entry := (st.entryMap.lookup iface.netAddress).getD ⟨"", 0, "", []⟩
    let (entry, changed) ← tryAddNewHost fuel entry.hosts entry (powMinusOne config.hostBlock)
      config hostName iface.interfaceName iface.hostIP
    if changed then
      some (.ok { st with entryMap := st.entryMap.insert iface.netAddress entry })
    else some (.error .addHostFailed)

/-- `GenerateCIDRFromHostSubnet`: one entry per network address of the snapshot. -/
def generateCIDRFromHostSubnet (fuel : Nat) (config : PluginConfig)
    (snapshot : GoMap String HostInterface) : Option (Except HandlerError CIDRSpec) := do
  let st ← snapshot.entries.foldlM (fun st kv =>
    kv.2.interfaces.foldlM (addHostSubnet fuel config kv.1) st) (.ok ⟨∅, ∅, 0⟩)
  some (st.map fun st => ⟨config, st.entryMap.values⟩)

/-- `NewCIDR`. -/
def newCIDR (fuel : Nat) (config : PluginConfig) (snapshot : GoMap String HostInterface) :
    Option (Except HandlerError CIDRSpec) :=
  if config.subnet = "" then generateCIDRFromHostSubnet fuel config snapshot
  else do
    let entries ← newEntries fuel config 0 config.masterNetAddrs
    some (entries.map fun entries => ⟨config, entries⟩)

section NewCIDR

variable {fuel : Nat} {spec : CIDRSpec} (h : newCIDR fuel config snapshot = some (.ok spec))
include h

theorem newCIDR_cases : spec.config = config ∧
    ((config.subnet = "" ∧ generateCIDRFromHostSubnet fuel config snapshot = some (.ok spec)) ∨
      config.subnet ≠ "" ∧
        newEntries fuel config 0 config.masterNetAddrs = some (.ok spec.cidrs)) := by
  unfold newCIDR at h
  split at h
  · next hempty =>
    refine ⟨?_, Or.inl ⟨hempty, h⟩⟩
    obtain ⟨st, -, h⟩ := Option.bind_eq_some_iff.mp h
    cases st with
    | error e => cases h
    | ok st =>
      cases h
      rfl
  · next hsubnet =>
    obtain ⟨entries, hentries, h⟩ := Option.bind_eq_some_iff.mp h
    cases entries with
    | error e => cases h
    | ok entries =>
      cases h
      exact ⟨rfl, Or.inr ⟨hsubnet, hentries⟩⟩

theorem newCIDR_config : spec.config = config := (newCIDR_cases h).1

theorem newCIDR_entries (hsubnet : config.subnet ≠ "") :
    newEntries fuel config 0 config.masterNetAddrs = some (.ok spec.cidrs) := by
  rcases newCIDR_cases h with ⟨-, ⟨hempty, -⟩ | ⟨-, hentries⟩⟩
  · exact absurd hempty hsubnet
  · exact hentries

end NewCIDR

/-! ## Reading the entries -/

/-- The body of `GetHostInterfaceIndexMap` for one host of an entry. -/
def indexHost (ifaceIndex : Int) (m : GoMap String (GoMap Int HostInterfaceInfo))
    (host : HostInterfaceInfo) : GoMap String (GoMap Int HostInterfaceInfo) :=
  m.insert host.hostName (((m.lookup host.hostName).getD ∅).insert ifaceIndex host)

/-- `GetHostInterfaceIndexMap`: from host name and interface index to the record. -/
def getHostInterfaceIndexMap (entries : List CIDREntry) :
    GoMap String (GoMap Int HostInterfaceInfo) :=
  entries.foldl (fun m entry => entry.hosts.foldl (indexHost entry.interfaceIndex) m) ∅

/-! ## Runs -/

/-- One `UpdateEntries` as `updateCIDR` calls it, for some snapshot and some answers of the
node lookups, whose result is published: the entries in the order the map is iterated. -/
def Updates (config : PluginConfig) (snapshot : GoMap String HostInterface)
    (cidrs cidrs' : List CIDREntry) : Prop :=
  ∃ fuel changed nodes entriesMap,
    updateEntries fuel ⟨config, cidrs⟩ (sortAddress config.excludeCIDRs) changed snapshot nodes =
      some (entriesMap, true) ∧ cidrs'.Perm entriesMap.values

/-- A pass whose values and flag are computed. -/
theorem Updates.of_values {cidrs cidrs' : List CIDREntry} (fuel : Nat) (changed : Bool)
    (nodes : Nat → NodeLookup)
    (h : (updateEntries fuel ⟨config, cidrs⟩ (sortAddress config.excludeCIDRs) changed snapshot
      nodes).map (fun r => (r.1.values, r.2)) = some (cidrs', true)) :
    Updates config snapshot cidrs cidrs' := by
  obtain ⟨⟨m, changed'⟩, hm, heq⟩ := Option.map_eq_some_iff.mp h
  obtain ⟨rfl, rfl⟩ := Prod.mk.inj heq
  exact ⟨fuel, changed, nodes, m, hm, List.Perm.refl _⟩

/-- The entries reachable from `NewCIDR` by published updates. -/
inductive Reachable (config : PluginConfig) : List CIDREntry → Prop
  | init {fuel snapshot spec cidrs} : newCIDR fuel config snapshot = some (.ok spec) →
      cidrs.Perm spec.cidrs → Reachable config cidrs
  | update {snapshot cidrs cidrs'} : Reachable config cidrs →
      Updates config snapshot cidrs cidrs' → Reachable config cidrs'

end MultiNicCni.Controller
