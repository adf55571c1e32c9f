import MultiNicCni.Daemon.Selector

/-!
# Selecting by device class

The `devClass` strategy is meant to attach NICs of a class, as many as are asked for and
there are. `devClassMap_lookup` says which interfaces its loop leaves in the map, for a host with
one interface per network. Two things make the selection smaller than it should be:

- of several items of a class with one vendor only the last counts (`lookup_devSpecMap`);
- the networks of a request are cut to the number asked for before those outside of the class
  are left out.

`devClass_select_iff` gives the exact condition under which **the selection has as many NICs of
the class as the request asks for and the host has**.
-/

namespace MultiNicCni.Selector

open Go Lib

variable {deviceIDs : List DeviceID} {info : InterfaceInfo}
  {interfaceMap : GoMap String InterfaceInfo} {spec : GoMap String (List String)}
  {m : GoMap String String} {netAddress : String} {req : NICSelectRequest}

/-! ## Classes -/

/-- The interface matches vendor and product of an item of the class. -/
def inClass (deviceIDs : List DeviceID) (info : InterfaceInfo) : Bool :=
  deviceIDs.any fun deviceID => deviceID.vendor = info.vendor ∧ info.product ∈ deviceID.products

/-- The last item of a vendor stays in the map. -/
theorem lookup_devSpecMap (deviceIDs : List DeviceID) (vendor : String) :
    (devSpecMap deviceIDs).lookup vendor =
      (deviceIDs.filter fun deviceID => deviceID.vendor = vendor).getLast?.map (·.products) := by
  have hmap : devSpecMap deviceIDs =
      GoMap.insertAll (deviceIDs.map fun deviceID => (deviceID.vendor, deviceID.products)) := by
    rw [devSpecMap, GoMap.insertAll, List.foldl_map]
  rw [hmap, GoMap.lookup_insertAll, List.filter_map, List.getLast?_map, Option.map_map]
  rfl

/-- The interface matches the last item of its vendor. -/
def inLastItem (deviceIDs : List DeviceID) (info : InterfaceInfo) : Bool :=
  expected (devSpecMap deviceIDs) info

theorem inClass_of_inLastItem (h : inLastItem deviceIDs info = true) :
    inClass deviceIDs info = true := by
  rw [inLastItem, expected, lookup_devSpecMap] at h
  cases hlast : (deviceIDs.filter fun deviceID => deviceID.vendor = info.vendor).getLast? with
  | none =>
    rw [hlast] at h
    cases h
  | some last =>
    rw [hlast] at h
    obtain ⟨hmem, hvendor⟩ := List.mem_filter.mp (List.mem_of_getLast? hlast)
    refine List.any_eq_true.mpr ⟨last, hmem, ?_⟩
    exact decide_eq_true ⟨of_decide_eq_true hvendor, of_decide_eq_true h⟩

/-! ## The maps of a host with one interface per network -/

/-- The interfaces of a host exist, and no two are on one network. -/
structure OneNicPerNetwork (host : Host) : Prop where
  separates : host.interfaceMap.Separates (·.netAddress)
  exist : ∀ devName info, host.interfaceMap.lookup devName = some info →
    devName ≠ "" ∧ host.deviceExists devName = true

/-- The interface is on the network. -/
def OnNetwork (interfaceMap : GoMap String InterfaceInfo) (netAddress devName : String)
    (info : InterfaceInfo) : Prop :=
  interfaceMap.lookup devName = some info ∧ info.netAddress = netAddress

section Maps

theorem lookup_getNameNetMap (devName netAddress : String) :
    (getNameNetMap interfaceMap).lookup devName = some netAddress ↔
      ∃ info, OnNetwork interfaceMap netAddress devName info := by
  have hmap : getNameNetMap interfaceMap =
      GoMap.insertAll (interfaceMap.entries.map fun e => (e.1, e.2.netAddress)) := by
    rw [getNameNetMap, GoMap.insertAll, List.foldl_map]
  have hkeys : ((interfaceMap.entries.map fun e => (e.1, e.2.netAddress)).map Prod.fst).Nodup := by
    rw [List.map_map]
    exact interfaceMap.nodupKeys
  rw [hmap, GoMap.lookup_insertAll_iff hkeys, List.mem_map]
  constructor
  · rintro ⟨⟨name, info⟩, he, heq⟩
    obtain ⟨rfl, rfl⟩ := Prod.mk.inj heq
    exact ⟨info, AList.mem_lookup_iff.mpr he, rfl⟩
  · rintro ⟨info, hl, rfl⟩
    exact ⟨⟨devName, info⟩, AList.mem_lookup_iff.mp hl, rfl⟩

variable (hsep : interfaceMap.Separates (·.netAddress))

include hsep

theorem nodup_networks : (interfaceMap.entries.map fun e => e.2.netAddress).Nodup := by
  have hnodup := hsep.nodup
  rwa [GoMap.values, List.map_map] at hnodup

/-- The map of the networks has one device for each. -/
theorem getInterfaceNameMap_eq : getInterfaceNameMap interfaceMap =
    GoMap.insertAll (interfaceMap.entries.map fun e =>
      (e.2.netAddress, (AList.singleton e.2.pciAddress e.1 : GoMap String String))) := by
  rw [getInterfaceNameMap, GoMap.insertAll, List.foldl_map]
  -- from any map without the networks to come
  have hloop : ∀ (l : List ((_ : String) × InterfaceInfo)) (m : GoMap String (GoMap String String)),
      (l.map fun e => e.2.netAddress).Nodup → (∀ e ∈ l, m.lookup e.2.netAddress = none) →
      l.foldl (fun m e => m.insert e.2.netAddress
          (((m.lookup e.2.netAddress).getD ∅).insert e.2.pciAddress e.1)) m =
        l.foldl (fun m e => m.insert e.2.netAddress (AList.singleton e.2.pciAddress e.1)) m := by
    intro l
    induction l with
    | nil => exact fun _ _ _ => rfl
    | cons e l ih =>
      intro m hnodup hnone
      rw [List.map_cons, List.nodup_cons] at hnodup
      rw [List.foldl_cons, List.foldl_cons, hnone e List.mem_cons_self, Option.getD_none,
        AList.insert_empty]
      refine ih _ hnodup.2 fun e' he' => ?_
      have hne : e'.2.netAddress ≠ e.2.netAddress := fun heq =>
        hnodup.1 (heq ▸ List.mem_map_of_mem he')
      rw [AList.lookup_insert_ne hne]
      exact hnone e' (List.mem_cons_of_mem e he')
  exact hloop _ ∅ (nodup_networks hsep) fun e _ => AList.lookup_empty _

theorem lookup_getInterfaceNameMap (netAddress : String) (devices : GoMap String String) :
    (getInterfaceNameMap interfaceMap).lookup netAddress = some devices ↔
      ∃ devName info, OnNetwork interfaceMap netAddress devName info ∧
        devices = AList.singleton info.pciAddress devName := by
  have hnets : ((interfaceMap.entries.map fun e => (e.2.netAddress,
      (AList.singleton e.2.pciAddress e.1 : GoMap String String))).map Prod.fst).Nodup := by
    rw [List.map_map]
    exact nodup_networks hsep
  rw [getInterfaceNameMap_eq hsep, GoMap.lookup_insertAll_iff hnets, List.mem_map]
  constructor
  · rintro ⟨⟨devName, info⟩, he, heq⟩
    obtain ⟨rfl, rfl⟩ := Prod.mk.inj heq
    exact ⟨devName, info, ⟨AList.mem_lookup_iff.mpr he, rfl⟩, rfl⟩
  · rintro ⟨devName, info, ⟨hl, rfl⟩, rfl⟩
    exact ⟨⟨devName, info⟩, AList.mem_lookup_iff.mp hl, rfl⟩

/-- `Select` starts from the interface of each network. -/
theorem lookup_filteredMasterNameMap (order : GoMap.EntryOrder String String)
    (netAddress devName : String) :
    (filteredMasterNameMap order interfaceMap).lookup netAddress = some devName ↔
      ∃ info, OnNetwork interfaceMap netAddress devName info := by
  set entries := (getInterfaceNameMap interfaceMap).entries with hentries
  have hdevice : ∀ e ∈ entries, ∃ devName info, OnNetwork interfaceMap e.1 devName info ∧
      order.entries e.2 = [⟨info.pciAddress, devName⟩] := by
    intro e he
    obtain ⟨devName, info, hon, hdevices⟩ := (lookup_getInterfaceNameMap hsep e.1 e.2).mp
      (AList.mem_lookup_iff.mpr he)
    refine ⟨devName, info, hon, List.perm_singleton.mp ?_⟩
    rw [hdevices]
    exact order.perm _
  have hmap : filteredMasterNameMap order interfaceMap = GoMap.insertAll
      (entries.flatMap fun e => (order.entries e.2).map fun device => (e.1, device.2)) := by
    rw [filteredMasterNameMap, GoMap.insertAll, List.foldl_flatMap]
    exact List.foldl_ext _ _ _ fun m e _ => by rw [List.foldl_map]
  have hkeys : ((entries.flatMap fun e =>
      (order.entries e.2).map fun device => (e.1, device.2)).map Prod.fst).Nodup := by
    have hone : ∀ e ∈ entries,
        ((order.entries e.2).map fun device => (e.1, device.2)).map Prod.fst = [e.1] := by
      intro e he
      obtain ⟨devName, info, -, hdevices⟩ := hdevice e he
      rw [hdevices]
      rfl
    rw [List.map_flatMap, List.flatMap_congr hone, ← List.map_eq_flatMap]
    exact (getInterfaceNameMap interfaceMap).nodupKeys
  rw [hmap, GoMap.lookup_insertAll_iff hkeys, List.mem_flatMap]
  constructor
  · rintro ⟨e, he, hmem⟩
    obtain ⟨devName', info, hon, hdevices⟩ := hdevice e he
    rw [hdevices, List.map_singleton, List.mem_singleton] at hmem
    obtain ⟨rfl, rfl⟩ := Prod.mk.inj hmem
    exact ⟨info, hon⟩
  · rintro ⟨info, hon⟩
    have hl := (lookup_getInterfaceNameMap hsep netAddress _).mpr ⟨devName, info, hon, rfl⟩
    refine ⟨_, AList.mem_lookup_iff.mp hl, ?_⟩
    rw [List.perm_singleton.mp (order.perm (AList.singleton info.pciAddress devName))]
    exact List.mem_singleton_self _

/-! ## The loop over the devices -/

omit hsep in
/-- One turn deletes the network of its own device, if that is not expected. -/
theorem dropUnexpected_lookup {devName : String}
    (hon : OnNetwork interfaceMap netAddress devName info)
    (hm : ∀ devName', m.lookup netAddress = some devName' → devName' = devName) (net : String) :
    (dropUnexpected spec (getNameNetMap interfaceMap) interfaceMap m ⟨netAddress, devName⟩).lookup
        net =
      if net = netAddress ∧ expected spec info = false then none else m.lookup net := by
  have hname := (lookup_getNameNetMap devName netAddress).mpr ⟨info, hon⟩
  unfold dropUnexpected
  cases hl : m.lookup netAddress with
  | none =>
    by_cases hdrop : net = netAddress ∧ expected spec info = false
    · rw [if_pos hdrop, hdrop.1]
      exact hl
    · rw [if_neg hdrop]
  | some devName' =>
    obtain rfl := hm devName' hl
    simp only [hname, hon.1]
    cases hexpected : expected spec info with
    | true => simp
    | false =>
      by_cases hnet : net = netAddress
      · subst hnet
        simp [AList.lookup_erase]
      · simp [hnet, AList.lookup_erase_ne hnet]

omit hsep in
/-- The whole loop, over entries of devices that are on their networks. -/
theorem foldl_dropUnexpected_lookup {es : List ((_ : String) × String)}
    (hes : ∀ e ∈ es, ∃ info, OnNetwork interfaceMap e.1 e.2 info)
    (hm : ∀ e ∈ es, ∀ devName, m.lookup e.1 = some devName → devName = e.2) (net devName : String) :
    (es.foldl (dropUnexpected spec (getNameNetMap interfaceMap) interfaceMap) m).lookup net =
        some devName ↔
      m.lookup net = some devName ∧ ∀ e ∈ es, e.1 = net → ∀ info,
        OnNetwork interfaceMap e.1 e.2 info → expected spec info = true := by
  induction es generalizing m with
  | nil => simp
  | cons e es ih =>
    obtain ⟨info, hon⟩ := hes e List.mem_cons_self
    have hstep : ∀ net, (dropUnexpected spec (getNameNetMap interfaceMap) interfaceMap m e).lookup
        net = if net = e.1 ∧ expected spec info = false then none else m.lookup net :=
      dropUnexpected_lookup hon (hm e List.mem_cons_self)
    rw [List.foldl_cons, ih fun e' he' => hes e' (List.mem_cons_of_mem e he')]
    · rw [hstep, List.forall_mem_cons]
      have hinfo : ∀ info', OnNetwork interfaceMap e.1 e.2 info' → info' = info := by
        rintro info' ⟨hl, -⟩
        exact Option.some.inj (hl.symm.trans hon.1)
      by_cases hdrop : net = e.1 ∧ expected spec info = false
      · obtain ⟨rfl, hunexpected⟩ := hdrop
        rw [if_pos ⟨rfl, hunexpected⟩]
        constructor
        · exact fun h => absurd h.1 nofun
        · rintro ⟨-, hall, -⟩
          rw [hall rfl info hon] at hunexpected
          cases hunexpected
      · rw [if_neg hdrop]
        refine and_congr_right fun _ => ⟨fun hall => ⟨?_, hall⟩, And.right⟩
        intro hnet info' hon'
        obtain rfl := hinfo info' hon'
        exact Bool.eq_true_of_not_eq_false fun hfalse => hdrop ⟨hnet.symm, hfalse⟩
    · -- a turn adds nothing
      intro e' he' devName' hl
      rw [hstep] at hl
      split at hl
      · cases hl
      · exact hm e' (List.mem_cons_of_mem e he') devName' hl

/-- **What the loop leaves**: the networks whose interface matches the last item of its vendor. -/
theorem devClassMap_lookup (order : GoMap.EntryOrder String String) (deviceIDs : List DeviceID)
    (netAddress devName : String) :
    ((order.entries (filteredMasterNameMap order interfaceMap)).foldl
        (dropUnexpected (devSpecMap deviceIDs) (getNameNetMap interfaceMap) interfaceMap)
        (filteredMasterNameMap order interfaceMap)).lookup netAddress = some devName ↔
      ∃ info, OnNetwork interfaceMap netAddress devName info ∧ inLastItem deviceIDs info = true := by
  have hlookup := lookup_filteredMasterNameMap hsep order
  have hentries : ∀ e ∈ order.entries (filteredMasterNameMap order interfaceMap),
      (filteredMasterNameMap order interfaceMap).lookup e.1 = some e.2 :=
    fun e he => AList.mem_lookup_iff.mpr ((order.perm _).mem_iff.mp he)
  rw [foldl_dropUnexpected_lookup]
  · constructor
    · rintro ⟨hl, hall⟩
      obtain ⟨info, hon⟩ := (hlookup netAddress devName).mp hl
      refine ⟨info, hon, hall ⟨netAddress, devName⟩ ?_ rfl info hon⟩
      exact (order.perm _).mem_iff.mpr (AList.mem_lookup_iff.mp hl)
    · rintro ⟨info, hon, hexpected⟩
      have hl := (hlookup netAddress devName).mpr ⟨info, hon⟩
      refine ⟨hl, ?_⟩
      rintro ⟨net, devName'⟩ he rfl info' hon'
      -- the entry of the network is that of the device
      obtain rfl := Option.some.inj ((hentries _ he).symm.trans hl)
      obtain rfl := Option.some.inj (hon'.1.symm.trans hon.1)
      exact hexpected
  · exact fun e he => (hlookup e.1 e.2).mp (hentries e he)
  · exact fun e he devName' hl => Option.some.inj (hl.symm.trans (hentries e he))

end Maps

/-! ## The selection -/

/-- The interface on a network. -/
def nicOn (interfaceMap : GoMap String InterfaceInfo) (netAddress : String) :
    Option InterfaceInfo :=
  interfaceMap.values.find? fun info => info.netAddress = netAddress

theorem nicOn_spec (h : nicOn interfaceMap netAddress = some info) :
    info ∈ interfaceMap.values ∧ info.netAddress = netAddress := by
  refine ⟨List.mem_of_find?_eq_some h, ?_⟩
  have htest := List.find?_some h
  exact of_decide_eq_true htest

/-- The networks of the host. -/
def networks (host : Host) : List String := host.interfaceMap.values.map (·.netAddress)

/-- The networks that a request is about: those it names, or else all. -/
def requested (host : Host) (req : NICSelectRequest) : List String :=
  if req.masterNetAddrs = [] then networks host else req.masterNetAddrs

/-- A number up to a size that is no limit unless it is positive. -/
def limit (maxSize : Int) (n : Nat) : Nat := if 0 < maxSize then min maxSize.toNat n else n

/-- The network has an interface of the class. -/
def classOn (host : Host) (deviceIDs : List DeviceID) (netAddress : String) : Bool :=
  (nicOn host.interfaceMap netAddress).any (inClass deviceIDs)

/-- The network has an interface that matches the last item of its vendor. -/
def lastItemOn (host : Host) (deviceIDs : List DeviceID) (netAddress : String) : Bool :=
  (nicOn host.interfaceMap netAddress).any (inLastItem deviceIDs)

theorem classOn_of_lastItemOn {host : Host} (h : lastItemOn host deviceIDs netAddress = true) :
    classOn host deviceIDs netAddress = true := by
  obtain ⟨info, hnic, hlast⟩ := (Option.any_eq_true _ _).mp h
  exact (Option.any_eq_true _ _).mpr ⟨info, hnic, inClass_of_inLastItem hlast⟩

/-- The masters are interfaces of the class on requested networks, each once, and as many as are
asked for and there are. -/
structure SelectsClass (host : Host) (deviceIDs : List DeviceID) (req : NICSelectRequest)
    (masters : List String) : Prop where
  distinct : masters.Nodup
  member : ∀ master ∈ masters, ∃ netAddress ∈ requested host req, ∃ info,
    OnNetwork host.interfaceMap netAddress master info ∧ inClass deviceIDs info = true
  number : masters.length = limit req.nicSet.numOfInterfaces
    ((requested host req).countP (classOn host deviceIDs))

/-- For a request of all networks: the interfaces of the class match the last item of their
vendor, or enough of them do. For a request of some: of those up to the number asked for, the
ones in the class match the last item of their vendor, and either all of them are in the class or
none after them is. -/
def ClassServed (host : Host) (deviceIDs : List DeviceID) (req : NICSelectRequest) : Prop :=
  let maxSize := req.nicSet.numOfInterfaces
  if req.masterNetAddrs = [] then
    (∀ net ∈ networks host, classOn host deviceIDs net = true →
        lastItemOn host deviceIDs net = true) ∨
      (0 < maxSize ∧ maxSize ≤ (networks host).countP (lastItemOn host deviceIDs))
  else
    let first := upTo maxSize req.masterNetAddrs
    (∀ net ∈ first, classOn host deviceIDs net = true → lastItemOn host deviceIDs net = true) ∧
      ((∀ net ∈ first, classOn host deviceIDs net = true) ∨
        ∀ net ∈ req.masterNetAddrs.drop first.length, ¬ classOn host deviceIDs net = true)

theorem upTo_eq_take (maxSize : Int) (l : List String) :
    upTo maxSize l = if 0 < maxSize then l.take maxSize.toNat else l := by
  unfold upTo
  split
  · rw [Nat.min_comm, ← List.take_eq_take_min]
  · exact List.take_length

theorem length_upTo (maxSize : Int) (l : List String) :
    (upTo maxSize l).length = limit maxSize l.length := by
  rw [upTo_eq_take, limit]
  split
  · exact List.length_take
  · rfl

/-- The number of networks kept of a class, against the number there are. -/
theorem countP_upTo_eq_iff {p q : String → Bool} (h : ∀ net, q net = true → p net = true)
    (maxSize : Int) (l : List String) :
    (upTo maxSize l).countP q = limit maxSize (l.countP p) ↔
      (∀ net ∈ upTo maxSize l, p net = true → q net = true) ∧
        ((∀ net ∈ upTo maxSize l, p net = true) ∨
          ∀ net ∈ l.drop (upTo maxSize l).length, ¬ p net = true) := by
  rw [length_upTo, limit, limit, upTo_eq_take]
  split
  · have hdrop : l.drop (min maxSize.toNat l.length) = l.drop maxSize.toNat := by
      rcases Nat.le_total maxSize.toNat l.length with hle | hle
      · rw [Nat.min_eq_left hle]
      · rw [Nat.min_eq_right hle, List.drop_length, List.drop_of_length_le hle]
    rw [hdrop]
    exact countP_take_eq_min_iff (fun net _ => h net) _
  · rw [countP_eq_iff_of_imp fun net _ => h net, List.drop_length]
    simp

section Select

variable {host : Host} (hnics : OneNicPerNetwork host) (order : GoMap.EntryOrder String String)
  (deviceIDs : List DeviceID)

/-- The map after the loop of `DevClassSelector.Select`. -/
def classMap (host : Host) : GoMap String String :=
  (order.entries (filteredMasterNameMap order host.interfaceMap)).foldl
    (dropUnexpected (devSpecMap deviceIDs) (getNameNetMap host.interfaceMap) host.interfaceMap)
    (filteredMasterNameMap order host.interfaceMap)

include hnics

theorem nicOn_eq_some_iff :
    nicOn host.interfaceMap netAddress = some info ↔
      ∃ devName, OnNetwork host.interfaceMap netAddress devName info := by
  constructor
  · intro hfind
    obtain ⟨hmem, hnet⟩ := nicOn_spec hfind
    obtain ⟨devName, hl⟩ := GoMap.mem_values.mp hmem
    exact ⟨devName, hl, hnet⟩
  · rintro ⟨devName, hl, rfl⟩
    have hsome : (nicOn host.interfaceMap info.netAddress).isSome = true :=
      List.find?_isSome.mpr ⟨info, GoMap.mem_values.mpr ⟨devName, hl⟩, decide_eq_true rfl⟩
    obtain ⟨info', hfind⟩ := Option.isSome_iff_exists.mp hsome
    obtain ⟨hmem, hnet⟩ := nicOn_spec hfind
    obtain ⟨devName', hl'⟩ := GoMap.mem_values.mp hmem
    -- there is one interface on the network
    obtain rfl := hnics.separates devName' devName info' info hl' hl hnet
    rw [hfind, ← hl', hl]

/-- The map has the networks whose interface matches the last item of its vendor. -/
theorem isSome_lookup_classMap (netAddress : String) :
    ((classMap order deviceIDs host).lookup netAddress).isSome =
      lastItemOn host deviceIDs netAddress := by
  rw [Bool.eq_iff_iff, Option.isSome_iff_exists, lastItemOn, Option.any_eq_true]
  constructor
  · rintro ⟨devName, hl⟩
    obtain ⟨info, hon, hlast⟩ := (devClassMap_lookup hnics.separates order deviceIDs ..).mp hl
    exact ⟨info, (nicOn_eq_some_iff hnics).mpr ⟨devName, hon⟩, hlast⟩
  · rintro ⟨info, hnic, hlast⟩
    obtain ⟨devName, hon⟩ := (nicOn_eq_some_iff hnics).mp hnic
    exact ⟨devName, (devClassMap_lookup hnics.separates order deviceIDs ..).mpr ⟨info, hon, hlast⟩⟩

theorem keys_classMap_perm : (classMap order deviceIDs host).keys.Perm
    ((networks host).filter (lastItemOn host deviceIDs)) := by
  refine (List.perm_ext_iff_of_nodup (AList.keys_nodup _) (hnics.separates.nodup.filter _)).mpr ?_
  intro netAddress
  rw [← AList.mem_keys, ← AList.lookup_isSome, isSome_lookup_classMap hnics, List.mem_filter]
  refine ⟨fun hlast => ⟨?_, hlast⟩, And.right⟩
  obtain ⟨info, hnic, -⟩ := (Option.any_eq_true _ _).mp hlast
  obtain ⟨devName, hl, rfl⟩ := (nicOn_eq_some_iff hnics).mp hnic
  exact List.mem_map_of_mem (GoMap.mem_values.mpr ⟨devName, hl⟩)

/-- `Select` finds every interface that the map still has. -/
theorem mastersOf_classMap (nets : List String) :
    mastersOf host (classMap order deviceIDs host) nets =
      nets.filterMap fun net => (classMap order deviceIDs host).lookup net := by
  refine List.filterMap_congr fun net _ => ?_
  cases hl : (classMap order deviceIDs host).lookup net with
  | none => rfl
  | some devName =>
    obtain ⟨info, hon, -⟩ := (devClassMap_lookup hnics.separates order deviceIDs ..).mp hl
    dsimp only
    rw [if_pos (hnics.exist devName info hon.1)]

/-- The masters of different networks are different interfaces of the class. -/
theorem mastersOf_classMap_spec {nets : List String} (hnets : nets.Nodup) :
    (mastersOf host (classMap order deviceIDs host) nets).Nodup ∧
      (∀ master ∈ mastersOf host (classMap order deviceIDs host) nets, ∃ netAddress ∈ nets, ∃ info,
        OnNetwork host.interfaceMap netAddress master info ∧ inClass deviceIDs info = true) ∧
      (mastersOf host (classMap order deviceIDs host) nets).length =
        nets.countP (lastItemOn host deviceIDs) := by
  rw [mastersOf_classMap hnics]
  have hlookup := devClassMap_lookup hnics.separates order deviceIDs
  refine ⟨hnets.filterMap ?_, ?_, ?_⟩
  · intro net net' devName hl hl'
    obtain ⟨info, ⟨hinfo, rfl⟩, -⟩ := (hlookup net devName).mp hl
    obtain ⟨info', ⟨hinfo', rfl⟩, -⟩ := (hlookup net' devName).mp hl'
    rw [Option.some.inj (hinfo.symm.trans hinfo')]
  · intro master hmaster
    obtain ⟨net, hnet, hl⟩ := List.mem_filterMap.mp hmaster
    obtain ⟨info, hon, hlast⟩ := (hlookup net master).mp hl
    exact ⟨net, hnet, info, hon, inClass_of_inLastItem hlast⟩
  · rw [List.length_filterMap_eq_countP]
    exact List.countP_congr fun net _ => by rw [isSome_lookup_classMap hnics]

omit hnics in
theorem defaultSelect_eq (hnames : req.nicSet.interfaceNames = [])
    (interfaceNameMap nameNetMap : GoMap String String) :
    defaultSelect req interfaceNameMap nameNetMap = upTo req.nicSet.numOfInterfaces
      (if req.masterNetAddrs = [] then sortStrings interfaceNameMap.keys
        else req.masterNetAddrs) := by
  simp only [defaultSelect, hnames, List.length_nil, Nat.lt_irrefl, if_false,
    List.length_eq_zero_iff]

omit hnics in
/-- The masters of a pod without devices of its own. -/
theorem select_devClass_eq (sort : KeySort) (hnames : req.nicSet.interfaceNames = [])
    (hclass : req.nicSet.devClass ≠ "")
    (hget : host.getDeviceClass req.nicSet.devClass = .ok deviceIDs)
    {podResources : Option (GoMap String (List String))} {resourceNames : List String}
    (hpod : (podDevices host (podResources.getD ∅) resourceNames).2 = []) :
    (select order sort host req podResources resourceNames (some "devClass")).masters =
      mastersOf host (classMap order deviceIDs host) (upTo req.nicSet.numOfInterfaces
        (if req.masterNetAddrs = [] then sortStrings (classMap order deviceIDs host).keys
          else req.masterNetAddrs)) := by
  have hlen : ¬ 0 < (podDevices host (podResources.getD ∅) resourceNames).2.length := by
    rw [hpod]
    exact Nat.lt_irrefl 0
  simp only [select, if_neg hlen, strategySelect, if_true, devClassSelect, if_neg hclass, hget,
    defaultSelect_eq hnames, classMap]

/-- For a request of all networks. -/
theorem number_all_iff (maxSize : Int) :
    (upTo maxSize (sortStrings (classMap order deviceIDs host).keys)).countP
        (lastItemOn host deviceIDs) =
      limit maxSize ((networks host).countP (classOn host deviceIDs)) ↔
    (∀ net ∈ networks host, classOn host deviceIDs net = true →
        lastItemOn host deviceIDs net = true) ∨
      (0 < maxSize ∧ maxSize ≤ (networks host).countP (lastItemOn host deviceIDs)) := by
  have hperm : (sortStrings (classMap order deviceIDs host).keys).Perm
      ((networks host).filter (lastItemOn host deviceIDs)) :=
    (sortStrings_perm _).trans (keys_classMap_perm hnics order deviceIDs)
  -- all networks of the map are counted
  have hall : (upTo maxSize (sortStrings (classMap order deviceIDs host).keys)).countP
      (lastItemOn host deviceIDs) =
        limit maxSize ((networks host).countP (lastItemOn host deviceIDs)) := by
    rw [List.countP_eq_length_filter (l := networks host), ← hperm.length_eq, ← length_upTo,
      List.countP_eq_length]
    intro net hnet
    exact (List.mem_filter.mp (hperm.mem_iff.mp (List.mem_of_mem_take hnet))).2
  have himp : ∀ net ∈ networks host, lastItemOn host deviceIDs net = true →
      classOn host deviceIDs net = true := fun net _ => classOn_of_lastItemOn
  rw [hall, limit, limit]
  by_cases hpos : 0 < maxSize
  · rw [if_pos hpos, if_pos hpos, min_countP_eq_iff himp, and_iff_right hpos, Int.toNat_le]
  · rw [if_neg hpos, if_neg hpos, countP_eq_iff_of_imp himp, or_iff_left fun h => hpos h.1]

/-- **A class is served exactly when** enough of its interfaces match the last item of their
vendor and come early enough in the request (`ClassServed`). -/
theorem devClass_select_iff (sort : KeySort) {req : NICSelectRequest}
    (hnames : req.nicSet.interfaceNames = []) (hnets : req.masterNetAddrs.Nodup)
    (hclass : req.nicSet.devClass ≠ "")
    (hget : host.getDeviceClass req.nicSet.devClass = .ok deviceIDs)
    {podResources : Option (GoMap String (List String))} {resourceNames : List String}
    (hpod : (podDevices host (podResources.getD ∅) resourceNames).2 = []) :
    SelectsClass host deviceIDs req
        (select order sort host req podResources resourceNames (some "devClass")).masters ↔
      ClassServed host deviceIDs req := by
  rw [select_devClass_eq order deviceIDs sort hnames hclass hget hpod]
  set all := if req.masterNetAddrs = [] then sortStrings (classMap order deviceIDs host).keys
    else req.masterNetAddrs with hall
  have hkeys := (sortStrings_perm (classMap order deviceIDs host).keys).trans
    (keys_classMap_perm hnics order deviceIDs)
  have hnodup : all.Nodup := by
    rw [hall]
    split
    · exact hkeys.nodup_iff.mpr (hnics.separates.nodup.filter _)
    · exact hnets
  have hsubset : ∀ net ∈ all, net ∈ requested host req := by
    rw [hall, requested]
    split
    · exact fun net hnet => (List.mem_filter.mp (hkeys.mem_iff.mp hnet)).1
    · exact fun net hnet => hnet
  obtain ⟨hdistinct, hmember, hlength⟩ := mastersOf_classMap_spec hnics order deviceIDs
    (hnodup.sublist (List.take_sublist _ _) : (upTo req.nicSet.numOfInterfaces all).Nodup)
  have hmember' : ∀ master ∈ mastersOf host (classMap order deviceIDs host)
      (upTo req.nicSet.numOfInterfaces all), ∃ netAddress ∈ requested host req, ∃ info,
        OnNetwork host.interfaceMap netAddress master info ∧ inClass deviceIDs info = true := by
    intro master hmaster
    obtain ⟨net, hnet, hin⟩ := hmember master hmaster
    exact ⟨net, hsubset net (List.mem_of_mem_take hnet), hin⟩
  -- only the number is left
  have hnumber : SelectsClass host deviceIDs req (mastersOf host (classMap order deviceIDs host)
      (upTo req.nicSet.numOfInterfaces all)) ↔
      (upTo req.nicSet.numOfInterfaces all).countP (lastItemOn host deviceIDs) =
        limit req.nicSet.numOfInterfaces ((requested host req).countP (classOn host deviceIDs)) :=
    ⟨fun h => hlength.symm.trans h.number,
      fun h => ⟨hdistinct, hmember', hlength.trans h⟩⟩
  rw [hnumber, ClassServed, requested, hall]
  by_cases hempty : req.masterNetAddrs = []
  · rw [if_pos hempty, if_pos hempty, if_pos hempty]
    exact number_all_iff hnics order deviceIDs _
  · rw [if_neg hempty, if_neg hempty, if_neg hempty]
    exact countP_upTo_eq_iff (fun net => classOn_of_lastItemOn) _ _

end Select

/-! ## Runs -/

/-- An interface on each of two networks, of vendors `15b3` and `1d0f`. -/
def twoInterfaces : GoMap String InterfaceInfo :=
  ((∅ : GoMap String InterfaceInfo).insert "eth1"
    ⟨⟨"eth1", "10.0.1.0/24", "10.0.1.1"⟩, "15b3", "1019", "0000:00:05.0"⟩).insert "eth2"
      ⟨⟨"eth2", "10.0.2.0/24", "10.0.2.1"⟩, "1d0f", "efa1", "0000:00:06.0"⟩

/-- A host with these interfaces and one class. -/
def twoNics (deviceIDs : List DeviceID) : Host where
  interfaceMap := twoInterfaces
  deviceExists := fun _ => true
  getDeviceClass := fun _ => .ok deviceIDs
  numaAware := ⟨∅, ∅⟩
  getDeviceName := fun _ => ""

theorem twoNics_oneNicPerNetwork (deviceIDs : List DeviceID) :
    OneNicPerNetwork (twoNics deviceIDs) := by
  have hsep : twoInterfaces.Separates (·.netAddress) := .of_nodup (by decide +kernel)
  have hnames : twoInterfaces.All fun devName _ => devName ≠ "" :=
    ((GoMap.All.empty _).insert (by decide)).insert (by decide)
  exact ⟨hsep, fun devName info hl => ⟨hnames devName info hl, rfl⟩⟩

/-- One NIC of class `highspeed` is asked for, of the networks given. -/
def oneOf (nets : List String) : NICSelectRequest := ⟨nets, ⟨1, [], "highspeed"⟩⟩

/-- The first network that the request names is in the class. -/
theorem devClass_select_served :
    SelectsClass (twoNics [⟨"15b3", ["1019"]⟩]) [⟨"15b3", ["1019"]⟩] (oneOf ["10.0.1.0/24"])
        (select .listed .stable (twoNics [⟨"15b3", ["1019"]⟩]) (oneOf ["10.0.1.0/24"]) none []
          (some "devClass")).masters ∧
      (select .listed .stable (twoNics [⟨"15b3", ["1019"]⟩]) (oneOf ["10.0.1.0/24"]) none []
        (some "devClass")).masters = ["eth1"] := by
  refine ⟨?_, by decide +kernel⟩
  refine (devClass_select_iff (twoNics_oneNicPerNetwork _) .listed _ .stable rfl (by decide)
    (by decide) rfl rfl).mpr ?_
  rw [ClassServed, if_neg (by decide)]
  exact ⟨by decide +kernel, Or.inl (by decide +kernel)⟩

/-- A class with two items of one vendor loses the first; a network outside of the class, named
first, takes the place of one in it. -/
theorem devClass_select_short :
    (¬ SelectsClass (twoNics [⟨"15b3", ["1019"]⟩, ⟨"15b3", ["101b"]⟩])
        [⟨"15b3", ["1019"]⟩, ⟨"15b3", ["101b"]⟩] (oneOf [])
        (select .listed .stable (twoNics [⟨"15b3", ["1019"]⟩, ⟨"15b3", ["101b"]⟩]) (oneOf []) none []
          (some "devClass")).masters) ∧
      ¬ SelectsClass (twoNics [⟨"15b3", ["1019"]⟩]) [⟨"15b3", ["1019"]⟩]
        (oneOf ["10.0.2.0/24", "10.0.1.0/24"])
        (select .listed .stable (twoNics [⟨"15b3", ["1019"]⟩])
          (oneOf ["10.0.2.0/24", "10.0.1.0/24"]) none [] (some "devClass")).masters := by
  constructor
  · intro h
    exact absurd h.number (by decide +kernel)
  · intro h
    exact absurd h.number (by decide +kernel)

end MultiNicCni.Selector
