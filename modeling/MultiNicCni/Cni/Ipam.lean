import MultiNicCni.Daemon.Allocator

/-!
# The IPAM plugin (`cni/plugins/ipam/multi-nic-ipam`)

`cmdAdd` asks the daemon for an address on every selected master and returns the addresses
as a list, each tagged with the position of its master. A master without a response is
skipped.

The previous result is given by its addresses; DNS and routes of the result are left out. The
outer `Option` is `none` when the plugin panics: an address that does not parse leaves
`reservedIP` nil, and its field is set before the error is looked at.
-/

namespace MultiNicCni.Cni

open Go Daemon

variable {ipResponses : List IPResponse} {masters : List String}

/-- `current.IPConfig`: an address with its prefix length, and the interface it is for. -/
structure IPConfig where
  address : IPNet
  interface : Nat
  deriving DecidableEq

variable {ips : List IPConfig}

/-- `(*net.IPNet).String`. -/
def netString (n : IPNet) : String := cidrString n.ip n.ones

/-- The errors of `cmdAdd`. -/
inductive IpamError where
  /-- "failed to request ip %v" -/
  | requestFailed (reason : String)
  deriving DecidableEq, Repr

/-- `RequestIP`: an empty list of responses is an error. -/
def requestIP (answer : Except String (List IPResponse)) : Except String (List IPResponse) :=
  match answer with
  | .ok [] => .error "response nothing"
  | answer => answer

/-- The address of a response: the text `address/block`, with its host bits. -/
def reservedIP (response : IPResponse) : Option IPNet := do
  let (ipVal, reservedIP) ← parseCIDR (response.ipAddress ++ "/" ++ response.vlanBlockSize)
  some { reservedIP with ip := ipVal }

/-- The loop of `cmdAdd` over the masters from position `index` on. -/
def matchMasters (ipResponses : List IPResponse) : Nat → List String → Option (List IPConfig)
  | _, [] => some []
  | index, master :: masters =>
    match ipResponses.find? (·.interfaceName == master) with
    | none => matchMasters ipResponses (index + 1) masters
    | some ipResponse => do
      let address ← reservedIP ipResponse
      let ips ← matchMasters ipResponses (index + 1) masters
      some (⟨address, index⟩ :: ips)

/-- `cmdAdd`: the addresses of the result. -/
def cmdAdd (prevIPs : List IPConfig) (masters : List String)
    (answer : Except String (List IPResponse)) : Option (Except IpamError (List IPConfig)) :=
  if 0 < prevIPs.length then some (.ok prevIPs)
  else if masters.length = 0 then some (.ok prevIPs)
  else
    match requestIP answer with
    | .error reason => some (.error (.requestFailed reason))
    | .ok ipResponses => do
      let ips ← matchMasters ipResponses 0 masters
      some (.ok (prevIPs ++ ips))

/-- The address the daemon allocated for a master. -/
def allocatedTo (ipResponses : List IPResponse) (master : String) : Option IPNet :=
  (ipResponses.find? (·.interfaceName == master)).bind reservedIP

/-- One turn of the loop: the address of an answered master, tagged with its position, comes
first; the loop panics when it does not parse. -/
theorem matchMasters_cons {index : Nat} {master : String} :
    matchMasters ipResponses index (master :: masters) = some ips ↔
      (allocatedTo ipResponses master).isSome =
          (ipResponses.find? (·.interfaceName == master)).isSome ∧
        ∃ rest, matchMasters ipResponses (index + 1) masters = some rest ∧
          ips = ((allocatedTo ipResponses master).map fun address => ⟨address, index⟩).toList ++
            rest := by
  rw [matchMasters, allocatedTo]
  cases ipResponses.find? (·.interfaceName == master) with
  | none => exact ⟨fun h => ⟨rfl, ips, h, rfl⟩, fun ⟨_, rest, hrest, heq⟩ => heq ▸ hrest⟩
  | some ipResponse =>
    dsimp only [Option.bind_some]
    cases reservedIP ipResponse with
    | none => exact iff_of_false (fun h => by cases h) fun h => by cases h.1
    | some address =>
      rw [Option.bind_eq_bind, Option.bind_some]
      constructor
      · intro h
        obtain ⟨rest, hrest, h⟩ := Option.bind_eq_some_iff.mp h
        cases h
        exact ⟨rfl, rest, hrest, rfl⟩
      · rintro ⟨-, rest, hrest, rfl⟩
        exact Option.bind_eq_some_iff.mpr ⟨rest, hrest, rfl⟩

/-- A result lists the addresses of the answered masters, in their order. -/
theorem matchMasters_addresses {index : Nat} (h : matchMasters ipResponses index masters = some ips) :
    ips.map (·.address) = masters.filterMap (allocatedTo ipResponses) ∧
      ∀ m ∈ masters, (allocatedTo ipResponses m).isSome =
        (ipResponses.find? (·.interfaceName == m)).isSome := by
  induction masters generalizing index ips with
  | nil =>
    cases h
    exact ⟨rfl, fun m hm => absurd hm List.not_mem_nil⟩
  | cons master masters ih =>
    obtain ⟨hparse, rest, hrest, rfl⟩ := matchMasters_cons.mp h
    obtain ⟨haddr, hsome⟩ := ih hrest
    refine ⟨?_, List.forall_mem_cons.mpr ⟨hparse, hsome⟩⟩
    rw [List.map_append, haddr, List.filterMap_cons]
    cases allocatedTo ipResponses master <;> rfl

/-- A result of a request without a previous result is that of the loop. -/
theorem cmdAdd_match (h : cmdAdd [] masters (.ok ipResponses) = some (.ok ips)) :
    matchMasters ipResponses 0 masters = some ips := by
  unfold cmdAdd at h
  rw [if_neg (by simp)] at h
  split at h
  · next hlen =>
    cases h
    rw [List.length_eq_zero_iff.mp hlen]
    rfl
  · cases ipResponses with
    | nil => cases h
    | cons r rs =>
      obtain ⟨ips', hmatch, h⟩ := Option.bind_eq_some_iff.mp h
      cases h
      exact hmatch

theorem cmdAdd_addresses (h : cmdAdd [] masters (.ok ipResponses) = some (.ok ips)) :
    ips.map (·.address) = masters.filterMap (allocatedTo ipResponses) ∧
      ∀ m ∈ masters, (allocatedTo ipResponses m).isSome =
        (ipResponses.find? (·.interfaceName == m)).isSome :=
  matchMasters_addresses (cmdAdd_match h)

end MultiNicCni.Cni
