import MultiNicCni.Cni.Ipam
import MultiNicCni.Daemon.NextIndex

/-!
# Releasing what was added

The IPAM plugin gives back the addresses of a pod with `cmdDel` and returns them, so that the
main plugin can undo what it configured with them. The request it sends to the daemon carries
no interface names, and the daemon names an address by the interface of its pool then.

- `ipamAdd`, `ipamDel`: the commands with the requests they send;
- `mem_added`, `mem_released`: the responses to both, pool by pool;
- `matchMasters_inj`: two results for one list of masters are equal exactly when they have the
  same address for each;
- `del_mirrors_add_iff`: **the two commands return the same list exactly when every master that
  got an address has the name of its pool's interface**;
- `del_forgets_vf`: the address of a virtual function is not in the list.
-/

namespace MultiNicCni.Cni

open Go Compute Daemon Lib

variable {m name block : String} {ips : List IPConfig} {a : NewAllocation} {r : IPResponse}
  {pool : IPPool} {st st' : DaemonState} {dev : Devices} {expired : String → Bool} {req : IPRequest}
  {responses : List IPResponse}

/-! ## The commands -/

/-- `Deallocate`: the request carries no interface names. -/
def deallocateRequest (req : IPRequest) : IPRequest :=
  ⟨req.podName, req.podNamespace, req.hostName, req.netAttachDefName, []⟩

/-- `cmdDel`: the addresses of the result, if it prints one. The error of `Deallocate` is not
looked at. -/
def cmdDel (prevIPs : List IPConfig) (netns : String) (masters : List String)
    (answer : Except String (List IPResponse)) : Option (Option (List IPConfig)) :=
  if netns = "" then some none
  else do
    let ips ← matchMasters (answer.toOption.getD []) 0 masters
    some (some (prevIPs ++ ips))

/-- `cmdAdd` for a pod, with the daemon; the interface names of the request are the masters.
Without masters, and with addresses in the previous result, no request is sent. -/
def ipamAdd (dev : Devices) (expired : String → Bool) (prevIPs : List IPConfig) (req : IPRequest)
    (st : DaemonState) : Option (Except IpamError (List IPConfig) × DaemonState) :=
  if 0 < prevIPs.length ∨ req.interfaceNames.length = 0 then do
    let result ← cmdAdd prevIPs req.interfaceNames (.ok [])
    some (result, st)
  else do
    let out ← allocateIP dev expired req st
    let result ← cmdAdd prevIPs req.interfaceNames (.ok out.responses)
    some (result, out.state)

/-- `cmdDel` for a pod, with the daemon. -/
def ipamDel (dev : Devices) (netns : String) (prevIPs : List IPConfig) (req : IPRequest)
    (st : DaemonState) : Option (Option (List IPConfig) × DaemonState) :=
  if netns = "" then some (none, st)
  else do
    let (responses, st') ← deallocateIP dev (deallocateRequest req) st
    let result ← cmdDel prevIPs netns req.interfaceNames (.ok responses)
    some (result, st')

/-! ## Comparing results -/

section Compare

variable {ipResponses ipResponses' : List IPResponse} {masters : List String}

/-- The tags of a result start at the first position. -/
theorem le_interface_of_matchMasters {index : Nat}
    (h : matchMasters ipResponses index masters = some ips) : ∀ c ∈ ips, index ≤ c.interface := by
  induction masters generalizing index ips with
  | nil =>
    cases h
    exact fun c hc => absurd hc List.not_mem_nil
  | cons master masters ih =>
    obtain ⟨-, rest, hrest, rfl⟩ := matchMasters_cons.mp h
    intro c hc
    rcases List.mem_append.mp hc with hc | hc
    · obtain ⟨address, -, rfl⟩ := Option.map_eq_some_iff.mp (Option.mem_toList.mp hc)
      exact le_rfl
    · exact (Nat.le_succ index).trans (ih hrest c hc)

/-- A result exists when every address that answers a master parses. -/
theorem matchMasters_isSome (index : Nat) (h : ∀ m ∈ masters, (allocatedTo ipResponses m).isSome =
      (ipResponses.find? (·.interfaceName == m)).isSome) :
    ∃ ips, matchMasters ipResponses index masters = some ips := by
  induction masters generalizing index with
  | nil => exact ⟨[], rfl⟩
  | cons master masters ih =>
    obtain ⟨hmaster, hmasters⟩ := List.forall_mem_cons.mp h
    obtain ⟨rest, hrest⟩ := ih (index + 1) hmasters
    exact ⟨_, matchMasters_cons.mpr ⟨hmaster, rest, hrest, rfl⟩⟩

/-- **Two results for the same masters are equal exactly when every master has the same address
in both.** -/
theorem matchMasters_inj {index : Nat} {ips' : List IPConfig}
    (h : matchMasters ipResponses index masters = some ips)
    (h' : matchMasters ipResponses' index masters = some ips') :
    ips = ips' ↔ ∀ m ∈ masters, allocatedTo ipResponses m = allocatedTo ipResponses' m := by
  induction masters generalizing index ips ips' with
  | nil =>
    cases h
    cases h'
    exact iff_of_true rfl fun m hm => absurd hm List.not_mem_nil
  | cons master masters ih =>
    obtain ⟨-, rest, hrest, rfl⟩ := matchMasters_cons.mp h
    obtain ⟨-, rest', hrest', rfl⟩ := matchMasters_cons.mp h'
    rw [List.forall_mem_cons, ← ih hrest hrest']
    have hle := le_interface_of_matchMasters hrest
    have hle' := le_interface_of_matchMasters hrest'
    -- an address of this position is in no result of the positions after it
    cases allocatedTo ipResponses master with
    | none =>
      cases allocatedTo ipResponses' master with
      | none => simp
      | some address' =>
        refine iff_of_false (fun heq => ?_) (fun hand => by cases hand.1)
        have hmem : (⟨address', index⟩ : IPConfig) ∈ rest :=
          (show rest = ⟨address', index⟩ :: rest' from heq) ▸ List.mem_cons_self
        exact absurd (hle _ hmem) (Nat.not_succ_le_self index)
    | some address =>
      cases allocatedTo ipResponses' master with
      | none =>
        refine iff_of_false (fun heq => ?_) (fun hand => by cases hand.1)
        have hmem : (⟨address, index⟩ : IPConfig) ∈ rest' :=
          (show ⟨address, index⟩ :: rest = rest' from heq) ▸ List.mem_cons_self
        exact absurd (hle' _ hmem) (Nat.not_succ_le_self index)
      | some address' => simp

end Compare

/-! ## The responses to both requests -/

/-- The first allocation of a pod that had none is the new one, also after a splice that has
lost another. -/
theorem find_insertAllocation {allocations : List Allocation} {new : Allocation}
    {podName podNamespace : String} (hfree : ∀ a ∈ allocations, ¬ isOf podName podNamespace a = true)
    (hnew : isOf podName podNamespace new = true) :
    (insertAllocation allocations new).find? (isOf podName podNamespace) = some new := by
  cases hi : toInsertIndex allocations new.index with
  | none =>
    have hnone : allocations.find? (isOf podName podNamespace) = none :=
      List.find?_eq_none.mpr hfree
    rw [insertAllocation, hi]
    dsimp only
    rw [List.find?_append, hnone, Option.none_or, List.find?_cons_of_pos hnew]
  | some i =>
    have hnone : (allocations.take i).find? (isOf podName podNamespace) = none :=
      List.find?_eq_none.mpr fun a ha => hfree a (List.mem_of_mem_take ha)
    rw [insertAllocation_overwrites hi, List.append_assoc, List.find?_append, hnone, Option.none_or,
      List.cons_append, List.find?_cons_of_pos hnew]

/-- The pool, the new allocation and the prefix length behind a response of `AllocateIP`. -/
structure AnsweredFrom (req : IPRequest) (st : DaemonState) (out : Served) (name : String)
    (pool : IPPool) (a : NewAllocation) (block : String) : Prop where
  stored : st.pools.lookup name = some pool
  isListed : listed pool req = true
  new : out.newAllocations.lookup name = some a
  vlan : (split pool.spec.vlanCIDR '/')[1]? = some block

section Responses

variable {out : Served} (hout : allocateIP dev expired req st = some out)
include hout

theorem mem_added :
    r ∈ out.responses ↔ ∃ name pool a block, AnsweredFrom req st out name pool a block ∧
      r = ⟨a.interfaceName, a.allocation.address, block⟩ := by
  rw [allocateIP_responses hout, List.mem_filterMap]
  constructor
  · rintro ⟨⟨name, a⟩, hmem, hr⟩
    obtain ⟨pool, hpool, hr⟩ := Option.bind_eq_some_iff.mp hr
    obtain ⟨block, hblock, hr⟩ := Option.bind_eq_some_iff.mp hr
    obtain ⟨hstored, hlisted⟩ := GoMap.lookup_filter.mp hpool
    exact ⟨name, pool, a, block, ⟨hstored, hlisted, AList.mem_lookup_iff.mpr hmem, hblock⟩,
      (Option.some.inj hr).symm⟩
  · rintro ⟨name, pool, a, block, h, rfl⟩
    refine ⟨⟨name, a⟩, AList.mem_lookup_iff.mp h.new, Option.bind_eq_some_iff.mpr ⟨pool, ?_, ?_⟩⟩
    · exact GoMap.lookup_filter.mpr ⟨h.stored, h.isListed⟩
    · exact Option.bind_eq_some_iff.mpr ⟨block, h.vlan, rfl⟩

/-- The response of one pool to the deallocation that follows: the address it has given, under
the name of its own interface. -/
theorem released_pool (hpool : st.pools.lookup name = some pool)
    (hreached : reached pool req = true)
    (hfree : ∀ a ∈ pool.spec.allocations, ¬ isOf req.podName req.podNamespace a = true) :
    (out.state.pools.lookup name).bind (deallocResponse dev (deallocateRequest req)) =
      (out.newAllocations.lookup name).bind fun a =>
        ((split pool.spec.vlanCIDR '/')[1]?).bind fun block =>
          some ⟨pool.spec.interfaceName, a.allocation.address, block⟩ := by
  have hof : pool.spec.netAttachDefName = req.netAttachDefName ∧
      contains pool.spec.hostName req.hostName = true := by
    have hspec := (Bool.and_eq_true_iff.mp hreached).2
    exact ⟨beq_iff_eq.mp (Bool.and_eq_true_iff.mp hspec).1, (Bool.and_eq_true_iff.mp hspec).2⟩
  rcases allocateIP_pool hout hpool with ⟨hnone, hsame⟩ | ⟨i, address, iface, -, -, hnew, hafter⟩
  · -- a pool that was not allocated from has nothing of the pod
    rw [hnone, hsame, Option.bind_some, Option.bind_none]
    refine (if_pos hof).trans ?_
    show Option.bind (pool.spec.allocations.find? (isOf req.podName req.podNamespace)) _ = none
    rw [List.find?_eq_none.mpr hfree]
    rfl
  · rw [hnew, hafter, Option.bind_some, Option.bind_some]
    refine (if_pos hof).trans ?_
    show Option.bind ((insertAllocation pool.spec.allocations
      ⟨req.podName, req.podNamespace, i, address⟩).find? (isOf req.podName req.podNamespace)) _ = _
    rw [find_insertAllocation hfree (by simp [isOf])]
    rfl

/-- **The responses to the deallocation that follows**: the same addresses, under the names of
the pools' interfaces. -/
theorem mem_released {order : PoolOrder}
    (hpools : st.pools.All fun _ pool => listed pool req = true → reached pool req = true)
    (hfree : st.pools.All fun _ pool => listed pool req = true →
      ∀ a ∈ pool.spec.allocations, ¬ isOf req.podName req.podNamespace a = true)
    (hdel : deallocateIP dev (deallocateRequest req)
      ⟨order.apply out.state.pools, out.state.history⟩ = some (responses, st')) :
    r ∈ responses ↔ ∃ name pool a block, AnsweredFrom req st out name pool a block ∧
      r = ⟨pool.spec.interfaceName, a.allocation.address, block⟩ := by
  rw [deallocateIP_responses hdel, List.mem_filterMap]
  constructor
  · rintro ⟨⟨name, pool'⟩, hmem, hr⟩
    obtain ⟨hstored, hlisted⟩ := GoMap.lookup_filter.mp (AList.mem_lookup_iff.mpr hmem)
    rw [order.lookup] at hstored
    have hshape := allocateIP_shape hout name
    rw [hstored, Option.map_some] at hshape
    obtain ⟨pool, hpool, hsame⟩ := Option.map_eq_some_iff.mp hshape.symm
    have hlisted' : listed (shape pool) req = true := hsame ▸ hlisted
    have hresponse := released_pool hout hpool (hpools name pool hpool hlisted')
      (hfree name pool hpool hlisted')
    rw [hstored, Option.bind_some, hr] at hresponse
    obtain ⟨a, hnew, hresponse⟩ := Option.bind_eq_some_iff.mp hresponse.symm
    obtain ⟨block, hblock, hresponse⟩ := Option.bind_eq_some_iff.mp hresponse
    exact ⟨name, pool, a, block, ⟨hpool, hlisted', hnew, hblock⟩, (Option.some.inj hresponse).symm⟩
  · rintro ⟨name, pool, a, block, h, rfl⟩
    have hresponse := released_pool hout h.stored (hpools name pool h.stored h.isListed)
      (hfree name pool h.stored h.isListed)
    rw [h.new, Option.bind_some, h.vlan, Option.bind_some] at hresponse
    obtain ⟨pool', hstored, hr⟩ := Option.bind_eq_some_iff.mp hresponse
    have hshape := allocateIP_shape hout name
    rw [hstored, h.stored, Option.map_some, Option.map_some] at hshape
    have hlisted : listed (shape pool') req = true := (Option.some.inj hshape) ▸ h.isListed
    refine ⟨⟨name, pool'⟩, AList.mem_lookup_iff.mp (GoMap.lookup_filter.mpr ⟨?_, hlisted⟩), hr⟩
    rw [order.lookup]
    exact hstored

end Responses

/-! ## Master by master -/

theorem find_eq_of_unique {α : Type*} {p : α → Bool} {l : List α} {a : α} (hmem : a ∈ l)
    (hp : p a = true) (hunique : ∀ b ∈ l, p b = true → b = a) : l.find? p = some a := by
  cases hfind : l.find? p with
  | none => exact absurd hp (List.find?_eq_none.mp hfind a hmem)
  | some b => rw [hunique b (List.mem_of_find?_eq_some hfind) (List.find?_some hfind)]

/-- Each master that a pool serves, if the pool has an index to give, has the name of its
interface: it is no virtual function. -/
def NamedByPools (dev : Devices) (expired : String → Bool) (req : IPRequest) (st : DaemonState) :
    Prop :=
  st.pools.All fun _ pool => listed pool req = true →
    Findable (offsetOf expired req st) pool.spec →
    ∀ m ∈ req.interfaceNames, serves dev pool.spec.interfaceName m = true →
      m = pool.spec.interfaceName

/-- The masters of a request and the pools belong together: a pool serves at most one master,
and a master is served by at most one pool. -/
structure Paired (dev : Devices) (req : IPRequest) (st : DaemonState) : Prop where
  oneMaster : st.pools.All fun _ pool => listed pool req = true →
    ∀ m ∈ req.interfaceNames, ∀ m' ∈ req.interfaceNames,
      serves dev pool.spec.interfaceName m = true → serves dev pool.spec.interfaceName m' = true →
      m = m'
  onePool : ∀ m ∈ req.interfaceNames, ∀ name pool name' pool',
    st.pools.lookup name = some pool → listed pool req = true →
    serves dev pool.spec.interfaceName m = true →
    st.pools.lookup name' = some pool' → listed pool' req = true →
    serves dev pool'.spec.interfaceName m = true → name = name'

section Masters

variable {out : Served} (hout : allocateIP dev expired req st = some out)
  (hpaired : Paired dev req st)
include hout hpaired

omit hout in
/-- Two answers for one master are one. -/
theorem AnsweredFrom.unique {name' : String} {pool' : IPPool} {a' : NewAllocation} {block' : String}
    (hm : m ∈ req.interfaceNames) (h : AnsweredFrom req st out name pool a block)
    (h' : AnsweredFrom req st out name' pool' a' block')
    (hserves : serves dev pool.spec.interfaceName m = true)
    (hserves' : serves dev pool'.spec.interfaceName m = true) :
    pool = pool' ∧ a = a' ∧ block = block' := by
  obtain rfl := hpaired.onePool m hm _ _ _ _ h.stored h.isListed hserves h'.stored h'.isListed
    hserves'
  obtain rfl := Option.some.inj (h.stored.symm.trans h'.stored)
  exact ⟨rfl, Option.some.inj (h.new.symm.trans h'.new),
    Option.some.inj (h.vlan.symm.trans h'.vlan)⟩

/-- The response of `AllocateIP` for the master of a pool. -/
theorem added_find (h : AnsweredFrom req st out name pool a block) :
    out.responses.find? (·.interfaceName == a.interfaceName) =
      some ⟨a.interfaceName, a.allocation.address, block⟩ := by
  obtain ⟨hm, hserves⟩ := allocateIP_interface hout h.stored h.new
  refine find_eq_of_unique ((mem_added hout).mpr ⟨name, pool, a, block, h, rfl⟩) (beq_self_eq_true _) ?_
  intro r hr hname
  obtain ⟨name', pool', a', block', h', rfl⟩ := (mem_added hout).mp hr
  have hsame : a'.interfaceName = a.interfaceName := beq_iff_eq.mp hname
  have hserves' := (allocateIP_interface hout h'.stored h'.new).2
  rw [hsame] at hserves'
  obtain ⟨rfl, rfl, rfl⟩ := h.unique hpaired hm h' hserves hserves'
  rfl

/-- A pool that serves a master gives an index exactly when one is findable. -/
theorem given_iff (hpool : st.pools.lookup name = some pool) (hvalid : ValidTexts pool)
    (hlisted : listed pool req = true) (hm : m ∈ req.interfaceNames)
    (hserves : serves dev pool.spec.interfaceName m = true) :
    (out.newAllocations.lookup name).isSome = true ↔
      Findable (offsetOf expired req st) pool.spec := by
  obtain ⟨maxIndex, hmax⟩ := Option.isSome_iff_exists.mp hvalid.pod
  have hothers : st.pools.All fun other p => other ≠ name → listed p req = true →
      serves dev p.spec.interfaceName m = false := by
    intro other p hp hne hl
    by_contra hs
    exact hne (hpaired.onePool m hm _ _ _ _ hp hl (Bool.not_eq_false _ ▸ hs) hpool hlisted hserves)
  obtain ⟨interfaceName, -, -, hlookup⟩ := allocateIP_lookup hout hpool hlisted hm hserves hothers
  rw [hlookup, Option.isSome_map, nextAllocation_isSome_iff hmax]

section Released

variable
  (hreleased : ∀ r, r ∈ responses ↔ ∃ name pool a block, AnsweredFrom req st out name pool a block ∧
    r = ⟨pool.spec.interfaceName, a.allocation.address, block⟩)
include hreleased

/-- A response to the deallocation that names a master is the one for that master. -/
theorem released_find_eq (hm : m ∈ req.interfaceNames)
    (hfind : responses.find? (·.interfaceName == m) = some r) :
    out.responses.find? (·.interfaceName == m) = some r := by
  obtain ⟨name, pool, a, block, h, rfl⟩ := (hreleased r).mp (List.mem_of_find?_eq_some hfind)
  obtain rfl : pool.spec.interfaceName = m := by simpa using List.find?_some hfind
  obtain ⟨ha, hserves⟩ := allocateIP_interface hout h.stored h.new
  have hown : serves dev pool.spec.interfaceName pool.spec.interfaceName = true := by simp [serves]
  have hname := hpaired.oneMaster name pool h.stored h.isListed _ ha _ hm hserves hown
  rw [← hname]
  exact added_find hout hpaired h

/-- The deallocation answers for the master of a pool exactly if the master has the name of the
pool's interface. -/
theorem released_isSome (h : AnsweredFrom req st out name pool a block) :
    (responses.find? (·.interfaceName == a.interfaceName)).isSome = true ↔
      a.interfaceName = pool.spec.interfaceName := by
  obtain ⟨ha, hserves⟩ := allocateIP_interface hout h.stored h.new
  rw [List.find?_isSome]
  constructor
  · rintro ⟨r, hr, hname⟩
    obtain ⟨name', pool', a', block', h', rfl⟩ := (hreleased r).mp hr
    have hsame : pool'.spec.interfaceName = a.interfaceName := beq_iff_eq.mp hname
    have hserves' : serves dev pool'.spec.interfaceName a.interfaceName = true := by
      simp [serves, hsame]
    obtain ⟨rfl, -, -⟩ := h.unique hpaired ha h' hserves hserves'
    exact hsame.symm
  · intro hname
    exact ⟨_, (hreleased _).mpr ⟨name, pool, a, block, h, rfl⟩, beq_iff_eq.mpr hname.symm⟩

/-- **The masters have the same addresses in both answers exactly when those that got one have
the names of the pools' interfaces.** -/
theorem allocatedTo_eq_iff (hvalid : st.pools.All fun _ pool => ValidTexts pool)
    (hparse : ∀ m ∈ req.interfaceNames, (allocatedTo out.responses m).isSome =
      (out.responses.find? (·.interfaceName == m)).isSome) :
    (∀ m ∈ req.interfaceNames, allocatedTo responses m = allocatedTo out.responses m) ↔
      NamedByPools dev expired req st := by
  constructor
  · intro heq name pool hpool hlisted hfindable m hm hserves
    have hgiven := (given_iff hout hpaired hpool (hvalid name pool hpool) hlisted hm hserves).mpr
      hfindable
    obtain ⟨a, hnew⟩ := Option.isSome_iff_exists.mp hgiven
    obtain ⟨block, hblock⟩ := Option.isSome_iff_exists.mp (hvalid name pool hpool).vlan
    have h : AnsweredFrom req st out name pool a block := ⟨hpool, hlisted, hnew, hblock⟩
    obtain ⟨ha, hserves'⟩ := allocateIP_interface hout hpool hnew
    obtain rfl := hpaired.oneMaster name pool hpool hlisted _ hm _ ha hserves hserves'
    refine (released_isSome hout hpaired hreleased h).mp ?_
    -- the address of the master parses, so both answers name it
    have hsome := hparse _ hm
    rw [← heq _ hm, added_find hout hpaired h, allocatedTo] at hsome
    cases hfind : responses.find? (·.interfaceName == a.interfaceName) with
    | none =>
      rw [hfind] at hsome
      cases hsome
    | some r => rfl
  · intro hnamed m hm
    suffices hfind : responses.find? (·.interfaceName == m) =
        out.responses.find? (·.interfaceName == m) by rw [allocatedTo, allocatedTo, hfind]
    cases hfind : responses.find? (·.interfaceName == m) with
    | some r => exact (released_find_eq hout hpaired hreleased hm hfind).symm
    | none =>
      cases hadded : out.responses.find? (·.interfaceName == m) with
      | none => rfl
      | some r =>
        obtain ⟨name, pool, a, block, h, rfl⟩ :=
          (mem_added hout).mp (List.mem_of_find?_eq_some hadded)
        obtain rfl : a.interfaceName = m := by simpa using List.find?_some hadded
        obtain ⟨ha, hserves⟩ := allocateIP_interface hout h.stored h.new
        have hfindable := (given_iff hout hpaired h.stored (hvalid name pool h.stored) h.isListed ha
          hserves).mp (by rw [h.new]; rfl)
        have hname := hnamed name pool h.stored h.isListed hfindable _ ha hserves
        have hsome := (released_isSome hout hpaired hreleased h).mpr hname
        rw [hfind] at hsome
        cases hsome

end Released

end Masters

/-! ## The commands -/

section Commands

variable {netns : String} {prevIPs : List IPConfig}

theorem matchMasters_nil (index : Nat) (masters : List String) :
    matchMasters [] index masters = some [] := by
  induction masters generalizing index with
  | nil => rfl
  | cons master masters ih => exact ih (index + 1)

/-- A pod without allocations gets no response. -/
theorem released_nil (hfree : st.pools.All fun _ pool => listed pool req = true →
      ∀ a ∈ pool.spec.allocations, ¬ isOf req.podName req.podNamespace a = true)
    (hdel : deallocateIP dev (deallocateRequest req) st = some (responses, st')) :
    responses = [] := by
  rw [deallocateIP_responses hdel, List.filterMap_eq_nil_iff]
  rintro ⟨name, pool⟩ hmem
  obtain ⟨hpool, hlisted⟩ := GoMap.lookup_filter.mp (AList.mem_lookup_iff.mpr hmem)
  have hnone : pool.spec.allocations.find? (isOf req.podName req.podNamespace) = none :=
    List.find?_eq_none.mpr (hfree name pool hpool hlisted)
  unfold deallocResponse
  split
  · show Option.bind (pool.spec.allocations.find? (isOf req.podName req.podNamespace)) _ = none
    rw [hnone]
    rfl
  · rfl

theorem ipamDel_eq (hnetns : netns ≠ "")
    (hdel : deallocateIP dev (deallocateRequest req) st = some (responses, st'))
    (hmatch : matchMasters responses 0 req.interfaceNames = some ips) :
    ipamDel dev netns prevIPs req st = some (some (prevIPs ++ ips), st') := by
  have hresult : cmdDel prevIPs netns req.interfaceNames (.ok responses) =
      some (some (prevIPs ++ ips)) := by
    rw [cmdDel, if_neg hnetns]
    exact Option.bind_eq_some_iff.mpr ⟨ips, hmatch, rfl⟩
  rw [ipamDel, if_neg hnetns]
  exact Option.bind_eq_some_iff.mpr ⟨(responses, st'), hdel,
    Option.bind_eq_some_iff.mpr ⟨_, hresult, rfl⟩⟩

/-- Without a request, the addresses are those of the previous result. -/
theorem cmdAdd_prev {adds : List IPConfig}
    (hnone : 0 < prevIPs.length ∨ req.interfaceNames.length = 0)
    (h : cmdAdd prevIPs req.interfaceNames (.ok []) = some (.ok adds)) : adds = prevIPs := by
  unfold cmdAdd at h
  split at h
  · cases h
    rfl
  · next hprev =>
    rw [if_pos (hnone.resolve_left hprev)] at h
    cases h
    rfl

/-- **Releasing returns what adding returned, exactly for masters named by the pools.** For every
pod without allocations and every list of masters, each served by at most one pool of the
network on the host and each pool serving at most one, whatever the order of the pools: after
`cmdAdd` has returned a list, `cmdDel` returns the same one exactly when there was a previous
result, or every master whose pool has an index to give has the name of the pool's interface. -/
theorem del_mirrors_add_iff {adds : List IPConfig} {st' : DaemonState} (order : PoolOrder)
    (hadd : ipamAdd dev expired prevIPs req st = some (.ok adds, st')) (hnetns : netns ≠ "")
    (hvalid : st.pools.All fun _ pool => ValidTexts pool)
    (hpools : st.pools.All fun _ pool => listed pool req = true → reached pool req = true)
    (hfree : st.pools.All fun _ pool => listed pool req = true →
      ∀ a ∈ pool.spec.allocations, ¬ isOf req.podName req.podNamespace a = true)
    (hpaired : Paired dev req st) :
    ∃ dels st'', ipamDel dev netns prevIPs req ⟨order.apply st'.pools, st'.history⟩ =
        some (some dels, st'') ∧
      (dels = adds ↔ prevIPs ≠ [] ∨ NamedByPools dev expired req st) := by
  unfold ipamAdd at hadd
  split at hadd
  · next hnone =>
    -- nothing was requested, and nothing is released
    obtain ⟨result, hresult, hadd⟩ := Option.bind_eq_some_iff.mp hadd
    cases hadd
    obtain rfl := cmdAdd_prev hnone hresult
    obtain ⟨responses, st'', hdel⟩ : ∃ responses st'', deallocateIP dev (deallocateRequest req)
        ⟨order.apply st.pools, st.history⟩ = some (responses, st'') :=
      deallocateIP_isSome (order.all hvalid)
    obtain rfl := released_nil (order.all hfree) hdel
    refine ⟨_, st'', ipamDel_eq hnetns hdel (matchMasters_nil _ _),
      iff_of_true (List.append_nil _) ?_⟩
    rcases hnone with hprev | hmasters
    · exact Or.inl (List.ne_nil_of_length_pos hprev)
    · refine Or.inr fun name pool _ _ _ m hm => ?_
      rw [List.length_eq_zero_iff.mp hmasters] at hm
      exact absurd hm List.not_mem_nil
  · next hrequest =>
    obtain ⟨out, hout, hadd⟩ := Option.bind_eq_some_iff.mp hadd
    obtain ⟨result, hresult, hadd⟩ := Option.bind_eq_some_iff.mp hadd
    cases hadd
    obtain rfl : prevIPs = [] := by
      rw [not_or, Nat.not_lt, Nat.le_zero] at hrequest
      exact List.length_eq_zero_iff.mp hrequest.1
    have hmatch := cmdAdd_match hresult
    have hparse := (matchMasters_addresses hmatch).2
    obtain ⟨responses, st'', hdel⟩ : ∃ responses st'', deallocateIP dev (deallocateRequest req)
        ⟨order.apply out.state.pools, out.state.history⟩ = some (responses, st'') :=
      deallocateIP_isSome (order.all (validTexts_of_shape (allocateIP_shape hout) hvalid))
    have hreleased := fun r : IPResponse => mem_released hout hpools hfree hdel (r := r)
    have hparse' : ∀ m ∈ req.interfaceNames, (allocatedTo responses m).isSome =
        (responses.find? (·.interfaceName == m)).isSome := by
      intro m hm
      cases hfind : responses.find? (·.interfaceName == m) with
      | none => rw [allocatedTo, hfind]; rfl
      | some r =>
        have hadded := released_find_eq hout hpaired hreleased hm hfind
        have hsome := hparse m hm
        rw [allocatedTo, hadded] at hsome
        rw [allocatedTo, hfind]
        exact hsome
    obtain ⟨dels, hdels⟩ := matchMasters_isSome 0 hparse'
    refine ⟨dels, st'', ipamDel_eq hnetns hdel hdels, ?_⟩
    rw [matchMasters_inj hdels hmatch, allocatedTo_eq_iff hout hpaired hreleased hvalid hparse]
    simp

end Commands

/-! ## A virtual function -/

/-- A node on which `eth1v0` is a virtual function of `eth1`. -/
def oneVF : Devices := ⟨fun name => name == "eth1v0", fun _ => "eth1"⟩

/-- A second pool, for `eth2`. -/
def secondPool : IPPool :=
  ⟨"host", "net", ⟨"10.1.0.0/29", "10.1.0.0/16", "net", "host", "eth2", [], []⟩⟩

def twoNics : DaemonState := ⟨smallState.pools.insert "net-10.1.0.0-29" secondPool, ∅⟩

/-- A request for both masters. -/
def bothMasters : IPRequest := ⟨"a", "ns", "host", "net", ["eth1", "eth2"]⟩

theorem all_twoNics {P : String → IPPool → Prop} (h1 : P "net-10.0.0.0-29" smallPool)
    (h2 : P "net-10.1.0.0-29" secondPool) : twoNics.pools.All P :=
  (GoMap.All.singleton h1).insert h2

theorem paired_twoNics : Paired oneVF bothMasters twoNics where
  oneMaster := all_twoNics (fun _ => by decide) fun _ => by decide
  onePool := by
    have hpool : twoNics.pools.All fun name pool => ∀ m ∈ bothMasters.interfaceNames,
        serves oneVF pool.spec.interfaceName m = true →
          name = if m = "eth1" then "net-10.0.0.0-29" else "net-10.1.0.0-29" :=
      all_twoNics (by decide) (by decide)
    intro m hm name pool name' pool' h _ hs h' _ hs'
    exact (hpool name pool h m hm hs).trans (hpool name' pool' h' m hm hs').symm

/-- The addresses of `eth1` and `eth2` themselves are added and released. -/
theorem del_mirrors_add_physical : ∃ adds st' st'',
    ipamAdd oneVF (fun _ => false) [] bothMasters twoNics = some (.ok adds, st') ∧
    adds.length = 2 ∧
    ipamDel oneVF "/run/netns/a" [] bothMasters st' = some (some adds, st'') := by
  have hrun : (ipamAdd oneVF (fun _ => false) [] bothMasters twoNics).map
      (fun added => added.1.toOption) = some (some [⟨⟨⟨10, 0, 0, 1⟩, 16, by decide⟩, 0⟩,
        ⟨⟨⟨10, 1, 0, 1⟩, 16, by decide⟩, 1⟩]) := by decide +kernel
  obtain ⟨⟨result, st'⟩, hadd, hresult⟩ := Option.map_eq_some_iff.mp hrun
  cases result with
  | error e => cases hresult
  | ok adds =>
    have hnetns : "/run/netns/a" ≠ "" := by decide
    obtain ⟨dels, st'', hdel, hiff⟩ := del_mirrors_add_iff ⟨id, fun _ => .refl _⟩ hadd hnetns
      (all_twoNics ⟨by decide +kernel, by decide +kernel⟩ ⟨by decide +kernel, by decide +kernel⟩)
      (all_twoNics (fun _ => by decide +kernel) fun _ => by decide +kernel)
      (all_twoNics (fun _ a ha => absurd ha List.not_mem_nil)
        fun _ a ha => absurd ha List.not_mem_nil) paired_twoNics
    have hnamed : NamedByPools oneVF (fun _ => false) bothMasters twoNics :=
      all_twoNics (fun _ _ => by decide) fun _ _ => by decide
    obtain rfl := hiff.mpr (Or.inr hnamed)
    exact ⟨dels, st', st'', hadd, congrArg List.length (Option.some.inj hresult), hdel⟩

/-- **The address of a virtual function is forgotten**: it is added for `eth1v0` and released
for `eth1`, which is no master. -/
theorem del_forgets_vf :
    ((ipamAdd oneVF (fun _ => false) [] ⟨"a", "ns", "host", "net", ["eth1v0"]⟩ smallState).bind
      fun added => (ipamDel oneVF "/run/netns/a" []
        ⟨"a", "ns", "host", "net", ["eth1v0"]⟩ added.2).map fun deleted =>
          (added.1.toOption, deleted.1)) =
      some (some [⟨⟨⟨10, 0, 0, 1⟩, 16, by decide⟩, 0⟩], some []) := by
  decide +kernel

end MultiNicCni.Cni
