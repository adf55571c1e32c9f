import MultiNicCni.Daemon.Pool

/-!
# A request over all pools

The loops of `AllocateIP` go over the pools of the host and network of a request. Each pool
takes the first of the requested interfaces that it serves, so a pool answers for an interface
that no pool before it has taken.

- `PoolOrder`: an order in which the stored pools are iterated;
- `serves`, `namesLeft`: the interfaces of a pool, and those left after some pools;
- `allocateIPs_lookup`: the new allocation of one pool, as an equation;
- `allocateIPs_isSome`: the loop returns when every pod CIDR has a prefix length;
- `shape`: what a request leaves of every pool;
- `allocateIP_lookup`: what is allocated in the only pool that serves an interface;
- `allocateIP_responses`, `allocateIP_isSome`, `deallocateIP_isSome`: the responses, and that
  a request on pools with well-formed texts returns.
-/

namespace MultiNicCni.Daemon

open Go Compute Lib

variable {podNamespace iface name podName : String} {pool : IPPool}
  {pools pools' : GoMap String IPPool} {P : String → IPPool → Prop}
  {news : GoMap String NewAllocation} {expired : String → Bool} {out : Served} {dev : Devices}
  {offset : Int} {interfaceNames : List String} {responses : List IPResponse} {a : NewAllocation}

/-! ## The order of the pools -/

/-- An order in which the stored pools are iterated: any order. -/
structure PoolOrder where
  apply : GoMap String IPPool → GoMap String IPPool
  perm : ∀ pools, (apply pools).entries.Perm pools.entries

theorem PoolOrder.lookup (order : PoolOrder) (pools : GoMap String IPPool) (name : String) :
    (order.apply pools).lookup name = pools.lookup name := AList.perm_lookup (order.perm pools)

theorem PoolOrder.all (order : PoolOrder) (h : pools.All P) : (order.apply pools).All P := by
  intro name pool hl
  rw [order.lookup] at hl
  exact h name pool hl

/-! ## The interfaces of a pool -/

/-- The pool of the device `specInterface` serves a requested interface: by name, or as the
physical function of a virtual one. -/
def serves (dev : Devices) (specInterface interfaceName : String) : Bool :=
  specInterface == interfaceName ||
    (dev.isVF interfaceName && specInterface == dev.getPFInterfaceName interfaceName)

/-- The requested interfaces left after some pools: each takes the first that it serves. -/
def namesLeft (dev : Devices) (pools : List ((_ : String) × IPPool)) (names : List String) :
    List String :=
  pools.foldl (fun names e => names.eraseP (serves dev e.2.spec.interfaceName)) names

/-- An interface that none of the pools serves is left. -/
theorem mem_namesLeft {pools : List ((_ : String) × IPPool)} {names : List String}
    (hnot : ∀ e ∈ pools, serves dev e.2.spec.interfaceName iface = false) :
    iface ∈ namesLeft dev pools names ↔ iface ∈ names := by
  induction pools generalizing names with
  | nil => rfl
  | cons e pools ih =>
    obtain ⟨he, hpools⟩ := List.forall_mem_cons.mp hnot
    rw [namesLeft, List.foldl_cons]
    exact (ih hpools).trans (List.mem_eraseP_of_neg (by simp [he]))

theorem namesLeft_subset (dev : Devices) (pools : List ((_ : String) × IPPool))
    (names : List String) : namesLeft dev pools names ⊆ names := by
  refine foldl_invariant (P := fun left => left ⊆ names) ?_ (List.Subset.refl _)
  intro left e _ hleft
  exact fun name hname => hleft (List.eraseP_subset hname)

/-! ## One turn of the loop -/

section Turn

/-- What a pool gives, if its pod CIDR has a prefix length. -/
theorem nextAllocation_isSome {spec : IPPoolSpec} (h : (maxIndexOf spec.podCIDR).isSome) :
    (nextAllocation offset spec).isSome := by
  obtain ⟨maxIndex, hmax⟩ := Option.isSome_iff_exists.mp h
  rw [nextAllocation, hmax, Option.bind_eq_bind, Option.bind_some]
  dsimp only
  split
  · rfl
  · split <;> rfl

/-- The new allocations with what a pool gives. -/
def withFound (podName podNamespace poolName iface : String)
    (news : GoMap String NewAllocation) : Option (Int × String) → GoMap String NewAllocation
  | none => news
  | some (i, address) => news.insert poolName ⟨⟨podName, podNamespace, i, address⟩, iface⟩

theorem lookup_withFound {poolName : String} (hnone : news.lookup poolName = none)
    (found : Option (Int × String)) :
    (withFound podName podNamespace poolName iface news found).lookup poolName =
      found.map fun (i, address) => ⟨⟨podName, podNamespace, i, address⟩, iface⟩ := by
  cases found with
  | none => exact hnone
  | some found => exact AList.lookup_insert _

theorem lookup_withFound_ne {poolName : String} (hne : name ≠ poolName)
    (found : Option (Int × String)) :
    (withFound podName podNamespace poolName iface news found).lookup name = news.lookup name := by
  cases found with
  | none => rfl
  | some found => exact AList.lookup_insert_ne hne

/-- The turn of a pool: nothing, or the first interface it serves is taken. -/
theorem allocateFromPool_eq (names : List String) (news : GoMap String NewAllocation)
    (e : (_ : String) × IPPool) :
    allocateFromPool dev podName podNamespace offset (names, news) e =
      match names.find? (serves dev e.2.spec.interfaceName) with
      | none => some (names, news)
      | some iface => (nextAllocation offset e.2.spec).map fun found =>
          (names.eraseP (serves dev e.2.spec.interfaceName),
            withFound podName podNamespace e.1 iface news found) := by
  have hunfold : matchInterface dev e.2.spec.interfaceName names =
      names.findIdx? (serves dev e.2.spec.interfaceName) := rfl
  simp only [allocateFromPool, hunfold]
  cases hidx : names.findIdx? (serves dev e.2.spec.interfaceName) with
  | none =>
    have hnone : names.find? (serves dev e.2.spec.interfaceName) = none := by
      rw [List.find?_eq_none]
      intro x hx
      simp [List.findIdx?_eq_none_iff.mp hidx x hx]
    rw [hnone]
  | some i =>
    obtain ⟨hlt, hp, hbefore⟩ := List.findIdx?_eq_some_iff_getElem.mp hidx
    have hfind : names.find? (serves dev e.2.spec.interfaceName) = some names[i] := by
      rw [List.find?_eq_some_iff_getElem]
      exact ⟨hp, i, hlt, rfl, fun j hj => by simp [hbefore j hj]⟩
    have herase : names.eraseP (serves dev e.2.spec.interfaceName) = names.eraseIdx i := by
      rw [List.eraseP_eq_eraseIdx, hidx]
    rw [hfind, herase]
    dsimp only
    rw [List.getElem?_eq_getElem hlt]
    cases nextAllocation offset e.2.spec with
    | none => rfl
    | some found => cases found <;> rfl

/-- What a turn leaves: the other interfaces, and the allocations of the other pools. -/
theorem allocateFromPool_frame {st st' : List String × GoMap String NewAllocation}
    {e : (_ : String) × IPPool}
    (h : allocateFromPool dev podName podNamespace offset st e = some st') :
    st'.1 = st.1.eraseP (serves dev e.2.spec.interfaceName) ∧
      ∀ name, name ≠ e.1 → st'.2.lookup name = st.2.lookup name := by
  obtain ⟨names, news⟩ := st
  rw [allocateFromPool_eq] at h
  cases hfind : names.find? (serves dev e.2.spec.interfaceName) with
  | none =>
    rw [hfind] at h
    cases h
    exact ⟨(List.eraseP_of_forall_not (List.find?_eq_none.mp hfind)).symm, fun _ _ => rfl⟩
  | some iface =>
    rw [hfind] at h
    obtain ⟨found, -, rfl⟩ := Option.map_eq_some_iff.mp h
    exact ⟨rfl, fun name hne => lookup_withFound_ne hne found⟩

/-- The same for several pools. -/
theorem allocateFromPools_frame {pools : List ((_ : String) × IPPool)}
    {st st' : List String × GoMap String NewAllocation}
    (h : pools.foldlM (allocateFromPool dev podName podNamespace offset) st = some st') :
    st'.1 = namesLeft dev pools st.1 ∧
      ∀ name, name ∉ pools.map Sigma.fst → st'.2.lookup name = st.2.lookup name := by
  induction pools generalizing st with
  | nil =>
    cases h
    exact ⟨rfl, fun _ _ => rfl⟩
  | cons e pools ih =>
    obtain ⟨st₁, h₁, h₂⟩ := foldlM_cons_eq_some.mp h
    obtain ⟨hnames, hother⟩ := allocateFromPool_frame h₁
    obtain ⟨hnames', hother'⟩ := ih h₂
    constructor
    · rw [hnames', hnames]
      rfl
    · intro name hname
      rw [List.map_cons, List.mem_cons, not_or] at hname
      rw [hother' name hname.2, hother name hname.1]

end Turn

/-! ## The whole loop -/

section Loop

variable {listed : GoMap String IPPool}

/-- **The new allocation of one pool**: what it gives next, for the first interface it serves
among those the pools before it have left. -/
theorem allocateIPs_lookup {before after : List ((_ : String) × IPPool)}
    (hentries : listed.entries = before ++ ⟨name, pool⟩ :: after)
    (h : allocateIPs dev podName podNamespace interfaceNames offset listed = some news) :
    news.lookup name =
      ((namesLeft dev before interfaceNames).find? (serves dev pool.spec.interfaceName)).bind
        fun iface => (nextAllocation offset pool.spec).join.map fun (i, address) =>
          ⟨⟨podName, podNamespace, i, address⟩, iface⟩ := by
  obtain ⟨⟨rest, news'⟩, hloop, h⟩ := Option.bind_eq_some_iff.mp h
  cases h
  obtain ⟨hbefore, hafter⟩ := GoMap.key_notMem_of_split hentries
  rw [hentries, List.foldlM_append] at hloop
  obtain ⟨⟨names, news₁⟩, hloop₁, hloop⟩ := Option.bind_eq_some_iff.mp hloop
  obtain ⟨st₂, hturn, hloop₂⟩ := foldlM_cons_eq_some.mp hloop
  obtain ⟨hnames, hnews₁⟩ := allocateFromPools_frame hloop₁
  have hnone : news₁.lookup name = none := by
    rw [hnews₁ name hbefore]
    exact AList.lookup_empty name
  -- the pools after this one have other names
  rw [(allocateFromPools_frame hloop₂).2 name hafter]
  dsimp only at hnames
  rw [allocateFromPool_eq, hnames] at hturn
  cases hfind : (namesLeft dev before interfaceNames).find? (serves dev pool.spec.interfaceName) with
  | none =>
    rw [hfind] at hturn
    cases hturn
    exact hnone
  | some iface =>
    rw [hfind] at hturn
    obtain ⟨found, hfound, rfl⟩ := Option.map_eq_some_iff.mp hturn
    rw [hfound]
    exact lookup_withFound hnone found

/-- The loop returns when every pod CIDR has a prefix length. -/
theorem allocateIPs_isSome (hpods : ∀ e ∈ listed.entries, (maxIndexOf e.2.spec.podCIDR).isSome) :
    ∃ news, allocateIPs dev podName podNamespace interfaceNames offset listed = some news := by
  have hturn : ∀ st, ∀ e ∈ listed.entries, ∃ st',
      allocateFromPool dev podName podNamespace offset st e = some st' := by
    rintro ⟨names, news⟩ e he
    have hsome : (nextAllocation offset e.2.spec).isSome := nextAllocation_isSome (hpods e he)
    obtain ⟨found, hfound⟩ := Option.isSome_iff_exists.mp hsome
    rw [allocateFromPool_eq, hfound]
    split
    · exact ⟨_, rfl⟩
    · exact ⟨_, rfl⟩
  obtain ⟨⟨rest, news⟩, hst⟩ := foldlM_isSome hturn (interfaceNames, ∅)
  exact ⟨news, by rw [allocateIPs, hst]; rfl⟩

end Loop

/-! ## What a request leaves of the pools -/

/-- A pool without its allocations. -/
def shape (pool : IPPool) : IPPool := pool.withAllocations []

section Shape

variable {req : IPRequest} {st : DaemonState}

theorem patchIPPool_shape (poolName : String) (allocations : List Allocation)
    (pools : GoMap String IPPool) (name : String) :
    ((patchIPPool poolName allocations pools).lookup name).map shape =
      (pools.lookup name).map shape := by
  by_cases hname : name = poolName
  · subst hname
    rw [lookup_patchIPPool, Option.map_map]
    rfl
  · rw [lookup_patchIPPool_ne allocations hname]

theorem allocateIP_shape (h : allocateIP dev expired req st = some out) (name : String) :
    (out.state.pools.lookup name).map shape = (st.pools.lookup name).map shape := by
  obtain ⟨news, -, h⟩ := Option.bind_eq_some_iff.mp h
  obtain ⟨⟨pools, responses⟩, hloop, h⟩ := Option.bind_eq_some_iff.mp h
  cases h
  refine foldlM_invariant (P := fun s : GoMap String IPPool × List IPResponse =>
    (s.1.lookup name).map shape = (st.pools.lookup name).map shape) ?_ rfl hloop
  intro s s' e _ hs hturn
  obtain ⟨pool, response, -, rfl⟩ := applyNewAllocation_eq hturn
  exact (patchIPPool_shape _ _ _ _).trans hs

theorem deallocateIP_shape {st' : DaemonState} (h : deallocateIP dev req st = some (responses, st'))
    (name : String) : (st'.pools.lookup name).map shape = (st.pools.lookup name).map shape := by
  obtain ⟨⟨pools, responses'⟩, hloop, h⟩ := Option.bind_eq_some_iff.mp h
  cases h
  refine foldlM_invariant (P := fun s : GoMap String IPPool × List IPResponse =>
    (s.1.lookup name).map shape = (st.pools.lookup name).map shape) ?_ rfl hloop
  intro s s' e _ hs hturn
  rcases deallocateFromPool_cases hturn with ⟨rfl, -⟩ | ⟨-, response, rfl⟩
  · exact hs
  · exact (patchIPPool_shape _ _ _ _).trans hs

/-- A property of the shape of a pool, of every pool with the shape of one that has it. -/
theorem all_of_shape (hP : ∀ name pool pool', shape pool' = shape pool → P name pool → P name pool')
    (hshape : ∀ name, (pools'.lookup name).map shape = (pools.lookup name).map shape)
    (h : pools.All P) : pools'.All P := by
  intro name pool' hpool'
  have heq := hshape name
  rw [hpool', Option.map_some] at heq
  obtain ⟨pool, hpool, hsame⟩ := Option.map_eq_some_iff.mp heq.symm
  exact hP name pool pool' hsame.symm (h name pool hpool)

end Shape

/-! ## The responses -/

/-- The texts of a pool have a prefix length, so that the code does not panic on them. -/
structure ValidTexts (pool : IPPool) : Prop where
  pod : (maxIndexOf pool.spec.podCIDR).isSome
  vlan : ((split pool.spec.vlanCIDR '/')[1]?).isSome

theorem ValidTexts.of_shape {pool' : IPPool} (hshape : shape pool' = shape pool)
    (h : ValidTexts pool) : ValidTexts pool' := by
  have hpod : (shape pool').spec.podCIDR = (shape pool).spec.podCIDR := by rw [hshape]
  have hvlan : (shape pool').spec.vlanCIDR = (shape pool).spec.vlanCIDR := by rw [hshape]
  change pool'.spec.podCIDR = pool.spec.podCIDR at hpod
  change pool'.spec.vlanCIDR = pool.spec.vlanCIDR at hvlan
  exact ⟨hpod ▸ h.pod, hvlan ▸ h.vlan⟩

/-- Pools with the shape of pools with well-formed texts have well-formed texts. -/
theorem validTexts_of_shape
    (hshape : ∀ name, (pools'.lookup name).map shape = (pools.lookup name).map shape)
    (h : pools.All fun _ pool => ValidTexts pool) : pools'.All fun _ pool => ValidTexts pool :=
  all_of_shape (fun _ _ _ hsame hpool => hpool.of_shape hsame) hshape h

/-- The response for a new allocation. -/
def responseOf (listed : GoMap String IPPool) (e : (_ : String) × NewAllocation) :
    Option IPResponse := do
  let pool ← listed.lookup e.1
  let vlanBlockSize ← (split pool.spec.vlanCIDR '/')[1]?
  some ⟨e.2.interfaceName, e.2.allocation.address, vlanBlockSize⟩

/-- The response for the allocation of the pod in a pool. -/
def deallocResponse (dev : Devices) (req : IPRequest) (pool : IPPool) : Option IPResponse :=
  if pool.spec.netAttachDefName = req.netAttachDefName ∧ contains pool.spec.hostName req.hostName then do
    let allocation ← pool.spec.allocations.find? (isOf req.podName req.podNamespace)
    let vlanBlockSize ← (split pool.spec.vlanCIDR '/')[1]?
    some ⟨responseInterface dev pool.spec.interfaceName req.interfaceNames, allocation.address,
      vlanBlockSize⟩
  else none

section Responses

variable {req : IPRequest} {st : DaemonState}

/-- One response for each new allocation, in the order of the loop. -/
theorem allocateIP_responses (h : allocateIP dev expired req st = some out) :
    out.responses = out.newAllocations.entries.filterMap
      (responseOf (listIPPool st.pools req.hostName req.netAttachDefName)) := by
  obtain ⟨news, -, h⟩ := Option.bind_eq_some_iff.mp h
  obtain ⟨⟨pools, responses⟩, hloop, h⟩ := Option.bind_eq_some_iff.mp h
  cases h
  refine (foldlM_collect (fun s : GoMap String IPPool × List IPResponse => s.2)
    (responseOf (listIPPool st.pools req.hostName req.netAttachDefName)) ?_ hloop).trans
      (List.nil_append _)
  intro s s' e _ hturn
  obtain ⟨pool, hpool, hturn⟩ := Option.bind_eq_some_iff.mp hturn
  obtain ⟨block, hblock, hturn⟩ := Option.bind_eq_some_iff.mp hturn
  cases hturn
  rw [responseOf, hpool, Option.bind_eq_bind, Option.bind_some, hblock]
  rfl

/-- One response for each pool with an allocation of the pod. -/
theorem deallocateIP_responses {st' : DaemonState}
    (h : deallocateIP dev req st = some (responses, st')) :
    responses = (listIPPool st.pools req.hostName req.netAttachDefName).entries.filterMap
      fun e => deallocResponse dev req e.2 := by
  obtain ⟨⟨pools, responses'⟩, hloop, h⟩ := Option.bind_eq_some_iff.mp h
  cases h
  refine (foldlM_collect (fun s : GoMap String IPPool × List IPResponse => s.2)
    (fun e => deallocResponse dev req e.2) ?_ hloop).trans (List.nil_append _)
  intro s s' e _ hturn
  unfold deallocateFromPool at hturn
  unfold deallocResponse
  dsimp only at hturn
  split at hturn
  · next hof =>
    rw [if_pos hof]
    split at hturn
    · next hnone =>
      cases hturn
      rw [hnone]
      exact (List.append_nil _).symm
    · next allocation hsome =>
      obtain ⟨block, hblock, hturn⟩ := Option.bind_eq_some_iff.mp hturn
      cases hturn
      rw [hsome, Option.bind_eq_bind, Option.bind_some, hblock]
      rfl
  · next hof =>
    cases hturn
    rw [if_neg hof]
    exact (List.append_nil _).symm

/-- What a request allocates in the only listed pool that serves one of its interfaces. -/
theorem allocateIP_lookup (h : allocateIP dev expired req st = some out)
    (hpool : st.pools.lookup name = some pool) (hlisted : listed pool req = true)
    (hiface : iface ∈ req.interfaceNames)
    (hserves : serves dev pool.spec.interfaceName iface = true)
    (hothers : st.pools.All fun other p => other ≠ name → listed p req = true →
      serves dev p.spec.interfaceName iface = false) :
    ∃ interfaceName ∈ req.interfaceNames, serves dev pool.spec.interfaceName interfaceName = true ∧
      out.newAllocations.lookup name =
        (nextAllocation (offsetOf expired req st) pool.spec).join.map fun (i, address) =>
          ⟨⟨req.podName, req.podNamespace, i, address⟩, interfaceName⟩ := by
  obtain ⟨news, hnews, h⟩ := Option.bind_eq_some_iff.mp h
  obtain ⟨⟨pools, responses⟩, -, h⟩ := Option.bind_eq_some_iff.mp h
  cases h
  have hmem : (⟨name, pool⟩ : (_ : String) × IPPool) ∈
      (listIPPool st.pools req.hostName req.netAttachDefName).entries :=
    AList.mem_lookup_iff.mp (GoMap.lookup_filter.mpr ⟨hpool, hlisted⟩)
  obtain ⟨before, after, hentries⟩ := List.append_of_mem hmem
  -- the pools before it leave the interface
  have hleft : iface ∈ namesLeft dev before req.interfaceNames := by
    refine (mem_namesLeft fun e he => ?_).mpr hiface
    have hlookup : (listIPPool st.pools req.hostName req.netAttachDefName).lookup e.1 = some e.2 :=
      AList.mem_lookup_iff.mpr (by rw [hentries]; exact List.mem_append_left _ he)
    obtain ⟨hstored, hmatch⟩ := GoMap.lookup_filter.mp hlookup
    refine hothers e.1 e.2 hstored (fun heq => ?_) hmatch
    exact (GoMap.key_notMem_of_split hentries).1 (heq ▸ List.mem_map_of_mem he)
  obtain ⟨interfaceName, hfind⟩ :=
    Option.isSome_iff_exists.mp (List.find?_isSome.mpr ⟨iface, hleft, hserves⟩)
  refine ⟨interfaceName, namesLeft_subset _ _ _ (List.mem_of_find?_eq_some hfind),
    List.find?_some hfind, ?_⟩
  rw [allocateIPs_lookup hentries hnews, hfind, Option.bind_some]
  rfl

/-- A new allocation is for a requested interface that its pool serves. -/
theorem allocateIP_interface (h : allocateIP dev expired req st = some out)
    (hpool : st.pools.lookup name = some pool) (hnew : out.newAllocations.lookup name = some a) :
    a.interfaceName ∈ req.interfaceNames ∧
      serves dev pool.spec.interfaceName a.interfaceName = true := by
  obtain ⟨news, hnews, h⟩ := Option.bind_eq_some_iff.mp h
  obtain ⟨⟨pools, responses⟩, -, h⟩ := Option.bind_eq_some_iff.mp h
  cases h
  obtain ⟨pool', hlisted, -⟩ := allocateIPs_spec hnews name a hnew
  obtain rfl : pool = pool' := by
    have hstored := (GoMap.lookup_filter.mp hlisted).1
    rw [hpool] at hstored
    exact Option.some.inj hstored
  obtain ⟨before, after, hentries⟩ := List.append_of_mem (AList.mem_lookup_iff.mp hlisted)
  rw [allocateIPs_lookup hentries hnews] at hnew
  obtain ⟨iface, hfind, hnew⟩ := Option.bind_eq_some_iff.mp hnew
  obtain ⟨⟨i, address⟩, -, rfl⟩ := Option.map_eq_some_iff.mp hnew
  exact ⟨namesLeft_subset _ _ _ (List.mem_of_find?_eq_some hfind), List.find?_some hfind⟩

/-- Every new allocation is answered, when the vlan CIDR of its pool has a prefix length. -/
theorem allocateIP_answers (h : allocateIP dev expired req st = some out)
    (hpool : st.pools.lookup name = some pool) (hlisted : listed pool req = true)
    (hvalid : ValidTexts pool) (hnew : out.newAllocations.lookup name = some a) :
    ∃ response ∈ out.responses, response.interfaceName = a.interfaceName ∧
      response.ipAddress = a.allocation.address := by
  obtain ⟨block, hblock⟩ := Option.isSome_iff_exists.mp hvalid.vlan
  have hlookup : (listIPPool st.pools req.hostName req.netAttachDefName).lookup name = some pool :=
    GoMap.lookup_filter.mpr ⟨hpool, hlisted⟩
  refine ⟨⟨a.interfaceName, a.allocation.address, block⟩, ?_, rfl, rfl⟩
  rw [allocateIP_responses h, List.mem_filterMap]
  refine ⟨⟨name, a⟩, AList.mem_lookup_iff.mp hnew, ?_⟩
  rw [responseOf, hlookup, Option.bind_eq_bind, Option.bind_some, hblock]
  rfl

theorem listIPPool_all (h : pools.All P) (hostName defName : String) :
    (listIPPool pools hostName defName).All P :=
  fun name pool hl => h name pool (GoMap.lookup_filter.mp hl).1

section Returns

variable {listed : GoMap String IPPool} (hvalid : listed.All fun _ pool => ValidTexts pool)
include hvalid

theorem allocateIPs_returns :
    ∃ news, allocateIPs dev podName podNamespace interfaceNames offset listed = some news :=
  allocateIPs_isSome fun e he => (hvalid e.1 e.2 (AList.mem_lookup_iff.mpr he)).pod

/-- Each turn of `applyNewAllocations` returns. -/
theorem applyNewAllocation_returns
    (hnews : allocateIPs dev podName podNamespace interfaceNames offset listed = some news)
    (s : GoMap String IPPool × List IPResponse) (e : (_ : String) × NewAllocation)
    (he : e ∈ news.entries) : ∃ s', applyNewAllocation listed s e = some s' := by
  obtain ⟨pool, hpool, -⟩ := allocateIPs_spec hnews e.1 e.2 (AList.mem_lookup_iff.mpr he)
  obtain ⟨block, hblock⟩ := Option.isSome_iff_exists.mp (hvalid e.1 pool hpool).vlan
  rw [applyNewAllocation, hpool, Option.bind_eq_bind, Option.bind_some, hblock]
  exact ⟨_, rfl⟩

/-- Each turn of the loop of `DeallocateIP` returns. -/
theorem deallocateFromPool_returns (s : GoMap String IPPool × List IPResponse)
    (e : (_ : String) × IPPool) (he : e ∈ listed.entries) :
    ∃ s', deallocateFromPool dev req s e = some s' := by
  obtain ⟨block, hblock⟩ :=
    Option.isSome_iff_exists.mp (hvalid e.1 e.2 (AList.mem_lookup_iff.mpr he)).vlan
  unfold deallocateFromPool
  dsimp only
  split
  · split
    · exact ⟨_, rfl⟩
    · rw [hblock]
      exact ⟨_, rfl⟩
  · exact ⟨_, rfl⟩

end Returns

/-- A request on pools with well-formed texts is answered. -/
theorem allocateIP_isSome (expired : String → Bool)
    (hvalid : st.pools.All fun _ pool => ValidTexts pool) :
    ∃ out, allocateIP dev expired req st = some out := by
  have hlisted := listIPPool_all hvalid req.hostName req.netAttachDefName
  obtain ⟨news, hnews⟩ : ∃ news, allocateIPs dev req.podName req.podNamespace req.interfaceNames
      (nextOffset (flushExpiredHistory expired st.history) req.podName).1
      (listIPPool st.pools req.hostName req.netAttachDefName) = some news :=
    allocateIPs_returns hlisted
  obtain ⟨⟨pools, responses⟩, hloop⟩ :=
    foldlM_isSome (applyNewAllocation_returns hlisted hnews) (st.pools, [])
  refine ⟨⟨responses, news, pools,
    (nextOffset (flushExpiredHistory expired st.history) req.podName).2⟩,
    Option.bind_eq_some_iff.mpr ⟨news, hnews, ?_⟩⟩
  exact Option.bind_eq_some_iff.mpr ⟨(pools, responses), hloop, rfl⟩

theorem deallocateIP_isSome (hvalid : st.pools.All fun _ pool => ValidTexts pool) :
    ∃ responses st', deallocateIP dev req st = some (responses, st') := by
  have hlisted := listIPPool_all hvalid req.hostName req.netAttachDefName
  obtain ⟨⟨pools, responses⟩, hloop⟩ :=
    foldlM_isSome (deallocateFromPool_returns hlisted) (st.pools, [])
  exact ⟨responses, ⟨pools, _⟩, Option.bind_eq_some_iff.mpr ⟨(pools, responses), hloop, rfl⟩⟩

end Responses

end MultiNicCni.Daemon
