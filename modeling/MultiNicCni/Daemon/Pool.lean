import MultiNicCni.Compute.Index
import MultiNicCni.Daemon.Address
import MultiNicCni.Lib.Fold
import MultiNicCni.Lib.Lists

/-!
# The allocations of one IPPool

What `AllocateIP` and `DeallocateIP` do to one stored pool, over whole sequences of
requests. The answers that are outstanding are kept beside the state: an answer is added
when a request is answered from the pool and dropped when its pod is deallocated.

- `insertAllocation_overwrites`: **a new allocation that is not the last by index is stored
  twice and overwrites another one**, the last with a larger index;
- `allocateIP_pool`, `deallocateIP_pool`: the effect of a request on one pool;
- `RoomToAllocate`: the pool has an index after the last one, or no hole below a stored one;
- `PoolInv`: under it, the stored allocations are exactly the outstanding answers;
- `answers_stored`: **in every run whose allocations have `RoomToAllocate`, every outstanding
  answer is stored once and no address is answered twice**;
- `answers_lost`: a run in which the pool has filled once, a pod in the middle has left and
  its index is given again.
-/

namespace MultiNicCni.Daemon

open Go Compute Lib

variable {j i maxIndex offset : Int} {allocations : List Allocation} {address name : String}
  {expired : String → Bool} {spec : IPPoolSpec} {dev : Devices} {req : IPRequest} {st : DaemonState}
  {pools : GoMap String IPPool} {responses : List IPResponse}

/-! ## Splicing -/

theorem toInsertIndex_eq_none {newIndex : Int} (h : ∀ a ∈ allocations, a.index ≤ newIndex) :
    toInsertIndex allocations newIndex = none := by
  refine foldl_invariant (P := fun pos : Option Nat => pos = none) ?_ rfl
  rintro pos ⟨a, i⟩ hmem hpos
  have hle := h a (List.fst_mem_of_mem_zipIdx hmem)
  exact (if_neg (by omega)).trans hpos

theorem toInsertIndex_lt {newIndex : Int} {i : Nat}
    (h : toInsertIndex allocations newIndex = some i) : i < allocations.length := by
  have hinv : ∀ j, toInsertIndex allocations newIndex = some j → j < allocations.length := by
    refine foldl_invariant (P := fun pos : Option Nat => ∀ j, pos = some j →
      j < allocations.length) ?_ (fun j hj => by cases hj)
    rintro pos ⟨a, k⟩ hmem hpos j hj
    dsimp only at hj
    split at hj
    · cases hj
      simpa using (List.mem_zipIdx hmem).2.1
    · exact hpos j hj
  exact hinv i h

/-- An allocation with the largest index is appended. -/
theorem insertAllocation_append {new : Allocation} (h : ∀ a ∈ allocations, a.index ≤ new.index) :
    insertAllocation allocations new = allocations ++ [new] := by
  rw [insertAllocation, toInsertIndex_eq_none h]

/-- **The splice loses an allocation**: the new one is stored twice, in its own place and in
the place of the last one with a larger index. -/
theorem insertAllocation_overwrites {new : Allocation} {i : Nat}
    (h : toInsertIndex allocations new.index = some i) :
    insertAllocation allocations new =
      allocations.take i ++ [new, new] ++ allocations.drop (i + 1) := by
  have hlt := toInsertIndex_lt h
  have hroom : i + [new].length ≤ allocations.length := hlt
  rw [insertAllocation, h]
  simp only [appendTo_room hroom]
  rw [List.append_assoc (allocations.take i) [new] (allocations.drop _),
    List.drop_append_of_le_length (by rw [List.length_take]; omega),
    List.drop_eq_nil_of_le (by rw [List.length_take]; omega)]
  simp

/-! ## The next index -/

theorem mem_indexRange {lo hi : Int} : j ∈ indexRange lo hi ↔ lo ≤ j ∧ j ≤ hi := by
  rw [indexRange, List.mem_map]
  constructor
  · rintro ⟨k, hk, rfl⟩
    rw [List.mem_range] at hk
    omega
  · rintro ⟨hlo, hhi⟩
    exact ⟨(j - lo).toNat, by rw [List.mem_range]; omega, by omega⟩

theorem mem_generateAllocateIndexes {excludes : List ExcludeRange} :
    j ∈ generateAllocateIndexes allocations maxIndex excludes ↔
      (∃ a ∈ allocations, a.index = j) ∨
        ∃ r ∈ excludes, r.minIndex ≤ j ∧ j ≤ r.maxIndex ∧ j ≤ maxIndex := by
  rw [generateAllocateIndexes, (sortInts_perm _).mem_iff, List.mem_append, List.mem_map,
    List.mem_flatMap]
  simp only [mem_indexRange, le_min_iff]

theorem getExcludeRanges_nonneg {cidr : String} {excludes : List String} {r : ExcludeRange}
    (h : r ∈ getExcludeRanges cidr excludes) : 0 ≤ r.minIndex := by
  obtain ⟨exclude, -, hr⟩ := List.mem_filterMap.mp h
  unfold excludeRange at hr
  dsimp only at hr
  split at hr
  · cases hr
  · next hnn =>
    cases hr
    exact Int.not_lt.mp hnn

/-- The indexes of a pool in use or excluded, as `allocateIP` computes them. -/
def usedIndexes (spec : IPPoolSpec) (maxIndex : Int) : List Int :=
  generateAllocateIndexes spec.allocations maxIndex (getExcludeRanges spec.podCIDR spec.excludes)

section AfterLast

variable (hoffset : 1 ≤ offset)
include hoffset

/-- The index after the last one is larger than every used one. -/
theorem lt_indexAfterLast (hj : j ∈ usedIndexes spec maxIndex) :
    j < indexAfterLast (usedIndexes spec maxIndex) offset := by
  unfold indexAfterLast
  cases hlast : (usedIndexes spec maxIndex).getLast? with
  | none =>
    rw [List.getLast?_eq_none_iff.mp hlast] at hj
    exact absurd hj List.not_mem_nil
  | some last =>
    have hle := (sortInts_getLast hlast).2 j ((sortInts_perm _).mem_iff.mp hj)
    dsimp only
    omega

theorem one_le_indexAfterLast (hnonneg : ∀ j ∈ usedIndexes spec maxIndex, 0 ≤ j) :
    1 ≤ indexAfterLast (usedIndexes spec maxIndex) offset := by
  unfold indexAfterLast
  cases hlast : (usedIndexes spec maxIndex).getLast? with
  | none => exact hoffset
  | some last =>
    have := hnonneg last (List.mem_of_getLast? hlast)
    dsimp only
    omega

end AfterLast

/-- What a pool gives next, with the maximum of its indexes. -/
theorem nextAllocation_eq (hmax : maxIndexOf spec.podCIDR = some maxIndex) :
    nextAllocation offset spec =
      if indexAfterLast (usedIndexes spec maxIndex) offset < maxIndex then
        some (some (indexAfterLast (usedIndexes spec maxIndex) offset,
          getAddressByIndex spec.podCIDR (indexAfterLast (usedIndexes spec maxIndex) offset)))
      else if findAvailableIndex (usedIndexes spec maxIndex) 0 ≠ -1 then
        some (some (findAvailableIndex (usedIndexes spec maxIndex) 0,
          getAddressByIndex spec.podCIDR (findAvailableIndex (usedIndexes spec maxIndex) 0)))
      else some none := by
  rw [nextAllocation, hmax]
  rfl

/-- The next index can be given without a splice: there is one after the last used, or the
used ones are distinct and positive and every index below a stored one is used. -/
def RoomToAllocate (offset : Int) (spec : IPPoolSpec) : Prop :=
  ∀ maxIndex ∈ maxIndexOf spec.podCIDR,
    indexAfterLast (usedIndexes spec maxIndex) offset < maxIndex ∨
      ((usedIndexes spec maxIndex).Pairwise (· < ·) ∧ (∀ j ∈ usedIndexes spec maxIndex, 1 ≤ j) ∧
        ∀ a ∈ spec.allocations, ∀ j ∈ indexRange 1 a.index, j ∈ usedIndexes spec maxIndex)

instance (offset : Int) (spec : IPPoolSpec) : Decidable (RoomToAllocate offset spec) :=
  inferInstanceAs (Decidable (∀ maxIndex ∈ maxIndexOf spec.podCIDR, _))

section Next

variable {ip : IP4} {n : IPNet}

theorem maxIndexOf_eq (h : parseCIDR spec.podCIDR = some (ip, n)) :
    maxIndexOf spec.podCIDR = some (2 ^ (32 - n.ones) - 2) := by
  have hle := n.ones_le
  have hpow : powMinusTwo (32 - (n.ones : Int)) = 2 ^ (32 - n.ones) - 2 := by
    rw [powMinusTwo, if_neg (by omega), if_pos (by omega),
      show (32 - (n.ones : Int)).toNat = 32 - n.ones by omega]
  simp [maxIndexOf, blockOf_eq h, hpow]

theorem maxIndex_lt (n : IPNet) : (2 : Int) ^ (32 - n.ones) - 2 < 2 ^ 32 := by
  have hpow : (2 : Int) ^ (32 - n.ones) ≤ 2 ^ 32 := pow_le_pow_right₀ (by omega) (by omega)
  omega

/-- The inversion of `nextAllocation`: the index comes after the last one, or from the
search for a gap. -/
theorem nextAllocation_cases (h : parseCIDR spec.podCIDR = some (ip, n))
    (hnext : nextAllocation offset spec = some (some (i, address))) :
    address = getAddressByIndex spec.podCIDR i ∧
      ((i = indexAfterLast (usedIndexes spec (2 ^ (32 - n.ones) - 2)) offset ∧
          i < 2 ^ (32 - n.ones) - 2) ∨
        (¬ indexAfterLast (usedIndexes spec (2 ^ (32 - n.ones) - 2)) offset <
            2 ^ (32 - n.ones) - 2 ∧
          i = findAvailableIndex (usedIndexes spec (2 ^ (32 - n.ones) - 2)) 0 ∧ i ≠ -1)) := by
  obtain ⟨maxIndex, hmax, hnext⟩ := Option.bind_eq_some_iff.mp hnext
  rw [maxIndexOf_eq h] at hmax
  obtain rfl := Option.some.inj hmax
  dsimp only at hnext
  split at hnext
  · next hlt =>
    cases hnext
    exact ⟨rfl, Or.inl ⟨rfl, hlt⟩⟩
  · next hge =>
    split at hnext
    · next hne =>
      cases hnext
      exact ⟨rfl, Or.inr ⟨hge, rfl, hne⟩⟩
    · cases hnext

/-- With room but none after the last index, the search finds the least gap. -/
theorem RoomToAllocate.leastGap (hroom : RoomToAllocate offset spec)
    (h : parseCIDR spec.podCIDR = some (ip, n))
    (hge : ¬ indexAfterLast (usedIndexes spec (2 ^ (32 - n.ones) - 2)) offset <
      2 ^ (32 - n.ones) - 2)
    (hne : findAvailableIndex (usedIndexes spec (2 ^ (32 - n.ones) - 2)) 0 ≠ -1) :
    IsGap 1 (usedIndexes spec (2 ^ (32 - n.ones) - 2))
        (findAvailableIndex (usedIndexes spec (2 ^ (32 - n.ones) - 2)) 0) ∧
      ∀ a ∈ spec.allocations, ∀ j ∈ indexRange 1 a.index,
        j ∈ usedIndexes spec (2 ^ (32 - n.ones) - 2) := by
  obtain ⟨hstrict, hpos, hbelow⟩ := (hroom _ (maxIndexOf_eq h)).resolve_left hge
  have hspec := findAvailableIndex_spec hstrict hpos (show (0 : Int) ≤ 0 + 1 by omega)
  rw [← findAvailableIndex_eq_compute] at hspec
  exact ⟨hspec.resolve_left fun hnone => hne hnone.1, hbelow⟩

/-- With room, the next index is larger than every stored one. -/
theorem nextAllocation_room (h : parseCIDR spec.podCIDR = some (ip, n)) (hoffset : 1 ≤ offset)
    (hstored : ∀ a ∈ spec.allocations, 1 ≤ a.index ∧ a.index < 2 ^ 32)
    (hroom : RoomToAllocate offset spec)
    (hnext : nextAllocation offset spec = some (some (i, address))) :
    (∀ a ∈ spec.allocations, a.index < i) ∧ 1 ≤ i ∧ i < 2 ^ 32 ∧
      address = getAddressByIndex spec.podCIDR i := by
  have hmax := maxIndex_lt n
  have hused : ∀ j ∈ usedIndexes spec (2 ^ (32 - n.ones) - 2), 0 ≤ j ∧ j < 2 ^ 32 := by
    intro j hj
    rcases mem_generateAllocateIndexes.mp hj with ⟨a, ha, rfl⟩ | ⟨r, hr, hmin, -, hle⟩
    · have := hstored a ha
      omega
    · have := getExcludeRanges_nonneg hr
      omega
  have hin : ∀ a ∈ spec.allocations, a.index ∈ usedIndexes spec (2 ^ (32 - n.ones) - 2) :=
    fun a ha => mem_generateAllocateIndexes.mpr (Or.inl ⟨a, ha, rfl⟩)
  obtain ⟨haddr, hcases⟩ := nextAllocation_cases h hnext
  rcases hcases with ⟨rfl, hlt⟩ | ⟨hge, rfl, hne⟩
  · -- one offset after the last index
    exact ⟨fun a ha => lt_indexAfterLast hoffset (hin a ha),
      one_le_indexAfterLast hoffset fun j hj => (hused j hj).1, by omega, haddr⟩
  · -- the least gap, and there is none below a stored index
    obtain ⟨hgap, hbelow⟩ := hroom.leastGap h hge hne
    obtain ⟨x, hx, hlt⟩ := hgap.lt
    have hbound := hused x hx
    have hle := hgap.le
    refine ⟨?_, hle, lt_trans hlt hbound.2, haddr⟩
    intro a ha
    by_contra hnot
    exact hgap.not_mem (hbelow a ha _ (mem_indexRange.mpr ⟨hle, Int.not_lt.mp hnot⟩))

end Next

/-! ## The effect of a request on one pool -/

section Effect

variable {pool : IPPool}

theorem lookup_patchIPPool_ne {poolName : String} (allocations : List Allocation)
    (hne : name ≠ poolName) :
    (patchIPPool poolName allocations pools).lookup name = pools.lookup name := by
  unfold patchIPPool
  split
  · rw [AList.lookup_insert_ne hne]
  · rfl

theorem lookup_patchIPPool (allocations : List Allocation) :
    (patchIPPool name allocations pools).lookup name =
      (pools.lookup name).map (·.withAllocations allocations) := by
  unfold patchIPPool
  cases hl : pools.lookup name with
  | some pool => exact AList.lookup_insert _
  | none => exact hl

/-- One turn of `applyNewAllocations`: the pool is patched and answered for. -/
theorem applyNewAllocation_eq {listed : GoMap String IPPool}
    {s s' : GoMap String IPPool × List IPResponse} {entry : (_ : String) × NewAllocation}
    (h : applyNewAllocation listed s entry = some s') :
    ∃ pool response, listed.lookup entry.1 = some pool ∧
      s' = (patchIPPool entry.1 (insertAllocation pool.spec.allocations entry.2.allocation) s.1,
        s.2 ++ [response]) := by
  obtain ⟨pool, hpool, h⟩ := Option.bind_eq_some_iff.mp h
  obtain ⟨vlanBlockSize, -, h⟩ := Option.bind_eq_some_iff.mp h
  cases h
  exact ⟨pool, _, hpool, rfl⟩

/-- The pool is one of the network and of the host of the request, by its spec. -/
def ofRequest (pool : IPPool) (req : IPRequest) : Prop :=
  pool.spec.netAttachDefName = req.netAttachDefName ∧
    contains pool.spec.hostName req.hostName = true

/-- One turn of the loop of `DeallocateIP`: nothing, or the pool is patched and answered for. -/
theorem deallocateFromPool_cases {s s' : GoMap String IPPool × List IPResponse}
    {entry : (_ : String) × IPPool} (h : deallocateFromPool dev req s entry = some s') :
    (s' = s ∧ (ofRequest entry.2 req →
        ∀ a ∈ entry.2.spec.allocations, ¬ isOf req.podName req.podNamespace a = true)) ∨
      (ofRequest entry.2 req ∧ ∃ response, s' = (patchIPPool entry.1
        (entry.2.spec.allocations.eraseP (isOf req.podName req.podNamespace)) s.1,
        s.2 ++ [response])) := by
  unfold deallocateFromPool at h
  dsimp only at h
  split at h
  · next hcond =>
    split at h
    · next hnone =>
      cases h
      exact Or.inl ⟨rfl, fun _ => List.find?_eq_none.mp hnone⟩
    · obtain ⟨vlanBlockSize, -, h⟩ := Option.bind_eq_some_iff.mp h
      cases h
      exact Or.inr ⟨hcond, _, rfl⟩
  · next hcond =>
    cases h
    exact Or.inl ⟨rfl, fun hof => absurd hof hcond⟩

/-- Every new allocation is what its pool gives next. -/
theorem allocateIPs_spec {podName podNamespace : String} {interfaceNames : List String}
    {listed : GoMap String IPPool} {news : GoMap String NewAllocation}
    (h : allocateIPs dev podName podNamespace interfaceNames offset listed = some news) :
    news.All fun name a => ∃ pool, listed.lookup name = some pool ∧ ∃ i address,
      nextAllocation offset pool.spec = some (some (i, address)) ∧
      a.allocation = ⟨podName, podNamespace, i, address⟩ := by
  obtain ⟨⟨rest, news'⟩, hloop, h⟩ := Option.bind_eq_some_iff.mp h
  cases h
  refine foldlM_invariant (P := fun st : List String × GoMap String NewAllocation => st.2.All
    fun name a => ∃ pool, listed.lookup name = some pool ∧ ∃ i address,
      nextAllocation offset pool.spec = some (some (i, address)) ∧
      a.allocation = ⟨podName, podNamespace, i, address⟩) ?_ (GoMap.All.empty _) hloop
  rintro ⟨names, news⟩ st' ⟨name, pool⟩ hmem hall hturn
  unfold allocateFromPool at hturn
  dsimp only at hturn
  split at hturn
  · cases hturn
    exact hall
  · obtain ⟨iface, -, hturn⟩ := Option.bind_eq_some_iff.mp hturn
    obtain ⟨found, hfound, hturn⟩ := Option.bind_eq_some_iff.mp hturn
    cases found with
    | none =>
      cases hturn
      exact hall
    | some found =>
      obtain ⟨i, address⟩ := found
      cases hturn
      exact hall.insert ⟨pool, AList.mem_lookup_iff.mpr hmem, i, address, hfound, rfl⟩

/-- The offset of a request. -/
def offsetOf (expired : String → Bool) (req : IPRequest) (st : DaemonState) : Int :=
  (nextOffset (flushExpiredHistory expired st.history) req.podName).1

/-- The pool is listed for the request. -/
def listed (pool : IPPool) (req : IPRequest) : Bool :=
  pool.hostNameLabel == req.hostName && pool.defNameLabel == req.netAttachDefName

/-- **`AllocateIP` on one pool**: it is left alone and answers nothing, or it answers with
the index it gives next, and stores that allocation. -/
theorem allocateIP_pool {out : Served} (h : allocateIP dev expired req st = some out)
    (hpool : st.pools.lookup name = some pool) :
    (out.newAllocations.lookup name = none ∧ out.state.pools.lookup name = some pool) ∨
      ∃ i address interfaceName, listed pool req = true ∧
        nextAllocation (offsetOf expired req st) pool.spec = some (some (i, address)) ∧
        out.newAllocations.lookup name =
          some ⟨⟨req.podName, req.podNamespace, i, address⟩, interfaceName⟩ ∧
        out.state.pools.lookup name = some (pool.withAllocations (insertAllocation
          pool.spec.allocations ⟨req.podName, req.podNamespace, i, address⟩)) := by
  obtain ⟨news, hnews, h⟩ := Option.bind_eq_some_iff.mp h
  obtain ⟨⟨pools, responses⟩, hloop, h⟩ := Option.bind_eq_some_iff.mp h
  cases h
  set listed := listIPPool st.pools req.hostName req.netAttachDefName with hlisted
  have hkeyed := foldlM_keyed (fun s : GoMap String IPPool × List IPResponse => s.1.lookup)
    (fun name (a : NewAllocation) before after => ∃ pool, listed.lookup name = some pool ∧
      after = before.map fun p : IPPool =>
        p.withAllocations (insertAllocation pool.spec.allocations a.allocation))
    ?_ ?_ news.nodupKeys hloop name
  · cases hl : news.lookup name with
    | none =>
      refine Or.inl ⟨rfl, ?_⟩
      rw [hkeyed.1 fun a ha => ?_]
      · exact hpool
      · rw [AList.mem_lookup_iff.mpr ha] at hl
        cases hl
    | some a =>
      obtain ⟨pool', hpool', i, address, hnext, ha⟩ := allocateIPs_spec hnews name a hl
      obtain ⟨hstored, hmatch⟩ := GoMap.lookup_filter.mp hpool'
      rw [hpool] at hstored
      obtain rfl := Option.some.inj hstored
      obtain ⟨pool'', hpool'', hafter⟩ := hkeyed.2 a (AList.mem_lookup_iff.mp hl)
      rw [hpool'] at hpool''
      obtain rfl := Option.some.inj hpool''
      refine Or.inr ⟨i, address, a.interfaceName, hmatch, hnext, ?_, ?_⟩
      · rw [← ha]
      · rw [hafter, hpool, ← ha]
        rfl
  · rintro s s' e k hturn hne
    obtain ⟨p, response, -, rfl⟩ := applyNewAllocation_eq hturn
    exact lookup_patchIPPool_ne _ hne
  · rintro s s' e - hturn
    obtain ⟨p, response, hp, rfl⟩ := applyNewAllocation_eq hturn
    exact ⟨p, hp, lookup_patchIPPool _⟩

/-- The request deallocates from the pool. -/
def reached (pool : IPPool) (req : IPRequest) : Bool :=
  listed pool req && (pool.spec.netAttachDefName == req.netAttachDefName &&
    contains pool.spec.hostName req.hostName)

/-- **`DeallocateIP` on one pool**: a pool it reaches loses its first allocation of the pod. -/
theorem deallocateIP_pool {st' : DaemonState} (h : deallocateIP dev req st = some (responses, st'))
    (hpool : st.pools.lookup name = some pool) :
    st'.pools.lookup name = some (if reached pool req then pool.withAllocations
      (pool.spec.allocations.eraseP (isOf req.podName req.podNamespace)) else pool) := by
  obtain ⟨⟨pools, responses⟩, hloop, h⟩ := Option.bind_eq_some_iff.mp h
  cases h
  have hkeyed := foldlM_keyed (fun s : GoMap String IPPool × List IPResponse => s.1.lookup)
    (fun _ (p : IPPool) before after => before = some p → after = some
      (if p.spec.netAttachDefName = req.netAttachDefName ∧ contains p.spec.hostName req.hostName
        then p.withAllocations (p.spec.allocations.eraseP (isOf req.podName req.podNamespace))
        else p))
    ?_ ?_ (listIPPool st.pools req.hostName req.netAttachDefName).nodupKeys hloop name
  · by_cases hlisted : listed pool req = true
    · have hmem : (⟨name, pool⟩ : (_ : String) × IPPool) ∈
          (listIPPool st.pools req.hostName req.netAttachDefName).entries :=
        AList.mem_lookup_iff.mp (GoMap.lookup_filter.mpr ⟨hpool, hlisted⟩)
      rw [hkeyed.2 pool hmem hpool]
      simp only [reached, hlisted, Bool.true_and, Bool.and_eq_true, beq_iff_eq]
    · rw [hkeyed.1 fun p hp => ?_, hpool]
      · rw [reached, Bool.eq_false_iff.mpr hlisted, Bool.false_and]
        rfl
      · obtain ⟨hl, hmatch⟩ := GoMap.lookup_filter.mp (AList.mem_lookup_iff.mpr hp)
        rw [hpool] at hl
        obtain rfl := Option.some.inj hl
        exact hlisted hmatch
  · rintro s s' e k hturn hne
    rcases deallocateFromPool_cases hturn with ⟨rfl, -⟩ | ⟨-, response, rfl⟩
    · rfl
    · exact lookup_patchIPPool_ne _ hne
  · rintro s s' ⟨name, p⟩ - hturn hbefore
    rcases deallocateFromPool_cases hturn with ⟨rfl, hnone⟩ | ⟨hof, response, rfl⟩
    · refine hbefore.trans (congrArg some ?_)
      split
      · next hof =>
        -- the pool has no allocation of the pod
        rw [List.eraseP_of_forall_not (hnone hof)]
        rfl
      · rfl
    · refine Eq.trans ?_ (congrArg some (if_pos hof).symm)
      show (patchIPPool name _ s.1).lookup name = _
      rw [lookup_patchIPPool, show s.1.lookup name = some p from hbefore]
      rfl

end Effect

/-! ## Runs -/

/-- An answer of the daemon from the pool that is looked at. -/
structure Answer where
  pod : String
  podNamespace : String
  address : String
  deriving DecidableEq, Repr

variable {s : DaemonState × List Answer}

/-- The pod of an answer. -/
def Answer.key (a : Answer) : String × String := (a.pod, a.podNamespace)

/-- The answer a stored allocation stands for. -/
def toAnswer (a : Allocation) : Answer := ⟨a.pod, a.podNamespace, a.address⟩

/-- A request to the daemon; for an allocation, with the history records that have expired. -/
inductive Event where
  | allocate (expired : String → Bool) (req : IPRequest)
  | deallocate (req : IPRequest)

/-- The answer from the pool `name` that serving a request makes. -/
def answerFrom (name : String) (req : IPRequest) (out : Served) : List Answer :=
  match out.newAllocations.lookup name with
  | some a => [⟨req.podName, req.podNamespace, a.allocation.address⟩]
  | none => []

/-- The answers outstanding after a deallocation. -/
def remaining (name : String) (req : IPRequest) (st : DaemonState) (answers : List Answer) :
    List Answer :=
  if (st.pools.lookup name).any (reached · req) then
    answers.filter fun a => a.key ≠ (req.podName, req.podNamespace)
  else answers

/-- Serve a request, with the answers outstanding from the pool `name`. -/
def serve (dev : Devices) (name : String) (s : DaemonState × List Answer) (e : Event) :
    Option (DaemonState × List Answer) :=
  match e with
  | .allocate expired req => do
    let out ← allocateIP dev expired req s.1
    some (out.state, s.2 ++ answerFrom name req out)
  | .deallocate req => do
    let (_, st) ← deallocateIP dev req s.1
    some (st, remaining name req s.1 s.2)

/-- The requests that may come: a pod is allocated only while it has no outstanding answer;
`C` is what is assumed of the pool and the offset at an allocation. -/
def Allowed (C : Int → IPPoolSpec → Prop) (name : String) (s : DaemonState × List Answer) :
    Event → Prop
  | .allocate expired req =>
    (req.podName, req.podNamespace) ∉ s.2.map Answer.key ∧
      ∀ pool ∈ s.1.pools.lookup name, listed pool req = true → C (offsetOf expired req s.1) pool.spec
  | .deallocate _ => True

/-- The states reachable while the daemon serves requests, starting with an empty pool of
prefix length at most 30. The iteration order of the stored pools can change any time. -/
inductive Serves (dev : Devices) (C : Int → IPPoolSpec → Prop) (name : String) :
    DaemonState × List Answer → Prop
  | start {st pool ip n} : st.pools.lookup name = some pool → pool.spec.allocations = [] →
      parseCIDR pool.spec.podCIDR = some (ip, n) → n.ones ≤ 30 →
      (∀ podName offset, st.history.lookup podName = some offset → 1 ≤ offset) →
      Serves dev C name (st, [])
  | reorder {st answers pools} : Serves dev C name (st, answers) →
      pools.entries.Perm st.pools.entries → Serves dev C name (⟨pools, st.history⟩, answers)
  | step {s s' e} : Serves dev C name s → Allowed C name s e → serve dev name s e = some s' →
      Serves dev C name s'

/-! ## The invariant -/

/-- The stored allocations are the outstanding answers, under distinct indexes. -/
structure PoolInv (pool : IPPool) (answers : List Answer) : Prop where
  parsed : ∃ ip n, parseCIDR pool.spec.podCIDR = some (ip, n)
  stored : (pool.spec.allocations.map toAnswer).Perm answers
  pods : (answers.map Answer.key).Nodup
  indexes : (pool.spec.allocations.map (·.index)).Nodup
  bounds : ∀ a ∈ pool.spec.allocations, 1 ≤ a.index ∧ a.index < 2 ^ 32
  addresses : ∀ a ∈ pool.spec.allocations, a.address = getAddressByIndex pool.spec.podCIDR a.index

section Inv

variable {pool : IPPool} {answers : List Answer}

theorem PoolInv.allocate (h : PoolInv pool answers) {pod ns : String} (hoffset : 1 ≤ offset)
    (hroom : RoomToAllocate offset pool.spec)
    (hnext : nextAllocation offset pool.spec = some (some (i, address)))
    (hnew : (pod, ns) ∉ answers.map Answer.key) :
    PoolInv (pool.withAllocations (insertAllocation pool.spec.allocations ⟨pod, ns, i, address⟩))
      (answers ++ [⟨pod, ns, address⟩]) := by
  obtain ⟨ip, n, hparse⟩ := h.parsed
  obtain ⟨hlarger, hpos, hlt, haddr⟩ := nextAllocation_room hparse hoffset h.bounds hroom hnext
  rw [insertAllocation_append fun a ha => le_of_lt (hlarger a ha)]
  refine ⟨⟨ip, n, hparse⟩, ?_, ?_, ?_, ?_, ?_⟩
  · show ((pool.spec.allocations ++ [_]).map toAnswer).Perm _
    rw [List.map_append]
    exact h.stored.append_right _
  · rw [List.map_append, List.nodup_append]
    refine ⟨h.pods, List.nodup_singleton _, ?_⟩
    rintro k hk k' hk' rfl
    rw [List.mem_singleton.mp hk'] at hk
    exact hnew hk
  · show ((pool.spec.allocations ++ [_]).map Allocation.index).Nodup
    rw [List.map_append, List.nodup_append]
    refine ⟨h.indexes, List.nodup_singleton _, ?_⟩
    rintro j hj j' hj' rfl
    obtain ⟨a, ha, rfl⟩ := List.mem_map.mp hj
    rw [List.map_singleton, List.mem_singleton] at hj'
    exact absurd hj' (ne_of_lt (hlarger a ha))
  · intro a ha
    rcases List.mem_append.mp ha with ha | ha
    · exact h.bounds a ha
    · rw [List.mem_singleton.mp ha]
      exact ⟨hpos, hlt⟩
  · intro a ha
    rcases List.mem_append.mp ha with ha | ha
    · exact h.addresses a ha
    · rw [List.mem_singleton.mp ha]
      exact haddr

/-- With one allocation per pod at most, removing the first is removing all. -/
theorem eraseP_isOf {pod ns : String} {l : List Allocation}
    (hnd : ((l.map toAnswer).map Answer.key).Nodup) :
    l.eraseP (isOf pod ns) = l.filter fun a => !isOf pod ns a := by
  refine eraseP_eq_filter ?_
  have hown : ∀ k ∈ ((l.filter (isOf pod ns)).map toAnswer).map Answer.key, k = (pod, ns) := by
    simp only [List.map_map, List.mem_map, List.mem_filter, isOf, Bool.and_eq_true, beq_iff_eq]
    rintro k ⟨a, ⟨-, hpod, hns⟩, rfl⟩
    exact Prod.ext hpod hns
  have hsub := hnd.sublist
    (((List.filter_sublist : (l.filter (isOf pod ns)).Sublist l).map toAnswer).map Answer.key)
  rw [List.eq_replicate_of_mem hown, List.nodup_replicate, List.length_map, List.length_map] at hsub
  exact hsub

theorem PoolInv.deallocate (h : PoolInv pool answers) (pod ns : String) :
    PoolInv (pool.withAllocations (pool.spec.allocations.eraseP (isOf pod ns)))
      (answers.filter fun a => a.key ≠ (pod, ns)) := by
  have hsub : (pool.spec.allocations.eraseP (isOf pod ns)).Sublist pool.spec.allocations :=
    List.eraseP_sublist
  have hkeys : ((pool.spec.allocations.map toAnswer).map Answer.key).Nodup := by
    rw [(h.stored.map _).nodup_iff]
    exact h.pods
  refine ⟨h.parsed, ?_, h.pods.sublist (List.filter_sublist.map _),
    h.indexes.sublist (hsub.map _), fun a ha => h.bounds a (hsub.subset ha),
    fun a ha => h.addresses a (hsub.subset ha)⟩
  show ((pool.spec.allocations.eraseP (isOf pod ns)).map toAnswer).Perm _
  refine List.Perm.trans (List.Perm.of_eq ?_) (h.stored.filter _)
  rw [eraseP_isOf hkeys, List.filter_map]
  refine congrArg _ (List.filter_congr fun a _ => ?_)
  by_cases hp : a.pod = pod <;> by_cases hn : a.podNamespace = ns <;>
    simp [isOf, Answer.key, toAnswer, hp, hn]

/-- What the invariant says about the answers. -/
theorem PoolInv.answered (h : PoolInv pool answers) :
    (∀ a ∈ answers, (pool.spec.allocations.filter (isOf a.pod a.podNamespace)).map (·.address) =
      [a.address]) ∧ answers.Pairwise fun a b => a.address ≠ b.address := by
  constructor
  · intro a ha
    have hone : answers.filter (fun b => b.key = a.key) = [a] := by
      have hnd := h.pods
      obtain ⟨before, after, rfl⟩ := List.append_of_mem ha
      rw [List.map_append, List.map_cons, List.nodup_append, List.nodup_cons] at hnd
      have hbefore : before.filter (fun b => decide (b.key = a.key)) = [] :=
        List.filter_eq_nil_iff.mpr fun b hb hkey => hnd.2.2 b.key (List.mem_map_of_mem hb) a.key
          List.mem_cons_self (of_decide_eq_true hkey)
      have hafter : after.filter (fun b => decide (b.key = a.key)) = [] :=
        List.filter_eq_nil_iff.mpr fun b hb hkey =>
          hnd.2.1.1 (of_decide_eq_true hkey ▸ List.mem_map_of_mem hb)
      rw [List.filter_append, hbefore, List.filter_cons_of_pos (by simp), hafter]
      rfl
    have hperm := h.stored.filter fun b => decide (b.key = a.key)
    rw [hone, List.filter_map] at hperm
    have hlist := congrArg (List.map Answer.address) (List.perm_singleton.mp hperm)
    rw [List.map_map] at hlist
    refine Eq.trans ?_ hlist
    refine congrArg _ (List.filter_congr fun b _ => ?_)
    by_cases hp : b.pod = a.pod <;> by_cases hn : b.podNamespace = a.podNamespace <;>
      simp [isOf, Answer.key, toAnswer, hp, hn]
  · obtain ⟨ip, n, hparse⟩ := h.parsed
    have hpair : (pool.spec.allocations.map toAnswer).Pairwise
        fun a b => a.address ≠ b.address := by
      rw [List.pairwise_map]
      refine (List.pairwise_map.mp h.indexes).imp_of_mem fun {a b} ha hb hne heq => hne ?_
      have hba := h.bounds a ha
      have hbb := h.bounds b hb
      refine getAddressByIndex_inj hparse (by omega) (by omega) (by omega) (by omega) ?_
      rw [← h.addresses a ha, ← h.addresses b hb]
      exact heq
    exact hpair.perm h.stored fun hne => hne.symm

end Inv

section Run

/-- Offsets in the history are positive, and so is the offset of a request. -/
theorem offsetOf_pos (h : ∀ podName offset, st.history.lookup podName = some offset → 1 ≤ offset) :
    1 ≤ offsetOf expired req st := by
  unfold offsetOf nextOffset
  cases hl : (flushExpiredHistory expired st.history).lookup req.podName with
  | none => exact le_rfl
  | some last =>
    have := h _ _ (GoMap.lookup_filter.mp hl).1
    dsimp only
    omega

theorem allocateIP_history {out : Served} (h : allocateIP dev expired req st = some out) :
    out.state.history = (nextOffset (flushExpiredHistory expired st.history) req.podName).2 := by
  obtain ⟨news, -, h⟩ := Option.bind_eq_some_iff.mp h
  obtain ⟨⟨pools, responses⟩, -, h⟩ := Option.bind_eq_some_iff.mp h
  cases h
  rfl

theorem deallocateIP_history {st' : DaemonState}
    (h : deallocateIP dev req st = some (responses, st')) :
    st'.history = match st.history.lookup req.podName with
      | some _ => st.history
      | none => st.history.insert req.podName 1 := by
  obtain ⟨⟨pools, rs⟩, -, h⟩ := Option.bind_eq_some_iff.mp h
  cases h
  rfl

/-- The history keeps positive offsets. -/
theorem serve_history {s' : DaemonState × List Answer} {e : Event}
    (h : s.1.history.All fun _ offset => 1 ≤ offset) (hs : serve dev name s e = some s') :
    s'.1.history.All fun _ offset => 1 ≤ offset := by
  cases e with
  | allocate expired req =>
    obtain ⟨out, hout, hs⟩ := Option.bind_eq_some_iff.mp hs
    cases hs
    have hflush : (flushExpiredHistory expired s.1.history).All fun _ offset => 1 ≤ offset :=
      fun podName offset hl => h podName offset (GoMap.lookup_filter.mp hl).1
    rw [allocateIP_history hout]
    unfold nextOffset
    cases hl : (flushExpiredHistory expired s.1.history).lookup req.podName with
    | none => exact hflush
    | some last =>
      have := hflush _ _ hl
      exact hflush.insert (by omega)
  | deallocate req =>
    obtain ⟨⟨responses, st⟩, hout, hs⟩ := Option.bind_eq_some_iff.mp hs
    cases hs
    rw [deallocateIP_history hout]
    cases s.1.history.lookup req.podName with
    | none => exact h.insert le_rfl
    | some last => exact h

/-- **The run lemma**: with room at every allocation, the invariant holds in every state. -/
theorem Serves.poolInv (h : Serves dev RoomToAllocate name s) :
    s.1.history.All (fun _ offset => 1 ≤ offset) ∧
      ∃ pool, s.1.pools.lookup name = some pool ∧ PoolInv pool s.2 := by
  induction h with
  | @start st pool ip n hpool hnil hparse _ hhist =>
    refine ⟨hhist, pool, hpool, ⟨ip, n, hparse⟩, ?_, List.nodup_nil, ?_, ?_, ?_⟩ <;> rw [hnil]
    · exact List.Perm.refl _
    · exact List.nodup_nil
    · exact fun a ha => absurd ha List.not_mem_nil
    · exact fun a ha => absurd ha List.not_mem_nil
  | reorder _ hperm ih =>
    obtain ⟨hhist, pool, hpool, hinv⟩ := ih
    refine ⟨hhist, pool, ?_, hinv⟩
    exact AList.mem_lookup_iff.mpr (hperm.mem_iff.mpr (AList.mem_lookup_iff.mp hpool))
  | @step s s' e _ hallowed hserve ih =>
    obtain ⟨hhist, pool, hpool, hinv⟩ := ih
    refine ⟨serve_history hhist hserve, ?_⟩
    cases e with
    | allocate expired req =>
      obtain ⟨out, hout, hserve⟩ := Option.bind_eq_some_iff.mp hserve
      cases hserve
      rcases allocateIP_pool hout hpool with ⟨hnone, hsame⟩ |
        ⟨i, address, iface, hlisted, hnext, hans, hafter⟩
      · refine ⟨pool, hsame, ?_⟩
        rw [answerFrom, hnone, List.append_nil]
        exact hinv
      · refine ⟨_, hafter, ?_⟩
        rw [answerFrom, hans]
        exact hinv.allocate (offsetOf_pos hhist) (hallowed.2 pool hpool hlisted) hnext hallowed.1
    | deallocate req =>
      obtain ⟨⟨responses, st⟩, hout, hserve⟩ := Option.bind_eq_some_iff.mp hserve
      cases hserve
      refine ⟨_, deallocateIP_pool hout hpool, ?_⟩
      rw [remaining, hpool, Option.any_some]
      cases reached pool req with
      | true => exact hinv.deallocate req.podName req.podNamespace
      | false => exact hinv

/-- **Answers stay allocated while there is room.** In every run whose allocations from the
pool find an index after the last one used, or have no hole below a stored index, the pool
stores exactly one allocation for every outstanding answer, with its address, and no two
outstanding answers have one address. -/
theorem answers_stored {s : DaemonState × List Answer} (h : Serves dev RoomToAllocate name s) :
    ∃ pool, s.1.pools.lookup name = some pool ∧
      (∀ a ∈ s.2, (pool.spec.allocations.filter (isOf a.pod a.podNamespace)).map (·.address) =
        [a.address]) ∧
      s.2.Pairwise fun a b => a.address ≠ b.address := by
  obtain ⟨-, pool, hpool, hinv⟩ := h.poolInv
  exact ⟨pool, hpool, hinv.answered⟩

end Run

/-! ## Executing runs -/

section Execute

variable {C : Int → IPPoolSpec → Prop} [∀ offset spec, Decidable (C offset spec)]

instance (s : DaemonState × List Answer) : DecidablePred (Allowed C name s)
  | .allocate expired req => inferInstanceAs (Decidable
      ((req.podName, req.podNamespace) ∉ s.2.map Answer.key ∧ ∀ pool ∈ s.1.pools.lookup name,
        listed pool req = true → C (offsetOf expired req s.1) pool.spec))
  | .deallocate _ => inferInstanceAs (Decidable True)

/-- Serve requests one after the other, as long as they are allowed. -/
def serveAll (dev : Devices) (C : Int → IPPoolSpec → Prop)
    [∀ offset spec, Decidable (C offset spec)] (name : String) (s : DaemonState × List Answer)
    (events : List Event) : Option (DaemonState × List Answer) :=
  events.foldlM (fun s e => if Allowed C name s e then serve dev name s e else none) s

theorem Serves.serveAll {s' : DaemonState × List Answer} {events : List Event}
    (h : Serves dev C name s) (hrun : serveAll dev C name s events = some s') :
    Serves dev C name s' := by
  refine foldlM_invariant (P := Serves dev C name) ?_ h hrun
  intro s s' e _ hs hstep
  split at hstep
  · next hallowed => exact .step hs hallowed hstep
  · cases hstep

end Execute

/-- A node without virtual functions. -/
def noVFs : Devices := ⟨fun _ => false, id⟩

/-- An empty pool of eight addresses, of which `AllocateIP` gives 1 to 5. -/
def smallPool : IPPool :=
  ⟨"host", "net", ⟨"10.0.0.0/29", "10.0.0.0/16", "net", "host", "eth1", [], []⟩⟩

def smallState : DaemonState := ⟨AList.singleton "net-10.0.0.0-29" smallPool, ∅⟩

theorem serves_smallState (C : Int → IPPoolSpec → Prop) :
    Serves noVFs C "net-10.0.0.0-29" (smallState, []) := by
  have hparse : parseCIDR smallPool.spec.podCIDR =
      some (⟨10, 0, 0, 0⟩, ⟨⟨10, 0, 0, 0⟩, 29, by decide⟩) := rfl
  refine .start rfl rfl hparse (by decide) fun podName offset hl => ?_
  rw [smallState, AList.lookup_empty] at hl
  cases hl

/-- Pod `pod` asks for an address, with no history record expired. -/
def ask (pod : String) : Event :=
  .allocate (fun _ => false) ⟨pod, "ns", "host", "net", ["eth1"]⟩

/-- Pod `pod` gives its address back. -/
def leave (pod : String) : Event := .deallocate ⟨pod, "ns", "host", "net", ["eth1"]⟩

/-- A pool in which a pod has left and come back, with an offset, has room. -/
theorem answers_stored_again : ∃ s, Serves noVFs RoomToAllocate "net-10.0.0.0-29" s ∧
    s.2 = [⟨"b", "ns", "10.0.0.2"⟩, ⟨"a", "ns", "10.0.0.4"⟩] ∧
    s.2.Pairwise fun a b => a.address ≠ b.address := by
  have hrun : (serveAll noVFs RoomToAllocate "net-10.0.0.0-29" (smallState, [])
      [ask "a", ask "b", leave "a", ask "a"]).map Prod.snd =
        some [⟨"b", "ns", "10.0.0.2"⟩, ⟨"a", "ns", "10.0.0.4"⟩] := by
    decide +kernel
  obtain ⟨s, hs, hans⟩ := Option.map_eq_some_iff.mp hrun
  have hserves := (serves_smallState RoomToAllocate).serveAll hs
  obtain ⟨pool, -, -, hdistinct⟩ := answers_stored hserves
  exact ⟨s, hserves, hans, hdistinct⟩

/-- **An allocation is lost and its address given again.** Five pods fill the pool, `b`
leaves, `f` gets the index of `b`, and storing that overwrites the allocation of `e`; the
address of `e` is then given to `g` while `e` still has it. -/
theorem answers_lost : ∃ s, Serves noVFs (fun _ _ => True) "net-10.0.0.0-29" s ∧
    ⟨"e", "ns", "10.0.0.5"⟩ ∈ s.2 ∧ ⟨"g", "ns", "10.0.0.5"⟩ ∈ s.2 ∧
    ∀ pool ∈ s.1.pools.lookup "net-10.0.0.0-29",
      pool.spec.allocations.filter (isOf "e" "ns") = [] := by
  have hrun : (serveAll noVFs (fun _ _ => True) "net-10.0.0.0-29" (smallState, [])
      [ask "a", ask "b", ask "c", ask "d", ask "e", leave "b", ask "f", ask "g"]).map
        (fun s => (decide (⟨"e", "ns", "10.0.0.5"⟩ ∈ s.2 ∧ ⟨"g", "ns", "10.0.0.5"⟩ ∈ s.2),
          (s.1.pools.lookup "net-10.0.0.0-29").map (·.spec.allocations.filter (isOf "e" "ns")))) =
      some (true, some []) := by
    decide +kernel
  obtain ⟨s, hs, heq⟩ := Option.map_eq_some_iff.mp hrun
  obtain ⟨hans, hpool⟩ := Prod.mk.inj heq
  obtain ⟨he, hg⟩ := of_decide_eq_true hans
  refine ⟨s, (serves_smallState _).serveAll hs, he, hg, fun pool hl => ?_⟩
  rw [Option.mem_def.mp hl] at hpool
  exact Option.some.inj hpool

end MultiNicCni.Daemon
