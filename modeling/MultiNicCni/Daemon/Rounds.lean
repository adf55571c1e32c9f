import MultiNicCni.Daemon.Request

/-!
# Allocating again

A pod whose address does not work is deallocated and allocated again: `deallocateHistory`
counts how often within its window, and the count is the offset after the last used index at
which the pod gets its next one.

- `runRounds`: rounds of `AllocateIP` and `DeallocateIP` for one pod;
- `RoundInv`: after `j` rounds the pool is as before and the history has counted `j`;
- `RoundInv.round`, `RoundInv.rounds`: one round answers one index further, and so every round;
- `reallocation_avoids`: **the rounds answer the indexes after the last one used, one after the
  other, and so different addresses**;
- `reallocation_repeats`: the addresses of indexes before the address 0.0.0.0 repeat.
-/

namespace MultiNicCni.Daemon

open Go Compute Lib

/-! ## Rounds -/

/-- What a round depends on: the history records that have expired when it allocates, the
interface names its deallocation carries, and the orders of the pools. -/
structure Round where
  expired : String → Bool
  released : List String
  atAllocate : PoolOrder
  atDeallocate : PoolOrder

/-- `AllocateIP` and then `DeallocateIP` for the pod of a request. -/
def runRound (dev : Devices) (req : IPRequest) (r : Round) (st : DaemonState) :
    Option (Served × DaemonState) := do
  let out ← allocateIP dev r.expired req ⟨r.atAllocate.apply st.pools, st.history⟩
  let (_, st') ← deallocateIP dev ⟨req.podName, req.podNamespace, req.hostName,
    req.netAttachDefName, r.released⟩ ⟨r.atDeallocate.apply out.state.pools, out.state.history⟩
  some (out, st')

/-- Rounds one after the other: what each allocation answers, and the state after each. -/
def runRounds (dev : Devices) (req : IPRequest) :
    List Round → DaemonState → Option (List (Served × DaemonState))
  | [], _ => some []
  | r :: rounds, st => do
    let served ← runRound dev req r st
    let rest ← runRounds dev req rounds served.2
    some (served :: rest)

/-- The index and address answered from the pool `name`. -/
def answered (name : String) (out : Served) : Option (Int × String) :=
  (out.newAllocations.lookup name).map fun a => (a.allocation.index, a.allocation.address)

/-- The largest index used in a pool, 0 if there is none. -/
def lastUsed (spec : IPPoolSpec) (maxIndex : Int) : Int :=
  (usedIndexes spec maxIndex).getLast?.getD 0

theorem indexAfterLast_eq (spec : IPPoolSpec) (maxIndex offset : Int) :
    indexAfterLast (usedIndexes spec maxIndex) offset = lastUsed spec maxIndex + offset := by
  unfold indexAfterLast lastUsed
  cases (usedIndexes spec maxIndex).getLast? with
  | none => exact (zero_add offset).symm
  | some last => rfl

theorem lastUsed_nonneg {spec : IPPoolSpec} {maxIndex : Int}
    (h : ∀ a ∈ spec.allocations, 0 ≤ a.index) : 0 ≤ lastUsed spec maxIndex := by
  unfold lastUsed
  cases hlast : (usedIndexes spec maxIndex).getLast? with
  | none => exact le_rfl
  | some last =>
    rcases mem_generateAllocateIndexes.mp (List.mem_of_getLast? hlast) with
      ⟨a, ha, rfl⟩ | ⟨r, hr, hmin, -⟩
    · exact h a ha
    · exact (getExcludeRanges_nonneg hr).trans hmin

/-! ## The history of a pod -/

/-- The offset the history has counted for a pod. -/
def counted (history : GoMap String Int) (podName : String) : Int :=
  (history.lookup podName).getD 0

section History

variable {expired : String → Bool} {history : GoMap String Int} {podName : String}

theorem lookup_flushExpiredHistory (h : expired podName = false) :
    (flushExpiredHistory expired history).lookup podName = history.lookup podName := by
  refine Option.ext fun offset => ?_
  rw [flushExpiredHistory, GoMap.lookup_filter, h]
  simp

/-- The offset is one more than the one counted. -/
theorem nextOffset_fst (h : expired podName = false) :
    (nextOffset (flushExpiredHistory expired history) podName).1 =
      counted history podName + 1 := by
  unfold nextOffset counted
  rw [lookup_flushExpiredHistory h]
  cases history.lookup podName <;> rfl

/-- An allocation and a deallocation count one more, also when there was no record. -/
theorem counted_round (h : expired podName = false) :
    counted (match (nextOffset (flushExpiredHistory expired history) podName).2.lookup podName with
      | some _ => (nextOffset (flushExpiredHistory expired history) podName).2
      | none => (nextOffset (flushExpiredHistory expired history) podName).2.insert podName 1)
      podName = counted history podName + 1 := by
  unfold nextOffset counted
  rw [lookup_flushExpiredHistory h]
  cases hl : history.lookup podName with
  | none =>
    dsimp only
    rw [lookup_flushExpiredHistory h, hl]
    dsimp only
    rw [AList.lookup_insert]
    rfl
  | some offset =>
    dsimp only
    rw [AList.lookup_insert]
    dsimp only
    rw [AList.lookup_insert]
    rfl

end History

/-! ## The invariant -/

/-- After `j` rounds: the pool is as it was, `j` is counted for the pod, the texts of all pools
are well formed, and no other pool of the request serves the interface. -/
structure RoundInv (dev : Devices) (req : IPRequest) (name : String) (pool : IPPool)
    (iface : String) (j : Int) (st : DaemonState) : Prop where
  stored : st.pools.lookup name = some pool
  counts : counted st.history req.podName = j
  valid : st.pools.All fun _ p => ValidTexts p
  others : st.pools.All fun other p => other ≠ name → listed p req = true →
    serves dev p.spec.interfaceName iface = false

section Inv

variable {dev : Devices} {req : IPRequest} {name iface : String} {pool : IPPool}
  {maxIndex : Int} {st : DaemonState}

/-- What is asked of the other pools stays true: a round does not change their shape. -/
theorem others_of_shape {pools pools' : GoMap String IPPool}
    (hshape : ∀ other, (pools'.lookup other).map shape = (pools.lookup other).map shape)
    (h : pools.All fun other p => other ≠ name → listed p req = true →
      serves dev p.spec.interfaceName iface = false) :
    pools'.All fun other p => other ≠ name → listed p req = true →
      serves dev p.spec.interfaceName iface = false := by
  refine all_of_shape (fun other p p' hsame hp hne hlisted => ?_) hshape h
  have hlisted' : listed (shape p') req = true := hlisted
  rw [hsame] at hlisted'
  show serves dev (shape p').spec.interfaceName iface = false
  rw [hsame]
  exact hp hne hlisted'

/-- The answer of the `j`-th round and the state after it. -/
structure RoundAnswer (name : String) (pool : IPPool) (i : Int) (served : Served × DaemonState) :
    Prop where
  answer : answered name served.1 = some (i, getAddressByIndex pool.spec.podCIDR i)
  response : ∃ response ∈ served.1.responses,
    response.ipAddress = getAddressByIndex pool.spec.podCIDR i
  restored : served.2.pools.lookup name = some pool

/-- The allocation of the pod in the round that answers the index `i`. -/
def roundAllocation (req : IPRequest) (pool : IPPool) (i : Int) : Allocation :=
  ⟨req.podName, req.podNamespace, i, getAddressByIndex pool.spec.podCIDR i⟩

/-- The allocation of a round is stored at the end of the list. -/
theorem RoundInv.allocate {j : Nat} (h : RoundInv dev req name pool iface j st) {r : Round}
    (hlisted : listed pool req = true) (hiface : iface ∈ req.interfaceNames)
    (hserves : serves dev pool.spec.interfaceName iface = true)
    (hmax : maxIndexOf pool.spec.podCIDR = some maxIndex)
    (hwindow : r.expired req.podName = false)
    (hroom : lastUsed pool.spec maxIndex + (j + 1) < maxIndex) :
    ∃ out interfaceName,
      allocateIP dev r.expired req ⟨r.atAllocate.apply st.pools, st.history⟩ = some out ∧
      out.newAllocations.lookup name =
        some ⟨roundAllocation req pool (lastUsed pool.spec maxIndex + (j + 1)), interfaceName⟩ ∧
      out.state.pools.lookup name = some (pool.withAllocations (pool.spec.allocations ++
        [roundAllocation req pool (lastUsed pool.spec maxIndex + (j + 1))])) := by
  have hreturns : ∃ out, allocateIP dev r.expired req ⟨r.atAllocate.apply st.pools, st.history⟩ =
      some out := allocateIP_isSome _ (r.atAllocate.all h.valid)
  obtain ⟨out, hout⟩ := hreturns
  have hpool : (r.atAllocate.apply st.pools).lookup name = some pool :=
    (r.atAllocate.lookup _ _).trans h.stored
  have hoffset : offsetOf r.expired req ⟨r.atAllocate.apply st.pools, st.history⟩ = j + 1 := by
    rw [offsetOf, nextOffset_fst hwindow, h.counts]
  have hnext : nextAllocation (j + 1) pool.spec =
      some (some (lastUsed pool.spec maxIndex + (j + 1),
        getAddressByIndex pool.spec.podCIDR (lastUsed pool.spec maxIndex + (j + 1)))) := by
    rw [nextAllocation_eq hmax, indexAfterLast_eq, if_pos hroom]
  obtain ⟨interfaceName, -, -, hnew⟩ :=
    allocateIP_lookup hout hpool hlisted hiface hserves (r.atAllocate.all h.others)
  rw [hoffset, hnext] at hnew
  refine ⟨out, interfaceName, hout, hnew, ?_⟩
  rcases allocateIP_pool hout hpool with ⟨hnone, -⟩ | ⟨i, address, _, -, hnext', -, hafter⟩
  · rw [hnew] at hnone
    cases hnone
  · rw [hoffset, hnext] at hnext'
    cases hnext'
    rw [hafter, insertAllocation_append]
    · rfl
    · -- no stored index is larger
      intro a ha
      have hlt : a.index < indexAfterLast (usedIndexes pool.spec maxIndex) (j + 1) :=
        lt_indexAfterLast (by omega) (mem_generateAllocateIndexes.mpr (Or.inl ⟨a, ha, rfl⟩))
      rw [indexAfterLast_eq] at hlt
      exact le_of_lt hlt

variable (hreached : reached pool req = true) (hiface : iface ∈ req.interfaceNames)
  (hserves : serves dev pool.spec.interfaceName iface = true)
  (hmax : maxIndexOf pool.spec.podCIDR = some maxIndex)
  (hfree : ∀ a ∈ pool.spec.allocations, ¬ isOf req.podName req.podNamespace a = true)
include hreached hiface hserves hmax hfree

/-- **One round**: the index one further than in the round before is answered, and the pool is
left as it was. -/
theorem RoundInv.round {j : Nat} (h : RoundInv dev req name pool iface j st) {r : Round}
    (hwindow : r.expired req.podName = false)
    (hroom : lastUsed pool.spec maxIndex + (j + 1) < maxIndex) :
    ∃ served, runRound dev req r st = some served ∧
      RoundAnswer name pool (lastUsed pool.spec maxIndex + (j + 1)) served ∧
      RoundInv dev req name pool iface (j + 1 : Nat) served.2 := by
  have hlisted : listed pool req = true := (Bool.and_eq_true_iff.mp hreached).1
  obtain ⟨out, interfaceName, hout, hnew, hstored⟩ :=
    h.allocate hlisted hiface hserves hmax hwindow hroom
  set new := roundAllocation req pool (lastUsed pool.spec maxIndex + (j + 1)) with hnewdef
  have hshape : ∀ other, (out.state.pools.lookup other).map shape =
      (st.pools.lookup other).map shape := by
    intro other
    rw [allocateIP_shape hout, r.atAllocate.lookup]
  have hvalid : out.state.pools.All fun _ p => ValidTexts p :=
    validTexts_of_shape hshape h.valid
  have hfreed : ∃ responses st', deallocateIP dev
      ⟨req.podName, req.podNamespace, req.hostName, req.netAttachDefName, r.released⟩
      ⟨r.atDeallocate.apply out.state.pools, out.state.history⟩ = some (responses, st') :=
    deallocateIP_isSome (r.atDeallocate.all hvalid)
  obtain ⟨responses, st', hst'⟩ := hfreed
  have hshape' : ∀ other, (st'.pools.lookup other).map shape =
      (st.pools.lookup other).map shape := by
    intro other
    rw [deallocateIP_shape hst', r.atDeallocate.lookup, hshape]
  -- the new allocation is the only one of the pod, so it is the one removed
  have herase : (pool.spec.allocations ++ [new]).eraseP (isOf req.podName req.podNamespace) =
      pool.spec.allocations := by
    rw [List.eraseP_append_right _ hfree,
      List.eraseP_cons_of_pos (by simp [isOf, hnewdef, roundAllocation]), List.append_nil]
  have hrestored : st'.pools.lookup name = some pool := by
    rw [deallocateIP_pool hst' ((r.atDeallocate.lookup _ _).trans hstored)]
    refine congrArg some ((if_pos hreached).trans ?_)
    show pool.withAllocations ((pool.spec.allocations ++ [new]).eraseP _) = pool
    rw [herase]
    rfl
  refine ⟨(out, st'), ?_, ⟨?_, ?_, hrestored⟩, hrestored, ?_, ?_, ?_⟩
  · exact Option.bind_eq_some_iff.mpr ⟨out, hout,
      Option.bind_eq_some_iff.mpr ⟨(responses, st'), hst', rfl⟩⟩
  · rw [answered, hnew]
    rfl
  · obtain ⟨response, hmem, -, haddr⟩ := allocateIP_answers hout
      ((r.atAllocate.lookup _ _).trans h.stored) hlisted (h.valid _ _ h.stored) hnew
    exact ⟨response, hmem, haddr⟩
  · rw [deallocateIP_history hst', allocateIP_history hout, Nat.cast_succ, ← h.counts]
    exact counted_round hwindow
  · exact validTexts_of_shape hshape' h.valid
  · exact others_of_shape hshape' h.others

/-- **Every round**: from a state after `j` rounds, the rounds answer the indexes from the
`j + 1`-st after the last used one on. -/
theorem RoundInv.rounds {rounds : List Round} :
    ∀ {j : Nat} {st : DaemonState}, RoundInv dev req name pool iface j st →
    (∀ r ∈ rounds, r.expired req.podName = false) →
    lastUsed pool.spec maxIndex + (j + rounds.length : Nat) < maxIndex →
    ∃ outs, runRounds dev req rounds st = some outs ∧
      List.Forall₂ (fun (i : Nat) => RoundAnswer name pool (lastUsed pool.spec maxIndex + i))
        (List.range' (j + 1) rounds.length) outs := by
  induction rounds with
  | nil => exact fun _ _ _ => ⟨[], rfl, List.Forall₂.nil⟩
  | cons r rounds ih =>
    intro j st h hwindow hroom
    obtain ⟨hr, hrounds⟩ := List.forall_mem_cons.mp hwindow
    rw [List.length_cons] at hroom
    obtain ⟨served, hserved, hanswer, hinv⟩ :=
      h.round hreached hiface hserves hmax hfree hr (by omega)
    obtain ⟨outs, houts, hall⟩ := ih hinv hrounds (by omega)
    refine ⟨served :: outs, ?_, ?_⟩
    · exact Option.bind_eq_some_iff.mpr ⟨served, hserved,
        Option.bind_eq_some_iff.mpr ⟨outs, houts, rfl⟩⟩
    · rw [List.length_cons, List.range'_succ]
      exact List.Forall₂.cons hanswer hall

end Inv

/-! ## The answers of all rounds -/

/-- The addresses answered in rounds for given indexes. -/
theorem addresses_eq {name : String} {pool : IPPool} {last : Int} {indexes : List Nat}
    {outs : List (Served × DaemonState)}
    (h : List.Forall₂ (fun j : Nat => RoundAnswer name pool (last + j)) indexes outs) :
    (outs.map fun served => (answered name served.1).map Prod.snd) =
      indexes.map fun j : Nat => some (getAddressByIndex pool.spec.podCIDR (last + j)) := by
  induction h with
  | nil => rfl
  | cons hanswer _ ih => rw [List.map_cons, List.map_cons, ih, hanswer.answer, Option.map_some]

/-- **Allocating again avoids the addresses given before.** For every number of rounds of
`AllocateIP` and `DeallocateIP` of a pod without a history record and without an allocation in
the pool, within the history window, on an interface that only this pool serves: if the pool
has that many indexes after the last used one and no negative index is stored, the `j`-th round
answers the `j`-th index after it, the addresses are pairwise different, and the pool is as
before after each round. -/
theorem reallocation_avoids {dev : Devices} {req : IPRequest} {name iface : String} {pool : IPPool}
    {ip : IP4} {n : IPNet} {st : DaemonState} (rounds : List Round)
    (hpool : st.pools.lookup name = some pool)
    (hparse : parseCIDR pool.spec.podCIDR = some (ip, n))
    (hvalid : st.pools.All fun _ p => ValidTexts p)
    (hreached : reached pool req = true) (hiface : iface ∈ req.interfaceNames)
    (hserves : serves dev pool.spec.interfaceName iface = true)
    (hothers : st.pools.All fun other p => other ≠ name → listed p req = true →
      serves dev p.spec.interfaceName iface = false)
    (hrecord : st.history.lookup req.podName = none)
    (hfree : ∀ a ∈ pool.spec.allocations, ¬ isOf req.podName req.podNamespace a = true)
    (hwindow : ∀ r ∈ rounds, r.expired req.podName = false)
    (hindexes : ∀ a ∈ pool.spec.allocations, 0 ≤ a.index)
    (hroom : lastUsed pool.spec (2 ^ (32 - n.ones) - 2) + rounds.length < 2 ^ (32 - n.ones) - 2) :
    ∃ outs, runRounds dev req rounds st = some outs ∧
      List.Forall₂
        (fun j : Nat => RoundAnswer name pool (lastUsed pool.spec (2 ^ (32 - n.ones) - 2) + j))
        (List.range' 1 rounds.length) outs ∧
      (outs.map fun served => (answered name served.1).map Prod.snd).Nodup := by
  have hinv : RoundInv dev req name pool iface (0 : Nat) st :=
    ⟨hpool, by rw [counted, hrecord]; rfl, hvalid, hothers⟩
  obtain ⟨outs, houts, hall⟩ := hinv.rounds hreached hiface hserves (maxIndexOf_eq hparse) hfree
    hwindow (by rw [Nat.zero_add]; exact hroom)
  refine ⟨outs, houts, hall, ?_⟩
  have hmax := maxIndex_lt n
  have hlast : 0 ≤ lastUsed pool.spec (2 ^ (32 - n.ones) - 2) := lastUsed_nonneg hindexes
  rw [addresses_eq hall]
  refine List.Nodup.map_on (fun j hj k hk heq => ?_) List.nodup_range'
  rw [List.mem_range'_1] at hj hk
  have hinj := getAddressByIndex_inj hparse (by omega) (by omega) (by omega) (by omega)
    (Option.some.inj heq)
  omega

/-- A round with no record expired and the pools in stored order. -/
def plainRound : Round :=
  ⟨fun _ => false, [], ⟨id, fun _ => .refl _⟩, ⟨id, fun _ => .refl _⟩⟩

def askAgain : IPRequest := ⟨"q", "ns", "host", "net", ["eth1"]⟩

/-- A state with one pool of `askAgain`. -/
def onePool (pool : IPPool) : DaemonState := ⟨AList.singleton "net" pool, ∅⟩

/-- Eight addresses of which the first two are excluded and the third is given. -/
def startedPool : IPPool :=
  ⟨"host", "net", ⟨"10.0.0.0/29", "10.0.0.0/16", "net", "host", "eth1", ["10.0.0.0/31"],
    [⟨"p", "ns", 2, "10.0.0.2"⟩]⟩⟩

/-- Three rounds answer the indexes 3, 4 and 5. -/
theorem reallocation_avoids_started :
    ∃ outs, runRounds noVFs askAgain [plainRound, plainRound, plainRound] (onePool startedPool) =
        some outs ∧
      (outs.map fun served => (answered "net" served.1).map Prod.snd).Nodup := by
  have hparse : parseCIDR startedPool.spec.podCIDR =
      some (⟨10, 0, 0, 0⟩, ⟨⟨10, 0, 0, 0⟩, 29, by decide⟩) := rfl
  have hpool : (onePool startedPool).pools.lookup "net" = some startedPool := rfl
  have hvalid : ValidTexts startedPool := ⟨by decide +kernel, by decide +kernel⟩
  have hreached : reached startedPool askAgain = true := by decide +kernel
  have hserves : serves noVFs startedPool.spec.interfaceName "eth1" = true := rfl
  obtain ⟨outs, houts, -, hnodup⟩ := reallocation_avoids [plainRound, plainRound, plainRound]
    hpool hparse (GoMap.All.singleton hvalid) hreached (List.mem_singleton.mpr rfl) hserves
    (GoMap.All.singleton fun hne => absurd rfl hne) rfl (by decide) (by simp [plainRound]) (by decide)
    (by decide +kernel)
  exact ⟨outs, houts, hnodup⟩

/-- A pool at the first address of all that stores an allocation before it. -/
def negativePool : IPPool :=
  ⟨"host", "net", ⟨"0.0.0.0/22", "0.0.0.0/16", "net", "host", "eth1", [],
    [⟨"p", "ns", -2, "0.0.0.254"⟩]⟩⟩

/-- **Addresses of negative indexes repeat**: the bytes of a negative number are taken one by
one, so the indexes -1 and 255 are both answered as 0.0.0.255. -/
theorem reallocation_repeats :
    lastUsed negativePool.spec 1022 + 257 < 1022 ∧
    ∃ outs, runRounds noVFs askAgain (List.replicate 257 plainRound) (onePool negativePool) =
        some outs ∧
      ¬ (outs.map fun served => (answered "net" served.1).map Prod.snd).Nodup := by
  have hlast : lastUsed negativePool.spec 1022 = -2 := by decide +kernel
  refine ⟨by rw [hlast]; decide, ?_⟩
  have hinv : RoundInv noVFs askAgain "net" negativePool "eth1" (0 : Nat) (onePool negativePool) :=
    ⟨rfl, rfl, GoMap.All.singleton ⟨by decide +kernel, by decide +kernel⟩,
      GoMap.All.singleton fun hne => absurd rfl hne⟩
  have hmax : maxIndexOf negativePool.spec.podCIDR = some 1022 := by decide +kernel
  have hwindow : ∀ r ∈ List.replicate 257 plainRound, r.expired askAgain.podName = false := by
    intro r hr
    rw [List.eq_of_mem_replicate hr]
    rfl
  obtain ⟨outs, houts, hall⟩ := hinv.rounds (by decide +kernel) (List.mem_singleton.mpr rfl)
    (by decide) hmax (by decide) hwindow (by rw [hlast, List.length_replicate]; decide)
  refine ⟨outs, houts, fun hnodup => ?_⟩
  rw [addresses_eq hall, hlast, List.length_replicate] at hnodup
  have hsame : getAddressByIndex negativePool.spec.podCIDR (-2 + (1 : Nat)) =
      getAddressByIndex negativePool.spec.podCIDR (-2 + (257 : Nat)) := by decide +kernel
  have habsurd := List.inj_on_of_nodup_map hnodup (List.mem_range'_1.mpr ⟨le_rfl, by omega⟩)
    (List.mem_range'_1.mpr ⟨by omega, by omega⟩) (congrArg some hsame)
  cases habsurd

end MultiNicCni.Daemon
