import MultiNicCni.Daemon.Request
import MultiNicCni.Excludes
import MultiNicCni.Lib.Lists

/-!
# The index a pool gives, and where it is stored

`allocateIP` gives the index one offset after the last used one while that is below the
largest index of the pool, and otherwise searches the used indexes for a gap;
`applyNewAllocations` splices the new allocation into the stored list. Each is exact in one
situation only:

- `splice_sorted_iff`: **the stored list is the old one with the new allocation, in order,
  exactly when no stored index is larger**;
- `Findable`, `given_iff_findable`: **an index is given exactly when there is one before the
  largest, or the last used index is not the number of used indexes**;
- `takenIndexes`: the indexes of a pool, each as often as allocations and excludes take it;
- `SearchSafe`, `given_good`: **the index given is free, if nothing that is taken twice misleads the
  search on its way to the least free index**; if something does, it is not the least free index
  that is given.
-/

namespace MultiNicCni.Daemon

open Go Compute Lib

variable {n : IPNet} {spec : IPPoolSpec} {i : Nat}

/-! ## The splice -/

/-- The splice of `applyNewAllocations` on the array behind the list, with `spare` elements
between its length and its capacity. -/
def spliceAllocation (spare allocations : List Allocation) (newAllocation : Allocation) :
    List Allocation :=
  match toInsertIndex allocations newAllocation.index with
  | none => (appendTo (allocations ++ spare) allocations.length [newAllocation]).1
  | some i =>
    let (appendedAllocation, array) := appendTo (allocations ++ spare) i [newAllocation]
    -- `allocations[toInsertIndex:]` is read from the array just written
    (appendTo array appendedAllocation.length ((array.take allocations.length).drop i)).1

/-- The capacity does not matter: the list sent is that of `insertAllocation`. -/
theorem spliceAllocation_eq (spare allocations : List Allocation) (new : Allocation) :
    spliceAllocation spare allocations new = insertAllocation allocations new := by
  unfold spliceAllocation
  cases hi : toInsertIndex allocations new.index with
  | none =>
    dsimp only [appendTo]
    rw [insertAllocation, hi, List.take_left]
  | some i =>
    have hlt := toInsertIndex_lt hi
    have hroom : i + [new].length ≤ (allocations ++ spare).length := by
      rw [List.length_append, List.length_singleton]
      omega
    have hlen : (allocations.take i ++ [new]).length = i + 1 := by
      rw [List.length_append, List.length_take, List.length_singleton]
      omega
    have harray : (allocations ++ spare).take i ++ [new] ++ (allocations ++ spare).drop (i + 1) =
        (allocations.take i ++ [new]) ++ (allocations.drop (i + 1) ++ spare) := by
      rw [List.take_append_of_le_length hlt.le, List.drop_append_of_le_length hlt]
    -- the list keeps its length, with the new allocation at its position
    have hlist : ((allocations.take i ++ [new]) ++ (allocations.drop (i + 1) ++ spare)).take
        allocations.length = allocations.take i ++ ([new] ++ allocations.drop (i + 1)) := by
      rw [← List.append_assoc (allocations.take i ++ [new]), List.append_assoc (allocations.take i),
        List.take_left']
      simp only [List.length_append, List.length_take, List.length_singleton, List.length_drop]
      omega
    rw [insertAllocation_overwrites hi]
    simp only [appendTo_room hroom, List.length_singleton, harray, hlist]
    rw [appendTo, List.take_append_of_le_length hlt.le, List.take_left, List.drop_left']
    · simp
    · rw [List.length_take]
      omega

/-- A position is found exactly when some stored index is larger. -/
theorem toInsertIndex_isSome (allocations : List Allocation) (newIndex : Int) :
    (toInsertIndex allocations newIndex).isSome =
      allocations.any fun a => decide (a.index > newIndex) := by
  have hset := foldl_set (f := fun (pos : Option Nat) (x : Allocation × Nat) =>
      if x.1.index > newIndex then some x.2 else pos) Option.isSome
    (fun x => decide (x.1.index > newIndex)) true (l := allocations.zipIdx) ?_ none
  · have hany : allocations.any (fun a => decide (a.index > newIndex)) =
        allocations.zipIdx.any fun x => decide (x.1.index > newIndex) := by
      conv_lhs => rw [← List.zipIdx_map_fst 0 allocations]
      exact List.any_map
    refine hset.trans ?_
    rw [hany]
    cases allocations.zipIdx.any fun x => decide (x.1.index > newIndex) <;> rfl
  · intro pos x _
    by_cases hgt : x.1.index > newIndex
    · simp [hgt]
    · simp [hgt]

/-- **The splice is right exactly at the end of the list.** For any capacity of the array, the
list that `applyNewAllocations` sends for a sorted pool holds every stored allocation and the
new one once, in order, exactly when no stored index is larger than the new one. -/
theorem splice_sorted_iff {listed pools : GoMap String IPPool} {name : String}
    {pool stored : IPPool} {new : NewAllocation} {responses : List IPResponse}
    {s' : GoMap String IPPool × List IPResponse} (spare : List Allocation)
    (hlisted : listed.lookup name = some pool) (hstored : pools.lookup name = some stored)
    (hsorted : pool.spec.allocations.Pairwise fun a b => a.index < b.index)
    (hnew : ∀ a ∈ pool.spec.allocations, a.index ≠ new.allocation.index)
    (h : applyNewAllocation listed (pools, responses) ⟨name, new⟩ = some s') :
    ∃ sent, sent = spliceAllocation spare pool.spec.allocations new.allocation ∧
      s'.1.lookup name = some (stored.withAllocations sent) ∧
      ((sent.Perm (new.allocation :: pool.spec.allocations) ∧
          sent.Pairwise fun a b => a.index < b.index) ↔
        ∀ a ∈ pool.spec.allocations, a.index < new.allocation.index) := by
  obtain ⟨pool', response, hpool', rfl⟩ := applyNewAllocation_eq h
  rw [hlisted] at hpool'
  obtain rfl := Option.some.inj hpool'
  refine ⟨_, rfl, ?_, ?_⟩
  · rw [spliceAllocation_eq, lookup_patchIPPool, hstored]
    rfl
  rw [spliceAllocation_eq]
  constructor
  · rintro ⟨hperm, -⟩
    by_contra hlarger
    push Not at hlarger
    obtain ⟨a, ha, hle⟩ := hlarger
    have hgt : new.allocation.index < a.index := lt_of_le_of_ne hle (hnew a ha).symm
    have hsome : (toInsertIndex pool.spec.allocations new.allocation.index).isSome = true := by
      rw [toInsertIndex_isSome, List.any_eq_true]
      exact ⟨a, ha, decide_eq_true hgt⟩
    obtain ⟨i, hi⟩ := Option.isSome_iff_exists.mp hsome
    -- the new allocation stands in the list twice
    have hcount := hperm.count_eq new.allocation
    have hnot : new.allocation ∉ pool.spec.allocations := fun hmem => hnew _ hmem rfl
    rw [insertAllocation_overwrites hi, List.count_cons_self, List.count_eq_zero_of_not_mem hnot,
      List.count_append, List.count_append, List.count_cons_self, List.count_cons_self] at hcount
    omega
  · intro hlarger
    rw [insertAllocation_append fun a ha => (hlarger a ha).le]
    refine ⟨List.perm_append_singleton _ _, ?_⟩
    rw [List.pairwise_append]
    refine ⟨hsorted, List.pairwise_singleton _ _, ?_⟩
    intro a ha b hb
    rw [List.mem_singleton.mp hb]
    exact hlarger a ha

/-- A stored pool with excludes and the allocations of some indexes. -/
def poolWith (podCIDR : String) (excludes : List String) (indexes : List Int) : IPPool :=
  ⟨"host", "net", ⟨podCIDR, "10.0.0.0/16", "net", "host", "eth1", excludes,
    indexes.map fun i => ⟨"p", "ns", i, getAddressByIndex podCIDR i⟩⟩⟩

/-- The allocation of index `i` to another pod. -/
def newWith (i : Int) : NewAllocation :=
  ⟨⟨"q", "ns", i, getAddressByIndex "10.0.0.0/29" i⟩, "eth1"⟩

/-- Eight addresses, of which 1 and 3 are given. -/
def gapPools : GoMap String IPPool := AList.singleton "net" (poolWith "10.0.0.0/29" [] [1, 3])

theorem splice_sorted_last : ∃ s' sent,
    applyNewAllocation gapPools (gapPools, []) ⟨"net", newWith 4⟩ = some s' ∧
    (s'.1.lookup "net").map (·.spec.allocations) = some sent ∧
    sent.Pairwise fun a b => a.index < b.index := by
  have happly : (applyNewAllocation gapPools (gapPools, []) ⟨"net", newWith 4⟩).isSome = true := by
    decide +kernel
  obtain ⟨s', hs'⟩ := Option.isSome_iff_exists.mp happly
  obtain ⟨sent, -, hstored, hiff⟩ := splice_sorted_iff [] rfl rfl (by decide) (by decide) hs'
  refine ⟨s', sent, hs', ?_, (hiff.mpr (by decide)).2⟩
  rw [hstored]
  rfl

/-- **The allocation of index 3 is lost**: index 2 is stored twice instead. -/
theorem splice_overwrites : ∃ pool, gapPools.lookup "net" = some pool ∧
    (pool.spec.allocations.Pairwise fun a b => a.index < b.index) ∧
    (∀ a ∈ pool.spec.allocations, a.index ≠ (newWith 2).allocation.index) ∧
    ((applyNewAllocation gapPools (gapPools, []) ⟨"net", newWith 2⟩).bind fun s =>
        s.1.lookup "net").map (fun pool => pool.spec.allocations.map (·.index)) =
      some [1, 2, 2] :=
  ⟨_, rfl, by decide, by decide, by decide +kernel⟩

/-! ## An index is given -/

/-- An index is found: one offset after the last used one, or below it, unless the last used
index is the number of the used indexes. -/
def Findable (offset : Int) (spec : IPPoolSpec) : Prop :=
  ∀ maxIndex ∈ maxIndexOf spec.podCIDR,
    indexAfterLast (usedIndexes spec maxIndex) offset < maxIndex ∨
      ∃ last ∈ (usedIndexes spec maxIndex).getLast?, last ≠ (usedIndexes spec maxIndex).length

instance (offset : Int) (spec : IPPoolSpec) : Decidable (Findable offset spec) :=
  inferInstanceAs (Decidable (∀ maxIndex ∈ maxIndexOf spec.podCIDR, _))

theorem nextAllocation_isSome_iff {maxIndex offset : Int}
    (hmax : maxIndexOf spec.podCIDR = some maxIndex) :
    (nextAllocation offset spec).join.isSome = true ↔ Findable offset spec := by
  have hfind : findAvailableIndex (usedIndexes spec maxIndex) 0 ≠ -1 ↔
      ∃ last ∈ (usedIndexes spec maxIndex).getLast?, last ≠ (usedIndexes spec maxIndex).length := by
    rw [findAvailableIndex_eq_compute, Ne, findAvailableIndex_eq_neg_one (by omega)]
    push Not
    refine exists_congr fun last => and_congr_right fun _ => not_congr ?_
    constructor <;> intro h <;> omega
  have hcond : Findable offset spec ↔
      indexAfterLast (usedIndexes spec maxIndex) offset < maxIndex ∨
        findAvailableIndex (usedIndexes spec maxIndex) 0 ≠ -1 := by
    rw [hfind, Findable, hmax]
    simp
  rw [hcond, nextAllocation_eq hmax]
  split
  · next hlt => simp [hlt]
  · next hlt =>
    split
    · next hne => simp [hne]
    · next hne => simpa [hlt] using hne

/-- **An index is given exactly when one is `Findable`**: for every list of pools and of
requested interfaces, a pool that serves an interface left by the pools before it gets an
allocation exactly when the index after the last used one is below the largest, or the last
used index differs from the number of used indexes. -/
theorem given_iff_findable {dev : Devices} {podName podNamespace : String}
    {interfaceNames : List String} {offset : Int} {listed : GoMap String IPPool}
    {before after : List ((_ : String) × IPPool)} {name : String} {pool : IPPool}
    (hpods : ∀ e ∈ listed.entries, ∃ ip n, parseCIDR e.2.spec.podCIDR = some (ip, n))
    (hentries : listed.entries = before ++ ⟨name, pool⟩ :: after)
    (hserves : ∃ iface ∈ namesLeft dev before interfaceNames,
      serves dev pool.spec.interfaceName iface = true) :
    ∃ news, allocateIPs dev podName podNamespace interfaceNames offset listed = some news ∧
      ((news.lookup name).isSome = true ↔ Findable offset pool.spec) := by
  have hmaxes : ∀ e ∈ listed.entries, (maxIndexOf e.2.spec.podCIDR).isSome := by
    intro e he
    obtain ⟨ip, n, hparse⟩ := hpods e he
    rw [maxIndexOf_eq hparse]
    rfl
  have hreturns : ∃ news, allocateIPs dev podName podNamespace interfaceNames offset listed =
      some news := allocateIPs_isSome hmaxes
  obtain ⟨news, hnews⟩ := hreturns
  refine ⟨news, hnews, ?_⟩
  obtain ⟨maxIndex, hmax⟩ := Option.isSome_iff_exists.mp (hmaxes ⟨name, pool⟩ (by simp [hentries]))
  obtain ⟨iface, hfind⟩ := Option.isSome_iff_exists.mp (List.find?_isSome.mpr hserves)
  rw [← nextAllocation_isSome_iff hmax, allocateIPs_lookup hentries hnews, hfind,
    Option.bind_some, Option.isSome_map]

theorem given_iff_findable_gap : ∃ news,
    allocateIPs noVFs "q" "ns" ["eth1"] 1 gapPools = some news ∧
    (news.lookup "net").isSome = true := by
  have hpods : ∀ e ∈ gapPools.entries, ∃ ip n, parseCIDR e.2.spec.podCIDR = some (ip, n) := by
    intro e he
    obtain rfl := List.mem_singleton.mp he
    exact ⟨_, _, rfl⟩
  have hserves : ∃ iface ∈ namesLeft noVFs [] ["eth1"], serves noVFs "eth1" iface = true :=
    ⟨"eth1", List.mem_singleton.mpr rfl, rfl⟩
  obtain ⟨news, hnews, hiff⟩ := given_iff_findable hpods (List.nil_append _).symm hserves
  exact ⟨news, hnews, hiff.mpr (by decide +kernel)⟩

/-- **The last index is never given after the one before it**: of four addresses, 1 is given
and 2 is free, neither allocated nor excluded, and the pool counts as exhausted. -/
theorem last_index_not_given :
    maxIndexOf (poolWith "10.0.0.0/30" [] [1]).spec.podCIDR = some 2 ∧
    2 ∉ usedIndexes (poolWith "10.0.0.0/30" [] [1]).spec 2 ∧
    (allocateIPs noVFs "q" "ns" ["eth1"] 1
      (AList.singleton "net" (poolWith "10.0.0.0/30" [] [1]))).map (·.lookup "net") =
        some none := by
  decide +kernel

/-! ## The index given is free -/

/-- A pool as the controller makes it: a network with at least two usable addresses, stored
indexes among them, and excludes that are smaller networks inside. -/
structure AlignedPool (spec : IPPoolSpec) (n : IPNet) : Prop where
  pod : parseCIDR spec.podCIDR = some (n.ip, n)
  ones_le : n.ones ≤ 30
  indexes : ∀ a ∈ spec.allocations, 1 ≤ a.index ∧ a.index ≤ 2 ^ (32 - n.ones) - 2
  excludes : ∀ x ∈ spec.excludes, ∃ m : IPNet, parseCIDR x = some (m.ip, m) ∧ n.ones < m.ones ∧
    m.ip ∈ cidrSet spec.podCIDR

/-- The allocation is one that the pool has to give: a usable index that is not given, and
its address, which is not excluded. -/
structure GoodAllocation (spec : IPPoolSpec) (n : IPNet) (a : Allocation) : Prop where
  one_le : 1 ≤ a.index
  le_max : a.index ≤ 2 ^ (32 - n.ones) - 2
  not_given : ∀ b ∈ spec.allocations, b.index ≠ a.index
  address : ∃ addr, parseIP a.address = some addr ∧ (addr.toNat : Int) = n.ip.toNat + a.index ∧
    ∀ x ∈ spec.excludes, addr ∉ cidrSet x

section Good

variable (hpool : AlignedPool spec n)
include hpool

/-- The used indexes lie in the pool. -/
theorem usedIndexes_bounds {j : Int} (hj : j ∈ usedIndexes spec (2 ^ (32 - n.ones) - 2)) :
    0 ≤ j ∧ j ≤ 2 ^ (32 - n.ones) - 2 := by
  rcases mem_generateAllocateIndexes.mp hj with ⟨a, ha, rfl⟩ | ⟨r, hr, hmin, -, hle⟩
  · have := hpool.indexes a ha
    omega
  · have := getExcludeRanges_nonneg hr
    omega

theorem exists_address (hmax : (i : Int) ≤ 2 ^ (32 - n.ones) - 2) :
    ∃ addr : IP4, addr.toNat = n.ip.toNat + i := by
  have hfits := network_fits hpool.pod
  have hpow : (2 : Int) ^ (32 - n.ones) = (2 ^ (32 - n.ones) : Nat) := by push_cast; rfl
  obtain ⟨addr, -, hval⟩ := parseIP_getAddressByIndex hpool.pod (Int.natCast_nonneg i) (by omega)
  exact ⟨addr, by omega⟩

/-- An index is used exactly when it is given or its address excluded. -/
theorem mem_usedIndexes_iff {addr : IP4} (haddr : addr.toNat = n.ip.toNat + i)
    (hmax : (i : Int) ≤ 2 ^ (32 - n.ones) - 2) :
    (i : Int) ∈ usedIndexes spec (2 ^ (32 - n.ones) - 2) ↔
      (∃ a ∈ spec.allocations, a.index = i) ∨ ∃ x ∈ spec.excludes, addr ∈ cidrSet x := by
  rw [usedIndexes, mem_generateAllocateIndexes]
  refine or_congr_right ?_
  have hrange : ∀ x ∈ spec.excludes, (addr ∈ cidrSet x ↔ ∃ range,
      excludeRange spec.podCIDR x = some range ∧ range.minIndex ≤ i ∧ i ≤ range.maxIndex) := by
    intro x hx
    obtain ⟨m, hparse, -, hin⟩ := hpool.excludes x hx
    have hof : excludeOf x = some (m.ip, m.ones) := by rw [excludeOf, hparse]
    rw [mem_cidrSet_network hparse, mem_range_iff hpool.pod hof
      ((mem_cidrSet_network hpool.pod _).mp hin).1 haddr]
  constructor
  · rintro ⟨range, hrange', hmin, hmax, -⟩
    obtain ⟨x, hx, hsome⟩ := List.mem_filterMap.mp hrange'
    exact ⟨x, hx, (hrange x hx).mpr ⟨range, hsome, hmin, hmax⟩⟩
  · rintro ⟨x, hx, hmem⟩
    obtain ⟨range, hsome, hmin, hle⟩ := (hrange x hx).mp hmem
    exact ⟨range, List.mem_filterMap.mpr ⟨x, hx, hsome⟩, hmin, hle, hmax⟩

/-- An allocation with the address of its index is good exactly when the index is usable and
not used. -/
theorem goodAllocation_iff {pod ns : String} {i : Int} :
    GoodAllocation spec n ⟨pod, ns, i, getAddressByIndex spec.podCIDR i⟩ ↔
      1 ≤ i ∧ i ≤ 2 ^ (32 - n.ones) - 2 ∧ i ∉ usedIndexes spec (2 ^ (32 - n.ones) - 2) := by
  have hfits := network_fits hpool.pod
  -- the address of a usable index
  have haddr : 1 ≤ i → i ≤ 2 ^ (32 - n.ones) - 2 → ∃ k : Nat, i = k ∧ ∃ addr,
      parseIP (getAddressByIndex spec.podCIDR i) = some addr ∧ addr.toNat = n.ip.toNat + k := by
    intro h1 hle
    obtain ⟨k, rfl⟩ := Int.eq_ofNat_of_zero_le (show 0 ≤ i by omega)
    have hlt : (n.ip.toNat : Int) + k < 2 ^ 32 := by
      have hcast : ((2 ^ (32 - n.ones) : Nat) : Int) = 2 ^ (32 - n.ones) := by push_cast; rfl
      omega
    obtain ⟨addr, hparse, hval⟩ := parseIP_getAddressByIndex hpool.pod (by omega) hlt
    exact ⟨k, rfl, addr, hparse, by omega⟩
  constructor
  · rintro ⟨h1, hle, hnot, addr, hparse, -, hexcl⟩
    refine ⟨h1, hle, fun hused => ?_⟩
    obtain ⟨k, rfl, addr', hparse', hval⟩ := haddr h1 hle
    dsimp only at hparse
    rw [hparse'] at hparse
    obtain rfl := Option.some.inj hparse
    rcases (mem_usedIndexes_iff hpool hval hle).mp hused with ⟨a, ha, hidx⟩ | ⟨x, hx, hin⟩
    · exact hnot a ha hidx
    · exact hexcl x hx hin
  · rintro ⟨h1, hle, hnot⟩
    obtain ⟨k, rfl, addr, hparse, hval⟩ := haddr h1 hle
    rw [mem_usedIndexes_iff hpool hval hle, not_or] at hnot
    push Not at hnot
    exact ⟨h1, hle, hnot.1, addr, hparse, by dsimp only; omega, hnot.2⟩

end Good

/-! ## What is taken -/

/-- The exclude holds the address of index `i` of the network. -/
def holdsIndex (n : IPNet) (i : Nat) (exclude : String) : Bool :=
  match parseCIDR exclude with
  | some (_, m) =>
    m.ip.toNat ≤ n.ip.toNat + i && n.ip.toNat + i < m.ip.toNat + 2 ^ (32 - m.ones)
  | none => false

/-- How many allocations and excludes take the index. -/
def timesTaken (spec : IPPoolSpec) (n : IPNet) (i : Nat) : Nat :=
  spec.allocations.countP (fun a => a.index == (i : Int)) + spec.excludes.countP (holdsIndex n i)

/-- The indexes of a pool up to the largest usable one in order, each as often as it is taken. -/
def takenIndexes (spec : IPPoolSpec) (n : IPNet) : List Int :=
  (List.range (2 ^ (32 - n.ones) - 1)).flatMap fun i => List.replicate (timesTaken spec n i) (i : Int)

theorem takenIndexes_sorted (spec : IPPoolSpec) (n : IPNet) :
    (takenIndexes spec n).Pairwise (· ≤ ·) := by
  refine List.pairwise_flatMap.mpr ⟨fun i _ => ?_, List.pairwise_lt_range.imp ?_⟩
  · exact List.pairwise_replicate.mpr (Or.inr le_rfl)
  · intro i j hij x hx y hy
    rw [List.eq_of_mem_replicate hx, List.eq_of_mem_replicate hy]
    exact_mod_cast hij.le

/-- Without index 0 and repetitions the indexes increase from 1 on. -/
theorem takenIndexes_strict (h0 : timesTaken spec n 0 = 0) (honce : ∀ i, timesTaken spec n i ≤ 1) :
    (takenIndexes spec n).Pairwise (· < ·) ∧ ∀ i ∈ takenIndexes spec n, 1 ≤ i := by
  constructor
  · refine List.pairwise_flatMap.mpr ⟨fun i _ => ?_, List.pairwise_lt_range.imp ?_⟩
    · exact List.pairwise_replicate.mpr (Or.inl (honce i))
    · intro i j hij x hx y hy
      rw [List.eq_of_mem_replicate hx, List.eq_of_mem_replicate hy]
      exact_mod_cast hij
  · intro x hx
    obtain ⟨i, -, hi⟩ := List.mem_flatMap.mp hx
    obtain ⟨hne, rfl⟩ := List.mem_replicate.mp hi
    have hpos : i ≠ 0 := by
      rintro rfl
      exact hne h0
    omega

section Taken

variable (hpool : AlignedPool spec n)
include hpool

/-- An exclude of the pool is listed once at every index that it holds. -/
theorem count_excludeRange {x : String} (hx : x ∈ spec.excludes)
    (hmax : (i : Int) ≤ 2 ^ (32 - n.ones) - 2) :
    (((excludeRange spec.podCIDR x).toList.flatMap fun range =>
      indexRange range.minIndex (min range.maxIndex (2 ^ (32 - n.ones) - 2))).count (i : Int)) =
      if holdsIndex n i x then 1 else 0 := by
  obtain ⟨m, hparse, -, hin⟩ := hpool.excludes x hx
  have hof : excludeOf x = some (m.ip, m.ones) := by rw [excludeOf, hparse]
  obtain ⟨addr, haddr⟩ := exists_address hpool hmax
  have hholds : holdsIndex n i x = true ↔ ∃ range, excludeRange spec.podCIDR x = some range ∧
      range.minIndex ≤ i ∧ i ≤ range.maxIndex := by
    rw [mem_range_iff hpool.pod hof ((mem_cidrSet_network hpool.pod _).mp hin).1 haddr, haddr,
      holdsIndex, hparse, Bool.and_eq_true, decide_eq_true_eq, decide_eq_true_eq]
  cases hrange : excludeRange spec.podCIDR x with
  | none =>
    rw [if_neg]
    · rfl
    · rw [hholds, hrange]
      rintro ⟨range, hnone, -⟩
      cases hnone
  | some range =>
    have hnodup : (indexRange range.minIndex
        (min range.maxIndex (2 ^ (32 - n.ones) - 2))).Nodup := by
      refine List.nodup_range.map fun a b hab => ?_
      have hab : range.minIndex + (a : Int) = range.minIndex + b := hab
      omega
    rw [Option.toList_some, List.flatMap_singleton, hnodup.count]
    refine if_congr ?_ rfl rfl
    rw [mem_indexRange, le_min_iff, hholds, hrange]
    constructor
    · rintro ⟨hmin, hle, -⟩
      exact ⟨range, rfl, hmin, hle⟩
    · rintro ⟨range', hsome, hmin, hle⟩
      cases hsome
      exact ⟨hmin, hle, hmax⟩

theorem count_usedIndexes (hmax : (i : Int) ≤ 2 ^ (32 - n.ones) - 2) :
    (usedIndexes spec (2 ^ (32 - n.ones) - 2)).count (i : Int) = timesTaken spec n i := by
  rw [usedIndexes, generateAllocateIndexes, (sortInts_perm _).count_eq, List.count_append,
    timesTaken]
  refine congrArg₂ (· + ·) List.countP_map ?_
  have hexcludes := fun x hx => count_excludeRange hpool (x := x) hx hmax
  rw [getExcludeRanges, List.filterMap_eq_flatMap_toList, List.flatMap_assoc]
  generalize spec.excludes = excludes at hexcludes
  induction excludes with
  | nil => rfl
  | cons x excludes ih =>
    rw [List.flatMap_cons, List.count_append,
      hexcludes x List.mem_cons_self, ih fun y hy => hexcludes y (List.mem_cons_of_mem x hy),
      List.countP_cons, Nat.add_comm]

/-- **`GenerateAllocateIndexes` lists what is taken.** -/
theorem usedIndexes_eq_taken : usedIndexes spec (2 ^ (32 - n.ones) - 2) = takenIndexes spec n := by
  have hpow : (2 : Int) ^ (32 - n.ones) = (2 ^ (32 - n.ones) : Nat) := by push_cast; rfl
  have hpos : 0 < 2 ^ (32 - n.ones) := Nat.two_pow_pos _
  refine List.Perm.eq_of_pairwise (fun _ _ _ _ => le_antisymm) (sortInts_sorted _)
    (takenIndexes_sorted spec n) (List.perm_iff_count.mpr fun j => ?_)
  by_cases hj : 0 ≤ j ∧ j ≤ 2 ^ (32 - n.ones) - 2
  · obtain ⟨i, rfl⟩ := Int.eq_ofNat_of_zero_le hj.1
    rw [count_usedIndexes hpool hj.2, takenIndexes, count_flatMap_replicate, if_pos (by omega)]
  · rw [List.count_eq_zero_of_not_mem fun hmem => hj (usedIndexes_bounds hpool hmem),
      List.count_eq_zero_of_not_mem]
    intro hmem
    obtain ⟨i, hi, hmem⟩ := List.mem_flatMap.mp hmem
    rw [List.mem_range] at hi
    rw [List.eq_of_mem_replicate hmem] at hj
    omega

end Taken

/-! ## The least free index -/

/-- The index is usable and not taken, and all below it are taken. -/
def LeastFree (taken : List Int) (maxIndex i : Int) : Prop :=
  1 ≤ i ∧ i ≤ maxIndex ∧ i ∉ taken ∧ ∀ j, 1 ≤ j → j < i → j ∈ taken

/-- The search comes to the free index `r + 1`: the taken ones before it are 1, 2, …, `r`, and of
the pieces of the list around position `r`, cut in halves again and again, none ends with an index
that is the number of its position. -/
def Reaches (taken : List Int) (maxIndex : Int) (r : Nat) : Prop :=
  (r + 1 : Int) ≤ maxIndex ∧ (r + 1 : Int) ∉ taken ∧ (∀ k < r, own 1 taken k = true) ∧
    ∀ piece ∈ halvings taken.length 0 taken.length r, own 1 taken (piece.2 - 1) = false

instance (taken : List Int) (maxIndex : Int) (r : Nat) : Decidable (Reaches taken maxIndex r) :=
  inferInstanceAs (Decidable (_ ∧ _))

/-- No search is made, for the last taken index and the offset are below the largest index; or
nothing is given, for the last taken index is the number of the taken ones; or the search comes to a
free index. -/
def SearchSafe (offset : Int) (spec : IPPoolSpec) (n : IPNet) : Prop :=
  indexAfterLast (takenIndexes spec n) offset < 2 ^ (32 - n.ones) - 2 ∨
    (∀ last ∈ (takenIndexes spec n).getLast?, last = (takenIndexes spec n).length) ∨
    ∃ r, Reaches (takenIndexes spec n) (2 ^ (32 - n.ones) - 2) r

section Search

variable {taken : List Int} {maxIndex : Int}

/-- The search answers with the free index that it comes to. -/
theorem Reaches.answer {r : Nat} (h : Reaches taken maxIndex r) (hlt : r < taken.length) :
    findAvailableIndex taken 0 = 1 + r := by
  obtain ⟨-, hfree, hbefore, hpieces⟩ := h
  rw [findAvailableIndex_eq_compute]
  refine findAvailableIndex_of_leads (by omega) hlt ⟨?_, fun piece hpiece => ?_⟩
  · rw [← Bool.not_eq_true, own_iff]
    intro hown
    exact hfree (List.mem_of_getElem? (by rwa [Int.add_comm]))
  · have hle := mem_halvings_le hpiece (Nat.zero_le r)
    refine ⟨hpieces piece hpiece, fun hne => hbefore _ (by omega), fun hne => hbefore _ (by omega)⟩

/-- Of sorted indexes that include all up to `k`, the last of them at its own position, every one is
at its own position. -/
theorem own_of_all_below {k : Nat} (hsorted : taken.Pairwise (· ≤ ·))
    (hall : ∀ j : Int, 1 ≤ j → j < 1 + k → j ∈ taken)
    (hlast : k ≠ 0 → taken[k - 1]? = some (1 + (k - 1 : Nat) : Int)) (hi : i < k) :
    own 1 taken i = true := by
  obtain ⟨hk, hval⟩ := List.getElem?_eq_some_iff.mp (hlast (by omega))
  have hlen : i < taken.length := by omega
  have hle : ∀ {p q} (hp : p < taken.length) (hq : q < taken.length), p ≤ q →
      taken[p] ≤ taken[q] := fun hp hq hpq => hsorted.rel_get_of_le (a := ⟨_, hp⟩) (b := ⟨_, hq⟩) hpq
  rw [own_iff, List.getElem?_eq_getElem hlen, Option.some.injEq]
  refine le_antisymm ?_ ?_
  · -- the indexes up to `i + 1` are as many
    obtain ⟨p, hp, hval⟩ := List.mem_iff_getElem.mp (hall (1 + i) (by omega) (by omega))
    have hpos := position_add_le hsorted (a := 1) (m := 0) (fun _ _ => Nat.zero_le _) i
      (fun j h1 h2 => hall j h1 (by omega)) (by rw [List.getElem?_eq_getElem hp, hval])
    rw [← hval]
    exact hle hlen hp (by omega)
  · -- if position `i` held less, index `k` would come later
    by_contra hless
    have hfirst : ∀ p, taken[p]? = some (1 + i : Int) → i + 1 ≤ p := by
      intro p hp
      obtain ⟨hp, hval⟩ := List.getElem?_eq_some_iff.mp hp
      by_contra hlt
      have := hle hp hlen (by omega)
      omega
    have hpos := position_add_le hsorted hfirst (k - 1 - i) (p := k - 1)
      (fun j h1 h2 => hall j (by omega) (by omega))
      (by rw [List.getElem?_eq_getElem hk, hval, Option.some.injEq]; omega)
    omega

/-- If the answer is the least free index, the search comes to it. -/
theorem reaches_of_leastFree {i : Int} (hsorted : taken.Pairwise (· ≤ ·))
    (hfound : findAvailableIndex taken 0 = i) (hleast : LeastFree taken maxIndex i) :
    ∃ r, Reaches taken maxIndex r := by
  obtain ⟨h1, hmax, hfree, hbelow⟩ := hleast
  rw [findAvailableIndex_eq_compute] at hfound
  obtain ⟨k, rfl, -, hleads, -, hbefore⟩ := findAvailableIndex_leads (by omega) hfound (by omega)
  refine ⟨k, by omega, by rwa [Int.add_comm], ?_, fun piece hpiece => (hleads.2 piece hpiece).1⟩
  exact fun j hj => own_of_all_below hsorted hbelow hbefore hj

end Search

/-- **Where index 0 is not taken and no index twice, the search is safe.** -/
theorem searchSafe_of_once (offset : Int) (h0 : timesTaken spec n 0 = 0)
    (honce : ∀ i, timesTaken spec n i ≤ 1) : SearchSafe offset spec n := by
  obtain ⟨hstrict, hge⟩ := takenIndexes_strict h0 honce
  refine Or.inr ?_
  rcases @findAvailableIndex_spec _ 1 0 hstrict hge (by omega) with
    ⟨hnone, -⟩ | hgap
  · refine Or.inl fun last hlast => ?_
    have := (findAvailableIndex_eq_neg_one (by omega)).mp hnone last hlast
    omega
  · refine Or.inr (reaches_of_leastFree (takenIndexes_sorted spec n)
      (findAvailableIndex_eq_compute _ _) ⟨hgap.le, ?_, hgap.not_mem, hgap.below⟩)
    obtain ⟨x, hx, hlt⟩ := hgap.lt
    obtain ⟨i, hi, hmem⟩ := List.mem_flatMap.mp hx
    rw [List.mem_range] at hi
    rw [List.eq_of_mem_replicate hmem] at hlt
    have hpow : (2 : Int) ^ (32 - n.ones) = (2 ^ (32 - n.ones) : Nat) := by push_cast; rfl
    omega

section Next

variable (hpool : AlignedPool spec n) {offset : Int}
include hpool

/-- Where the search is safe, what a pool gives is good. -/
theorem nextAllocation_good (hoffset : 1 ≤ offset) (hsafe : SearchSafe offset spec n)
    {pod ns address : String} {i : Int}
    (hnext : nextAllocation offset spec = some (some (i, address))) :
    GoodAllocation spec n ⟨pod, ns, i, address⟩ := by
  have hbounds := fun j hj => usedIndexes_bounds hpool (j := j) hj
  rw [nextAllocation_eq (maxIndexOf_eq hpool.pod)] at hnext
  unfold SearchSafe at hsafe
  rw [← usedIndexes_eq_taken hpool] at hsafe
  split at hnext
  · next hlt =>
    cases hnext
    refine (goodAllocation_iff hpool).mpr ⟨?_, hlt.le, fun hmem => ?_⟩
    · exact one_le_indexAfterLast hoffset fun j hj => (hbounds j hj).1
    · exact lt_irrefl _ (lt_indexAfterLast hoffset hmem)
  · next hge =>
    split at hnext
    · next hne =>
      cases hnext
      have hlast : ¬ ∀ last ∈ (usedIndexes spec (2 ^ (32 - n.ones) - 2)).getLast?,
          last = (usedIndexes spec (2 ^ (32 - n.ones) - 2)).length := by
        intro hlast
        refine hne ?_
        rw [findAvailableIndex_eq_compute, findAvailableIndex_eq_neg_one (by omega)]
        intro last hmem
        have := hlast last hmem
        omega
      obtain ⟨r, hr⟩ := (hsafe.resolve_left hge).resolve_left hlast
      have hlen : r < (usedIndexes spec (2 ^ (32 - n.ones) - 2)).length := by
        by_contra hlen
        refine hlast fun last hmem => ?_
        have hlt : 0 < (usedIndexes spec (2 ^ (32 - n.ones) - 2)).length :=
          List.length_pos_of_mem (List.mem_of_getLast? hmem)
        -- all of them are at their own positions, the last one too
        have hown := own_iff.mp (hr.2.2.1 ((usedIndexes spec (2 ^ (32 - n.ones) - 2)).length - 1)
          (by omega))
        rw [← List.getLast?_eq_getElem?, Option.mem_def.mp hmem, Option.some.injEq] at hown
        omega
      rw [hr.answer hlen]
      refine (goodAllocation_iff hpool).mpr ⟨by omega, ?_, ?_⟩
      · have := hr.1
        omega
      · rw [Int.add_comm]
        exact hr.2.1
    · cases hnext

/-- Where it is not, an index is given that is not the least free one. -/
theorem nextAllocation_not_least (hsafe : ¬ SearchSafe offset spec n) :
    ∃ i address, nextAllocation offset spec = some (some (i, address)) ∧
      ¬ LeastFree (takenIndexes spec n) (2 ^ (32 - n.ones) - 2) i := by
  rw [nextAllocation_eq (maxIndexOf_eq hpool.pod), usedIndexes_eq_taken hpool]
  unfold SearchSafe at hsafe
  rw [not_or, not_or] at hsafe
  obtain ⟨hge, hlast, hnot⟩ := hsafe
  have hne : findAvailableIndex (takenIndexes spec n) 0 ≠ -1 := by
    intro hnone
    rw [findAvailableIndex_eq_compute, findAvailableIndex_eq_neg_one (by omega)] at hnone
    refine hlast fun last hmem => ?_
    have := hnone last hmem
    omega
  rw [if_neg hge, if_pos hne]
  exact ⟨_, _, rfl, fun hleast => hnot (reaches_of_leastFree (takenIndexes_sorted spec n) rfl hleast)⟩

end Next

/-- **The allocation a pool gives is good where the search is safe**: a usable index, neither given
nor excluded, with its address. For every list of pools and of requested interfaces, a pool that
serves an interface left by the pools before it gives only such allocations, if the search is not
needed, finds nothing, or is not misled by indexes that are taken twice; if it is, the index given
is not the least free one. -/
theorem given_good {dev : Devices} {podName podNamespace : String}
    {interfaceNames : List String} {offset : Int} {listed : GoMap String IPPool}
    {before after : List ((_ : String) × IPPool)} {name : String} {pool : IPPool} {n : IPNet}
    {news : GoMap String NewAllocation} (hpool : AlignedPool pool.spec n) (hoffset : 1 ≤ offset)
    (hentries : listed.entries = before ++ ⟨name, pool⟩ :: after)
    (hserves : ∃ iface ∈ namesLeft dev before interfaceNames,
      serves dev pool.spec.interfaceName iface = true)
    (hnews : allocateIPs dev podName podNamespace interfaceNames offset listed = some news) :
    (SearchSafe offset pool.spec n →
      ∀ a, news.lookup name = some a → GoodAllocation pool.spec n a.allocation) ∧
    (¬ SearchSafe offset pool.spec n → ∃ a, news.lookup name = some a ∧
      ¬ LeastFree (takenIndexes pool.spec n) (2 ^ (32 - n.ones) - 2) a.allocation.index) := by
  obtain ⟨iface, hfind⟩ := Option.isSome_iff_exists.mp (List.find?_isSome.mpr hserves)
  rw [allocateIPs_lookup hentries hnews, hfind, Option.bind_some]
  constructor
  · intro hsafe a ha
    obtain ⟨⟨i, address⟩, hnext, rfl⟩ := Option.map_eq_some_iff.mp ha
    exact nextAllocation_good hpool hoffset hsafe (Option.join_eq_some_iff.mp hnext)
  · intro hsafe
    obtain ⟨i, address, hnext, hleast⟩ := nextAllocation_not_least hpool hsafe
    rw [hnext]
    exact ⟨_, rfl, hleast⟩

/-- A pool that has given its last index, which is excluded since. -/
def wrappedPool : IPPool := poolWith "10.0.0.0/29" ["10.0.0.4/31"] [1, 5]

/-- The same with an exclude at its first address. -/
def excludedFirst : IPPool := poolWith "10.0.0.0/29" ["10.0.0.0/31"] [5]

theorem alignedPool_wrapped :
    AlignedPool wrappedPool.spec ⟨⟨10, 0, 0, 0⟩, 29, by decide⟩ := by
  refine ⟨rfl, by decide, by decide, ?_⟩
  intro x hx
  obtain rfl := List.mem_singleton.mp hx
  exact ⟨⟨⟨10, 0, 0, 4⟩, 31, by decide⟩, rfl, by decide, ⟨_, _, rfl, by decide⟩⟩

/-- Index 5 is taken twice, and index 2 is given. -/
theorem given_good_wrapped : ∃ news a,
    allocateIPs noVFs "q" "ns" ["eth1"] 1 (AList.singleton "net" wrappedPool) = some news ∧
    news.lookup "net" = some a ∧ a.allocation.index = 2 ∧
    GoodAllocation wrappedPool.spec ⟨⟨10, 0, 0, 0⟩, 29, by decide⟩ a.allocation := by
  have hreturns : (allocateIPs noVFs "q" "ns" ["eth1"] 1 (AList.singleton "net" wrappedPool)).bind
      (·.lookup "net") = some ⟨⟨"q", "ns", 2, "10.0.0.2"⟩, "eth1"⟩ := by decide +kernel
  obtain ⟨news, hnews, hlookup⟩ := Option.bind_eq_some_iff.mp hreturns
  have hserves : ∃ iface ∈ namesLeft noVFs [] ["eth1"], serves noVFs "eth1" iface = true :=
    ⟨"eth1", List.mem_singleton.mpr rfl, rfl⟩
  have hreaches : Reaches (takenIndexes wrappedPool.spec ⟨⟨10, 0, 0, 0⟩, 29, by decide⟩) 6 1 := by
    decide +kernel
  have hgood := given_good alignedPool_wrapped (by decide) (List.nil_append _).symm hserves hnews
  exact ⟨news, _, hnews, hlookup, rfl, hgood.1 (Or.inr (Or.inr ⟨1, hreaches⟩)) _ hlookup⟩

/-- **An excluded address is given.** The first two addresses are excluded and index 5 is
given; the next request gets index 1. -/
theorem excluded_index_given :
    (allocateIPs noVFs "q" "ns" ["eth1"] 1 (AList.singleton "net" excludedFirst)).map
      (·.lookup "net") = some (some ⟨⟨"q", "ns", 1, "10.0.0.1"⟩, "eth1"⟩) ∧
    AlignedPool excludedFirst.spec ⟨⟨10, 0, 0, 0⟩, 29, by decide⟩ ∧
    ∃ addr, parseIP "10.0.0.1" = some addr ∧ ∃ x ∈ excludedFirst.spec.excludes,
      addr ∈ cidrSet x := by
  refine ⟨by decide +kernel, ⟨rfl, by decide, by decide, ?_⟩, ⟨10, 0, 0, 1⟩, rfl, "10.0.0.0/31",
    by decide, ⟨_, _, rfl, by decide⟩⟩
  intro x hx
  obtain rfl := List.mem_singleton.mp hx
  exact ⟨⟨⟨10, 0, 0, 0⟩, 31, by decide⟩, rfl, by decide, ⟨_, _, rfl, by decide⟩⟩

end MultiNicCni.Daemon
