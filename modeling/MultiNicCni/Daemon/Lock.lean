import MultiNicCni.Daemon.Request

/-!
# The allocator lock and failing API calls

`AllocateIP` and `DeallocateIP` with what `MultiNicCni.Daemon.Allocator` leaves out: the lock
they take, and a listing or a patch that the API server refuses. A request that finds the lock
taken blocks; the code has no other holder that could release it later.

- `lockedAllocateIP`, `lockedDeallocateIP`: the requests, exit path by exit path;
- `lockedAllocateIP_eq`, `lockedDeallocateIP_eq`: **without failures they are `allocateIP` and
  `deallocateIP`**;
- `serveCall_spec`: one request returns, and keeps the lock if it is a deallocation whose
  listing failed;
- `lock_released_iff`: **every request of a sequence returns and leaves the lock free exactly
  when no deallocation fails to list the pools**;
- `lock_kept`: after one that fails, every request blocks.
-/

namespace MultiNicCni.Daemon

open Go Compute Lib

/-! ## The requests -/

/-- Which API calls of a request fail: the listing, and the patch of a pool. -/
structure Failures where
  list : Bool
  patch : String → Bool

/-- No call fails. -/
def Failures.none : Failures := ⟨false, fun _ => false⟩

/-- The state of the daemon with `allocatorLock`. -/
structure LockState extends DaemonState where
  locked : Bool

/-- Why a request does not return. -/
inductive Stop where
  | blocks
  | panics
  deriving DecidableEq, Repr

/-- `allocatorLock.Lock()`. -/
def LockState.lock (s : LockState) : Except Stop LockState :=
  if s.locked then .error .blocks else .ok { s with locked := true }

/-- `allocatorLock.Unlock()`. -/
def LockState.unlock (s : LockState) : LockState := { s with locked := false }

/-- Code that panics where the option is `none`. -/
def orPanic {α : Type} : Option α → Except Stop α
  | some a => .ok a
  | none => .error .panics

/-- The body of `applyNewAllocations`: a pool that cannot be patched is not answered for. -/
def tryNewAllocation (fail : Failures) (ippoolSpecMap : GoMap String IPPool)
    (st : GoMap String IPPool × List IPResponse) (entry : (_ : String) × NewAllocation) :
    Option (GoMap String IPPool × List IPResponse) :=
  if fail.patch entry.1 then some st else applyNewAllocation ippoolSpecMap st entry

/-- `allocateIP` and `applyNewAllocations` on the listed pools. -/
def allocateListed (dev : Devices) (fail : Failures) (req : IPRequest) (offset : Int)
    (pools : GoMap String IPPool) : Option (GoMap String IPPool × List IPResponse) := do
  let ippoolSpecMap := listIPPool pools req.hostName req.netAttachDefName
  let newAllocations ← allocateIPs dev req.podName req.podNamespace req.interfaceNames offset
    ippoolSpecMap
  newAllocations.entries.foldlM (tryNewAllocation fail ippoolSpecMap) (pools, [])

/-- `AllocateIP`. -/
def lockedAllocateIP (dev : Devices) (expired : String → Bool) (fail : Failures) (req : IPRequest)
    (s : LockState) : Except Stop (List IPResponse × LockState) := do
  let (offset, history) := nextOffset (flushExpiredHistory expired s.history) req.podName
  let s ← LockState.lock { s with history := history }
  if fail.list || (listIPPool s.pools req.hostName req.netAttachDefName).entries.isEmpty then
    -- unable to proceed allocation without ippool or with error
    .ok ([], s.unlock)
  else
    let (pools, responses) ← orPanic (allocateListed dev fail req offset s.pools)
    .ok (responses, LockState.unlock { s with pools := pools })

/-- The body of the loop of `DeallocateIP`: a pool that cannot be patched is answered for all
the same. -/
def tryDeallocateFromPool (dev : Devices) (fail : Failures) (req : IPRequest)
    (st : GoMap String IPPool × List IPResponse) (entry : (_ : String) × IPPool) :
    Option (GoMap String IPPool × List IPResponse) := do
  let (pools, responses) ← deallocateFromPool dev req st entry
  some (if fail.patch entry.1 then st.1 else pools, responses)

/-- The loop of `DeallocateIP` over the listed pools. -/
def deallocateListed (dev : Devices) (fail : Failures) (req : IPRequest)
    (pools : GoMap String IPPool) : Option (GoMap String IPPool × List IPResponse) :=
  (listIPPool pools req.hostName req.netAttachDefName).entries.foldlM
    (tryDeallocateFromPool dev fail req) (pools, [])

/-- `DeallocateIP`. -/
def lockedDeallocateIP (dev : Devices) (fail : Failures) (req : IPRequest) (s : LockState) :
    Except Stop (List IPResponse × LockState) := do
  let history :=
    match s.history.lookup req.podName with
    | some _ => s.history
    | none => s.history.insert req.podName 1
  let s ← LockState.lock { s with history := history }
  if fail.list then
    -- this path returns without Unlock
    .ok ([], s)
  else
    let (pools, responses) ← orPanic (deallocateListed dev fail req s.pools)
    .ok (responses, LockState.unlock { s with pools := pools })

/-! ## Without failures -/

section NoFailures

variable {dev : Devices} {req : IPRequest} {pools : GoMap String IPPool}
  {history : GoMap String Int}

theorem allocateIP_eq (expired : String → Bool) :
    (allocateIP dev expired req ⟨pools, history⟩).map (fun out => (out.responses, out.state)) =
      (allocateListed dev .none req
        (nextOffset (flushExpiredHistory expired history) req.podName).1 pools).map fun st =>
          (st.2, ⟨st.1, (nextOffset (flushExpiredHistory expired history) req.podName).2⟩) := by
  simp only [allocateIP, allocateListed]
  cases allocateIPs dev req.podName req.podNamespace req.interfaceNames
      (nextOffset (flushExpiredHistory expired history) req.podName).1
      (listIPPool pools req.hostName req.netAttachDefName) with
  | none => rfl
  | some news =>
    show Option.map _ (Option.bind (news.entries.foldlM (applyNewAllocation _) _) _) =
      Option.map _ (news.entries.foldlM (applyNewAllocation _) _)
    cases news.entries.foldlM (applyNewAllocation
      (listIPPool pools req.hostName req.netAttachDefName)) (pools, []) <;> rfl

/-- Without failures and with the lock free, `AllocateIP` is the function of the other
modules. -/
theorem lockedAllocateIP_eq (expired : String → Bool) :
    lockedAllocateIP dev expired .none req ⟨⟨pools, history⟩, false⟩ =
      orPanic (((allocateIP dev expired req ⟨pools, history⟩).map fun out =>
        (out.responses, out.state)).map fun out => (out.1, ⟨out.2, false⟩)) := by
  rw [allocateIP_eq]
  show (if (listIPPool pools req.hostName req.netAttachDefName).entries.isEmpty then _ else _) = _
  split
  · next hempty =>
    -- no pool is listed, so none is allocated from
    rw [allocateListed, allocateIPs, List.isEmpty_iff.mp hempty]
    rfl
  · show Except.bind (orPanic (allocateListed dev .none req
      (nextOffset (flushExpiredHistory expired history) req.podName).1 pools)) _ = _
    cases allocateListed dev .none req
      (nextOffset (flushExpiredHistory expired history) req.podName).1 pools <;> rfl

theorem tryDeallocateFromPool_none :
    tryDeallocateFromPool dev .none req = deallocateFromPool dev req := by
  funext st entry
  rw [tryDeallocateFromPool]
  cases deallocateFromPool dev req st entry with
  | none => rfl
  | some st' => rfl

/-- And so is `DeallocateIP`. -/
theorem lockedDeallocateIP_eq :
    lockedDeallocateIP dev .none req ⟨⟨pools, history⟩, false⟩ =
      orPanic ((deallocateIP dev req ⟨pools, history⟩).map fun out => (out.1, ⟨out.2, false⟩)) := by
  show Except.bind (orPanic (deallocateListed dev .none req pools)) _ = _
  rw [deallocateListed, tryDeallocateFromPool_none, deallocateIP]
  cases (listIPPool pools req.hostName req.netAttachDefName).entries.foldlM
    (deallocateFromPool dev req) (pools, []) <;> rfl

end NoFailures

/-! ## One request -/

/-- A request, with the failures that it meets. Before it, other clients of the API server may
have changed the pools, as long as their texts stay well formed. -/
inductive Call where
  | allocate (expired : String → Bool) (fail : Failures) (req : IPRequest)
  | deallocate (fail : Failures) (req : IPRequest)
  | others (pools : GoMap String IPPool) (valid : pools.All fun _ pool => ValidTexts pool)

/-- Serve a request. -/
def serveCall (dev : Devices) (s : LockState) : Call → Except Stop LockState
  | .allocate expired fail req => Prod.snd <$> lockedAllocateIP dev expired fail req s
  | .deallocate fail req => Prod.snd <$> lockedDeallocateIP dev fail req s
  | .others pools _ => .ok { s with pools := pools }

/-- The request returns by the path that does not release the lock. -/
def Call.keepsLock : Call → Bool
  | .deallocate fail _ => fail.list
  | _ => false

section One

variable {dev : Devices} {req : IPRequest} {fail : Failures} {pools : GoMap String IPPool}
  {history : GoMap String Int}

/-- The loop of `AllocateIP` returns, whatever patch fails, and keeps the texts of the pools. -/
theorem allocateListed_returns (offset : Int) (hvalid : pools.All fun _ pool => ValidTexts pool) :
    ∃ st, allocateListed dev fail req offset pools = some st ∧
      st.1.All fun _ pool => ValidTexts pool := by
  have hlisted := listIPPool_all hvalid req.hostName req.netAttachDefName
  obtain ⟨news, hnews⟩ : ∃ news, allocateIPs dev req.podName req.podNamespace req.interfaceNames
      offset (listIPPool pools req.hostName req.netAttachDefName) = some news :=
    allocateIPs_returns hlisted
  rw [allocateListed, hnews]
  refine foldlM_total (P := fun s : GoMap String IPPool × List IPResponse =>
    s.1.All fun _ pool => ValidTexts pool) ?_ hvalid
  intro s e he hs
  unfold tryNewAllocation
  split
  · exact ⟨s, rfl, hs⟩
  · obtain ⟨s', hs'⟩ := applyNewAllocation_returns hlisted hnews s e he
    refine ⟨s', hs', ?_⟩
    obtain ⟨pool, response, -, rfl⟩ := applyNewAllocation_eq hs'
    exact validTexts_of_shape (patchIPPool_shape _ _ _) hs

/-- So does the loop of `DeallocateIP`. -/
theorem deallocateListed_returns (hvalid : pools.All fun _ pool => ValidTexts pool) :
    ∃ st, deallocateListed dev fail req pools = some st ∧
      st.1.All fun _ pool => ValidTexts pool := by
  have hlisted := listIPPool_all hvalid req.hostName req.netAttachDefName
  refine foldlM_total (P := fun s : GoMap String IPPool × List IPResponse =>
    s.1.All fun _ pool => ValidTexts pool) ?_ hvalid
  intro s e he hs
  obtain ⟨s', hs'⟩ : ∃ s', deallocateFromPool dev req s e = some s' :=
    deallocateFromPool_returns hlisted s e he
  refine ⟨_, Option.bind_eq_some_iff.mpr ⟨s', hs', rfl⟩, ?_⟩
  dsimp only
  split
  · exact hs
  · rcases deallocateFromPool_cases hs' with ⟨rfl, -⟩ | ⟨-, response, rfl⟩
    · exact hs
    · exact validTexts_of_shape (patchIPPool_shape _ _ _) hs

/-- **One request**: with the lock free it returns, and it has the lock afterwards exactly if it
is a deallocation whose listing failed. -/
theorem serveCall_spec (call : Call) {s : LockState} (hfree : s.locked = false)
    (hvalid : s.pools.All fun _ pool => ValidTexts pool) :
    ∃ s', serveCall dev s call = .ok s' ∧ s'.locked = call.keepsLock ∧
      s'.pools.All fun _ pool => ValidTexts pool := by
  obtain ⟨⟨pools, history⟩, locked⟩ := s
  obtain rfl : locked = false := hfree
  cases call with
  | allocate expired fail req =>
    obtain ⟨st, hst, hvalid'⟩ : ∃ st, allocateListed dev fail req
        (nextOffset (flushExpiredHistory expired history) req.podName).1 pools = some st ∧ _ :=
      allocateListed_returns _ hvalid
    show ∃ s', Prod.snd <$> (if (fail.list ||
      (listIPPool pools req.hostName req.netAttachDefName).entries.isEmpty) = true then _ else
      Except.bind (orPanic (allocateListed dev fail req
        (nextOffset (flushExpiredHistory expired history) req.podName).1 pools)) _) = _ ∧ _
    rw [hst]
    by_cases hlist : (fail.list ||
        (listIPPool pools req.hostName req.netAttachDefName).entries.isEmpty) = true
    · rw [if_pos hlist]
      exact ⟨_, rfl, rfl, hvalid⟩
    · rw [if_neg hlist]
      exact ⟨_, rfl, rfl, hvalid'⟩
  | deallocate fail req =>
    obtain ⟨st, hst, hvalid'⟩ : ∃ st, deallocateListed dev fail req pools = some st ∧ _ :=
      deallocateListed_returns hvalid
    show ∃ s', Prod.snd <$> (if fail.list = true then _ else
      Except.bind (orPanic (deallocateListed dev fail req pools)) _) = _ ∧ _
    rw [hst]
    split
    · next hlist => exact ⟨_, rfl, hlist.symm, hvalid⟩
    · next hlist => exact ⟨_, rfl, (Bool.eq_false_iff.mpr hlist).symm, hvalid'⟩
  | others pools' hvalid' => exact ⟨_, rfl, rfl, hvalid'⟩

/-- A request that finds the lock taken blocks. -/
theorem serveCall_blocks (call : Call) {s : LockState} (hlocked : s.locked = true)
    (hrequest : ∀ pools hvalid, call ≠ .others pools hvalid) :
    serveCall dev s call = .error .blocks := by
  obtain ⟨⟨pools, history⟩, locked⟩ := s
  obtain rfl : locked = true := hlocked
  cases call with
  | allocate expired fail req => rfl
  | deallocate fail req => rfl
  | others pools' hvalid' => exact absurd rfl (hrequest pools' hvalid')

end One

/-! ## Sequences of requests -/

/-- Serve requests one after the other. -/
def serveCalls (dev : Devices) (calls : List Call) (s : LockState) : Except Stop LockState :=
  calls.foldlM (serveCall dev) s

theorem serveCalls_cons (dev : Devices) {call : Call} {calls : List Call} {s s' : LockState}
    (h : serveCall dev s call = .ok s') :
    serveCalls dev (call :: calls) s = serveCalls dev calls s' := by
  rw [serveCalls, List.foldlM_cons, h]
  rfl

/-- **The lock is released exactly when no deallocation fails to list the pools.** For every
sequence of requests and every pattern of failing API calls, starting with the lock free: every
request returns with the lock free exactly when no `DeallocateIP` among them is refused its
listing. Refused patches and refused listings of `AllocateIP` do no harm. -/
theorem lock_released_iff {dev : Devices} {calls : List Call} {s : LockState}
    (hfree : s.locked = false) (hvalid : s.pools.All fun _ pool => ValidTexts pool) :
    (∀ served, served <+: calls → ∃ s', serveCalls dev served s = .ok s' ∧ s'.locked = false) ↔
      ∀ call ∈ calls, call.keepsLock = false := by
  induction calls generalizing s with
  | nil =>
    refine iff_of_true (fun served hserved => ?_) (fun call hcall => absurd hcall List.not_mem_nil)
    rw [List.prefix_nil.mp hserved]
    exact ⟨s, rfl, hfree⟩
  | cons call calls ih =>
    obtain ⟨s', hs', hlocked, hvalid'⟩ : ∃ s', serveCall dev s call = .ok s' ∧ _ :=
      serveCall_spec call hfree hvalid
    rw [List.forall_mem_cons]
    constructor
    · intro h
      -- the first request alone
      obtain ⟨s₁, hs₁, hfree₁⟩ := h [call] (List.prefix_append [call] calls)
      rw [serveCalls_cons dev hs'] at hs₁
      cases hs₁
      refine ⟨hlocked.symm.trans hfree₁, (ih hfree₁ hvalid').mp fun served hserved => ?_⟩
      obtain ⟨s₂, hs₂, hfree₂⟩ := h (call :: served) (List.cons_prefix_cons.mpr ⟨rfl, hserved⟩)
      rw [serveCalls_cons dev hs'] at hs₂
      exact ⟨s₂, hs₂, hfree₂⟩
    · rintro ⟨hcall, hcalls⟩ served hserved
      cases served with
      | nil => exact ⟨s, rfl, hfree⟩
      | cons call' served =>
        obtain ⟨rfl, htail⟩ := List.cons_prefix_cons.mp hserved
        rw [serveCalls_cons dev hs']
        exact (ih (hlocked.trans hcall) hvalid').mpr hcalls served htail

/-- The daemon with the pool of `smallState`, before its first request. -/
def freeState : LockState := ⟨smallState, false⟩

/-- A pod comes and goes although its pool cannot be patched. -/
theorem lock_released_patch : ∃ s', serveCalls noVFs
    [.allocate (fun _ => false) ⟨false, fun _ => true⟩ ⟨"a", "ns", "host", "net", ["eth1"]⟩,
      .deallocate ⟨false, fun _ => true⟩ ⟨"a", "ns", "host", "net", []⟩] freeState = .ok s' ∧
    s'.locked = false := by
  have hvalid : freeState.pools.All fun _ pool => ValidTexts pool :=
    GoMap.All.singleton ⟨by decide +kernel, by decide +kernel⟩
  exact (lock_released_iff rfl hvalid).mpr (by decide) _ (List.prefix_refl _)

/-- **The lock is kept**: one deallocation is refused its listing, and every request after it
blocks. -/
theorem lock_kept : ∃ s', serveCalls noVFs
    [.deallocate ⟨true, fun _ => false⟩ ⟨"a", "ns", "host", "net", []⟩] freeState = .ok s' ∧
    s'.locked = true ∧
    ∀ expired fail req, serveCall noVFs s' (.allocate expired fail req) = .error .blocks ∧
      serveCall noVFs s' (.deallocate fail req) = .error .blocks := by
  refine ⟨⟨⟨smallState.pools, _⟩, true⟩, rfl, rfl, fun expired fail req => ⟨?_, ?_⟩⟩
  · exact serveCall_blocks _ rfl fun _ _ h => by cases h
  · exact serveCall_blocks _ rfl fun _ _ h => by cases h

end MultiNicCni.Daemon
