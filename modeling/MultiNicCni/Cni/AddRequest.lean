import MultiNicCni.Cni.Addresses
import MultiNicCni.Go.Body
import MultiNicCni.Go.Text

/-!
# The ADD request of the main plugin (`cni/plugins/main/multi-nic/multi-nic.go`)

`cmdAdd` runs the IPAM plugin, makes the configurations of the NICs from its answer and runs the
device plugin on each. After the IPAM plugin has allocated addresses, a deferred closure is there
to release them again if the request fails.

The closure looks at the variable `err` of the block that runs the IPAM plugin. After the block
the name `err` is another variable, and a `return` of an error does not assign either
(`addDevices_keeps`). So the addresses are released if the answer of the IPAM plugin does not
convert, and after no other failure (`cmdAdd_released_iff`).

- A previous result `Raw`, a result `ρ` of any version, an address `ι` and a configuration `Conf`
  are of any type: the plugin only hands them on.
- `Env` has what the libraries and the other programs answer, and the loaders of the devices.
-/

namespace MultiNicCni.Cni.MultiNic

open Go

/-- `current.Interface`; the hardware address is missing if the link is not found. -/
structure Interface where
  name : String
  mac : Option String
  deriving DecidableEq

/-- `current.Result`. -/
structure Result (ι : Type) where
  ips : List ι
  interfaces : List Interface

/-- `NetConf` as `loadConf` returns it. -/
structure MainConf (Raw : Type) extends NetConf where
  masterNetAddrs : List String
  deviceIDs : List String
  rawPrevResult : Option Raw

/-- `skel.CmdArgs`. -/
structure CmdArgs where
  ifName : String
  args : String

/-- The configuration text passed to an IPAM plugin: as it came, or with the selected masters
(`injectMaster`). -/
inductive StdIn where
  | given
  | injected (masterNets masters deviceIDs : List String)
  deriving DecidableEq

/-- A call of another program. -/
inductive Call (ι Conf : Type) where
  | execAdd (ipamType : String) (stdin : StdIn)
  | execDel (ipamType : String) (stdin : StdIn)
  | execPlugin (deviceType : String) (conf : Conf) (args ifName : String)
  | addMultiPathRoutes (multiPathRoutes : Option MultiPathRoutes)
  | printResult (result : Result ι) (cniVersion : String)

/-- The errors of `cmdAdd`. -/
inductive AddError where
  /-- "failed to load netconf: %v" -/
  | netconf (reason : String)
  /-- "failed to open netns %q: %v" -/
  | netns (reason : String)
  /-- "could not parse prevResult: %v" -/
  | prevResult (reason : String)
  /-- "could not convert result to current version: %v" -/
  | convertPrev (reason : String)
  /-- "IPAM ExecAdd: %v, %s" -/
  | execAdd (reason : String)
  | convert (reason : String)
  /-- "IPAM plugin returned missing IP config %v" -/
  | missingIP
  | staticIP (reason : String)
  | load (reason : String)
  /-- "unsupported device type: %s" -/
  | unsupported (deviceType : String)
  /-- "zero config %v" -/
  | zeroConfig
  | plugin (reason : String)
  | print (reason : String)
  | enterNS (reason : String)
  deriving DecidableEq

/-- The loader of a device, for an interface name, a network and its addresses: the
configurations and the multi-path routes, or an error; `none` is a panic. -/
abbrev Loader (Raw ι Conf : Type) :=
  String → MainConf Raw → List ι → Option (Except String (List Conf × Option MultiPathRoutes))

/-- What the request meets. -/
structure Env (Raw ρ ι Conf : Type) where
  /-- the configuration and the type of its device -/
  loadConf : Except String (MainConf Raw × String)
  getNS : Except String Unit
  parsePrevResult : Raw → Except String ρ
  newResultFromResult : ρ → Except String (Result ι)
  /-- the answer of the IPAM plugin -/
  execAdd : Except String ρ
  /-- `net.ParseCIDR` of a static address, for the interface at an index -/
  staticIP : Nat → String → Except String ι
  /-- the order of the masters of `multi-config` -/
  order : GoMap.EntryOrder String (Option (GoMap String String))
  loadIPVANConf : Loader Raw ι Conf
  loadMACVLANConf : Loader Raw ι Conf
  loadSRIOVConf : Loader Raw ι Conf
  loadAWSCNIConf : Loader Raw ι Conf
  loadHostDeviceConf : Loader Raw ι Conf
  /-- the answer of the device plugin for the NIC at an index -/
  execPlugin : Nat → Except String (Result ι)
  /-- the hardware address of the NIC at an index, found in the namespace -/
  mac : Nat → Option String
  /-- `ipConf.Interface = current.Int(index)` -/
  setInterface : Nat → ι → ι
  /-- `netns.Do` for the multi-path routes -/
  enterNS : Except String Unit
  /-- `types.PrintResult` -/
  printResult : Except String Unit

/-- The variables of `cmdAdd`, and the calls so far. -/
structure Vars (ι Conf : Type) where
  /-- `err` of the function -/
  err : Option AddError
  /-- `err` of the block that runs the IPAM plugin -/
  ipamErr : Option AddError
  calls : List (Call ι Conf)

/-- Statements of `cmdAdd`. -/
abbrev Add (ι Conf : Type) : Type → Type := Body (Vars ι Conf) (Option AddError)

section Model

variable {Raw ρ ι Conf : Type}

/-- Call another program. -/
def record (c : Call ι Conf) : Add ι Conf Unit :=
  .assign fun v => { v with calls := v.calls ++ [c] }

/-- `err = …` outside of the IPAM block. -/
def setErr (err : Option AddError) : Add ι Conf Unit := .assign fun v => { v with err }

/-- `err = …` in the IPAM block. -/
def setIpamErr (ipamErr : Option AddError) : Add ι Conf Unit := .assign fun v => { v with ipamErr }

/-- `return types.PrintResult(…)`. -/
def printed : Except String Unit → Option AddError
  | .ok () => none
  | .error reason => some (.print reason)

/-- `getStaticIPs`: the addresses of the first item `IP=…`, and the other items. -/
def getStaticIPs (cniArgs : String) : List String × String :=
  let splits := Go.split cniArgs ';'
  match splits.findIdx? fun item => "IP=".toList.isPrefixOf item.toList with
  | none => ([], cniArgs)
  | some index =>
    let item := splits.getD index ""
    let ipsStr := String.ofList (item.toList.drop 3)
    let newItems := splits.take index
    -- the length is that of the item, not of the list
    let newItems :=
      if index + 1 < item.utf8ByteSize then newItems ++ splits.drop (index + 1) else newItems
    (Go.split ipsStr ',', ";".intercalate newItems)

variable (env : Env Raw ρ ι Conf)

/-- The `switch` over the type of the device. -/
def loadDevice (ifName : String) (n : MainConf Raw) (ips : List ι) (deviceType : String) :
    Option (Except AddError (List Conf × Option MultiPathRoutes)) :=
  match deviceType with
  | "ipvlan" => (env.loadIPVANConf ifName n ips).map (·.mapError .load)
  | "macvlan" => (env.loadMACVLANConf ifName n ips).map (·.mapError .load)
  | "sriov" => (env.loadSRIOVConf ifName n ips).map (·.mapError .load)
  | "aws-ipvlan" => (env.loadAWSCNIConf ifName n ips).map (·.mapError .load)
  | "host-device" => (env.loadHostDeviceConf ifName n ips).map (·.mapError .load)
  | deviceType => some (.error (.unsupported deviceType))

/-- The loop over the configurations from position `index` on: the interfaces, and the first
address of each. Its `err` is a variable of the loop body. -/
def addNics (args : CmdArgs) (deviceType : String) :
    Nat → List Conf → Add ι Conf (List Interface × List ι)
  | _, [] => pure ([], [])
  | index, conf :: confs => do
    let ifName := args.ifName ++ "-" ++ String.ofList (Nat.toDigits 10 index)
    record (.execPlugin deviceType conf args.args ifName)
    match env.execPlugin index with
    | .error reason => .returns (some (.plugin reason))
    | .ok executeResult => do
      let (interfaces, ips) ← addNics args deviceType (index + 1) confs
      pure (⟨ifName, env.mac index⟩ :: interfaces,
        (executeResult.ips.head?.map (env.setInterface index)).toList ++ ips)

/-- `netns.Do` with the multi-path routes; a failure is logged and forgotten. -/
def addRoutes (multiPathRoutes : Option MultiPathRoutes) : Add ι Conf Unit :=
  match env.enterNS with
  | .ok () => do
    record (.addMultiPathRoutes multiPathRoutes)
    setErr none
  | .error reason => setErr (some (.enterNS reason))

/-- The rest of `cmdAdd` after the `switch`. -/
def addLoaded (args : CmdArgs) (n : MainConf Raw) (deviceType : String) (result : Result ι) :
    Except AddError (List Conf × Option MultiPathRoutes) → Add ι Conf (Option AddError)
  | .error err => do
    setErr (some err)
    .returns (some err)
  | .ok ([], _) => do
    setErr none
    .returns (some .zeroConfig)
  | .ok (conf :: confs, multiPathRoutes) => do
    setErr none
    let (interfaces, ips) ← addNics env args deviceType 0 (conf :: confs)
    addRoutes env multiPathRoutes
    record (.printResult ⟨ips, result.interfaces ++ interfaces⟩ n.cniVersion)
    pure (printed env.printResult)

/-- `cmdAdd` from "get device config and apply" on. -/
def addDevices (args : CmdArgs) (n : MainConf Raw) (deviceType : String) (result : Result ι) :
    Add ι Conf (Option AddError) := do
  let loaded ← .orPanic (loadDevice env args.ifName n result.ips deviceType)
  addLoaded env args n deviceType result loaded

/-- The deferred closure: "Invoke ipam del if err to avoid ip leak". -/
def releaseIfErr (n : MainConf Raw) (v : Vars ι Conf) : Vars ι Conf :=
  if v.ipamErr.isSome then { v with calls := v.calls ++ [.execDel n.ipam.type .given] } else v

/-- The IPAM block after its `defer`, and the rest of the function. -/
def addConverted (args : CmdArgs) (n : MainConf Raw) (deviceType : String) (r : ρ) :
    Add ι Conf (Option AddError) :=
  match env.newResultFromResult r with
  | .error reason => do
    setIpamErr (some (.convert reason))
    .returns (some (.convert reason))
  | .ok result => do
    setIpamErr none
    if result.ips.isEmpty then .returns (some .missingIP)
    else addDevices env args n deviceType result

/-- The IPAM block, and the rest of the function after it. -/
def addWithIPAM (args : CmdArgs) (n : MainConf Raw) (deviceType : String) :
    Add ι Conf (Option AddError) := do
  record (.execAdd n.ipam.type (.injected n.masterNetAddrs n.masters n.deviceIDs))
  match env.execAdd with
  | .error reason => do
    setIpamErr (some (.execAdd reason))
    .returns (some (.execAdd reason))
  | .ok r => do
    setIpamErr none
    .deferred (releaseIfErr n) (addConverted env args n deviceType r)

/-- The block for static addresses (`multi-config`), and the rest of the function after it. -/
def addWithStaticIPs (args : CmdArgs) (n : MainConf Raw) (deviceType : String)
    (result : Result ι) : Add ι Conf (Option AddError) :=
  let (ips, rest) := getStaticIPs args.args
  match (ips.mapIdx env.staticIP).mapM id with
  | .error reason => .returns (some (.staticIP reason))
  | .ok ipConfs =>
    let masters :=
      if n.masters = [] then (env.order.entries (n.ipam.args.getD ∅)).map fun e => e.1
      else n.masters
    addDevices env { args with args := rest } { n with masters } deviceType
      { result with ips := result.ips ++ ipConfs }

/-- The previous result, or an empty one. -/
def prevResult (n : MainConf Raw) : Except AddError (Result ι) :=
  match n.rawPrevResult with
  | none => .ok ⟨[], []⟩
  | some raw => do
    let r ← (env.parsePrevResult raw).mapError .prevResult
    (env.newResultFromResult r).mapError .convertPrev

/-- The body of `cmdAdd`. -/
def addBody (args : CmdArgs) : Add ι Conf (Option AddError) :=
  match env.loadConf with
  | .error reason => .returns (some (.netconf reason))
  | .ok (n, deviceType) =>
    match env.getNS with
    | .error reason => .returns (some (.netns reason))
    | .ok () =>
      match prevResult env n with
      | .error err => .returns (some err)
      | .ok result =>
        if result.ips.isEmpty ∧ n.isMultiNICIPAM then addWithIPAM env args n deviceType
        else if result.ips.isEmpty ∧ n.ipam.type = multiConfigIPAMType then
          addWithStaticIPs env args n deviceType result
        else addDevices env args n deviceType result

/-- `cmdAdd`: the error it returns, if any, and the calls it made. -/
def cmdAdd (args : CmdArgs) : Option (Option AddError × List (Call ι Conf)) :=
  ((addBody env args).call ⟨none, none, []⟩).map fun out => (out.1, out.2.calls)

end Model

/-! ## What the closure can see -/

section Frame

variable {Raw ρ ι Conf : Type} (ipamType : String)

/-- The IPAM plugin was asked to release the addresses. -/
def Released (calls : List (Call ι Conf)) : Prop := ∃ stdin, .execDel ipamType stdin ∈ calls

/-- What the closure reads, and what it is for. -/
def leakView (v : Vars ι Conf) : Option AddError × Prop := (v.ipamErr, Released ipamType v.calls)

theorem released_append_singleton {calls : List (Call ι Conf)} {c : Call ι Conf} :
    Released ipamType (calls ++ [c]) ↔
      Released ipamType calls ∨ ∃ stdin, c = .execDel ipamType stdin := by
  simp only [Released, List.mem_append, List.mem_singleton, exists_or, eq_comm]

variable {ipamType}

theorem setErr_keeps (err : Option AddError) :
    Body.Keeps (leakView ipamType) (setErr err : Add ι Conf Unit) :=
  Body.Keeps.assign fun _ => rfl

theorem record_keeps {c : Call ι Conf} (hc : ∀ stdin, c ≠ .execDel ipamType stdin) :
    Body.Keeps (leakView ipamType) (record c) := by
  refine Body.Keeps.assign fun v => Prod.ext rfl (propext ?_)
  show Released ipamType (v.calls ++ [c]) ↔ Released ipamType v.calls
  rw [released_append_singleton]
  exact or_iff_left fun ⟨stdin, heq⟩ => hc stdin heq

variable (env : Env Raw ρ ι Conf) (args : CmdArgs) (deviceType : String)

theorem addNics_keeps (index : Nat) (confs : List Conf) :
    Body.Keeps (leakView ipamType) (addNics env args deviceType index confs) := by
  induction confs generalizing index with
  | nil => exact .pure _
  | cons conf confs ih =>
    refine .bind (record_keeps fun _ => nofun) fun _ => ?_
    split
    · exact .returns _
    · exact .bind (ih (index + 1)) fun _ => .pure _

theorem addRoutes_keeps (multiPathRoutes : Option MultiPathRoutes) :
    Body.Keeps (leakView ipamType) (addRoutes env multiPathRoutes) := by
  unfold addRoutes
  split
  · exact .bind (record_keeps fun _ => nofun) fun _ => setErr_keeps _
  · exact setErr_keeps _

theorem addLoaded_keeps (n : MainConf Raw) (result : Result ι)
    (loaded : Except AddError (List Conf × Option MultiPathRoutes)) :
    Body.Keeps (leakView ipamType) (addLoaded env args n deviceType result loaded) := by
  obtain err | ⟨_ | ⟨conf, confs⟩, multiPathRoutes⟩ := loaded
  · exact .bind (setErr_keeps _) fun _ => .returns _
  · exact .bind (setErr_keeps _) fun _ => .returns _
  · refine .bind (setErr_keeps _) fun _ => ?_
    refine .bind (addNics_keeps env args deviceType 0 _) fun _ => ?_
    refine .bind (addRoutes_keeps env _) fun _ => ?_
    exact .bind (record_keeps fun _ => nofun) fun _ => .pure _

/-- **No statement after the IPAM block assigns the variable of the closure**, nor releases the
addresses itself. -/
theorem addDevices_keeps (n : MainConf Raw) (result : Result ι) :
    Body.Keeps (leakView ipamType) (addDevices env args n deviceType result) :=
  .bind (.orPanic _) fun _ => addLoaded_keeps env args deviceType n result _

end Frame

/-! ## Which requests fail -/

section Outcome

variable {Raw ρ ι Conf : Type} (env : Env Raw ρ ι Conf) (args : CmdArgs) (deviceType : String)

/-- The loop goes through iff every device plugin succeeds, and returns an error otherwise. -/
theorem addNics_exec (index : Nat) (confs : List Conf) (v : Vars ι Conf) :
    ∃ out v', (addNics env args deviceType index confs).exec v = some (out, v') ∧
      ((∃ added, out = .ok added) ↔ ∀ k < confs.length, (env.execPlugin (index + k)).isOk) ∧
      ∀ ret, out = .error ret → ret.isSome := by
  induction confs generalizing index v with
  | nil =>
    exact ⟨_, _, rfl, ⟨fun _ _ hk => absurd hk (Nat.not_lt_zero _), fun _ => ⟨_, rfl⟩⟩, nofun⟩
  | cons conf confs ih =>
    rw [addNics, Body.exec_bind, record, Body.exec_assign, Option.bind_some]
    cases hrun : env.execPlugin index with
    | error reason =>
      refine ⟨_, _, rfl, ⟨nofun, fun hall => ?_⟩, ?_⟩
      · have hfirst := hall 0 (Nat.succ_pos _)
        rw [Nat.add_zero, hrun] at hfirst
        cases hfirst
      · rintro ret ⟨⟩
        rfl
    | ok executeResult =>
      obtain ⟨out, v', hexec, hok, herr⟩ := ih (index + 1)
        { v with calls := v.calls ++ [.execPlugin deviceType conf args.args _] }
      -- the first plugin succeeds, so the others decide
      have hall : (∀ k < (conf :: confs).length, (env.execPlugin (index + k)).isOk) ↔
          ∀ k < confs.length, (env.execPlugin (index + 1 + k)).isOk := by
        rw [List.length_cons, Nat.forall_lt_succ_left, Nat.add_zero, hrun]
        simp only [Except.isOk, Except.toBool, true_and, Nat.add_assoc, Nat.add_comm 1]
      rw [hall, ← hok]
      show ∃ out v', ((addNics env args deviceType (index + 1) confs >>= _).exec _) = _ ∧ _
      rw [Body.exec_bind, hexec]
      cases out with
      | ok added => exact ⟨_, _, rfl, ⟨fun _ => ⟨_, rfl⟩, fun _ => ⟨_, rfl⟩⟩, nofun⟩
      | error ret =>
        refine ⟨_, _, rfl, ⟨nofun, nofun⟩, ?_⟩
        rintro _ ⟨⟩
        exact herr ret rfl

theorem printed_eq_none_iff {answer : Except String Unit} :
    printed answer = none ↔ answer.isOk := by
  obtain _ | _ := answer
  · exact ⟨nofun, nofun⟩
  · exact ⟨fun _ => rfl, fun _ => rfl⟩

theorem addRoutes_exec (multiPathRoutes : Option MultiPathRoutes) (v : Vars ι Conf) :
    ∃ v', (addRoutes env multiPathRoutes).exec v = some (.ok (), v') := by
  unfold addRoutes
  split
  · exact ⟨_, rfl⟩
  · exact ⟨_, rfl⟩

/-- The devices are added: there is one, every device plugin succeeds on its configuration, and
the result is printed. -/
def LoadedAdded (loaded : Except AddError (List Conf × Option MultiPathRoutes)) : Prop :=
  ∃ confs multiPathRoutes, loaded = .ok (confs, multiPathRoutes) ∧ confs ≠ [] ∧
    (∀ k < confs.length, (env.execPlugin k).isOk) ∧ env.printResult.isOk

theorem addLoaded_call (n : MainConf Raw) (result : Result ι)
    (loaded : Except AddError (List Conf × Option MultiPathRoutes)) (v : Vars ι Conf) :
    ∃ ret v', (addLoaded env args n deviceType result loaded).call v = some (ret, v') ∧
      (ret = none ↔ LoadedAdded env loaded) := by
  obtain err | ⟨_ | ⟨conf, confs⟩, multiPathRoutes⟩ := loaded
  · exact ⟨_, _, rfl, nofun, fun ⟨_, _, heq, _⟩ => nomatch heq⟩
  · refine ⟨_, _, rfl, nofun, ?_⟩
    rintro ⟨_, _, ⟨⟩, hne, -⟩
    exact absurd rfl hne
  · obtain ⟨out, v₁, hexec, hok, herr⟩ :=
      addNics_exec env args deviceType 0 (conf :: confs) { v with err := none }
    simp only [Nat.zero_add] at hok
    unfold Body.call addLoaded
    rw [Body.exec_bind, setErr, Body.exec_assign, Option.bind_some, Body.exec_bind, hexec]
    cases out with
    | error ret =>
      have hret := herr ret rfl
      refine ⟨ret, v₁, rfl, fun hnone => ?_, ?_⟩
      · rw [hnone] at hret
        cases hret
      · rintro ⟨_, _, ⟨⟩, -, hall, -⟩
        obtain ⟨_, heq⟩ := hok.mpr hall
        cases heq
    | ok added =>
      obtain ⟨v₂, hroutes⟩ := addRoutes_exec env multiPathRoutes v₁
      refine ⟨printed env.printResult, { v₂ with calls := v₂.calls ++
        [.printResult ⟨added.2, result.interfaces ++ added.1⟩ n.cniVersion] }, ?_, ?_⟩
      · show Option.map _ (Body.exec (addRoutes env multiPathRoutes >>= _) v₁) = _
        rw [Body.exec_bind, hroutes]
        rfl
      · rw [printed_eq_none_iff]
        constructor
        · intro hprint
          exact ⟨_, _, rfl, List.cons_ne_nil _ _, hok.mp ⟨_, rfl⟩, hprint⟩
        · rintro ⟨_, _, -, -, -, hprint⟩
          exact hprint

/-- The devices are added, unless a loader panics. -/
def DevicesAdded (n : MainConf Raw) (ips : List ι) : Prop :=
  ∀ loaded, loadDevice env args.ifName n ips deviceType = some loaded → LoadedAdded env loaded

theorem addDevices_call (n : MainConf Raw) (result : Result ι) (v : Vars ι Conf) :
    (addDevices env args n deviceType result).call v =
      (loadDevice env args.ifName n result.ips deviceType).bind fun loaded =>
        (addLoaded env args n deviceType result loaded).call v := by
  unfold Body.call addDevices
  rw [Body.exec_bind, Body.exec_orPanic]
  cases loadDevice env args.ifName n result.ips deviceType with
  | none => rfl
  | some loaded => rfl

theorem addDevices_returns_iff (n : MainConf Raw) (result : Result ι) (v : Vars ι Conf) :
    (∀ ret v', (addDevices env args n deviceType result).call v = some (ret, v') → ret = none) ↔
      DevicesAdded env args deviceType n result.ips := by
  constructor
  · intro hret loaded hload
    obtain ⟨ret, v', hcall, hiff⟩ := addLoaded_call env args deviceType n result loaded v
    refine hiff.mp (hret ret v' ?_)
    rw [addDevices_call, hload]
    exact hcall
  · intro hadd ret v' hcall
    rw [addDevices_call] at hcall
    obtain ⟨loaded, hload, hcall⟩ := Option.bind_eq_some_iff.mp hcall
    obtain ⟨ret', v'', hcall', hiff⟩ := addLoaded_call env args deviceType n result loaded v
    obtain ⟨rfl, -⟩ := Prod.mk.inj (Option.some.inj (hcall.symm.trans hcall'))
    exact hiff.mpr (hadd loaded hload)

end Outcome

/-! ## The release -/

section Release

variable {Raw ρ ι Conf : Type} (env : Env Raw ρ ι Conf) (args : CmdArgs)

variable {env args} {n : MainConf Raw} {deviceType : String} {r : ρ}

/-- In the state of the closure: the addresses are released iff its variable holds an error. -/
theorem released_releaseIfErr_iff {v : Vars ι Conf} (hnot : ¬ Released n.ipam.type v.calls) :
    Released n.ipam.type (releaseIfErr n v).calls ↔ v.ipamErr.isSome := by
  unfold releaseIfErr
  split
  · next hset => exact ⟨fun _ => hset, fun _ => ⟨.given, by simp⟩⟩
  · next hset => exact ⟨fun hrel => absurd hrel hnot, fun hsome => absurd hsome hset⟩

/-- **The variable of the closure holds an error iff the answer did not convert.** -/
theorem addConverted_ipamErr {v v' : Vars ι Conf} {ret : Option AddError}
    (hnot : ¬ Released n.ipam.type v.calls)
    (h : (addConverted env args n deviceType r).call v = some (ret, v')) :
    ¬ Released n.ipam.type v'.calls ∧
      (v'.ipamErr.isSome ↔ ∃ e, env.newResultFromResult r = .error e) := by
  unfold addConverted at h
  cases hconv : env.newResultFromResult r with
  | error reason =>
    rw [hconv] at h
    cases h
    exact ⟨hnot, fun _ => ⟨_, rfl⟩, fun _ => rfl⟩
  | ok result =>
    rw [hconv] at h
    dsimp only at h
    rw [setIpamErr, Body.call_assign_bind] at h
    have hkeeps : leakView n.ipam.type v' = leakView n.ipam.type { v with ipamErr := none } := by
      split at h
      · cases h
        rfl
      · exact (addDevices_keeps env args deviceType n result).call h
    obtain ⟨herr, hrel⟩ := Prod.mk.inj hkeeps
    refine ⟨fun hrel' => hnot (cast hrel hrel'), fun hsome => ?_, nofun⟩
    rw [herr] at hsome
    cases hsome

theorem addConverted_returns_iff {result : Result ι}
    (hconv : env.newResultFromResult r = .ok result) (v : Vars ι Conf) :
    (∀ ret v', (addConverted env args n deviceType r).call v = some (ret, v') → ret = none) ↔
      result.ips ≠ [] ∧ DevicesAdded env args deviceType n result.ips := by
  unfold addConverted
  rw [hconv]
  dsimp only
  rw [setIpamErr, Body.call_assign_bind]
  by_cases hips : result.ips = []
  · rw [if_pos (List.isEmpty_iff.mpr hips)]
    constructor
    · intro hret
      cases hret _ _ rfl
    · rintro ⟨hne, -⟩
      exact absurd hips hne
  · rw [if_neg fun hempty => hips (List.isEmpty_iff.mp hempty), addDevices_returns_iff]
    exact ⟨fun h => ⟨hips, h⟩, fun h => h.2⟩

/-- The variables after the IPAM plugin has answered. -/
def allocated (n : MainConf Raw) : Vars ι Conf :=
  ⟨none, none, [.execAdd n.ipam.type (.injected n.masterNetAddrs n.masters n.deviceIDs)]⟩

theorem not_released_allocated :
    ¬ Released n.ipam.type (allocated n : Vars ι Conf).calls := by
  rintro ⟨stdin, hmem⟩
  cases List.mem_singleton.mp hmem

/-- A request with multi-NIC IPAM whose addresses were allocated. -/
theorem cmdAdd_eq (hconf : env.loadConf = .ok (n, deviceType)) (hns : env.getNS = .ok ())
    (hprev : n.rawPrevResult = none) (hmulti : n.isMultiNICIPAM = true)
    (hadd : env.execAdd = .ok r) :
    cmdAdd env args =
      ((addConverted env args n deviceType r).call (allocated n)).map
        fun out => (out.1, (releaseIfErr n out.2).calls) := by
  have hresult : prevResult env n = .ok ⟨[], []⟩ := by
    unfold prevResult
    rw [hprev]
  have hbody : addBody env args = addWithIPAM env args n deviceType := by
    unfold addBody
    rw [hconf]
    dsimp only
    rw [hns]
    dsimp only
    rw [hresult]
    exact if_pos ⟨rfl, hmulti⟩
  unfold cmdAdd
  rw [hbody, addWithIPAM, hadd, record, Body.call_assign_bind]
  dsimp only
  rw [setIpamErr, Body.call_assign_bind, Body.call_deferred, Option.map_map]
  rfl

/-- After the IPAM plugin has answered `r`: its answer does not convert, or nothing fails from
there on. -/
def OnlyConversionFails (env : Env Raw ρ ι Conf) (args : CmdArgs) (n : MainConf Raw)
    (deviceType : String) (r : ρ) : Prop :=
  (∃ e, env.newResultFromResult r = .error e) ∨
    ∃ result, env.newResultFromResult r = .ok result ∧ result.ips ≠ [] ∧
      DevicesAdded env args deviceType n result.ips

end Release

/-- **The addresses are released on every failure exactly where only the conversion of the
answer can fail.** -/
theorem cmdAdd_released_iff {Raw ρ ι Conf : Type} (env : Env Raw ρ ι Conf) (args : CmdArgs)
    (n : MainConf Raw) (deviceType : String) (r : ρ)
    (hconf : env.loadConf = .ok (n, deviceType)) (hns : env.getNS = .ok ())
    (hprev : n.rawPrevResult = none) (hmulti : n.isMultiNICIPAM = true)
    (hadd : env.execAdd = .ok r) :
    (∀ err calls, cmdAdd env args = some (some err, calls) → Released n.ipam.type calls) ↔
      OnlyConversionFails env args n deviceType r := by
  rw [cmdAdd_eq hconf hns hprev hmulti hadd]
  constructor
  · intro hall
    cases hconv : env.newResultFromResult r with
    | error reason => exact .inl ⟨reason, hconv⟩
    | ok result =>
      refine .inr ⟨result, hconv, (addConverted_returns_iff hconv (allocated n)).mp ?_⟩
      intro ret v' hcall
      obtain ⟨hnot', herr⟩ := addConverted_ipamErr not_released_allocated hcall
      cases ret with
      | none => rfl
      | some err =>
        -- the variable of the closure is `nil`
        have hrel := hall err _ (congrArg (Option.map _) hcall)
        obtain ⟨_, heq⟩ := herr.mp ((released_releaseIfErr_iff hnot').mp hrel)
        cases hconv.symm.trans heq
  · intro honly err calls hcmd
    obtain ⟨⟨ret, v'⟩, hcall, heq⟩ := Option.map_eq_some_iff.mp hcmd
    cases heq
    obtain ⟨hnot', herr⟩ := addConverted_ipamErr not_released_allocated hcall
    rcases honly with hfails | ⟨result, hconv, hadded⟩
    · exact (released_releaseIfErr_iff hnot').mpr (herr.mpr hfails)
    · cases (addConverted_returns_iff hconv _).mpr hadded _ _ hcall

/-! ## Runs -/

/-- A request for `eth1`, `eth2` and `eth3`, with the answers of the conversion and of the device
plugin. -/
def threeNicsEnv (converted : Except String (Result IPConfig))
    (execPlugin : Nat → Except String (Result IPConfig)) : Env Unit Unit IPConfig NicConf where
  loadConf := .ok (⟨threeNics, [], [], none⟩, "ipvlan")
  getNS := .ok ()
  parsePrevResult _ := .ok ()
  newResultFromResult _ := converted
  execAdd := .ok ()
  staticIP index ipnet :=
    match parseCIDR ipnet with
    | some (ipVal, reservedIP) => .ok ⟨{ reservedIP with ip := ipVal }, index⟩
    | none => .error ("invalid CIDR address: " ++ ipnet)
  order := .listed
  loadIPVANConf ifName n ips := (Cni.loadIPVANConf .listed ifName n.toNetConf ips).map .ok
  loadMACVLANConf ifName n ips := (Cni.loadMACVLANConf .listed ifName n.toNetConf ips).map .ok
  loadSRIOVConf _ _ _ := some (.ok ([], none))
  loadAWSCNIConf ifName n ips :=
    (Cni.loadAWSCNIConf .listed ifName n.toNetConf ips fun _ => none).map .ok
  loadHostDeviceConf _ _ _ := some (.ok ([], none))
  execPlugin := execPlugin
  mac _ := none
  setInterface index ipConf := { ipConf with interface := index }
  enterNS := .ok ()
  printResult := .ok ()

/-- The answer of the IPAM plugin has a version that does not convert. -/
def unconverted : Env Unit Unit IPConfig NicConf :=
  threeNicsEnv (.error "unsupported version") fun _ => .ok ⟨[], []⟩

theorem cmdAdd_released_unconverted :
    (∃ calls, cmdAdd unconverted ⟨"net1", ""⟩ =
        some (some (.convert "unsupported version"), calls)) ∧
      ∀ err calls, cmdAdd unconverted ⟨"net1", ""⟩ = some (some err, calls) →
        Released "multi-nic-ipam" calls :=
  ⟨⟨_, rfl⟩,
    (cmdAdd_released_iff unconverted _ ⟨threeNics, [], [], none⟩ "ipvlan" () rfl rfl rfl rfl
      rfl).mpr (.inl ⟨_, rfl⟩)⟩

/-- An address for each NIC, but the device plugin fails on the second. -/
def secondFails : Env Unit Unit IPConfig NicConf :=
  let responses := [⟨"eth1", "10.0.0.1", "18"⟩, ⟨"eth2", "10.0.64.1", "18"⟩,
    ⟨"eth3", "10.0.128.1", "18"⟩]
  threeNicsEnv (.ok ⟨(matchMasters responses 0 threeNics.masters).getD [], []⟩) fun index =>
    if index = 1 then .error "no such device" else .ok ⟨[], []⟩

/-- Three addresses were allocated, and stay so. -/
theorem cmdAdd_leaks :
    ∃ calls, cmdAdd secondFails ⟨"net1", ""⟩ = some (some (.plugin "no such device"), calls) ∧
      ¬ Released "multi-nic-ipam" calls := by
  have hrun : (cmdAdd secondFails ⟨"net1", ""⟩).map
      (fun out => (out.1, out.2.any fun
        | .execDel _ _ => true
        | _ => false)) = some (some (.plugin "no such device"), false) := by
    decide +kernel
  obtain ⟨⟨err, calls⟩, hcmd, heq⟩ := Option.map_eq_some_iff.mp hrun
  obtain ⟨rfl, hnone⟩ := Prod.mk.inj heq
  refine ⟨calls, hcmd, ?_⟩
  rintro ⟨stdin, hmem⟩
  exact List.any_eq_false.mp hnone _ hmem rfl

end MultiNicCni.Cni.MultiNic
