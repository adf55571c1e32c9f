import MultiNicCni.Controller.Route
import MultiNicCni.Lib.Exchange

/-!
# The greetings of the daemons (`daemon/src/main.go`: `Join`, `Greet`, `GreetAck`)

The controller tells a daemon the interfaces of the other hosts (`IpamJoin`). The daemon greets
every address on a network on which it has an address itself, and a daemon that is greeted greets
back, so that packets have gone both ways before the first pod is started. Every greeting is a
goroutine of its own: greetings are sent, arrive, get lost and are answered in any order.

- `ipamJoin`: the interfaces that the controller posts to a daemon, if it posts any;
- `joinGreetings`, `greet`, `greetAck`: what the daemons do; `greeting` is the protocol;
- `Greeted`: the joins and all other steps, in any order;
- `greetings_answered`: **there are never more messages than greetings and one answer to each, the
  exchange comes to rest, and with nothing lost all of them have arrived by then**;
- `joined_hosts_met`: a join known to the daemon of one host is enough for packets in both
  directions between it and each interface of the list that is on one of its networks.

An answer carries no address, and a greeting without an address is not answered: this is what keeps
two daemons from greeting each other for ever.
-/

namespace MultiNicCni.Cluster

open Go Lib
open Controller (DaemonPod)

/-! ## The controller -/

/-- `DaemonPod`, with its labels. -/
structure LabelledPod extends DaemonPod where
  labels : GoMap String String

/-- `vars.JoinLabelName`. -/
def joinLabelName : String := "multi-nicd-join"

/-- The interfaces of the other hosts, in the order in which the cache is iterated. The name of a
host is compared with an address. -/
def otherInterfaces (order : GoMap.RangeOrder String HostInterface)
    (hifCache : GoMap String HostInterface) (daemon : DaemonPod) : List InterfaceInfoType :=
  ((order.values hifCache).filter fun hif => hif.hostName ≠ daemon.hostIP).flatMap (·.interfaces)

/-- The pod was told as many interfaces already. -/
def alreadyJoined (daemon : LabelledPod) (hifLen : Nat) : Bool :=
  (daemon.labels.lookup joinLabelName).any fun lastLenStr =>
    (hifLen : Int) == (parseInt 10 lastLenStr.toList).1

/-- `IpamJoin`: the list that is posted to the daemon, if any. -/
def ipamJoin (order : GoMap.RangeOrder String HostInterface)
    (hifCache : GoMap String HostInterface) (daemon : LabelledPod) :
    Option (List InterfaceInfoType) :=
  -- ip hasn't been assigned yet
  if daemon.hostIP = "" then none
  else
    let hifs := otherInterfaces order hifCache daemon.toDaemonPod
    if alreadyJoined daemon hifs.length then none else some hifs

/-! ## The daemons -/

/-- A call of `Greet` at a node. -/
structure Greeting where
  node : String
  targetHost : String
  myIP : String
  deriving DecidableEq, Repr

/-- The addresses of a daemon by network: a later interface on a network replaces an earlier. -/
def ipNetMap (interfaces : List InterfaceInfoType) : GoMap String String :=
  interfaces.foldl (fun m iface => m.insert iface.netAddress iface.hostIP) ∅

/-- `Join`: the greetings that are started. A body that does not parse has an empty list. -/
def joinGreetings (node : String) (interfaces hifs : List InterfaceInfoType) : List Greeting :=
  hifs.filterMap fun hif =>
    ((ipNetMap interfaces).lookup hif.netAddress).map fun myIP => ⟨node, hif.hostIP, myIP⟩

/-- `Greet`: the body that is posted, if any. What becomes of the request is only logged. -/
def greet (targetHost myIP : String) : Option String :=
  if targetHost = myIP then none else some myIP

/-- `GreetAck` at a node: the greeting that is started. -/
def greetAck (node host : String) : Option Greeting :=
  if host ≠ "" then some ⟨node, host, ""⟩ else none

/-- The greetings, where `listens` has the node whose daemon is at an address. -/
def greeting (listens : String → Option String) : Exchange Greeting where
  silent g := (greet g.targetHost g.myIP).isNone
  arrives g := (listens g.targetHost).isSome
  answer g := (listens g.targetHost).bind fun node =>
    (greet g.targetHost g.myIP).bind fun body => greetAck node body

/-! ## Runs -/

/-- A join that a daemon served: its interfaces then, and the list it was sent. -/
structure Joined where
  node : String
  interfaces : List InterfaceInfoType
  hifs : List InterfaceInfoType

def Joined.greetings (j : Joined) : List Greeting := joinGreetings j.node j.interfaces j.hifs

/-- The joins served so far, the last one first, and the traffic they have led to. -/
inductive Greeted (listens : String → Option String) : List Joined → Traffic Greeting → Prop
  | start : Greeted listens [] Exchange.idle
  | join {joins : List Joined} {t t' : Traffic Greeting} (j : Joined) : Greeted listens joins t →
      (greeting listens).system.step (.ask j.greetings) t = some t' →
      Greeted listens (j :: joins) t'
  /-- A goroutine posts its greeting or returns, or a greeting arrives or is lost. -/
  | step {joins : List Joined} {t t' : Traffic Greeting} (e : Exchange.Event Greeting) :
      Greeted listens joins t → e.isAsk = false → (greeting listens).system.step e t = some t' →
      Greeted listens joins t'

/-- The greetings that the joins send: not those to the own address. -/
def sentBy (joins : List Joined) : Multiset Greeting :=
  ((joins.flatMap Joined.greetings).filter fun g => g.targetHost ≠ g.myIP : List Greeting)

/-- The answers to greetings: from the node that was greeted to the address in the greeting. -/
def acksOf (listens : String → Option String) (sent : Multiset Greeting) : Multiset Greeting :=
  sent.filterMap fun g => (listens g.targetHost).bind fun node => greetAck node g.myIP

section Runs

variable {listens : String → Option String} {joins : List Joined} {t : Traffic Greeting}

theorem greetAck_eq_some {node host : String} {g : Greeting} :
    greetAck node host = some g ↔ host ≠ "" ∧ g = ⟨node, host, ""⟩ := by
  unfold greetAck
  split
  · next h => simp [h, eq_comm]
  · next h => simp [h]

theorem silent_iff {g : Greeting} :
    (greeting listens).silent g = false ↔ g.targetHost ≠ g.myIP := by
  show (greet g.targetHost g.myIP).isNone = false ↔ _
  unfold greet
  split
  · next h => simp [h]
  · next h => simp [h]

/-- Only what is posted is answered, and only with an address. -/
theorem answer_eq_some {g ack : Greeting} :
    (greeting listens).answer g = some ack ↔
      g.targetHost ≠ g.myIP ∧ g.myIP ≠ "" ∧
        ∃ node, listens g.targetHost = some node ∧ ack = ⟨node, g.myIP, ""⟩ := by
  show ((listens g.targetHost).bind fun node =>
    (greet g.targetHost g.myIP).bind fun body => greetAck node body) = some ack ↔ _
  unfold greet
  split
  · next h => simp [h]
  · next h =>
    simp only [Option.bind_eq_some_iff, Option.bind_some, greetAck_eq_some, ne_eq, h,
      not_false_eq_true, true_and]
    constructor
    · rintro ⟨node, hnode, hhost, heq⟩
      exact ⟨hhost, node, hnode, heq⟩
    · rintro ⟨hhost, node, hnode, heq⟩
      exact ⟨node, hnode, hhost, heq⟩

/-- An answer has no address to answer to. -/
theorem greeting_oneWay : (greeting listens).OneWay := by
  intro g ack hack
  obtain ⟨-, -, node, -, rfl⟩ := answer_eq_some.mp hack
  refine Option.eq_none_iff_forall_ne_some.mpr fun g' hg' => ?_
  exact (answer_eq_some.mp hg').2.1 rfl

theorem Greeted.reaches (h : Greeted listens joins t) : (greeting listens).system.Reaches t := by
  induction h with
  | start => exact .init rfl
  | join j _ hstep ih => exact ih.step hstep
  | step e _ _ hstep ih => exact ih.step hstep

/-- What was asked for are the greetings of the joins. -/
theorem Greeted.asked (h : Greeted listens joins t) :
    t.asked = (joins.flatMap Joined.greetings : List Greeting) := by
  induction h with
  | start => rfl
  | @join joins t t' j _ hstep ih =>
    cases hstep
    show (j.greetings : Multiset Greeting) + t.asked = _
    rw [ih, Multiset.coe_add, List.flatMap_cons]
  | step e _ he hstep ih =>
    rw [← ih]
    cases Exchange.takes_of_step (P := greeting listens) hstep with
    | ask tasks => cases he
    | silent h => rfl
    | post h => rfl
    | serve h => rfl
    | lose => rfl

theorem Greeted.loud_asked (h : Greeted listens joins t) :
    (greeting listens).loud t.asked = sentBy joins := by
  rw [h.asked, Exchange.loud, Multiset.filter_congr fun g _ => silent_iff]
  rfl

/-- All answers are posted: they go to an address, and carry none. -/
theorem loud_answers (s : Multiset Greeting) :
    (greeting listens).loud ((greeting listens).answers s) = (greeting listens).answers s := by
  refine Multiset.filter_eq_self.mpr fun ack hack => ?_
  obtain ⟨g, -, hg⟩ := Exchange.mem_answers.mp hack
  obtain ⟨-, hmyIP, node, -, rfl⟩ := answer_eq_some.mp hg
  exact silent_iff.mpr hmyIP

theorem answers_sentBy :
    (greeting listens).answers (sentBy joins) = acksOf listens (sentBy joins) := by
  unfold sentBy
  show ((_ : List Greeting) : Multiset Greeting) = ((_ : List Greeting) : Multiset Greeting)
  congr 1
  refine List.filterMap_congr fun g hg => ?_
  have hne : g.targetHost ≠ g.myIP := by simpa using (List.mem_filter.mp hg).2
  show ((listens g.targetHost).bind fun node =>
    (greet g.targetHost g.myIP).bind fun body => greetAck node body) = _
  rw [greet, if_neg hne]
  rfl

/-- Whatever the order of the steps, there are never more messages than greetings and one answer
to each; without further joins the exchange comes to rest; and if nothing was lost, exactly the
greetings and their answers have arrived then. -/
theorem greetings_answered (h : Greeted listens joins t) :
    t.served + t.lost + t.posted ≤ sentBy joins + acksOf listens (sentBy joins) ∧
      (∀ es t', (∀ e ∈ es, e.isAsk = false) → (greeting listens).system.exec es t = some t' →
        es.length ≤ 4 * t.waiting.card + 3 * t.posted.card) ∧
      (¬ (t.waiting = 0 ∧ t.posted = 0) →
        ∃ e t', e.isAsk = false ∧ (greeting listens).system.step e t = some t') ∧
      (t.waiting = 0 → t.posted = 0 → t.lost = 0 →
        t.served = sentBy joins + acksOf listens (sentBy joins)) := by
  have hacks : (greeting listens).loud ((greeting listens).answers (sentBy joins)) =
      acksOf listens (sentBy joins) := by
    rw [loud_answers, answers_sentBy]
  refine ⟨?_, fun es t' hes hrun => ?_, fun hbusy => ?_, fun hwaiting hposted hlost => ?_⟩
  · have hle := greeting_oneWay.posted_le h.reaches
    rwa [h.loud_asked, hacks] at hle
  · have hle := greeting_oneWay.length_add_work hes hrun
    have hwork := (greeting listens).work_le t
    omega
  · obtain ⟨e, he, t', ht'⟩ := Exchange.exists_step (P := greeting listens) hbusy
    exact ⟨e, t', he, ht'⟩
  · have hserved := greeting_oneWay.served_of_quiet h.reaches hwaiting hposted hlost
    rwa [h.loud_asked, hacks] at hserved

/-- Steps other than joins keep the joins. -/
theorem Greeted.exec {es : List (Exchange.Event Greeting)} {t' : Traffic Greeting}
    (h : Greeted listens joins t) (hes : ∀ e ∈ es, e.isAsk = false)
    (hrun : (greeting listens).system.exec es t = some t') : Greeted listens joins t' := by
  induction es generalizing t with
  | nil =>
    cases hrun
    exact h
  | cons e es ih =>
    obtain ⟨t₁, h₁, hrun⟩ := Option.bind_eq_some_iff.mp hrun
    exact ih (h.step e (hes e List.mem_cons_self) h₁)
      (fun e' he' => hes e' (List.mem_cons_of_mem _ he')) hrun

end Runs

/-- Two hosts on one network. -/
def twoDaemons : String → Option String
  | "10.0.0.1" => some "a"
  | "10.0.0.2" => some "b"
  | _ => none

/-- The first of them is told the interfaces of both. -/
def joinFirst : Joined where
  node := "a"
  interfaces := [⟨"eth1", "10.0.0.0/24", "10.0.0.1"⟩]
  hifs := [⟨"eth1", "10.0.0.0/24", "10.0.0.1"⟩, ⟨"eth1", "10.0.0.0/24", "10.0.0.2"⟩]

def firstAsked : Traffic Greeting where
  waiting := joinFirst.greetings
  posted := 0
  served := 0
  lost := 0
  asked := joinFirst.greetings

/-- The greeting to itself is dropped, the other one goes out and is answered. -/
def firstSteps : List (Exchange.Event Greeting) :=
  [.run ⟨"a", "10.0.0.1", "10.0.0.1"⟩, .run ⟨"a", "10.0.0.2", "10.0.0.1"⟩,
    .serve ⟨"a", "10.0.0.2", "10.0.0.1"⟩, .run ⟨"b", "10.0.0.1", ""⟩, .serve ⟨"b", "10.0.0.1", ""⟩]

theorem firstGreeted :
    ∃ t, Greeted twoDaemons [joinFirst] t ∧ t.waiting = 0 ∧ t.posted = 0 ∧ t.lost = 0 := by
  have hasked : Greeted twoDaemons [joinFirst] firstAsked :=
    .join joinFirst .start (by decide +kernel)
  obtain ⟨t, hrun, hrest⟩ :
      ∃ t, (greeting twoDaemons).system.exec firstSteps firstAsked = some t ∧
        t.waiting = 0 ∧ t.posted = 0 ∧ t.lost = 0 := ⟨_, rfl, by decide +kernel⟩
  exact ⟨t, hasked.exec (by decide) hrun, hrest⟩

theorem greetings_answered_two :
    ∃ t, Greeted twoDaemons [joinFirst] t ∧
      t.served = {⟨"a", "10.0.0.2", "10.0.0.1"⟩, ⟨"b", "10.0.0.1", ""⟩} := by
  obtain ⟨t, h, hwaiting, hposted, hlost⟩ := firstGreeted
  refine ⟨t, h, ?_⟩
  rw [(greetings_answered h).2.2.2 hwaiting hposted hlost]
  decide +kernel

/-! ## The hosts of a join -/

section Hosts

variable {listens : String → Option String} {joins : List Joined} {t : Traffic Greeting}

/-- An address by network is that of an interface on it. -/
theorem lookup_ipNetMap {interfaces : List InterfaceInfoType} {net : String}
    (h : net ∈ interfaces.map (·.netAddress)) :
    ∃ mine ∈ interfaces, mine.netAddress = net ∧
      (ipNetMap interfaces).lookup net = some mine.hostIP := by
  induction interfaces using List.reverseRecOn with
  | nil => cases h
  | append_singleton interfaces last ih =>
    have hlookup : (ipNetMap (interfaces ++ [last])).lookup net =
        if net = last.netAddress then some last.hostIP else (ipNetMap interfaces).lookup net := by
      rw [ipNetMap, List.foldl_append]
      exact GoMap.lookup_insert_ite _ _ _ _
    by_cases hlast : net = last.netAddress
    · exact ⟨last, by simp, hlast.symm, by rw [hlookup, if_pos hlast]⟩
    · have hbefore : net ∈ interfaces.map (·.netAddress) := by
        rw [List.map_append, List.mem_append] at h
        exact h.resolve_right fun hmem => hlast (by simpa using hmem)
      obtain ⟨mine, hmine, hnet, hfound⟩ := ih hbefore
      exact ⟨mine, List.mem_append_left _ hmine, hnet, by rw [hlookup, if_neg hlast, hfound]⟩

/-- The list of a join has all interfaces of the hosts of the cache, whatever the order. -/
theorem mem_ipamJoin {order : GoMap.RangeOrder String HostInterface}
    {hifCache : GoMap String HostInterface} {daemon : LabelledPod} {hifs : List InterfaceInfoType}
    (h : ipamJoin order hifCache daemon = some hifs) {name : String} {host : HostInterface}
    (hhost : hifCache.lookup name = some host) (hname : host.hostName ≠ daemon.hostIP)
    {hif : InterfaceInfoType} (hhif : hif ∈ host.interfaces) : hif ∈ hifs := by
  obtain ⟨-, h⟩ := Option.ite_none_left_eq_some.mp h
  obtain ⟨-, heq⟩ := Option.ite_none_left_eq_some.mp h
  cases heq
  have hvalue : host ∈ order.values hifCache :=
    (order.perm hifCache).mem_iff.mpr (GoMap.mem_values.mpr ⟨name, hhost⟩)
  exact List.mem_flatMap.mpr ⟨host, List.mem_filter.mpr ⟨hvalue, by simpa using hname⟩, hhif⟩

theorem mem_sentBy {j : Joined} (hj : j ∈ joins) {hif : InterfaceInfoType} (hhif : hif ∈ j.hifs)
    {myIP : String} (hmine : (ipNetMap j.interfaces).lookup hif.netAddress = some myIP)
    (hne : hif.hostIP ≠ myIP) : (⟨j.node, hif.hostIP, myIP⟩ : Greeting) ∈ sentBy joins := by
  refine Multiset.mem_coe.mpr (List.mem_filter.mpr ⟨?_, by simpa using hne⟩)
  exact List.mem_flatMap.mpr ⟨j, hj, List.mem_filterMap.mpr ⟨hif, hhif, by rw [hmine]; rfl⟩⟩

/-- When all has come to rest, the daemon of a join has an address on the network of every
interface of the list that is on one of its networks, from which it has greeted the interface. The
greeting arrived or was lost; if it arrived, the answer of the daemon that listens there arrived or
was lost. -/
theorem joined_hosts_met (h : Greeted listens joins t) (hwaiting : t.waiting = 0)
    (hposted : t.posted = 0) {j : Joined} (hj : j ∈ joins)
    {order : GoMap.RangeOrder String HostInterface} {hifCache : GoMap String HostInterface}
    {daemon : LabelledPod} (hjoin : ipamJoin order hifCache daemon = some j.hifs)
    {name : String} {host : HostInterface} (hhost : hifCache.lookup name = some host)
    (hname : host.hostName ≠ daemon.hostIP) {hif : InterfaceInfoType}
    (hhif : hif ∈ host.interfaces) (hnet : hif.netAddress ∈ j.interfaces.map (·.netAddress)) :
    ∃ mine ∈ j.interfaces, mine.netAddress = hif.netAddress ∧
      (mine.hostIP ≠ hif.hostIP →
        (⟨j.node, hif.hostIP, mine.hostIP⟩ ∈ t.served ∧
            (mine.hostIP ≠ "" → ∀ peer, listens hif.hostIP = some peer →
              ⟨peer, mine.hostIP, ""⟩ ∈ t.served ∨ ⟨peer, mine.hostIP, ""⟩ ∈ t.lost)) ∨
          ⟨j.node, hif.hostIP, mine.hostIP⟩ ∈ t.lost) := by
  obtain ⟨mine, hmine, hsame, hfound⟩ := lookup_ipNetMap hnet
  refine ⟨mine, hmine, hsame, fun hne => ?_⟩
  have hsent := mem_sentBy hj (mem_ipamJoin hjoin hhost hname hhif) hfound hne.symm
  have hsettled : ∀ g, g ∈ sentBy joins ∨ g ∈ (greeting listens).answers t.served →
      g ∈ t.served ∨ g ∈ t.lost := by
    intro g hg
    rw [← h.loud_asked, ← loud_answers] at hg
    exact Exchange.settled h.reaches hwaiting hposted hg
  refine (hsettled _ (Or.inl hsent)).imp_left fun hserved => ?_
  refine ⟨hserved, fun haddress peer hpeer => ?_⟩
  refine hsettled _ (Or.inr (Exchange.mem_answers.mpr ⟨_, hserved, ?_⟩))
  exact answer_eq_some.mpr ⟨hne.symm, haddress, peer, hpeer, rfl⟩

end Hosts

/-- The interfaces of the two hosts. -/
def twoHostInterfaces : GoMap String HostInterface :=
  ((∅ : GoMap String HostInterface).insert "b"
    ⟨"b", [⟨"eth1", "10.0.0.0/24", "10.0.0.2"⟩]⟩).insert "a"
      ⟨"a", [⟨"eth1", "10.0.0.0/24", "10.0.0.1"⟩]⟩

theorem joined_hosts_met_two :
    ∃ t, Greeted twoDaemons [joinFirst] t ∧
      (⟨"a", "10.0.0.2", "10.0.0.1"⟩ ∈ t.served ∧
          (⟨"b", "10.0.0.1", ""⟩ ∈ t.served ∨ ⟨"b", "10.0.0.1", ""⟩ ∈ t.lost) ∨
        ⟨"a", "10.0.0.2", "10.0.0.1"⟩ ∈ t.lost) := by
  obtain ⟨t, h, hwaiting, hposted, -⟩ := firstGreeted
  have hjoin : ipamJoin .listed twoHostInterfaces ⟨⟨"172.16.0.1"⟩, ∅⟩ = some joinFirst.hifs := by
    decide +kernel
  have hhost : twoHostInterfaces.lookup "b" =
      some ⟨"b", [⟨"eth1", "10.0.0.0/24", "10.0.0.2"⟩]⟩ := by decide +kernel
  obtain ⟨mine, hmine, -, hmet⟩ := joined_hosts_met h hwaiting hposted List.mem_cons_self hjoin hhost
    (by decide) List.mem_cons_self (by decide)
  -- the host has one interface
  obtain rfl := List.mem_singleton.mp hmine
  refine ⟨t, h, (hmet (by decide)).imp_left fun hserved => ⟨hserved.1, ?_⟩⟩
  exact hserved.2 (by decide) "b" rfl

end MultiNicCni.Cluster
