import Mathlib.Data.Int.Notation
import ScalesetProxmox.Transition.Run

/-!
# Forwarding of admin requests

Every admin request passes a gate. A replica that believes itself leader serves the request, any
other hands it to a reverse proxy that sends it to the endpoint `LeaderEndpoint` returns. The three
places that decide each read a source of their own: the gate reads the leader flag, the lookup reads
the flag again and then raft's leader address, and the address is translated by the replica's own
peer map.

A `View` is what a replica reads while it handles one request, so views may differ from replica to
replica and from one hop to the next in any way. A `Journey` follows one request from replica to
replica and records who forwarded it to whom. Nothing that `rewrite` puts into the request is read by
the gate, so a forwarded request is treated like any other.

`forwarded_once`: a request is forwarded at most once, and never to the replica it is at, when what
the replicas read along its way agrees on one leader (`Agreed`). A replica that raft calls leader
before its own flag is up forwards to itself, again and again (`forwards_to_itself`).
-/

namespace ScalesetProxmox.Cluster

open Transition

/-! ## The endpoint of the leader -/

structure Peer where
  nodeID : String
  raftAddr : String
  httpAddr : String
  deriving DecidableEq, Repr

structure RaftConfig where
  nodeID : String
  adminHost : String := ""
  adminPort : ℤ := 0
  peers : List Peer
  deriving DecidableEq, Repr

/-- `net.JoinHostPort`: a host with a colon is put in brackets. -/
def joinHostPort (host port : String) : String :=
  if ':' ∈ host.toList then "[" ++ host ++ "]:" ++ port else host ++ ":" ++ port

/-- The endpoint of an admin API, empty when no port is configured. -/
def localEndpoint (host : String) (port : ℤ) : String :=
  if port ≤ 0 ∨ host = "" then "" else joinHostPort host (toString port)

namespace RaftConfig

/-- The replica's own endpoint; the peer list is the fallback. -/
def localEndpoint (c : RaftConfig) : String :=
  let own := Cluster.localEndpoint c.adminHost c.adminPort
  if own ≠ "" then own
  else ((c.peers.find? fun p ↦ p.nodeID = c.nodeID).map (·.httpAddr)).getD ""

/-- The HTTP address filed under a raft address; a later peer overwrites an earlier one. -/
def peersByRaftAddr (c : RaftConfig) (addr : String) : Option String :=
  (c.peers.reverse.find? fun p ↦ p.raftAddr = addr).map (·.httpAddr)

/-- `LeaderEndpoint`, given the leader flag and the address that raft names. -/
def leaderEndpoint (c : RaftConfig) (leader : Bool) (leaderAddr : String) : Except String String :=
  if leader ∧ c.localEndpoint ≠ "" then .ok c.localEndpoint
  else if leaderAddr = "" then .ok ""
  else
    match (c.peersByRaftAddr leaderAddr).filter (· ≠ "") with
    | none =>
      .error ("cluster: leader raft addr " ++ leaderAddr.quote ++ " has no matching HTTP peer entry")
    | some httpAddr => .ok httpAddr

end RaftConfig

/-! ## The gate and the proxy -/

/-- An admin request as a replica receives it. Header names are in canonical form. -/
structure Request where
  host : String
  headers : List (String × String) := []
  clientIP : String
  tls : Bool := false
  deriving DecidableEq, Repr

structure Response where
  status : ℕ
  body : String
  retryAfter : Option String := none
  deriving DecidableEq, Repr

def delHeader (name : String) (headers : List (String × String)) : List (String × String) :=
  headers.filter (·.1 ≠ name)

def setHeader (name value : String) (headers : List (String × String)) : List (String × String) :=
  delHeader name headers ++ [(name, value)]

/-- The headers the proxy sends on: the client's own forwarding headers are dropped and replaced by
what this replica knows of the connection. -/
def rewriteHeaders (request : Request) : List (String × String) :=
  let stripped := delHeader "True-Client-Ip" (delHeader "X-Real-Ip"
    (delHeader "X-Forwarded-For" request.headers))
  setHeader "X-Forwarded-Proto" (if request.tls then "https" else "http")
    (setHeader "X-Forwarded-Host" request.host
      (setHeader "X-Forwarded-For" request.clientIP stripped))

/-- What a replica reads while it handles a request: its leader flag at the gate, the flag again at
the lookup, and raft's leader address. -/
structure View where
  gateLeader : Bool
  lookupLeader : Bool
  leaderAddr : String
  deriving DecidableEq, Repr

structure Replica where
  /-- `cluster.mode: standalone`, which serves every request itself. -/
  standalone : Bool := false
  raft : RaftConfig
  /-- The address its connections come from. -/
  ip : String
  /-- The forwarder dials the leader over TLS. -/
  https : Bool := false
  deriving DecidableEq, Repr

inductive Handling where
  | served
  | answered (response : Response)
  | forwarded (endpoint : String) (request : Request)
  deriving DecidableEq, Repr

/-- `Forwarder.ServeHTTP`: look the leader up, then send the request on or answer for it. -/
def Replica.forward (replica : Replica) (view : View) (request : Request) : Handling :=
  match replica.raft.leaderEndpoint view.lookupLeader view.leaderAddr with
  | .error _ => .answered { status := 502, body := "leader lookup error" }
  | .ok endpoint =>
    if endpoint = "" then
      .answered { status := 503, body := "no leader available", retryAfter := some "2" }
    else
      .forwarded endpoint
        { host := endpoint
          headers := rewriteHeaders request
          clientIP := replica.ip
          tls := replica.https }

/-- `leaderOrForward` behind the gate that `buildAdminGate` picks. -/
def Replica.leaderOrForward (replica : Replica) (view : View) (request : Request) : Handling :=
  if replica.standalone ∨ view.gateLeader then .served else replica.forward view request

/-! ## A request on its way -/

/-- The replicas and who answers at which HTTP address. -/
structure Network (ι : Type*) where
  replica : ι → Replica
  listens : String → Option ι

/-- A request, the replica it is at (none once it is served or answered), and the forwards so far. -/
structure Journey (ι : Type*) where
  place : Option ι
  request : Request
  forwards : List (ι × ι) := []

variable {ι : Type*} {net : Network ι} {j j' : Journey ι} {view : View}

/-- The replica that has the request handles it with what it reads at that moment. An endpoint at
which nobody answers makes the proxy answer `leader unreachable`. -/
def hop (net : Network ι) (j : Journey ι) (view : View) : Option (Journey ι) :=
  j.place.map fun i ↦
    match (net.replica i).leaderOrForward view j.request with
    | .forwarded endpoint request =>
      match net.listens endpoint with
      | some k => { place := some k, request := request, forwards := j.forwards ++ [(i, k)] }
      | none => { j with place := none }
    | _ => { j with place := none }

/-- A step ends the journey, or forwards the request to the replica that answers at the endpoint. -/
inductive Hopped (net : Network ι) (j : Journey ι) (view : View) (j' : Journey ι) : Prop
  | ended (hplace : j'.place = none) (hforwards : j'.forwards = j.forwards)
  | forwarded (i k : ι) (endpoint : String) (hplace : j.place = some i)
      (hgate : view.gateLeader = false) (hne : endpoint ≠ "")
      (hlookup : (net.replica i).raft.leaderEndpoint view.lookupLeader view.leaderAddr = .ok endpoint)
      (hlistens : net.listens endpoint = some k) (hplace' : j'.place = some k)
      (hforwards : j'.forwards = j.forwards ++ [(i, k)])

theorem forwarded_of_leaderOrForward {replica : Replica} {request out : Request} {endpoint : String}
    (h : replica.leaderOrForward view request = .forwarded endpoint out) :
    view.gateLeader = false ∧ endpoint ≠ "" ∧
      replica.raft.leaderEndpoint view.lookupLeader view.leaderAddr = .ok endpoint := by
  unfold Replica.leaderOrForward at h
  split at h
  · cases h
  · next hgate =>
    refine ⟨by simpa using (not_or.mp hgate).2, ?_⟩
    unfold Replica.forward at h
    split at h
    · cases h
    · next hlookup =>
      split at h
      · cases h
      · next hne =>
        cases h
        exact ⟨hne, hlookup⟩

theorem hopped_of_hop (h : hop net j view = some j') : Hopped net j view j' := by
  obtain ⟨i, hplace, rfl⟩ := Option.map_eq_some_iff.mp h
  split
  · next endpoint request hhandling =>
    obtain ⟨hgate, hne, hlookup⟩ := forwarded_of_leaderOrForward hhandling
    split
    · next k hlistens => exact .forwarded i k endpoint hplace hgate hne hlookup hlistens rfl rfl
    · exact .ended rfl rfl
  · exact .ended rfl rfl

/-! ## At most one forward -/

/-- The request has been forwarded at most once, and not by a replica to itself. -/
def ForwardedOnce (j : Journey ι) : Prop :=
  j.forwards.length ≤ 1 ∧ ∀ f ∈ j.forwards, f.1 ≠ f.2

/-- At this hop the leader's own flag is up, and a replica that finds its flag down at the gate finds
it down at the lookup and is told of nobody or of the leader. -/
def Agreed (net : Network ι) (leader : ι) (j : Journey ι) (view : View) (_ : Journey ι) : Prop :=
  ∀ i ∈ j.place, view.gateLeader = false →
    i ≠ leader ∧ view.lookupLeader = false ∧
      ∀ endpoint ∈ (net.replica i).raft.peersByRaftAddr view.leaderAddr,
        net.listens endpoint = some leader ∨ net.listens endpoint = none

instance [DecidableEq ι] (net : Network ι) (leader : ι) (j : Journey ι) (view : View)
    (j' : Journey ι) : Decidable (Agreed net leader j view j') :=
  inferInstanceAs (Decidable (∀ i ∈ j.place, view.gateLeader = false →
    i ≠ leader ∧ view.lookupLeader = false ∧
      ∀ endpoint ∈ (net.replica i).raft.peersByRaftAddr view.leaderAddr,
        net.listens endpoint = some leader ∨ net.listens endpoint = none))

/-- With the flag down, an endpoint comes from the peer map. -/
theorem peersByRaftAddr_of_leaderEndpoint {c : RaftConfig} {addr endpoint : String}
    (h : c.leaderEndpoint false addr = .ok endpoint) (hne : endpoint ≠ "") :
    c.peersByRaftAddr addr = some endpoint := by
  simp only [RaftConfig.leaderEndpoint, Bool.false_eq_true, false_and, if_false] at h
  split at h
  · cases h
    exact absurd rfl hne
  · split at h
    · cases h
    · next hpeer =>
      cases h
      exact (Option.filter_eq_some_iff.mp hpeer).1

/-- A replica that forwards is not the leader, and what it forwards goes to the leader. -/
theorem Agreed.forwarded_to_leader {leader i k : ι} {endpoint : String}
    (hagreed : Agreed net leader j view j') (hplace : j.place = some i)
    (hgate : view.gateLeader = false) (hne : endpoint ≠ "")
    (hlookup : (net.replica i).raft.leaderEndpoint view.lookupLeader view.leaderAddr = .ok endpoint)
    (hlistens : net.listens endpoint = some k) : i ≠ leader ∧ k = leader := by
  obtain ⟨hother, hflag, hpeer⟩ := hagreed i hplace hgate
  rw [hflag] at hlookup
  refine ⟨hother, ?_⟩
  rcases hpeer endpoint (peersByRaftAddr_of_leaderEndpoint hlookup hne) with hleader | hnone
  · exact Option.some.inj (hlistens.symm.trans hleader)
  · simp [hnone] at hlistens

/-- What holds of a journey: at most one forward, and after it the request is at the leader or its
journey has ended. -/
def Arrived (leader : ι) (j : Journey ι) : Prop :=
  ForwardedOnce j ∧ (j.forwards ≠ [] → ∀ k ∈ j.place, k = leader)

theorem Arrived.hop {leader : ι} (h : Arrived leader j) (hagreed : Agreed net leader j view j')
    (hhop : Hopped net j view j') : Arrived leader j' := by
  cases hhop with
  | ended hplace hforwards => exact ⟨by simpa [ForwardedOnce, hforwards] using h.1, by simp [hplace]⟩
  | forwarded i k endpoint hplace hgate hne hlookup hlistens hplace' hforwards =>
    obtain ⟨hother, rfl⟩ := hagreed.forwarded_to_leader hplace hgate hne hlookup hlistens
    -- a request that was forwarded before would be at the leader, which does not forward
    have hfirst : j.forwards = [] := by_contra fun hbefore ↦ hother (h.2 hbefore i hplace)
    refine ⟨?_, fun _ _ hat ↦ Option.some.inj (hat.symm.trans hplace')⟩
    rw [ForwardedOnce, hforwards, hfirst]
    exact ⟨Nat.le_refl 1, by simpa using hother⟩

/-- In every journey of a request along which the replicas' views agree on one leader, the request is
forwarded at most once and never by a replica to itself. -/
theorem forwarded_once (net : Network ι) (leader i : ι) (request : Request) (views : List View)
    (j : Journey ι)
    (hagreed : Along (hop net) (Agreed net leader) { place := some i, request := request } views)
    (hrun : run (hop net) { place := some i, request := request } views = some j) :
    ForwardedOnce j := by
  have harrived : Arrived leader j := by
    refine invariant_of_along (Arrived leader) ?_ ⟨⟨Nat.zero_le _, by simp⟩, by simp⟩ hagreed hrun
    exact fun _ _ _ h hagreed hhop ↦ h.hop hagreed (hopped_of_hop hhop)
  exact harrived.1

/-! ### Two replicas -/

def pair : Network Bool where
  replica i :=
    { raft :=
        { nodeID := if i then "b" else "a"
          peers := [⟨"a", "10.0.0.1:7000", "10.0.0.1:8080"⟩, ⟨"b", "10.0.0.2:7000", "10.0.0.2:8080"⟩] }
      ip := if i then "10.0.0.2" else "10.0.0.1" }
  listens addr :=
    if addr = "10.0.0.1:8080" then some false
    else if addr = "10.0.0.2:8080" then some true
    else none

/-- A request to `a` while both agree that `b` is leader. -/
theorem forwarded_once_agreed :
    ∃ j, run (hop pair) { place := some false, request := { host := "a", clientIP := "10.0.0.9" } }
        [⟨false, false, "10.0.0.2:7000"⟩, ⟨true, true, "10.0.0.2:7000"⟩] = some j ∧
      j.forwards = [(false, true)] ∧ ForwardedOnce j := by
  refine ⟨_, rfl, by decide, ?_⟩
  exact forwarded_once pair true false { host := "a", clientIP := "10.0.0.9" }
    [⟨false, false, "10.0.0.2:7000"⟩, ⟨true, true, "10.0.0.2:7000"⟩] _ (by decide) rfl

/-- Raft on `a` already names `a` itself, but `a` has not handled the observation yet, so its flag
is down: it forwards the request to its own endpoint, receives it and forwards it again. -/
theorem forwards_to_itself :
    ∃ j, run (hop pair) { place := some false, request := { host := "a", clientIP := "10.0.0.9" } }
        [⟨false, false, "10.0.0.1:7000"⟩, ⟨false, false, "10.0.0.1:7000"⟩] = some j ∧
      j.place = some false ∧ j.forwards = [(false, false), (false, false)] ∧ ¬ForwardedOnce j := by
  refine ⟨_, rfl, by decide, by decide, ?_⟩
  intro h
  exact absurd h.1 (by decide)

end ScalesetProxmox.Cluster
