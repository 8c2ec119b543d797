import ShieldRuntime.Cluster.Routes
import Mathlib.Data.List.Induction

/-!
# The addresses of remote services

Without a colon in the node ids, the pairs are told apart by their keys and read back from them.
-/

namespace ShieldRuntime.Proofs
open Cluster

/-- The service id that was registered last for a pair. -/
def lastRegistered (calls : List RouteCall) (nodeId serviceName : List Char) : List Char :=
  ((calls.reverse.find? fun call =>
    call.nodeId = nodeId ∧ call.serviceName = serviceName).map RouteCall.serviceId).getD []

/-- The pair is looked up and read back as itself. -/
structure Addressed (calls : List RouteCall) (nodeId serviceName : List Char) : Prop where
  query : queryRemote (calls.foldl registerRoute fun _ => none) nodeId serviceName =
    lastRegistered calls nodeId serviceName
  parse : (∃ call ∈ calls, call.nodeId = nodeId ∧ call.serviceName = serviceName) →
    nodeId ≠ [] → serviceName ≠ [] →
    parseRemoteTarget (routeKey nodeId serviceName) = some (nodeId, serviceName)

section

variable {nodeId other serviceName name : List Char}

lemma idxOf_routeKey (hnode : ':' ∉ nodeId) :
    (routeKey nodeId serviceName).idxOf ':' = nodeId.length := by
  rw [routeKey, List.idxOf_append_of_notMem hnode, List.idxOf_cons_self, Nat.add_zero]

lemma routeKey_inj (hnode : ':' ∉ nodeId) (hother : ':' ∉ other)
    (h : routeKey nodeId serviceName = routeKey other name) : nodeId = other ∧ serviceName = name := by
  have hlength : nodeId.length = other.length := by
    rw [← idxOf_routeKey hnode, h, idxOf_routeKey hother]
  obtain ⟨hnodes, hnames⟩ := List.append_inj h hlength
  exact ⟨hnodes, List.tail_eq_of_cons_eq hnames⟩

lemma queryRemote_eq {calls : List RouteCall} (hcalls : ∀ call ∈ calls, ':' ∉ call.nodeId)
    (hnode : ':' ∉ nodeId) :
    queryRemote (calls.foldl registerRoute fun _ => none) nodeId serviceName =
      lastRegistered calls nodeId serviceName := by
  induction calls using List.reverseRecOn with
  | nil => rfl
  | append_singleton calls call ih =>
    have hold := ih fun call hcall => hcalls call (List.mem_append_left _ hcall)
    have hcall : ':' ∉ call.nodeId := hcalls call (by simp)
    rw [List.foldl_append, List.foldl_cons, List.foldl_nil, lastRegistered, List.reverse_append,
      List.reverse_singleton, List.singleton_append, List.find?_cons, queryRemote, registerRoute]
    by_cases hsame : call.nodeId = nodeId ∧ call.serviceName = serviceName
    · obtain ⟨rfl, rfl⟩ := hsame
      simp
    · have hkey : routeKey nodeId serviceName ≠ routeKey call.nodeId call.serviceName := by
        intro heq
        exact hsame (routeKey_inj hcall hnode heq.symm)
      rw [Function.update_of_ne hkey, decide_eq_false hsame]
      exact hold

lemma parseRemoteTarget_routeKey (hnode : ':' ∉ nodeId) (hne : nodeId ≠ [])
    (hname : serviceName ≠ []) :
    parseRemoteTarget (routeKey nodeId serviceName) = some (nodeId, serviceName) := by
  have hnodeLength := List.length_pos_iff.mpr hne
  have hnameLength := List.length_pos_iff.mpr hname
  have hlength : (routeKey nodeId serviceName).length = nodeId.length + serviceName.length + 1 := by
    simp [routeKey, Nat.add_assoc]
  rw [parseRemoteTarget, idxOf_routeKey hnode, if_neg (by omega)]
  simp [routeKey]

lemma parseRemoteTarget_colon (hnode : ':' ∈ nodeId) :
    parseRemoteTarget (routeKey nodeId serviceName) ≠ some (nodeId, serviceName) := by
  have hcolon : (routeKey nodeId serviceName).idxOf ':' = nodeId.idxOf ':' :=
    List.idxOf_append_of_mem hnode
  have hbefore := List.idxOf_lt_length_iff.mpr hnode
  rw [parseRemoteTarget, hcolon]
  split_ifs with hnone
  · nofun
  · intro heq
    -- the node id ends at its first colon
    have hlength := congrArg List.length (Prod.mk.inj (Option.some.inj heq)).1
    rw [List.length_take] at hlength
    omega

end

/-- For node ids from any set: all pairs are told apart and read back in all sequences of calls if
and only if no node id has a colon. -/
theorem remote_addressing_iff (nodes : Set (List Char)) :
    (∀ calls : List RouteCall, (∀ call ∈ calls, call.nodeId ∈ nodes) → ∀ nodeId ∈ nodes,
      ∀ serviceName, Addressed calls nodeId serviceName) ↔ ∀ nodeId ∈ nodes, ':' ∉ nodeId := by
  constructor
  · intro h nodeId hnode hcolon
    have hcall := h [⟨nodeId, ['s'], []⟩] (by simpa using hnode) nodeId hnode ['s']
    have hparse := hcall.parse (by simp) (List.ne_nil_of_mem hcolon) (by simp)
    exact parseRemoteTarget_colon hcolon hparse
  · intro h calls hcalls nodeId hnode serviceName
    exact ⟨queryRemote_eq (fun call hcall => h _ (hcalls call hcall)) (h nodeId hnode),
      fun _ => parseRemoteTarget_routeKey (h nodeId hnode)⟩

/-- A route to a peer that is known by its address answers for another node, and is not read back. -/
theorem peer_address_ambiguous :
    queryRemote (registerRoute (fun _ => none) ⟨"host:7000".toList, "db".toList, "id".toList⟩)
      "host".toList "7000:db".toList = "id".toList ∧
    parseRemoteTarget (routeKey "host:7000".toList "db".toList) =
      some ("host".toList, "7000:db".toList) := by
  decide

end ShieldRuntime.Proofs
