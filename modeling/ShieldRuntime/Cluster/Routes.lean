import Mathlib.Data.List.Basic

/-!
# Services of other nodes

The route cache of `ClusterManager`, and the targets that name a service of a node. A string is the
list of its characters.
-/

namespace ShieldRuntime.Cluster

def routeKey (nodeId serviceName : List Char) : List Char := nodeId ++ ':' :: serviceName

/-- The arguments of `register_route`. -/
structure RouteCall where
  nodeId : List Char
  serviceName : List Char
  serviceId : List Char

abbrev RouteCache := List Char → Option (List Char)

def registerRoute (cache : RouteCache) (call : RouteCall) : RouteCache :=
  Function.update cache (routeKey call.nodeId call.serviceName) (some call.serviceId)

def queryRemote (cache : RouteCache) (nodeId serviceName : List Char) : List Char :=
  (cache (routeKey nodeId serviceName)).getD []

/-- `idxOf` is `find`, with the length for `npos`. -/
def parseRemoteTarget (target : List Char) : Option (List Char × List Char) :=
  let colon := target.idxOf ':'
  if colon = target.length ∨ colon = 0 ∨ colon = target.length - 1 then none
  else some (target.take colon, target.drop (colon + 1))

end ShieldRuntime.Cluster
