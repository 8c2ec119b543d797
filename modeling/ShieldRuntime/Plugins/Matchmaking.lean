import ShieldRuntime.Library.GreedyGroups
import Mathlib.Algebra.Order.Field.Rat

/-!
# The ELO matchmaking plugin

`plugins/matchmaking_elo`: the queue of an instance and the operations on it. Ratings and the
tolerance are rational numbers: every finite double is one, and they are only compared and
subtracted. The queue is a hash map, so its order means nothing; what `std::sort` makes of it is an
argument of `tryMatch`. A null pointer is `none`.
-/

namespace ShieldRuntime.Plugins

open Library

/-- A player in the queue. -/
structure PlayerEntry where
  playerId : String
  rating : ℚ := 0
  partyId : String := ""
  region : String := ""
deriving DecidableEq, Repr

/-- The settings, with their defaults. -/
structure MatchConfig where
  maxPlayersPerMatch : Int := 2
  matchTimeoutSeconds : Int := 30
  ratingTolerance : ℚ := 200
deriving DecidableEq, Repr

/-- A player as a caller of the interface passes and gets it. -/
structure MatchPlayer where
  playerId : Option String
  rating : ℚ
  partyId : Option String := none
  region : Option String := none
  metadataJson : Option String := none
deriving DecidableEq, Repr

/-- A match that was found. -/
structure Match where
  matchId : String
  players : List MatchPlayer
  serverAddress : Option String
deriving DecidableEq, Repr

/-- What `try_match` fills in. -/
structure MatchResult where
  success : Int
  errorCode : Option String
  errorMsg : Option String
  matchList : List Match
deriving DecidableEq, Repr

/-- No two queued entries have one player id. `next_match_id` is unbounded here. -/
structure MatchmakingInstance where
  cfg : MatchConfig
  queue : List PlayerEntry := []
  nextMatchId : Nat := 1
  nodup : (queue.map PlayerEntry.playerId).Nodup := by simp
deriving DecidableEq

namespace MatchmakingInstance

variable (inst : MatchmakingInstance)

def erase (playerId : String) : MatchmakingInstance where
  cfg := inst.cfg
  queue := inst.queue.filter (·.playerId ≠ playerId)
  nextMatchId := inst.nextMatchId
  nodup := inst.nodup.sublist (List.filter_sublist.map _)

def put (e : PlayerEntry) : MatchmakingInstance where
  cfg := inst.cfg
  queue := e :: (inst.erase e.playerId).queue
  nextMatchId := inst.nextMatchId
  nodup := by
    refine List.nodup_cons.mpr ⟨?_, (inst.erase e.playerId).nodup⟩
    intro hmem
    obtain ⟨other, hother, hid⟩ := List.mem_map.mp hmem
    exact of_decide_eq_true (List.mem_filter.mp hother).2 hid

def find (playerId : String) : Option PlayerEntry :=
  inst.queue.find? (·.playerId = playerId)

def enqueue (player : Option MatchPlayer) : Int × MatchmakingInstance :=
  match player with
  | none => (-1, inst)
  | some player =>
    match player.playerId with
    | none => (-1, inst)
    | some playerId =>
      (0, inst.put
        { playerId
          rating := player.rating
          partyId := player.partyId.getD ""
          region := player.region.getD "" })

def dequeue (playerId : Option String) : Int × MatchmakingInstance :=
  match playerId with
  | none => (-1, inst)
  | some playerId => (if (inst.find playerId).isSome then 0 else -1, inst.erase playerId)

def updateRating (playerId : Option String) (newRating : ℚ) : Int × MatchmakingInstance :=
  match playerId with
  | none => (-1, inst)
  | some playerId =>
    match inst.find playerId with
    | none => (-1, inst)
    | some e => (0, inst.put { e with rating := newRating })

/-- What sorting the queue by rating may give: players with one rating come in any order. -/
def IsSorted (sorted : List PlayerEntry) : Prop :=
  sorted.Perm inst.queue ∧ sorted.Pairwise (·.rating ≤ ·.rating)
deriving Decidable

/-- A player may join the group that another one started. -/
def withinTolerance (first p : PlayerEntry) : Bool :=
  |p.rating - first.rating| ≤ inst.cfg.ratingTolerance

def findGroups (sorted : List PlayerEntry) : List (List PlayerEntry) :=
  greedyGroups inst.withinTolerance inst.cfg.maxPlayersPerMatch 0 sorted

end MatchmakingInstance

def PlayerEntry.toPlayer (e : PlayerEntry) : MatchPlayer where
  playerId := some e.playerId
  rating := e.rating
  partyId := some e.partyId
  region := some e.region
  metadataJson := none

def matchIdText (n : Nat) : String := "match_" ++ toString n

namespace MatchmakingInstance

/-- The loop that writes the matches to the result and takes their players out of the queue. -/
def emitMatches : List (List PlayerEntry) → MatchmakingInstance → List Match × MatchmakingInstance
  | [], inst => ([], inst)
  | group :: groups, inst =>
    let emitted : Match :=
      { matchId := matchIdText inst.nextMatchId
        players := group.map PlayerEntry.toPlayer
        serverAddress := none }
    let counted : MatchmakingInstance := { inst with nextMatchId := inst.nextMatchId + 1 }
    let (rest, last) := emitMatches groups (group.foldl (fun inst p => inst.erase p.playerId) counted)
    (emitted :: rest, last)

/-- `allocated`: whether memory for the matches could be got. -/
def tryMatch (inst : MatchmakingInstance) (sorted : List PlayerEntry) (allocated : Bool) :
    Int × MatchResult × MatchmakingInstance :=
  let result (ms : List Match) : MatchResult :=
    { success := 1, errorCode := none, errorMsg := none, matchList := ms }
  match inst.findGroups sorted with
  | [] => (0, result [], inst)
  | group :: groups =>
    if allocated then
      let (ms, next) := emitMatches (group :: groups) inst
      (0, result ms, next)
    else (-1, result [], inst)

end MatchmakingInstance

/-! Runs: the calls on one instance, one at a time under its mutex. -/

inductive MatchCall
  | enqueue (player : Option MatchPlayer)
  | dequeue (playerId : Option String)
  | updateRating (playerId : Option String) (newRating : ℚ)
  | tryMatch (sorted : List PlayerEntry) (allocated : Bool)
deriving DecidableEq

namespace MatchmakingInstance

def step (inst : MatchmakingInstance) : MatchCall → Option MatchmakingInstance
  | .enqueue player => some (inst.enqueue player).2
  | .dequeue playerId => some (inst.dequeue playerId).2
  | .updateRating playerId newRating => some (inst.updateRating playerId newRating).2
  | .tryMatch sorted allocated =>
    if inst.IsSorted sorted then some (inst.tryMatch sorted allocated).2.2 else none

def returned (inst : MatchmakingInstance) : MatchCall → Option MatchResult
  | .tryMatch sorted allocated => some (inst.tryMatch sorted allocated).2.1
  | _ => none

end MatchmakingInstance

end ShieldRuntime.Plugins
