import ShieldRuntime.Library.Machine
import ShieldRuntime.Plugins.Matchmaking

/-!
# Matches

What one call of `tryMatch` may do to the queue, and what the matches of a run have in common.
-/

namespace ShieldRuntime.Proofs

open Library Plugins MatchmakingInstance

variable {groups : List (List PlayerEntry)} {e : PlayerEntry} {inst : MatchmakingInstance}
  {sorted : List PlayerEntry} {allocated : Bool}

section Queue

variable {playerId : String}

lemma mem_erase : e ∈ (inst.erase playerId).queue ↔ e ∈ inst.queue ∧ e.playerId ≠ playerId := by
  simp [MatchmakingInstance.erase]

lemma mem_put {new : PlayerEntry} :
    e ∈ (inst.put new).queue ↔ e = new ∨ e ∈ inst.queue ∧ e.playerId ≠ new.playerId := by
  rw [MatchmakingInstance.put, List.mem_cons, mem_erase]

lemma playerId_of_find (h : inst.find playerId = some e) : e ∈ inst.queue ∧ e.playerId = playerId :=
  ⟨List.mem_of_find?_eq_some h, by simpa using List.find?_some h⟩

structure Without (before : MatchmakingInstance) (gone : List PlayerEntry)
    (after : MatchmakingInstance) : Prop where
  cfg : after.cfg = before.cfg
  mem_queue : ∀ e, e ∈ after.queue ↔ e ∈ before.queue ∧ ∀ p ∈ gone, e.playerId ≠ p.playerId

lemma foldl_erase (group : List PlayerEntry) (inst : MatchmakingInstance) :
    Without inst group (group.foldl (fun inst p => inst.erase p.playerId) inst) ∧
      (group.foldl (fun inst p => inst.erase p.playerId) inst).nextMatchId = inst.nextMatchId := by
  induction group generalizing inst with
  | nil => exact ⟨⟨rfl, by simp⟩, rfl⟩
  | cons p group ih =>
    obtain ⟨hrest, hnext⟩ := ih (inst.erase p.playerId)
    refine ⟨⟨hrest.cfg, ?_⟩, hnext⟩
    intro e
    rw [List.foldl_cons, hrest.mem_queue, mem_erase, List.forall_mem_cons, and_assoc]

end Queue

/-- The groups were returned as matches with new ids. -/
structure Emitted (groups : List (List PlayerEntry)) (before : MatchmakingInstance)
    (found : List Match) (after : MatchmakingInstance) : Prop
    extends Without before groups.flatten after where
  players : found.map Match.players = groups.map (List.map PlayerEntry.toPlayer)
  matchIds : found.map Match.matchId =
    (List.range' before.nextMatchId groups.length).map matchIdText
  nextMatchId : after.nextMatchId = before.nextMatchId + groups.length

lemma emitted_nil (inst : MatchmakingInstance) : Emitted [] inst [] inst :=
  ⟨⟨rfl, by simp⟩, rfl, rfl, rfl⟩

lemma emitMatches_emitted (groups : List (List PlayerEntry)) (inst : MatchmakingInstance) :
    Emitted groups inst (emitMatches groups inst).1 (emitMatches groups inst).2 := by
  induction groups generalizing inst with
  | nil => exact emitted_nil inst
  | cons group groups ih =>
    obtain ⟨hgroup, hcount⟩ := foldl_erase group { inst with nextMatchId := inst.nextMatchId + 1 }
    have hrest := ih (group.foldl (fun inst p => inst.erase p.playerId)
      { inst with nextMatchId := inst.nextMatchId + 1 })
    refine ⟨⟨hrest.cfg.trans hgroup.cfg, ?_⟩, ?_, ?_, ?_⟩
    · intro e
      rw [emitMatches, hrest.mem_queue, hgroup.mem_queue, List.flatten_cons,
        List.forall_mem_append, and_assoc]
    · rw [emitMatches, List.map_cons, hrest.players, List.map_cons]
    · rw [emitMatches, List.map_cons, hrest.matchIds, hcount, List.length_cons, List.range'_succ,
        List.map_cons]
    · rw [emitMatches, hrest.nextMatchId, hcount, List.length_cons, Nat.add_right_comm, Nat.add_assoc]

section Call

lemma tryMatch_emits (inst : MatchmakingInstance) (sorted : List PlayerEntry) (allocated : Bool) :
    ∃ groups, groups.Sublist (inst.findGroups sorted) ∧
      ((inst.tryMatch sorted allocated).1 = 0 → groups = inst.findGroups sorted) ∧
      Emitted groups inst (inst.tryMatch sorted allocated).2.1.matchList
        (inst.tryMatch sorted allocated).2.2 := by
  rw [tryMatch]
  cases inst.findGroups sorted with
  | nil => exact ⟨[], .refl _, fun _ => rfl, emitted_nil inst⟩
  | cons group groups =>
    cases allocated with
    | true => exact ⟨_, .refl _, fun _ => rfl, emitMatches_emitted (group :: groups) inst⟩
    | false => exact ⟨[], List.nil_sublist _, nofun, emitted_nil inst⟩

lemma tryMatch_emitted (h : (inst.tryMatch sorted allocated).1 = 0) :
    Emitted (inst.findGroups sorted) inst (inst.tryMatch sorted allocated).2.1.matchList
      (inst.tryMatch sorted allocated).2.2 := by
  obtain ⟨groups, -, hall, hemitted⟩ := tryMatch_emits inst sorted allocated
  rwa [hall h] at hemitted

def Close (tolerance p q : ℚ) : Prop := |p - q| ≤ tolerance

variable {tolerance : ℚ}

lemma Close.symm {p q : ℚ} (h : Close tolerance p q) : Close tolerance q p := by
  rwa [Close, abs_sub_comm]

lemma withinTolerance_iff {first p : PlayerEntry} :
    inst.withinTolerance first p = true ↔
      Close inst.cfg.ratingTolerance first.rating p.rating := by
  rw [withinTolerance, decide_eq_true_iff, Close, abs_sub_comm]

lemma close_of_between {a b c : ℚ} (hab : a ≤ b) (hbc : b ≤ c) (h : Close tolerance a c) :
    Close tolerance a b ∧ Close tolerance b c := by
  have hac := abs_le.mp h
  have htolerance := (abs_nonneg (a - c)).trans h
  constructor <;> exact abs_le.mpr ⟨by linarith, by linarith⟩

/-- The players could be a match. -/
structure MatchPossible (inst : MatchmakingInstance) (group : List PlayerEntry) : Prop where
  queued : ∀ e ∈ group, e ∈ inst.queue
  distinct : (group.map PlayerEntry.playerId).Nodup
  full : (group.length : Int) = inst.cfg.maxPlayersPerMatch
  close : group.Pairwise fun p q => Close inst.cfg.ratingTolerance p.rating q.rating

section

variable (hsorted : inst.IsSorted sorted)
include hsorted

lemma nodup_sorted : (sorted.map PlayerEntry.playerId).Nodup :=
  (hsorted.1.map _).nodup_iff.mpr inst.nodup

lemma findGroups_perm :
    ((inst.findGroups sorted).flatten ++
      leftOver inst.withinTolerance inst.cfg.maxPlayersPerMatch 0 sorted).Perm inst.queue :=
  (greedyGroups_perm 0 sorted).trans hsorted.1

lemma nodup_findGroups :
    (((inst.findGroups sorted).flatten ++
      leftOver inst.withinTolerance inst.cfg.maxPlayersPerMatch 0 sorted).map
        PlayerEntry.playerId).Nodup :=
  ((findGroups_perm hsorted).map _).nodup_iff.mpr inst.nodup

lemma pairwise_close {group : List PlayerEntry} (h : group ∈ inst.findGroups sorted) :
    group.Pairwise fun p q => Close inst.cfg.ratingTolerance p.rating q.rating := by
  have hgroup := isGroup_of_mem h
  have horder := hsorted.2.sublist hgroup.piece.sublist
  obtain ⟨first, others, rfl, hnear⟩ := hgroup.near
  obtain ⟨hfirst, hothers⟩ := List.pairwise_cons.mp horder
  refine List.pairwise_cons.mpr ⟨fun p hp => withinTolerance_iff.mp (hnear p hp), ?_⟩
  refine hothers.imp_of_mem ?_
  intro p q hp hq hpq
  exact (close_of_between (hfirst p hp) hpq (withinTolerance_iff.mp (hnear q hq))).2

lemma nodup_groups (h : groups.Sublist (inst.findGroups sorted)) :
    (groups.flatten.map PlayerEntry.playerId).Nodup := by
  have hflat := h.flatten.trans (List.sublist_append_left _
    (leftOver inst.withinTolerance inst.cfg.maxPlayersPerMatch 0 sorted))
  exact (nodup_findGroups hsorted).sublist (hflat.map _)

lemma matchPossible_of_mem {group : List PlayerEntry}
    (h : group ∈ inst.findGroups sorted) : MatchPossible inst group where
  queued _ he := hsorted.1.subset ((isGroup_of_mem h).piece.subset he)
  distinct := (nodup_sorted hsorted).sublist ((isGroup_of_mem h).piece.sublist.map _)
  full := (isGroup_of_mem h).full
  close := pairwise_close hsorted h

end

end Call

section Sound

def playerIds (found : List Match) : List (Option String) :=
  (found.flatMap Match.players).map MatchPlayer.playerId

/-- The matches are possible ones, and their players have left the queue. -/
structure SoundMatches (before : MatchmakingInstance) (found : List Match)
    (after : MatchmakingInstance) : Prop where
  full : ∀ m ∈ found, (m.players.length : Int) = before.cfg.maxPlayersPerMatch
  queued : ∀ m ∈ found, ∀ p ∈ m.players, ∃ e ∈ before.queue, p = e.toPlayer
  close : ∀ m ∈ found, m.players.Pairwise fun p q =>
    Close before.cfg.ratingTolerance p.rating q.rating
  distinct : (playerIds found).Nodup
  removed : ∀ e, e ∈ after.queue ↔ e ∈ before.queue ∧ some e.playerId ∉ playerIds found

variable {after : MatchmakingInstance} {found : List Match}

section

variable (h : Emitted groups inst found after)
include h

lemma Emitted.flatMap_players :
    found.flatMap Match.players = groups.flatten.map PlayerEntry.toPlayer := by
  rw [List.flatMap, h.players, List.map_flatten]

lemma Emitted.playerIds : playerIds found = (groups.flatten.map PlayerEntry.playerId).map some := by
  rw [Proofs.playerIds, h.flatMap_players, List.map_map, List.map_map]
  rfl

lemma Emitted.group {m : Match} (hm : m ∈ found) :
    ∃ group ∈ groups, m.players = group.map PlayerEntry.toPlayer := by
  have hplayers : m.players ∈ groups.map (List.map PlayerEntry.toPlayer) :=
    h.players ▸ List.mem_map_of_mem hm
  obtain ⟨group, hgroup, heq⟩ := List.mem_map.mp hplayers
  exact ⟨group, hgroup, heq.symm⟩

lemma Emitted.sound (hsorted : inst.IsSorted sorted)
    (hgroups : groups.Sublist (inst.findGroups sorted)) : SoundMatches inst found after where
  full := by
    intro m hm
    obtain ⟨group, hgroup, hplayers⟩ := h.group hm
    rw [hplayers, List.length_map]
    exact (matchPossible_of_mem hsorted (hgroups.subset hgroup)).full
  queued := by
    intro m hm p hp
    obtain ⟨group, hgroup, hplayers⟩ := h.group hm
    rw [hplayers] at hp
    obtain ⟨e, he, rfl⟩ := List.mem_map.mp hp
    exact ⟨e, (matchPossible_of_mem hsorted (hgroups.subset hgroup)).queued e he, rfl⟩
  close := by
    intro m hm
    obtain ⟨group, hgroup, hplayers⟩ := h.group hm
    rw [hplayers, List.pairwise_map]
    exact (matchPossible_of_mem hsorted (hgroups.subset hgroup)).close
  distinct := by
    rw [h.playerIds]
    exact (nodup_groups hsorted hgroups).map (Option.some_injective _)
  removed := by
    intro e
    rw [h.mem_queue, h.playerIds, List.mem_map_of_injective (Option.some_injective _),
      List.mem_map]
    simp [not_exists, ne_comm]

end

lemma tryMatch_sound (hsorted : inst.IsSorted sorted) (allocated : Bool) :
    SoundMatches inst (inst.tryMatch sorted allocated).2.1.matchList
      (inst.tryMatch sorted allocated).2.2 := by
  obtain ⟨groups, hgroups, -, hemitted⟩ := tryMatch_emits inst sorted allocated
  exact hemitted.sound hsorted hgroups

end Sound

section Run

variable {next last : MatchmakingInstance} {call : MatchCall} {calls : List MatchCall}

lemma step_tryMatch (h : inst.step (.tryMatch sorted allocated) = some next) :
    inst.IsSorted sorted ∧ next = (inst.tryMatch sorted allocated).2.2 := by
  rw [step] at h
  split_ifs at h with hsorted
  exact ⟨hsorted, (Option.some.inj h).symm⟩

/-- The call changes the queue and returns no match. -/
structure QueueEdit (before : MatchmakingInstance) (call : MatchCall)
    (after : MatchmakingInstance) : Prop where
  cfg : after.cfg = before.cfg
  nextMatchId : after.nextMatchId = before.nextMatchId
  entered : ∀ e ∈ after.queue, (∃ old ∈ before.queue, old.playerId = e.playerId) ∨
    ∃ player, call = .enqueue (some player) ∧ player.playerId = some e.playerId

lemma queueEdit_refl (inst : MatchmakingInstance) (call : MatchCall) : QueueEdit inst call inst :=
  ⟨rfl, rfl, fun e he => .inl ⟨e, he, rfl⟩⟩

lemma enqueue_edit (inst : MatchmakingInstance) (player : Option MatchPlayer) :
    QueueEdit inst (.enqueue player) (inst.enqueue player).2 := by
  cases player with
  | none => exact queueEdit_refl inst _
  | some player =>
    rw [enqueue]
    cases hid : player.playerId with
    | none => exact queueEdit_refl inst _
    | some =>
      refine ⟨rfl, rfl, ?_⟩
      intro e he
      rcases mem_put.mp he with rfl | ⟨he, -⟩
      · exact .inr ⟨player, rfl, hid⟩
      · exact .inl ⟨e, he, rfl⟩

lemma dequeue_edit (inst : MatchmakingInstance) (playerId : Option String) :
    QueueEdit inst (.dequeue playerId) (inst.dequeue playerId).2 := by
  cases playerId with
  | none => exact queueEdit_refl inst _
  | some => exact ⟨rfl, rfl, fun e he => .inl ⟨e, (mem_erase.mp he).1, rfl⟩⟩

lemma updateRating_edit (inst : MatchmakingInstance) (playerId : Option String) (newRating : ℚ) :
    QueueEdit inst (.updateRating playerId newRating) (inst.updateRating playerId newRating).2 := by
  cases playerId with
  | none => exact queueEdit_refl inst _
  | some playerId =>
    rw [updateRating]
    cases hfind : inst.find playerId with
    | none => exact queueEdit_refl inst _
    | some old =>
      refine ⟨rfl, rfl, ?_⟩
      intro e he
      rcases mem_put.mp he with rfl | ⟨he, -⟩
      · exact .inl ⟨old, (playerId_of_find hfind).1, rfl⟩
      · exact .inl ⟨e, he, rfl⟩

section

variable (h : inst.step call = some next)
include h

lemma step_cases :
    (inst.returned call = none ∧ QueueEdit inst call next) ∨
    ∃ sorted allocated, call = .tryMatch sorted allocated ∧ inst.IsSorted sorted ∧
      next = (inst.tryMatch sorted allocated).2.2 := by
  cases call with
  | enqueue player => exact .inl ⟨rfl, Option.some.inj h ▸ enqueue_edit inst player⟩
  | dequeue playerId => exact .inl ⟨rfl, Option.some.inj h ▸ dequeue_edit inst playerId⟩
  | updateRating playerId newRating =>
    exact .inl ⟨rfl, Option.some.inj h ▸ updateRating_edit inst playerId newRating⟩
  | tryMatch sorted allocated => exact .inr ⟨sorted, allocated, rfl, step_tryMatch h⟩

lemma step_cfg : next.cfg = inst.cfg := by
  rcases step_cases h with ⟨-, hedit⟩ | ⟨sorted, allocated, rfl, -, rfl⟩
  · exact hedit.cfg
  · obtain ⟨groups, -, -, hemitted⟩ := tryMatch_emits inst sorted allocated
    exact hemitted.cfg

lemma step_queued (he : e ∈ next.queue) :
    (∃ old ∈ inst.queue, old.playerId = e.playerId) ∨
      ∃ player, call = .enqueue (some player) ∧ player.playerId = some e.playerId := by
  rcases step_cases h with ⟨-, hedit⟩ | ⟨sorted, allocated, rfl, hsorted, rfl⟩
  · exact hedit.entered e he
  · exact .inl ⟨e, (((tryMatch_sound hsorted allocated).removed e).mp he).1, rfl⟩

end

def returnedIds (inst : MatchmakingInstance) (calls : List MatchCall) : List String :=
  (observe step returned inst calls).flatMap fun result => result.matchList.map Match.matchId

lemma matchIdText_injective : Function.Injective matchIdText := by
  intro n m h
  have hrepr := (String.append_right_inj "match_").mp h
  rw [Nat.toString_eq_ofList_toDigits, Nat.toString_eq_ofList_toDigits, String.ofList_inj] at hrepr
  calc
    n = Nat.ofDigitChars 10 (Nat.toDigits 10 n) 0 := Nat.ofDigitChars_ten_toDigits.symm
    _ = Nat.ofDigitChars 10 (Nat.toDigits 10 m) 0 := by rw [hrepr]
    _ = m := Nat.ofDigitChars_ten_toDigits

/-- The results so far numbered their matches 1, 2, and so on. -/
def CountsIds (seen : List MatchResult) (inst : MatchmakingInstance) : Prop :=
  ∃ n, inst.nextMatchId = 1 + n ∧
    (seen.flatMap fun result => result.matchList.map Match.matchId) =
      (List.range' 1 n).map matchIdText

lemma CountsIds.step {seen : List MatchResult} (h : CountsIds seen inst)
    (hstep : inst.step call = some next) :
    CountsIds (seen ++ (inst.returned call).toList) next := by
  obtain ⟨n, hn, hids⟩ := h
  rcases step_cases hstep with ⟨hnone, hedit⟩ | ⟨sorted, allocated, rfl, -, rfl⟩
  · refine ⟨n, hedit.nextMatchId.trans hn, ?_⟩
    rw [hnone, Option.toList_none, List.append_nil]
    exact hids
  obtain ⟨groups, -, -, hemitted⟩ := tryMatch_emits inst sorted allocated
  refine ⟨n + groups.length, ?_, ?_⟩
  · rw [hemitted.nextMatchId, hn, Nat.add_assoc]
  · rw [List.flatMap_append, hids, returned, Option.toList_some, List.flatMap_singleton,
      hemitted.matchIds, hn, ← List.map_append, List.range'_append_1]

lemma nodup_returnedIds {cfg : MatchConfig} (h : run step { cfg } calls = some last) :
    (returnedIds { cfg } calls).Nodup := by
  have hall : Admits step (fun _ _ => True) { cfg } calls :=
    admits_of_forall step (fun _ _ _ => trivial) _
  have hstart : CountsIds [] { cfg } := ⟨0, rfl, rfl⟩
  obtain ⟨n, -, hids⟩ := observe_invariant step (fun _ _ _ _ hseen _ => hseen.step) hstart hall h
  rw [List.nil_append] at hids
  rw [returnedIds, hids]
  exact (List.nodup_range' 1).map matchIdText_injective

lemma enqueued_between {playerId : String} (hrun : run step inst calls = some last)
    (hout : ∀ e ∈ inst.queue, e.playerId ≠ playerId)
    (hin : ∃ e ∈ last.queue, e.playerId = playerId) :
    ∃ player, .enqueue (some player) ∈ calls ∧ player.playerId = some playerId := by
  induction calls generalizing inst with
  | nil =>
    cases hrun
    obtain ⟨e, he, hid⟩ := hin
    exact absurd hid (hout e he)
  | cons call calls ih =>
    obtain ⟨mid, hmid, hrest⟩ := run_cons step hrun
    by_cases hstill : ∀ e ∈ mid.queue, e.playerId ≠ playerId
    · obtain ⟨player, hplayer, hid⟩ := ih hrest hstill
      exact ⟨player, List.mem_cons_of_mem _ hplayer, hid⟩
    push Not at hstill
    obtain ⟨e, he, rfl⟩ := hstill
    rcases step_queued hmid he with ⟨old, hold, hid⟩ | ⟨player, rfl, hid⟩
    · exact absurd hid (hout old hold)
    · exact ⟨player, List.mem_cons_self, hid⟩

lemma enqueued_again {later : List PlayerEntry} {allocated' : Bool}
    (hcall : inst.step (.tryMatch sorted allocated) = some next)
    (hrun : run step next calls = some last) (hlater : last.IsSorted later)
    {playerId : Option String}
    (hfirst : playerId ∈ playerIds (inst.tryMatch sorted allocated).2.1.matchList)
    (hsecond : playerId ∈ playerIds (last.tryMatch later allocated').2.1.matchList) :
    ∃ player, .enqueue (some player) ∈ calls ∧ player.playerId = playerId := by
  obtain ⟨hsorted, rfl⟩ := step_tryMatch hcall
  obtain ⟨p, hp, rfl⟩ := List.mem_map.mp hsecond
  obtain ⟨m, hm, hp⟩ := List.mem_flatMap.mp hp
  obtain ⟨e, he, rfl⟩ := (tryMatch_sound hlater allocated').queued m hm p hp
  refine enqueued_between hrun ?_ ⟨e, he, rfl⟩
  intro other hother hid
  have hgone := ((tryMatch_sound hsorted allocated).removed other).mp hother
  exact hgone.2 (hid ▸ hfirst)

end Run

/-- Every match that a run of calls returns is made of as many players as configured, all different,
queued and with close ratings; no player is in two matches of a call, or in a later one without a
new `enqueue`; the call takes the players of its matches out of the queue, and nobody else; and no
match id is returned twice. -/
theorem matches_are_sound {cfg : MatchConfig} {calls : List MatchCall} {last : MatchmakingInstance}
    (hrun : run step { cfg } calls = some last) :
    (returnedIds { cfg } calls).Nodup ∧
    ∀ earlier sorted allocated later, calls = earlier ++ .tryMatch sorted allocated :: later →
      ∃ inst, run step { cfg } earlier = some inst ∧ inst.cfg = cfg ∧
        SoundMatches inst (inst.tryMatch sorted allocated).2.1.matchList
          (inst.tryMatch sorted allocated).2.2 ∧
        ∀ first sorted' allocated' between start,
          earlier = first ++ .tryMatch sorted' allocated' :: between →
          run step { cfg } first = some start →
          ∀ playerId ∈ playerIds (start.tryMatch sorted' allocated').2.1.matchList,
            playerId ∈ playerIds (inst.tryMatch sorted allocated).2.1.matchList →
            ∃ player, .enqueue (some player) ∈ between ∧ player.playerId = playerId := by
  refine ⟨nodup_returnedIds hrun, ?_⟩
  rintro earlier sorted allocated later rfl
  obtain ⟨inst, hearlier, hlater⟩ := run_split step hrun
  obtain ⟨next, hnext, -⟩ := run_cons step hlater
  obtain ⟨hsorted, -⟩ := step_tryMatch hnext
  have hcfg : inst.cfg = cfg :=
    reachable_invariant step (fun s l next hs hstep => (step_cfg hstep).trans hs) rfl hearlier
  refine ⟨inst, hearlier, hcfg, tryMatch_sound hsorted allocated, ?_⟩
  rintro first sorted' allocated' between start rfl hstart playerId hfirst hsecond
  obtain ⟨mid, hmid, hbetween⟩ := run_split step hearlier
  obtain rfl : mid = start := Option.some.inj (hmid.symm.trans hstart)
  obtain ⟨after, hafter, hrest⟩ := run_cons step hbetween
  exact enqueued_again hafter hrest hsorted hfirst hsecond

def pairCalls : List MatchCall :=
  [.enqueue (some { playerId := some "b", rating := 150 }),
    .enqueue (some { playerId := some "a", rating := 100 }),
    .tryMatch [{ playerId := "a", rating := 100 }, { playerId := "b", rating := 150 }] true]

theorem matches_are_sound_pair : returnedIds { cfg := {} } pairCalls = ["match_1"] ∧
      ∃ inst, run step { cfg := {} } (pairCalls.take 2) = some inst ∧ inst.queue.length = 2 ∧
        SoundMatches inst
          (inst.tryMatch [⟨"a", 100, "", ""⟩, ⟨"b", 150, "", ""⟩] true).2.1.matchList
          (inst.tryMatch [⟨"a", 100, "", ""⟩, ⟨"b", 150, "", ""⟩] true).2.2 := by
  refine ⟨by decide +kernel, ?_⟩
  have hruns : (run step { cfg := {} } pairCalls).isSome = true := by decide +kernel
  obtain ⟨last, hlast⟩ := Option.isSome_iff_exists.mp hruns
  obtain ⟨inst, hinst, -, hsound, -⟩ := (matches_are_sound hlast).2 (pairCalls.take 2) _ true [] rfl
  refine ⟨inst, hinst, ?_, hsound⟩
  have hqueue : (run step { cfg := {} } (pairCalls.take 2)).map (·.queue.length) = some 2 := by
    decide +kernel
  rw [hinst] at hqueue
  exact Option.some.inj hqueue

lemma mem_queue_iff_leftOver (hsorted : inst.IsSorted sorted)
    (hcode : (inst.tryMatch sorted allocated).1 = 0) :
    e ∈ (inst.tryMatch sorted allocated).2.2.queue ↔
      e ∈ leftOver inst.withinTolerance inst.cfg.maxPlayersPerMatch 0 sorted := by
  have hids := nodup_findGroups hsorted
  rw [List.map_append, List.nodup_append] at hids
  rw [(tryMatch_emitted hcode).mem_queue, ← (findGroups_perm hsorted).mem_iff, List.mem_append]
  constructor
  · rintro ⟨hgroup | hleft, hout⟩
    · exact absurd rfl (hout e hgroup)
    · exact hleft
  · intro hleft
    refine ⟨.inr hleft, ?_⟩
    intro p hp hid
    exact hids.2.2 _ (List.mem_map_of_mem hp) _ (List.mem_map_of_mem hleft) hid.symm

lemma withinTolerance_between (hsorted : inst.IsSorted sorted) (a b c : PlayerEntry)
    (h : [a, b, c].Sublist sorted) (hac : inst.withinTolerance a c = true) :
    inst.withinTolerance a b = true := by
  have horder := hsorted.2.sublist h
  simp only [List.pairwise_cons, List.mem_cons, List.not_mem_nil, or_false, forall_eq_or_imp,
    forall_eq] at horder
  apply withinTolerance_iff.mpr
  exact (close_of_between horder.1.1 horder.2.1 (withinTolerance_iff.mp hac)).1

lemma noMatch_left (hone : 1 ≤ inst.cfg.maxPlayersPerMatch) (hsorted : inst.IsSorted sorted)
    (hcode : (inst.tryMatch sorted allocated).1 = 0) (group : List PlayerEntry) :
    ¬MatchPossible (inst.tryMatch sorted allocated).2.2 group := by
  intro h
  have hcfg := (tryMatch_emitted hcode).cfg
  have hfull := h.full
  have hclose := h.close
  rw [hcfg] at hfull hclose
  -- the same players, in the order of their ratings
  let left := leftOver inst.withinTolerance inst.cfg.maxPlayersPerMatch 0 sorted
  let ordered := left.filter (· ∈ group)
  have hleft : left.Sublist sorted := leftOver_sublist 0 sorted
  have hnodup : ordered.Nodup :=
    (((nodup_sorted hsorted).of_map _).sublist hleft).filter _
  have hperm : ordered.Perm group := by
    rw [List.perm_ext_iff_of_nodup hnodup (h.distinct.of_map _)]
    intro e
    simp only [ordered, List.mem_filter, decide_eq_true_eq, and_iff_right_iff_imp]
    exact fun he => (mem_queue_iff_leftOver hsorted hcode).mp (h.queued e he)
  rw [← hperm.length_eq] at hfull
  rw [← hperm.pairwise_iff Close.symm] at hclose
  cases hordered : ordered with
  | nil =>
    rw [hordered, List.length_nil, Nat.cast_zero] at hfull
    omega
  | cons first others =>
    rw [hordered] at hfull hclose
    have hsub : (first :: others).Sublist left := hordered ▸ List.filter_sublist
    refine leftOver_maximal (withinTolerance_between hsorted) hsub ?_ hfull
    intro p hp
    exact withinTolerance_iff.mpr (List.rel_of_pairwise_cons hclose hp)

/-- After a call that does not fail, no players in the queue would make a match; a repeated call
returns none. -/
theorem matchmaking_is_maximal (hone : 1 ≤ inst.cfg.maxPlayersPerMatch)
    (hsorted : inst.IsSorted sorted) (hcode : (inst.tryMatch sorted allocated).1 = 0) :
    (∀ group, ¬MatchPossible (inst.tryMatch sorted allocated).2.2 group) ∧
    ∀ sorted' allocated', (inst.tryMatch sorted allocated).2.2.IsSorted sorted' →
      (inst.tryMatch sorted allocated).2.2.tryMatch sorted' allocated' =
        (0, ⟨1, none, none, []⟩, (inst.tryMatch sorted allocated).2.2) := by
  have hnone := noMatch_left hone hsorted hcode
  refine ⟨hnone, ?_⟩
  intro sorted' allocated' hsorted'
  have hempty : (inst.tryMatch sorted allocated).2.2.findGroups sorted' = [] := by
    apply List.eq_nil_iff_forall_not_mem.mpr
    intro group hgroup
    exact hnone group (matchPossible_of_mem hsorted' hgroup)
  rw [tryMatch, hempty]

def threeQueued : MatchmakingInstance where
  cfg := {}
  queue := [⟨"c", 700, "", ""⟩, ⟨"a", 100, "", ""⟩, ⟨"b", 150, "", ""⟩]
  nodup := by decide

theorem matchmaking_is_maximal_three :
    (threeQueued.tryMatch [⟨"a", 100, "", ""⟩, ⟨"b", 150, "", ""⟩, ⟨"c", 700, "", ""⟩] true).2.2.queue =
        [⟨"c", 700, "", ""⟩] ∧
      ∀ group, ¬MatchPossible
        (threeQueued.tryMatch [⟨"a", 100, "", ""⟩, ⟨"b", 150, "", ""⟩, ⟨"c", 700, "", ""⟩] true).2.2
        group :=
  ⟨by decide +kernel, (matchmaking_is_maximal (by decide) (by decide +kernel) (by decide +kernel)).1⟩

end ShieldRuntime.Proofs
