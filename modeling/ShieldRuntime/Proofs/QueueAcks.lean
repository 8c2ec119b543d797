import ShieldRuntime.Library.Machine
import ShieldRuntime.Plugins.QueueRedis

/-!
# Acknowledgements of the Redis queue

The C consumer gives the rest of a batch up with the first exception; the Lua worker acknowledges
whatever the callback did. The worker of a channel does not see that its callback is gone.
-/

namespace ShieldRuntime.Proofs

open Library Plugins

/-- An entry is passed on once, and acknowledged exactly if its callback has returned. -/
def Honest (p : StreamEntry × Dispatch) (events : List QueueEvent) : Prop :=
  (p.2 ≠ .unsubscribed → events.count (.call p.1.payload) = 1) ∧
    (.xack p.1.id ∈ events ↔ p.2 = .returned)

instance (p : StreamEntry × Dispatch) (events : List QueueEvent) : Decidable (Honest p events) :=
  inferInstanceAs (Decidable (_ ∧ _))

lemma honest_unreached (batch : List (StreamEntry × Dispatch)) :
    List.Forall₂ Honest batch (batch.map fun _ => []) ↔ ∀ p ∈ batch, p.2 = .unsubscribed := by
  rw [List.forall₂_map_right_iff, List.forall₂_same]
  refine forall₂_congr fun p _ => ?_
  cases hd : p.2 <;> simp [Honest, hd]

lemma consumerBatch_honest_iff (batch : List (StreamEntry × Dispatch)) :
    List.Forall₂ Honest batch (consumerBatch batch) ↔ (∀ p ∈ batch, p.2 ≠ .noCallback) ∧
      batch.Pairwise fun p q => p.2 = .failed → q.2 = .unsubscribed := by
  induction batch with
  | nil => simp [consumerBatch]
  | cons p batch ih =>
    obtain ⟨entry, dispatch⟩ := p
    cases dispatch with
    | unsubscribed | noCallback | returned => simp [consumerBatch, Honest, ih]
    | failed =>
      have hrest : (∀ p ∈ batch, p.2 = .unsubscribed) → (∀ p ∈ batch, p.2 ≠ .noCallback) ∧
          batch.Pairwise fun p q => p.2 = .failed → q.2 = .unsubscribed := by
        intro h
        refine ⟨fun p hp => by simp [h p hp], List.pairwise_of_forall_mem_list ?_⟩
        exact fun _ _ q hq _ => h q hq
      simp only [consumerBatch, List.forall₂_cons, honest_unreached, List.forall_mem_cons,
        List.pairwise_cons]
      simp [Honest]
      tauto

/-- In the C consumer every entry is passed on once and acknowledged by its result exactly when
the callback is there, and no entry with a subscription follows one that throws. In the Lua worker
no callback may raise. -/
theorem batch_honest_iff (batch : List (StreamEntry × Dispatch)) :
    (List.Forall₂ Honest batch (consumerBatch batch) ↔ (∀ p ∈ batch, p.2 ≠ .noCallback) ∧
        batch.Pairwise fun p q => p.2 = .failed → q.2 = .unsubscribed) ∧
      ((∀ p ∈ batch, p.2 = .returned ∨ p.2 = .failed) →
        (List.Forall₂ Honest batch (luaBatch batch) ↔ ∀ p ∈ batch, p.2 ≠ .failed)) := by
  refine ⟨consumerBatch_honest_iff batch, fun hends => ?_⟩
  rw [luaBatch, List.forall₂_map_right_iff, List.forall₂_same]
  refine forall₂_congr fun p hp => ?_
  rcases hends p hp with hd | hd <;> simp [Honest, hd]

def failingBatch : List (StreamEntry × Dispatch) :=
  [(⟨"1-0", [("payload", "a")]⟩, .failed), (⟨"2-0", [("payload", "b")]⟩, .returned)]

/-- A failure costs the C consumer the next entry, and the Lua worker the failed one. -/
theorem failing_batch_dishonest :
    consumerBatch failingBatch = [[.call "a"], []] ∧
      luaBatch failingBatch = [[.call "a", .xack "1-0"], [.call "b", .xack "2-0"]] ∧
      ¬ List.Forall₂ Honest failingBatch (consumerBatch failingBatch) ∧
      ¬ List.Forall₂ Honest failingBatch (luaBatch failingBatch) := by
  decide

/-! ## Workers -/

/-- No thread is dropped unjoined, no channel gets a second one, and the worker that `unsubscribe`
joins leaves its loop, whatever the server sends. -/
def StopsWorkers (conn : QueueConn) (call : QueueCall) : Prop :=
  (∀ next ∈ conn.step call, next.discarded = [] ∧ next.workers.Nodup) ∧
    match call with
    | .subscribe .. => True
    | .unsubscribe channel _ => channel ∈ conn.workers → ∀ replies : ℕ → ReadReply,
      ∃ n, (consumerLoop conn.running ((List.range n).map replies)).isSome

/-- The channel of the call has no worker yet. -/
def Workerless (conn : QueueConn) : QueueCall → Prop
  | .subscribe channel grouped _ => grouped = true → channel ∉ conn.workers
  | .unsubscribe channel _ => channel ∉ conn.workers

/-- A connection that has dropped no thread. -/
structure OpenConn (conn : QueueConn) : Prop where
  running : conn.running = true
  discarded : conn.discarded = []
  nodup : conn.workers.Nodup

lemma consumerLoop_running (replies : List ReadReply) : consumerLoop true replies = none := by
  induction replies with
  | nil => rfl
  | cons reply rest ih => cases reply <;> simp [consumerLoop, ih]

lemma OpenConn.stopsWorkers_iff {conn : QueueConn} (h : OpenConn conn) (call : QueueCall) :
    StopsWorkers conn call ↔ Workerless conn call := by
  obtain ⟨running, subs, workers, discarded⟩ := conn
  obtain ⟨rfl, rfl, hnodup⟩ := h
  cases call with
  | subscribe channel grouped spawned =>
    by_cases hworker : channel ∈ workers <;> cases grouped <;> cases spawned <;>
      simp_all [StopsWorkers, Workerless, QueueConn.step, QueueConn.subscribe]
  | unsubscribe channel replies =>
    by_cases hworker : channel ∈ workers <;>
      simp_all [StopsWorkers, Workerless, QueueConn.step, QueueConn.unsubscribe,
        consumerLoop_running]

lemma OpenConn.step {conn next : QueueConn} {call : QueueCall} (h : OpenConn conn)
    (hstops : StopsWorkers conn call) (hstep : conn.step call = some next) : OpenConn next := by
  obtain ⟨hdiscarded, hnodup⟩ := hstops.1 next hstep
  refine ⟨?_, hdiscarded, hnodup⟩
  have hrunning := h.running
  cases call with
  | subscribe channel grouped spawned =>
    cases hstep
    simp only [QueueConn.subscribe]
    split_ifs <;> exact hrunning
  | unsubscribe channel replies =>
    rw [QueueConn.step, QueueConn.unsubscribe] at hstep
    split_ifs at hstep
    · obtain ⟨_, -, rfl⟩ := Option.map_eq_some_iff.mp hstep
      exact hrunning
    · cases hstep
      exact hrunning

/-- A channel keeps its first worker for good: it must not be subscribed again, nor unsubscribed. -/
theorem workers_stopped_iff (calls : List QueueCall) :
    Admits QueueConn.step StopsWorkers {} calls ↔ Admits QueueConn.step Workerless {} calls :=
  admits_congr _ OpenConn (fun _ call h => h.stopsWorkers_iff call) (fun _ _ _ h => h.step)
    ⟨rfl, rfl, List.nodup_nil⟩

/-- The first `unsubscribe` waits forever; a second `subscribe` destroys the running thread. -/
theorem worker_never_stops :
    ¬ Admits QueueConn.step StopsWorkers {} [.subscribe "a" true true, .unsubscribe "a" []] ∧
      (run QueueConn.step {} [.subscribe "a" true true, .subscribe "a" true true]).map
        QueueConn.discarded = some ["a"] := by
  refine ⟨fun h => ?_, by decide⟩
  obtain ⟨n, hn⟩ := (h.2 _ rfl).1.2 (by decide) fun _ => .nil
  rw [show QueueConn.running _ = true from rfl, consumerLoop_running] at hn
  cases hn

end ShieldRuntime.Proofs
