import ShieldRuntime.Proofs.DispatchFrames

/-!
# Responses to call requests

The run records every termination of a handler and every `resume_caller`. Running Lua code is
attributed to the service of the innermost entry of the dispatch stack of its thread.
-/

namespace ShieldRuntime.Proofs
open Lua Library

section

variable {V : Type}

variable {co : Nat} {request : Request} {k : Coroutine} {c : CallState V}

abbrev Response (V : Type) := Nat × Bool × List V × Recipient

def responseOf (invocation : Nat) : CallEvent V → Option (Response V)
  | .resumeCaller (.handler n _) session ok values recipient =>
    if n = invocation then some (session, ok, values, recipient) else none
  | _ => none

/-- The invocations of `resume_caller` for an invocation of a handler. -/
def responses (log : List (CallEvent V)) (invocation : Nat) : List (Response V) :=
  log.filterMap (responseOf invocation)

/-- The one that waits for the answer to a request. -/
def ownCaller : Request → Recipient
  | .send => .nobody
  | .coroCall session => .coroutine (.call session)
  | .syncCall session => .syncCaller session

def Completion.answered : Completion V → Bool
  | .coroutine source (.returned _) => Source.answers source
  | _ => false

def Completion.returnedNormally : Completion V → Bool
  | .fallback (.returned _) => true
  | .coroutine _ (.returned _) => true
  | _ => false

/-- What a completed request may have sent: one answer or none. -/
def Settled (request : Request) (how : Completion V) (waiting : Bool)
    (sent : List (Response V)) : Prop :=
  if Completion.answered how then
    ∃ source values recipient, how = .coroutine source (.returned values) ∧
      sent = [(request.session, true, values, recipient)] ∧
      (recipient = ownCaller request ↔ waiting = true)
  else sent = []

/-- A handler that runs has not been answered, and one that has ended is not answered twice. -/
structure Ledger (c : CallState V) : Prop where
  live : ∀ co vm request n, c.handlerOf co = some (vm, request, n) →
    n < c.nextInvocation ∧ responses c.log n = [] ∧
      (request ≠ .send → request.session ≠ 0 ∧ c.handlerCallSession co = some request.session)
  distinct : ∀ co co' h h', c.handlerOf co = some h → c.handlerOf co' = some h' →
    h.2.2 = h'.2.2 → co = co'
  unused : ∀ n, c.nextInvocation ≤ n → responses c.log n = []
  settled : ∀ n request how waiting, .completed n request how waiting ∈ c.log →
    n < c.nextInvocation ∧ (∀ co h, c.handlerOf co = some h → h.2.2 ≠ n) ∧
      (request ≠ .send → Settled request how waiting (responses c.log n))

namespace Ledger

variable {c' : CallState V}

variable (h : Ledger c)
include h

lemma mono (hhandler : ∀ co k, c'.handlerOf co = some k → c.handlerOf co = some k)
    (htag : c'.handlerCallSession = c.handlerCallSession)
    (hnext : c'.nextInvocation = c.nextInvocation)
    (hresponses : ∀ n, responses c'.log n = responses c.log n)
    (hcompleted : ∀ n request how waiting, .completed n request how waiting ∈ c'.log →
      .completed n request how waiting ∈ c.log) : Ledger c' where
  live := by
    intro co vm request n hco
    rw [hnext, hresponses, htag]
    exact h.live co vm request n (hhandler co _ hco)
  distinct := by
    intro co co' k k' hk hk'
    exact h.distinct co co' k k' (hhandler co k hk) (hhandler co' k' hk')
  unused := by
    intro n hn
    rw [hnext] at hn
    rw [hresponses]
    exact h.unused n hn
  settled := by
    intro n request how waiting hmem
    obtain ⟨hn, hfree, hsettled⟩ := h.settled n request how waiting (hcompleted _ _ _ _ hmem)
    rw [hnext, hresponses]
    exact ⟨hn, fun co k hk => hfree co k (hhandler co k hk), hsettled⟩

lemma same (hsame : SameHandlers c c') : Ledger c' := by
  refine h.mono ?_ hsame.handlerCallSession hsame.nextInvocation ?_ ?_
  · intro co k hk
    rwa [hsame.handlerOf] at hk
  · intro n
    rcases hsame.log with hlog | ⟨cause, session, ok, values, recipient, hcause, hlog⟩
    · rw [hlog]
    have hnone : responseOf n (.resumeCaller cause session ok values recipient) = none := by
      cases cause with
      | handler m request => exact absurd rfl (hcause m request)
      | timeout | sendFailure => rfl
    simp only [responses, hlog, List.filterMap_cons, hnone]
  · intro n request how waiting hmem
    rcases hsame.log with hlog | ⟨cause, session, ok, values, recipient, -, hlog⟩
    · rwa [hlog] at hmem
    · simpa [hlog] using hmem

lemma start (vm : Instance) (hco : c.coroutines co = none)
    (hrequest : request ≠ .send → request.session ≠ 0) : Ledger (c.start co vm request) := by
  have hhandlers : ∀ {co' k}, (c.start co vm request).handlerOf co' = some k →
      (co' = co ∧ k = (vm, request, c.nextInvocation)) ∨ (co' ≠ co ∧ c.handlerOf co' = some k) := by
    intro co' k hk
    by_cases hne : co' = co
    · exact .inl ⟨hne, by simpa [CallState.handlerOf, CallState.start, hne, eq_comm] using hk⟩
    · exact .inr ⟨hne, by simpa [CallState.handlerOf, CallState.start, hne] using hk⟩
  have htag : ∀ co', co' ≠ co →
      (c.start co vm request).handlerCallSession co' = c.handlerCallSession co' := by
    intro co' hne
    simp only [CallState.start]
    split
    · exact Function.update_of_ne hne _ _
    · rfl
  have hnext : (c.start co vm request).nextInvocation = c.nextInvocation + 1 := rfl
  refine ⟨?_, ?_, ?_, ?_⟩
  · intro co' vm' request' n hco'
    rcases hhandlers hco' with ⟨rfl, heq⟩ | ⟨hne, hco'⟩
    · cases heq
      refine ⟨Nat.lt_succ_self _, h.unused _ le_rfl, ?_⟩
      intro hsend
      have hsession := hrequest hsend
      refine ⟨hsession, ?_⟩
      simp [CallState.start, hsession]
    · obtain ⟨hn, hresponses, hcall⟩ := h.live co' vm' request' n hco'
      rw [htag co' hne]
      exact ⟨Nat.lt_succ_of_lt hn, hresponses, hcall⟩
  · intro co₁ co₂ k₁ k₂ hk₁ hk₂ hn
    rcases hhandlers hk₁ with ⟨rfl, rfl⟩ | ⟨-, hold₁⟩ <;>
      rcases hhandlers hk₂ with ⟨rfl, rfl⟩ | ⟨-, hold₂⟩
    · rfl
    · exact absurd hn.symm (h.live co₂ _ _ _ hold₂).1.ne
    · exact absurd hn (h.live co₁ _ _ _ hold₁).1.ne
    · exact h.distinct co₁ co₂ k₁ k₂ hold₁ hold₂ hn
  · intro n hn
    exact h.unused n (by omega)
  · intro n request' how waiting hmem
    obtain ⟨hn, hfree, hsettled⟩ := h.settled n request' how waiting hmem
    refine ⟨Nat.lt_succ_of_lt hn, ?_, hsettled⟩
    intro co' k hk
    rcases hhandlers hk with ⟨rfl, rfl⟩ | ⟨-, hk⟩
    · exact hn.ne'
    · exact hfree co' k hk

lemma reject (request : Request) {how : Completion V}
    (hhow : ∀ source outcome, how ≠ .coroutine source outcome) : Ledger (c.reject request how) := by
  have hresponses : ∀ n, responses (c.reject request how).log n = responses c.log n := fun n => rfl
  have hnext : (c.reject request how).nextInvocation = c.nextInvocation + 1 := rfl
  refine ⟨?_, h.distinct, ?_, ?_⟩
  · intro co vm request' n hco
    obtain ⟨hn, hrest⟩ := h.live co vm request' n hco
    exact ⟨Nat.lt_succ_of_lt hn, hrest⟩
  · intro n hn
    exact h.unused n (by omega)
  · intro n request' how' waiting hmem
    rcases List.mem_cons.mp hmem with heq | hmem
    · cases heq
      refine ⟨Nat.lt_succ_self _, ?_, ?_⟩
      · intro co k hk
        exact (h.live co _ _ _ hk).1.ne
      · intro _
        have hanswered : Completion.answered how = false := by
          cases how with
          | coroutine source outcome => exact absurd rfl (hhow source outcome)
          | _ => rfl
        simp only [Settled, hanswered, Bool.false_eq_true, if_false]
        exact h.unused _ le_rfl
    · obtain ⟨hn, hfree, hsettled⟩ := h.settled n request' how' waiting hmem
      exact ⟨Nat.lt_succ_of_lt hn, hfree, hsettled⟩

lemma complete (how : Completion V) (waiting : Bool) (hk : c.coroutines co = some k)
    (hhandler : ∀ co', c'.handlerOf co' = if co' = co then none else c.handlerOf co')
    (htag : ∀ co', co' ≠ co → c'.handlerCallSession co' = c.handlerCallSession co')
    (hnext : c'.nextInvocation = c.nextInvocation)
    (hother : ∀ n, n ≠ k.invocation → responses c'.log n = responses c.log n)
    (hcompleted : ∀ n request' how' waiting', .completed n request' how' waiting' ∈ c'.log →
      (n = k.invocation ∧ request' = k.request ∧ how' = how ∧ waiting' = waiting) ∨
        .completed n request' how' waiting' ∈ c.log)
    (hsettled : k.request ≠ .send → Settled k.request how waiting (responses c'.log k.invocation)) :
    Ledger c' := by
  have hself : c.handlerOf co = some (k.vm, k.request, k.invocation) := by
    simp [CallState.handlerOf, hk]
  have hsub : ∀ co' k', c'.handlerOf co' = some k' → co' ≠ co ∧ c.handlerOf co' = some k' := by
    intro co' k' hk'
    rw [hhandler] at hk'
    split at hk'
    · cases hk'
    · rename_i hne
      exact ⟨hne, hk'⟩
  have hdiffer : ∀ co' k', c'.handlerOf co' = some k' → k'.2.2 ≠ k.invocation := by
    intro co' k' hk' heq
    obtain ⟨hne, hold⟩ := hsub co' k' hk'
    exact hne (h.distinct co' co k' _ hold hself heq)
  refine ⟨?_, ?_, ?_, ?_⟩
  · intro co' vm request n hco'
    obtain ⟨hne, hold⟩ := hsub co' _ hco'
    rw [hnext, hother n (hdiffer co' _ hco'), htag co' hne]
    exact h.live co' vm request n hold
  · intro co₁ co₂ k₁ k₂ hk₁ hk₂
    exact h.distinct co₁ co₂ k₁ k₂ (hsub co₁ k₁ hk₁).2 (hsub co₂ k₂ hk₂).2
  · intro n hn
    rw [hnext] at hn
    have hlt := (h.live co _ _ _ hself).1
    rw [hother n (by omega)]
    exact h.unused n hn
  · intro n request' how' waiting' hmem
    rw [hnext]
    rcases hcompleted n request' how' waiting' hmem with ⟨rfl, rfl, rfl, rfl⟩ | hmem
    · exact ⟨(h.live co _ _ _ hself).1, hdiffer, hsettled⟩
    obtain ⟨hn, hfree, hold⟩ := h.settled n request' how' waiting' hmem
    rw [hother n (hfree co _ hself).symm]
    exact ⟨hn, fun co' k' hk' => hfree co' k' (hsub co' k' hk').2, hold⟩

end Ledger

variable {s : State V}

lemma recipientOf_eq_ownCaller (hcall : request ≠ .send) :
    c.recipientOf request.session = ownCaller request ↔ c.callerWaiting request = true := by
  cases request with
  | send => exact absurd rfl hcall
  | syncCall session =>
    change c.recipientOf session = .syncCaller session ↔ c.pendingSyncCalls session = true
    unfold CallState.recipientOf
    by_cases hsync : c.pendingSyncCalls session = true
    · simp [hsync]
    rw [if_neg hsync]
    refine iff_of_false ?_ hsync
    split
    · simp
    · split <;> simp
  | coroCall session =>
    change c.recipientOf session = .coroutine (.call session) ↔ _
    unfold CallState.recipientOf CallState.callerWaiting
    by_cases hsync : c.pendingSyncCalls session = true
    · simp [hsync]
    cases hpending : c.pendingCalls session with
    | none => simp [hsync, hpending]
    | some pending =>
      cases hk : c.coroutines pending.callerCo with
      | none => simp [hsync, hpending, CallState.resumable, CallState.statusOf, hk]
      | some k =>
        cases hstatus : k.status <;>
          simp [hsync, hpending, CallState.resumable, CallState.statusOf, hk, hstatus]

lemma recipientOf_ended (source : Source) (outcome : Outcome V)
    (session : Nat) (hk : c.coroutines co = some k) (hstatus : k.status = .running) :
    (ended c co k source outcome).recipientOf session = c.recipientOf session := by
  have hresumable : ∀ co', (ended c co k source outcome).resumable co' = c.resumable co' := by
    intro co'
    by_cases hco : co' = co
    · subst hco
      simp [CallState.resumable, ended, hk, hstatus]
    · simp [CallState.resumable, ended, hco]
  simp only [CallState.recipientOf, hresumable]
  rfl

namespace Ledger

lemma finish (h : Ledger c) (source : Source) (outcome : Outcome V)
    (hk : c.coroutines co = some k) (hstatus : k.status = .running) :
    Ledger (c.finish co source outcome).1 := by
  have hself : c.handlerOf co = some (k.vm, k.request, k.invocation) := by
    simp [CallState.handlerOf, hk]
  obtain ⟨-, hnone, hcall⟩ := h.live co _ _ _ hself
  obtain ⟨hhandler, htags, hnext⟩ := finish_handlers hk source outcome
  rcases finish_cases hk source outcome with
    ⟨values, cause, session, rfl, hcompletes, hfinish⟩ | ⟨hnot, hfinish⟩
  · obtain ⟨rfl, htag, hsource⟩ := completes_eq_some hk hcompletes
    have hlog := CallState.resumeCaller_log (untagged (ended c co k source (.returned values)) co)
      (.handler k.invocation k.request) session true values
    have hrecipient := recipientOf_ended source (.returned values) session hk hstatus
    rw [← hfinish] at hlog
    refine h.complete (.coroutine source (.returned values)) (c.callerWaiting k.request) hk hhandler
      htags hnext ?_ ?_ ?_
    · intro n hn
      rw [responses, hlog, List.filterMap_cons]
      simp only [responseOf, if_neg hn.symm]
      rfl
    · intro n request' how' waiting' hmem
      rw [hlog] at hmem
      simpa [untagged, ended] using hmem
    · intro hsend
      obtain ⟨-, htag'⟩ := hcall hsend
      have hsession : session = k.request.session := by
        rw [htag] at htag'
        exact Option.some.inj htag'
      simp only [Settled, Completion.answered, hsource, if_true]
      refine ⟨source, values, c.recipientOf session, rfl, ?_, ?_⟩
      · have hold : responses (untagged (ended c co k source (.returned values)) co).log
            k.invocation = [] := hnone
        have hsame : (untagged (ended c co k source (.returned values)) co).recipientOf session =
            c.recipientOf session := hrecipient
        rw [responses, hlog, List.filterMap_cons, hsame]
        simp only [responseOf, if_true, hsession]
        rw [← responses, hold]
      · rw [hsession]
        exact recipientOf_eq_ownCaller hsend
  · refine h.complete (.coroutine source outcome) (c.callerWaiting k.request) hk hhandler htags hnext
      ?_ ?_ ?_
    · intro n _
      rw [hfinish]
      rfl
    · intro n request' how' waiting' hmem
      rw [hfinish] at hmem
      simpa [ended] using hmem
    · intro hsend
      obtain ⟨hsession, htag⟩ := hcall hsend
      have hanswered : Completion.answered (.coroutine source outcome : Completion V) = false := by
        rcases hnot with rfl | hcompletes
        · rfl
        cases outcome with
        | raised => rfl
        | returned => exact completes_eq_none hk htag hsession hcompletes
      simp only [Settled, hanswered, Bool.false_eq_true, if_false]
      rw [hfinish]
      exact hnone

end Ledger

lemma ledger_init : Ledger ({} : CallState V) := by
  constructor <;> simp [CallState.handlerOf, responses]

theorem ledger_handlerMove {l : Label V} (h : Ledger s.calls) (hmove : HandlerMove s l c) :
    Ledger c := by
  cases hmove with
  | same c hsame => exact h.same hsame
  | start i co vm request hl hco hrequest => exact h.start vm hco hrequest
  | reject request how hhow => exact h.reject request hhow
  | finish co k source outcome hk hstatus => exact h.finish source outcome hk hstatus
  | collect co c hhandler htag hnext hlog =>
    refine h.mono ?_ htag hnext (fun _ => by rw [hlog]) (fun _ _ _ _ hmem => hlog ▸ hmem)
    intro co' k hk
    rw [hhandler] at hk
    split at hk
    · cases hk
    · exact hk

lemma run_ledger {labels : List (Label V)} (hrun : run State.step {} labels = some s) :
    Ledger s.calls :=
  reachable_invariant State.step
    (fun _ _ _ h hstep => ledger_handlerMove h (handlerMove (step_moved hstep).calls)) ledger_init hrun

/-- The callee invokes `resume_caller` once for a request, with the right status, exactly if the
handler returned and was resumed last by the dispatch or by the sleep timer. -/
theorem call_request_answered_iff {labels : List (Label V)} {s : State V}
    (hrun : run State.step {} labels = some s) {n : Nat} {request : Request}
    {how : Completion V} {waiting : Bool}
    (hcompleted : .completed n request how waiting ∈ s.calls.log) (hcall : request ≠ .send) :
    (responses s.calls.log n).map (fun response => (response.1, response.2.1)) =
        [(request.session, Completion.returnedNormally how)] ↔
      Completion.answered how = true := by
  have hsettled := ((run_ledger hrun).settled n request how waiting hcompleted).2.2 hcall
  unfold Settled at hsettled
  split at hsettled
  · rename_i hanswered
    obtain ⟨source, values, recipient, rfl, hsent, -⟩ := hsettled
    rw [hsent]
    exact iff_of_true rfl hanswered
  · rename_i hanswered
    rw [hsettled]
    exact iff_of_false (by simp) hanswered

def spawning (name : ServiceId) : List (Label Nat) :=
  [.command 0 (.spawn name), .cont (.external 0), .api (.external 0) (.ret []),
    .cont (.external 0), .cont (.external 0)]

def reached (labels : List (Label Nat)) : State Nat := (run State.step {} labels).getD {}

def echoRun : List (Label Nat) :=
  spawning "echo" ++ [.command 0 (.call "echo" (some [7])), .receive 0 (.function (some 3)),
    .api (.actor 0) (.ret [7])]

theorem call_request_answered_echo :
    (responses (reached echoRun).calls.log 0).map (fun response => (response.1, response.2.1)) =
      [(1, true)] := by
  have hrun : run State.step {} echoRun = some (reached echoRun) := rfl
  have hcompleted : .completed 0 (.syncCall 1) (.coroutine (.dispatch "echo") (.returned [7])) true ∈
      (reached echoRun).calls.log := by decide
  exact (call_request_answered_iff hrun hcompleted (by decide)).mpr rfl

def missingMethodRun : List (Label Nat) :=
  spawning "echo" ++ [.command 0 (.call "echo" (some [7])), .receive 0 .missing]

/-- A call of a method that does not exist is never answered by the callee. -/
theorem missing_method_unanswered :
    run State.step {} missingMethodRun = some (reached missingMethodRun) ∧
      .completed 0 (.syncCall 1) .methodMissing true ∈ (reached missingMethodRun).calls.log ∧
      responses (reached missingMethodRun).calls.log 0 = [] :=
  ⟨rfl, by decide, rfl⟩

/-- Those that reached the caller. -/
def deliveries (log : List (CallEvent V)) (n : Nat) (request : Request) : List (Response V) :=
  (responses log n).filter fun response => response.2.2.2 = ownCaller request

/-- The values that a handler coroutine returns reach its own caller once exactly if it was resumed
last by the dispatch or by the sleep timer and the caller was still waiting. -/
theorem returned_values_delivered_iff {labels : List (Label V)} {s : State V}
    (hrun : run State.step {} labels = some s) {n : Nat} {request : Request} {source : Source}
    {values : List V} {waiting : Bool}
    (hcompleted : .completed n request (.coroutine source (.returned values)) waiting ∈ s.calls.log)
    (hcall : request ≠ .send) :
    deliveries s.calls.log n request = [(request.session, true, values, ownCaller request)] ↔
      Source.answers source = true ∧ waiting = true := by
  have hsettled := ((run_ledger hrun).settled n request _ waiting hcompleted).2.2 hcall
  unfold Settled at hsettled
  unfold deliveries
  split at hsettled
  · rename_i hanswered
    obtain ⟨source', values', recipient, heq, hsent, hrecipient⟩ := hsettled
    cases heq
    have hsource : Source.answers source = true := hanswered
    rw [hsent, hsource, ← hrecipient]
    by_cases hown : recipient = ownCaller request <;> simp [hown]
  · rename_i hanswered
    have hsource : ¬ Source.answers source = true := hanswered
    rw [hsettled]
    simp [hsource]

theorem returned_values_delivered_echo :
    deliveries (reached echoRun).calls.log 0 (.syncCall 1) = [(1, true, [7], .syncCaller 1)] := by
  have hrun : run State.step {} echoRun = some (reached echoRun) := rfl
  have hcompleted : .completed 0 (.syncCall 1) (.coroutine (.dispatch "echo") (.returned [7])) true ∈
      (reached echoRun).calls.log := by decide
  exact (returned_values_delivered_iff hrun hcompleted (by decide)).mpr ⟨rfl, rfl⟩

def nestedCallRun : List (Label Nat) :=
  spawning "front" ++ spawning "back" ++
    [.command 0 (.call "front" (some [])), .receive 0 .missing, .cont (.actor 0), .cont (.actor 0),
      .giveUp (.external 0),
      .command 0 (.call "front" (some [])), .receive 0 (.function (some 3)),
      .coroutine (.actor 0) (.call "back"), .coroutine (.actor 0) (.post []),
      .coroutine (.actor 0) .yield, .receive 1 (.function (some 4)),
      .api (.actor 1) (.ret [9]), .api (.actor 1) (.ret [9])]

/-- The caller is left waiting, although its handler has returned. -/
theorem nested_call_result_lost :
    run State.step {} nestedCallRun = some (reached nestedCallRun) ∧
      .completed 1 (.syncCall 2) (.coroutine .response (.returned [9])) true ∈
        (reached nestedCallRun).calls.log ∧
      deliveries (reached nestedCallRun).calls.log 1 (.syncCall 2) = [] ∧
      (reached nestedCallRun).calls.pendingSyncCalls 2 = true :=
  ⟨rfl, by decide, rfl, rfl⟩

end

variable {V : Type}

def sleeps (s : State V) : Label V → Option Instance
  | .coroutine t .sleep =>
    match s.stack t with
    | .lua vm _ :: _ => some vm
    | _ => none
  | _ => none

def actingService (s : State V) (t : Thread) : Option ServiceId :=
  match s.stack t with
  | .lua vm _ :: _ => some (s.actors.serviceOf vm)
  | _ => none

/-- Coroutines are resumed in dispatches of their own service, and sleep while it has an actor. -/
def InScope (s : State V) (l : Label V) : Prop :=
  (∀ t ∈ actingThread l, ∀ vm ∈ resumes s l,
      actingService s t = some (s.actors.serviceOf vm)) ∧
    ∀ vm ∈ sleeps s l, (s.registry.serviceActors (s.actors.serviceOf vm)).isSome = true

instance (s : State V) (l : Label V) : Decidable (InScope s l) :=
  inferInstanceAs (Decidable (_ ∧ _))

/-- API calls were attributed to the service of the VM that made them. -/
structure Attributed (s : State V) : Prop where
  attributed : ∀ vm id, .attributed vm id ∈ s.trace → Named s.actors vm id
  slept : ∀ co scheduled, .slept co scheduled ∈ s.trace → scheduled = true

variable {s : State V} {t : Thread} {vm : Instance} {entry : Entry}

lemma Framed.serviceOf_top (h : Framed false s) {rest : List Frame}
    (hstack : .lua vm entry :: rest <:+ s.stack t) : Named s.actors vm (currentServiceId rest) := by
  obtain ⟨name, hname, -, hfits⟩ := h.frames t _ rest hstack
  rcases hfits with heq | ⟨hbare, -⟩
  · exact heq ▸ hname
  · cases hbare

lemma Framed.named_executes (h : Framed false s) {id : ServiceId} (hruns : Executes s vm entry id) :
    Named s.actors vm id := by
  obtain ⟨t, rest, hstack, rfl⟩ := hruns
  have hsuffix : .lua vm entry :: rest <:+ s.stack t := hstack ▸ List.suffix_refl _
  exact h.serviceOf_top hsuffix

lemma Framed.serviceId_acting (h : Framed false s) {name : ServiceId}
    (hacting : actingService s t = some name) : currentServiceId (s.stack t) = name := by
  unfold actingService at hacting
  split at hacting
  · rename_i vm entry rest hstack
    cases hacting
    have hname : Named s.actors vm (currentServiceId rest) :=
      h.named_executes ⟨t, rest, hstack, rfl⟩
    rw [hstack, hname.serviceOf]
    rfl
  · cases hacting

lemma attributed_moved {next : State V} {l : Label V} (hframed : Framed false s) (h : Attributed s)
    (hgood : InScope s l) (hmoved : Moved s l next) : Attributed next := by
  constructor
  · intro vm id hmem
    rcases hmoved.trace _ hmem with hold | ⟨entry, hruns⟩
    · exact hmoved.named _ _ (h.attributed vm id hold)
    · exact hmoved.named _ _ (hframed.named_executes hruns)
  · intro co scheduled hmem
    rcases hmoved.trace _ hmem with hold | ⟨t, vm, source, rest, rfl, hstack, rfl⟩
    · exact h.slept co scheduled hold
    have hname : Named s.actors vm (currentServiceId rest) :=
      hframed.named_executes ⟨t, rest, hstack, rfl⟩
    have hsleeps : sleeps s (.coroutine t .sleep) = some vm := by simp only [sleeps, hstack]
    have hactor := hgood.2 vm hsleeps
    rw [hname.serviceOf] at hactor
    rwa [State.actorOf, if_neg hname.nonempty]

def selfCallRun : List (Label Nat) :=
  spawning "loop" ++
    [.command 0 (.send "loop" (some [])), .receive 0 (.function (some 3)),
      .coroutine (.actor 0) (.call "loop"), .coroutine (.actor 0) (.post []),
      .coroutine (.actor 0) .yield, .cont (.actor 0), .cont (.actor 0),
      .receive 0 (.function (some 4)), .api (.actor 0) (.ret [9]), .coroutine (.actor 0) .sleep]

def secondSleepRun : List (Label Nat) :=
  spawning "loop" ++
    [.command 0 (.send "loop" (some [])), .receive 0 (.function (some 3)),
      .coroutine (.actor 0) .sleep, .coroutine (.actor 0) .yield, .cont (.actor 0),
      .cont (.actor 0), .tick 1, .receive 0 .missing, .coroutine (.actor 0) .sleep]

end ShieldRuntime.Proofs
