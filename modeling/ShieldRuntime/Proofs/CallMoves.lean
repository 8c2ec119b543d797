import ShieldRuntime.Lua.Step

/-!
# What a step does to the call tables

Every step changes the call tables in one of twelve ways.
-/

namespace ShieldRuntime.Proofs

open Lua

variable {V : Type}

def Source.answers : Source → Bool
  | .dispatch _ => true
  | .sleepTimer => true
  | .response => false
  | .timeout => false

def completes (c : CallState V) (co : Nat) (source : Source) : Option (Cause × Nat) :=
  match c.coroutines co, c.handlerCallSession co with
  | some k, some session =>
    match source with
    | .dispatch _ =>
      if k.request.session ≠ 0 then some (.handler k.invocation k.request, session) else none
    | .sleepTimer => some (.handler k.invocation k.request, session)
    | _ => none
  | _, _ => none

variable {c c' : CallState V} {co session : Nat} {k : Coroutine} {source : Source} {cause : Cause}
  {s : State V} {l : Label V}

lemma completes_eq_some (hk : c.coroutines co = some k)
    (h : completes c co source = some (cause, session)) :
    cause = .handler k.invocation k.request ∧ c.handlerCallSession co = some session ∧
      Source.answers source = true := by
  revert h
  fun_cases completes c co source <;> rintro ⟨⟩ <;> cases hk.symm.trans ‹_› <;>
    exact ⟨rfl, ‹_›, rfl⟩

lemma completes_eq_none (hk : c.coroutines co = some k)
    (htag : c.handlerCallSession co = some session) (hsession : k.request.session ≠ 0)
    (h : completes c co source = none) : Source.answers source = false := by
  cases source with
  | dispatch => simp [completes, hk, htag, hsession] at h
  | sleepTimer => simp [completes, hk, htag] at h
  | response | timeout => rfl

def ended (c : CallState V) (co : Nat) (k : Coroutine) (source : Source) (outcome : Outcome V) :
    CallState V :=
  { c with
    coroutines := Function.update c.coroutines co none
    log := .completed k.invocation k.request (.coroutine source outcome)
      (c.callerWaiting k.request) :: c.log }

def untagged (c : CallState V) (co : Nat) : CallState V :=
  { c with handlerCallSession := Function.update c.handlerCallSession co none }

lemma finish_eq (hk : c.coroutines co = some k) (source : Source) (outcome : Outcome V) :
    c.finish co source outcome =
      match outcome, completes c co source with
      | .returned values, some (cause, session) =>
        (untagged (ended c co k source outcome) co).resumeCaller cause session true values
      | _, _ => (ended c co k source outcome, none) := by
  cases outcome with
  | raised => cases source <;> simp [CallState.finish, hk, ended]
  | returned =>
    cases source with
    | dispatch =>
      by_cases hsession : k.request.session = 0 <;> cases htag : c.handlerCallSession co <;>
        simp [CallState.finish, hk, hsession, completes, htag, CallState.onHandlerCompleted, ended,
          untagged]
    | sleepTimer | response | timeout =>
      cases htag : c.handlerCallSession co <;>
        simp [CallState.finish, hk, completes, htag, CallState.onHandlerCompleted, ended, untagged]

lemma finish_cases (hk : c.coroutines co = some k) (source : Source) (outcome : Outcome V) :
    (∃ values cause session, outcome = .returned values ∧
        completes c co source = some (cause, session) ∧
        c.finish co source (.returned values) =
          (untagged (ended c co k source (.returned values)) co).resumeCaller cause session true
            values) ∨
      (outcome = .raised ∨ completes c co source = none) ∧
        c.finish co source outcome = (ended c co k source outcome, none) := by
  rw [finish_eq hk]
  cases outcome with
  | raised => exact .inr ⟨.inl rfl, rfl⟩
  | returned values =>
    cases hcompletes : completes c co source with
    | none => exact .inr ⟨.inr rfl, rfl⟩
    | some answer =>
      exact .inl ⟨values, answer.1, answer.2, rfl, rfl, by rw [finish_eq hk, hcompletes]⟩

/-- What holds when a coroutine has ended holds after `finish` if an answer to the caller keeps it. -/
lemma finish_rule {P : CallState V → Prop} (source : Source) (outcome : Outcome V)
    (hco : c.statusOf co = some .running) (hended : ∀ k outcome, P (ended c co k source outcome))
    (hanswer : ∀ d cause session values, P d →
      P ((untagged d co).resumeCaller cause session true values).1) :
    P (c.finish co source outcome).1 := by
  obtain ⟨k, hk, -⟩ := Option.map_eq_some_iff.mp hco
  rcases finish_cases hk source outcome with
    ⟨values, cause, session, rfl, -, hfinish⟩ | ⟨-, hfinish⟩
  · rw [hfinish]
    exact hanswer _ _ _ _ (hended k _)
  · rw [hfinish]
    exact hended k _

lemma handlerOf_ended (c : CallState V) (co : Nat) (k : Coroutine) (source : Source)
    (outcome : Outcome V) (co' : Nat) :
    (ended c co k source outcome).handlerOf co' = if co' = co then none else c.handlerOf co' := by
  by_cases hne : co' = co <;> simp [CallState.handlerOf, ended, hne]

lemma finish_handlers (hk : c.coroutines co = some k) (source : Source) (outcome : Outcome V) :
    (∀ co', (c.finish co source outcome).1.handlerOf co' =
        if co' = co then none else c.handlerOf co') ∧
      (∀ co', co' ≠ co →
        (c.finish co source outcome).1.handlerCallSession co' = c.handlerCallSession co') ∧
      (c.finish co source outcome).1.nextInvocation = c.nextInvocation := by
  rcases finish_cases hk source outcome with
    ⟨values, cause, session, rfl, -, hfinish⟩ | ⟨-, hfinish⟩
  · simp only [hfinish, CallState.handlerOf_resumeCaller, CallState.resumeCaller_kept]
    refine ⟨handlerOf_ended c co k source (.returned values), ?_, rfl⟩
    intro co' hne
    exact Function.update_of_ne hne _ _
  · rw [hfinish]
    exact ⟨handlerOf_ended c co k source outcome, fun _ _ => rfl, rfl⟩

def answers (s : State V) : Label V → Option (Cause × Nat)
  | .api t (.ret _) =>
    match s.stack t with
    | .lua _ (.handler co source) :: _ => completes s.calls co source
    | _ => none
  | .coroutine t (.post _) =>
    match s.stack t with
    | .lua _ (.handler co _) :: _ =>
      match s.calls.statusOf co with
      | some (.registered session target) =>
        if (s.registry.targetActor target).isNone then some (.sendFailure session, session)
        else none
      | _ => none
    | _ => none
  | .receive i _ =>
    match s.actors.mailbox i with
    | .callTimeout session :: _ => some (.timeout session, session)
    | _ => none
  | _ => none

lemma answers_handler {s : State V} {l : Label V} {n session : Nat} {request : Request}
    (h : answers s l = some (.handler n request, session)) :
    ∃ co source, completes s.calls co source = some (.handler n request, session) := by
  revert h
  fun_cases answers s l
  case case1 =>
    intro h
    exact ⟨_, _, h⟩
  all_goals rintro ⟨⟩

/-- The coroutine that the step ends without a look at its session. -/
def unanswered (s : State V) : Label V → Option Nat
  | .api t (.ret _) =>
    match s.stack t with
    | .lua _ (.handler co source) :: _ =>
      if (completes s.calls co source).isNone then some co else none
    | _ => none
  | .api t (.raise _) =>
    match s.stack t with
    | .lua _ (.handler co _) :: _ => some co
    | _ => none
  | .collect co => some co
  | _ => none

def startsAt : Label V → Option Nat
  | .receive _ (.function co) => co
  | _ => none

inductive Advances : CoStatus → CoStatus → Prop where
  | post (session : Nat) (target : ServiceId) :
    Advances (.registered session target) (.posted session)
  | yieldCall (session : Nat) : Advances (.posted session) (.suspended (.call session))
  | yieldSleep : Advances .armed (.suspended .sleep)

/-- Some thread runs `vm` under the identity `id`. -/
def Executes (s : State V) (vm : Instance) (entry : Entry) (id : ServiceId) : Prop :=
  ∃ t rest, s.stack t = .lua vm entry :: rest ∧ id = currentServiceId rest

def runsAs (s : State V) (t : Thread) : Option (Instance × ServiceId) :=
  match s.stack t with
  | .lua vm _ :: rest => some (vm, currentServiceId rest)
  | _ => none

def makesTimer (s : State V) : Label V → Option (Instance × ServiceId)
  | .api t (.timer _) | .coroutine t .sleep => runsAs s t
  | _ => none

def makesCall (s : State V) : Label V → Option (Instance × ServiceId)
  | .coroutine t (.call _) => runsAs s t
  | _ => none

def makesTask (s : State V) : Label V → Option (Instance × ServiceId)
  | .api t .fork => runsAs s t
  | _ => none

/-- Nothing is called or answered; timers and timeouts may go. -/
structure Quiet (c c' : CallState V) : Prop where
  coroutines : c'.coroutines = c.coroutines
  handlerCallSession : c'.handlerCallSession = c.handlerCallSession
  pendingCalls : c'.pendingCalls = c.pendingCalls
  nextCallSession : c'.nextCallSession = c.nextCallSession
  callTimeouts : ∀ n a, c'.callTimeouts n = some a → c.callTimeouts n = some a
  timers : ∀ timer ∈ c'.timers, timer ∈ c.timers
  nextTimerId : c'.nextTimerId = c.nextTimerId
  nextInvocation : c'.nextInvocation = c.nextInvocation
  log : c'.log = c.log

/-- Every way a step can change the call tables. -/
inductive CallMove (s : State V) (l : Label V) : CallState V → Prop where
  | quiet (c : CallState V) (h : Quiet s.calls c) : CallMove s l c
  | start (i) (co : Nat) (vm request) (hl : startsAt l = some co)
    (hco : s.calls.coroutines co = none) (hrequest : request ≠ .send → request.session ≠ 0)
    (hservice : s.registry.services (s.actors.serviceOf i) = some vm) :
    CallMove s l (s.calls.start co vm request)
  | reject (request how) (hhow : ∀ source outcome, how ≠ .coroutine source outcome) :
    CallMove s l (s.calls.reject request how)
  | addTimer (vm entry id target repeating) (hruns : Executes s vm entry id)
    (hmakes : makesTimer s l = some (vm, id)) (htarget : s.actorOf id = some target) :
    CallMove s l (s.calls.addTimer id target (.lua vm) repeating)
  | suspend (vm) (co : Nat) (source : Source) (id target)
    (hruns : Executes s vm (.handler co source) id) (hmakes : makesCall s l = some (vm, id))
    (hco : s.calls.statusOf co = some .running) :
    CallMove s l (s.calls.suspendForCall co id target (s.actorOf id))
  | arm (vm) (co : Nat) (source : Source) (id) (hruns : Executes s vm (.handler co source) id)
    (hmakes : makesTimer s l = some (vm, id)) (hco : s.calls.statusOf co = some .running) :
    CallMove s l (s.calls.armSleep co id (s.actorOf id))
  | advance (co : Nat) (before after) (hco : s.calls.statusOf co = some before)
    (hadvance : Advances before after) : CallMove s l (s.calls.setStatus co after)
  | sendFailure (co session : Nat) (target)
    (hco : s.calls.statusOf co = some (.registered session target))
    (hanswers : answers s l = some (.sendFailure session, session)) :
    CallMove s l
      ((s.calls.setStatus co .running).resumeCaller (.sendFailure session) session false []).1
  | timeout (session : Nat) (hanswers : answers s l = some (.timeout session, session)) :
    CallMove s l ({ s.calls with
      callTimeouts := Function.update s.calls.callTimeouts session none }.resumeCaller
        (.timeout session) session false []).1
  | finish (co : Nat) (source : Source) (outcome) (hco : s.calls.statusOf co = some .running)
    (hanswers : ∀ values, outcome = .returned values → answers s l = completes s.calls co source)
    (hunanswered : outcome = .raised ∨ completes s.calls co source = none →
      unanswered s l = some co) : CallMove s l (s.calls.finish co source outcome).1
  | wake (timer) (co : Nat) (htimer : timer ∈ s.calls.timers)
    (hcallback : timer.callback = .resume co) :
    CallMove s l ((if timer.repeating then s.calls
      else s.calls.removeTimer timer.id).resumeSleeper co).1
  | collect (co : Nat) (wait) (hl : l = .collect co)
    (hco : s.calls.statusOf co = some (.suspended wait)) :
    CallMove s l
      { s.calls with coroutines := Function.update s.calls.coroutines co none }

namespace Quiet

lemma refl (c : CallState V) : Quiet c c :=
  ⟨rfl, rfl, rfl, rfl, fun _ _ h => h, fun _ h => h, rfl, rfl, rfl⟩

lemma filterTimers (c : CallState V) (p : ActorTimer → Bool) :
    Quiet c { c with timers := c.timers.filter p } :=
  { refl c with timers := fun _ h => List.mem_of_mem_filter h }

lemma cancelTimeouts (c : CallState V) (p : Nat → Bool) :
    Quiet c { c with callTimeouts := fun n => if p n then none else c.callTimeouts n } := by
  refine { refl c with callTimeouts := ?_ }
  intro n a h
  dsimp only at h
  split at h
  · cases h
  · exact h

lemma cancelTimeout (c : CallState V) (session : Nat) :
    Quiet c { c with callTimeouts := Function.update c.callTimeouts session none } := by
  refine { refl c with callTimeouts := ?_ }
  intro n a h
  by_cases hn : n = session
  · simp [hn] at h
  · simpa [hn] using h

end Quiet

/-- No handler starts or ends. -/
structure SameHandlers (c c' : CallState V) : Prop where
  handlerOf : c'.handlerOf = c.handlerOf
  handlerCallSession : c'.handlerCallSession = c.handlerCallSession
  nextInvocation : c'.nextInvocation = c.nextInvocation
  log : c'.log = c.log ∨ ∃ cause session ok values recipient,
    (∀ n request, cause ≠ .handler n request) ∧
      c'.log = .resumeCaller cause session ok values recipient :: c.log

inductive HandlerMove (s : State V) (l : Label V) : CallState V → Prop where
  | same (c : CallState V) (h : SameHandlers s.calls c) : HandlerMove s l c
  | start (i) (co : Nat) (vm request) (hl : startsAt l = some co)
    (hco : s.calls.coroutines co = none) (hrequest : request ≠ .send → request.session ≠ 0)
    (hservice : s.registry.services (s.actors.serviceOf i) = some vm) :
    HandlerMove s l (s.calls.start co vm request)
  | reject (request how) (hhow : ∀ source outcome, how ≠ .coroutine source outcome) :
    HandlerMove s l (s.calls.reject request how)
  | finish (co : Nat) (k : Coroutine) (source : Source) (outcome)
    (hk : s.calls.coroutines co = some k) (hstatus : k.status = .running)
    (hunanswered : outcome = .raised ∨ completes s.calls co source = none →
      unanswered s l = some co) : HandlerMove s l (s.calls.finish co source outcome).1
  | collect (co : Nat) (c : CallState V)
    (hhandler : ∀ co', c.handlerOf co' = if co' = co then none else s.calls.handlerOf co')
    (htag : c.handlerCallSession = s.calls.handlerCallSession)
    (hnext : c.nextInvocation = s.calls.nextInvocation) (hlog : c.log = s.calls.log)
    (hunanswered : unanswered s l = some co) : HandlerMove s l c

lemma SameHandlers.resumeCaller (h : SameHandlers c c') (hlog : c'.log = c.log)
    (hcause : ∀ n request, cause ≠ .handler n request) (session : Nat) (ok : Bool)
    (values : List V) : SameHandlers c (c'.resumeCaller cause session ok values).1 := by
  refine ⟨?_, ?_, ?_, .inr ⟨cause, session, ok, values, c'.recipientOf session, hcause, ?_⟩⟩
  · rw [CallState.handlerOf_resumeCaller, h.handlerOf]
  · simp only [CallState.resumeCaller_kept, h.handlerCallSession]
  · simp only [CallState.resumeCaller_kept, h.nextInvocation]
  · rw [CallState.resumeCaller_log, hlog]

lemma wake_fst (c : CallState V) (timer : ActorTimer) (co : Nat) : ∃ coroutines timers,
    ((if timer.repeating then c else c.removeTimer timer.id).resumeSleeper co).1 =
        { c with coroutines, timers } ∧
      (∀ other ∈ timers, other ∈ c.timers) ∧
      ({ c with coroutines, timers } : CallState V).handlerOf = c.handlerOf := by
  have hresumed : ∀ c : CallState V, ∃ coroutines,
      (c.resumeSleeper co).1 = { c with coroutines } ∧
        ({ c with coroutines } : CallState V).handlerOf = c.handlerOf := by
    intro c
    unfold CallState.resumeSleeper
    split
    · exact ⟨_, rfl, CallState.handlerOf_setStatus c co .running⟩
    · exact ⟨c.coroutines, rfl, rfl⟩
  split
  · obtain ⟨coroutines, heq, hhandler⟩ := hresumed c
    exact ⟨coroutines, c.timers, heq, fun _ h => h, hhandler⟩
  · obtain ⟨coroutines, heq, hhandler⟩ := hresumed (c.removeTimer timer.id)
    exact ⟨coroutines, _, heq, fun _ h => List.mem_of_mem_filter h, hhandler⟩

theorem handlerMove (h : CallMove s l c) : HandlerMove s l c := by
  have hstatus : ∀ co status, SameHandlers s.calls (s.calls.setStatus co status) :=
    fun co status => ⟨CallState.handlerOf_setStatus s.calls co status, rfl, rfl, .inl rfl⟩
  cases h with
  | quiet c hquiet =>
    apply HandlerMove.same
    refine ⟨?_, hquiet.handlerCallSession, hquiet.nextInvocation, .inl hquiet.log⟩
    unfold CallState.handlerOf
    rw [hquiet.coroutines]
  | start i co vm request hl hco hrequest hservice =>
    exact .start i co vm request hl hco hrequest hservice
  | reject request how hhow => exact .reject request how hhow
  | addTimer => exact .same _ ⟨rfl, rfl, rfl, .inl rfl⟩
  | suspend vm co =>
    exact .same _ ⟨CallState.handlerOf_setStatus s.calls co _, rfl, rfl, .inl rfl⟩
  | arm vm co source id =>
    cases s.actorOf id with
    | none => exact .same _ (hstatus co .armed)
    | some => exact .same _ ⟨CallState.handlerOf_setStatus s.calls co _, rfl, rfl, .inl rfl⟩
  | advance co before after => exact .same _ (hstatus co after)
  | sendFailure co =>
    exact .same _ ((hstatus co .running).resumeCaller rfl (by simp) _ _ _)
  | timeout session =>
    have hcancelled : SameHandlers s.calls { s.calls with
        callTimeouts := Function.update s.calls.callTimeouts session none } :=
      ⟨rfl, rfl, rfl, .inl rfl⟩
    exact .same _ (hcancelled.resumeCaller rfl (by simp) _ _ _)
  | finish co source outcome hco hanswers hunanswered =>
    obtain ⟨k, hk, hrunning⟩ := Option.map_eq_some_iff.mp hco
    exact .finish co k source outcome hk hrunning hunanswered
  | wake timer co =>
    obtain ⟨_, _, heq, -, hhandler⟩ := wake_fst s.calls timer co
    rw [heq]
    exact .same _ ⟨hhandler, rfl, rfl, .inl rfl⟩
  | collect co wait hl =>
    refine .collect co _ ?_ rfl rfl rfl (by rw [hl]; rfl)
    intro co'
    by_cases hne : co' = co <;> simp [CallState.handlerOf, hne]

def vmOf (c : CallState V) (co : Nat) : Option Instance := (c.handlerOf co).map Prod.fst

lemma vmOf_eq (h : c.coroutines co = some k) : vmOf c co = some k.vm := by
  simp [vmOf, CallState.handlerOf, h]

lemma vmOf_callMove (h : CallMove s l c) {vm : Instance} (hvm : vmOf c co = some vm) :
    vmOf s.calls co = some vm ∨ (startsAt l = some co ∧ s.calls.coroutines co = none ∧
      ∃ i, s.registry.services (s.actors.serviceOf i) = some vm) := by
  have hdropped : ∀ dropped, (∀ co', c.handlerOf co' =
      if co' = dropped then none else s.calls.handlerOf co') → vmOf s.calls co = some vm := by
    intro dropped hhandler
    by_cases hco : co = dropped
    · simp [vmOf, hhandler, hco] at hvm
    · simpa [vmOf, hhandler, hco] using hvm
  cases handlerMove h with
  | same c hsame =>
    left
    simpa [vmOf, hsame.handlerOf] using hvm
  | start i co' vm' request hl hco hrequest hservice =>
    by_cases hne : co = co'
    · subst hne
      have heq : vm' = vm := by
        simpa [vmOf, CallState.handlerOf, CallState.start] using hvm
      exact .inr ⟨hl, hco, i, heq ▸ hservice⟩
    · left
      simpa [vmOf, CallState.handlerOf, CallState.start, hne] using hvm
  | reject => exact .inl hvm
  | finish co' k source outcome hk =>
    exact .inl (hdropped co' (finish_handlers hk source outcome).1)
  | collect co' c hhandler => exact .inl (hdropped co' hhandler)

/-- The timer is made by the code that runs. -/
structure NewTimer (s : State V) (l : Label V) (timer : ActorTimer) : Prop where
  id : timer.id = s.calls.nextTimerId
  target : s.actorOf timer.serviceId = some timer.target
  callback : ∃ vm entry, Executes s vm entry timer.serviceId ∧
    makesTimer s l = some (vm, timer.serviceId) ∧
    (timer.callback = .lua vm ∨ ∃ co source, timer.callback = .resume co ∧ entry = .handler co source)

lemma timers_finish (source : Source) (outcome : Outcome V) (hco : c.statusOf co = some .running) :
    (c.finish co source outcome).1.timers = c.timers ∧
      (c.finish co source outcome).1.nextTimerId = c.nextTimerId := by
  refine finish_rule (P := fun d => d.timers = c.timers ∧ d.nextTimerId = c.nextTimerId) source
    outcome hco (fun _ _ => ⟨rfl, rfl⟩) fun d cause session values hd => ?_
  simpa only [CallState.resumeCaller_kept, untagged] using hd

lemma timers_callMove (h : CallMove s l c) :
    ((∀ timer ∈ c.timers, timer ∈ s.calls.timers) ∧ c.nextTimerId = s.calls.nextTimerId) ∨
      ∃ timer, NewTimer s l timer ∧ c.timers = timer :: s.calls.timers ∧
        c.nextTimerId = s.calls.nextTimerId + 1 := by
  cases h with
  | quiet c hquiet => exact .inl ⟨hquiet.timers, hquiet.nextTimerId⟩
  | addTimer vm entry id target repeating hruns hmakes htarget =>
    exact .inr ⟨_, ⟨rfl, htarget, vm, entry, hruns, hmakes, .inl rfl⟩, rfl, rfl⟩
  | arm vm co source id hruns hmakes =>
    cases hactor : s.actorOf id with
    | none => exact .inl ⟨fun _ h => h, rfl⟩
    | some =>
      exact .inr ⟨_, ⟨rfl, hactor, vm, _, hruns, hmakes, .inr ⟨co, source, rfl, rfl⟩⟩, rfl, rfl⟩
  | sendFailure | timeout =>
    obtain ⟨-, -, htimers, hnext, -⟩ := CallState.resumeCaller_kept _ _ _ _ _
    rw [htimers, hnext]
    exact .inl ⟨fun _ h => h, rfl⟩
  | finish co source outcome hco =>
    obtain ⟨htimers, hnext⟩ := timers_finish source outcome hco
    rw [htimers]
    exact .inl ⟨fun _ h => h, hnext⟩
  | wake timer co =>
    obtain ⟨_, _, heq, htimers, -⟩ := wake_fst s.calls timer co
    rw [heq]
    exact .inl ⟨htimers, rfl⟩
  | _ => exact .inl ⟨fun _ h => h, rfl⟩

structure NoNewCall (c c' : CallState V) : Prop where
  pendingCalls : ∀ n pending, c'.pendingCalls n = some pending → c.pendingCalls n = some pending
  callTimeouts : ∀ n i, c'.callTimeouts n = some i → c.callTimeouts n = some i
  nextCallSession : c'.nextCallSession = c.nextCallSession
  driven : ∀ n i, c'.callTimeouts n = some i → c'.pendingCalls n = c.pendingCalls n

lemma NoNewCall.refl (c : CallState V) : NoNewCall c c :=
  ⟨fun _ _ h => h, fun _ _ h => h, rfl, fun _ _ _ => rfl⟩

lemma NoNewCall.resumeCaller (h : NoNewCall c c') (cause : Cause) (session : Nat) (ok : Bool)
    (values : List V) : NoNewCall c (c'.resumeCaller cause session ok values).1 := by
  obtain ⟨timeouts, _, _, heq, htimeouts⟩ :=
    CallState.resumeCaller_fst c' cause session ok values
  have hkept : ∀ n i, (c'.resumeCaller cause session ok values).1.callTimeouts n = some i →
      c'.callTimeouts n = some i ∧
        (c'.resumeCaller cause session ok values).1.pendingCalls n = c'.pendingCalls n := by
    intro n i hi
    exact htimeouts n i (by rwa [heq] at hi)
  refine ⟨?_, fun n i hi => h.callTimeouts n i (hkept n i hi).1, ?_, ?_⟩
  · intro n pending hp
    rw [CallState.resumeCaller_pendingCalls] at hp
    split at hp
    · exact h.pendingCalls n pending hp
    by_cases hn : n = session
    · simp [hn] at hp
    · exact h.pendingCalls n pending (by simpa [hn] using hp)
  · simp only [CallState.resumeCaller_kept, h.nextCallSession]
  · intro n i hi
    obtain ⟨hi, hsame⟩ := hkept n i hi
    rw [hsame, h.driven n i hi]

lemma noNewCall_finish (source : Source) (outcome : Outcome V)
    (hco : c.statusOf co = some .running) : NoNewCall c (c.finish co source outcome).1 := by
  refine finish_rule (P := NoNewCall c) source outcome hco (fun _ _ => { NoNewCall.refl c with }) ?_
  intro d cause session values hd
  have huntagged : NoNewCall c (untagged d co) := { hd with }
  exact huntagged.resumeCaller _ _ _ _

lemma calls_callMove (h : CallMove s l c) :
    NoNewCall s.calls c ∨ ∃ vm co source id target, Executes s vm (.handler co source) id ∧
      makesCall s l = some (vm, id) ∧ c = s.calls.suspendForCall co id target (s.actorOf id) := by
  cases h with
  | quiet c hquiet =>
    refine .inl ⟨?_, hquiet.callTimeouts, hquiet.nextCallSession, ?_⟩ <;> rw [hquiet.pendingCalls]
    · exact fun _ _ hp => hp
    · exact fun _ _ _ => rfl
  | suspend vm co source id target hruns hmakes =>
    exact .inr ⟨vm, co, source, id, target, hruns, hmakes, rfl⟩
  | arm vm co source id =>
    cases s.actorOf id with
    | none | some => exact .inl { NoNewCall.refl s.calls with }
  | sendFailure co =>
    have hrunning : NoNewCall s.calls (s.calls.setStatus co .running) :=
      { NoNewCall.refl s.calls with }
    exact .inl (hrunning.resumeCaller _ _ _ _)
  | timeout session =>
    have hquiet := Quiet.cancelTimeout s.calls session
    have hcancelled : NoNewCall s.calls { s.calls with
        callTimeouts := Function.update s.calls.callTimeouts session none } :=
      ⟨fun _ _ h => h, hquiet.callTimeouts, rfl, fun _ _ _ => rfl⟩
    exact .inl (hcancelled.resumeCaller _ _ _ _)
  | finish co source outcome hco => exact .inl (noNewCall_finish source outcome hco)
  | wake timer co =>
    obtain ⟨_, _, heq, -⟩ := wake_fst s.calls timer co
    rw [heq]
    exact .inl { NoNewCall.refl s.calls with }
  | _ => exact .inl { NoNewCall.refl s.calls with }

end ShieldRuntime.Proofs
