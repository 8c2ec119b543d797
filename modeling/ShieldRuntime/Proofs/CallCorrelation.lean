import ShieldRuntime.Proofs.CallResponses

/-!
# Correlation of calls and coroutines

Pending calls and sleep timers refer to coroutines by their addresses.
-/

namespace ShieldRuntime.Proofs

open Lua Library

variable {V : Type}

variable {session co : Nat} {c : CallState V}

/-- The coroutine has opened call `n`. -/
def Awaits : CoStatus → Nat → Prop
  | .registered m _, n | .posted m, n | .suspended (.call m), n => m = n
  | _, _ => False

/-- The caller of the pending call, if it is suspended, waits for this call. -/
def AwaitsOwn (c : CallState V) (session : Nat) : Prop :=
  ∀ pending wait, c.pendingCalls session = some pending →
    c.statusOf pending.callerCo = some (.suspended wait) → wait = .call session

/-- No pending call and no timer refers to the coroutine. -/
def Unreferenced (c : CallState V) (co : Nat) : Prop :=
  (∀ n < c.nextCallSession, ∀ pending ∈ c.pendingCalls n, pending.callerCo ≠ co) ∧
    ∀ timer ∈ c.timers, timer.callback ≠ .resume co

instance (c : CallState V) (co : Nat) : Decidable (Unreferenced c co) :=
  inferInstanceAs (Decidable (_ ∧ _))

/-- What waits for a session or a timer is what the session or the timer resumes. -/
structure Linked (c : CallState V) : Prop where
  bound : ∀ n pending, c.pendingCalls n = some pending → n < c.nextCallSession
  pending : ∀ n pending status, c.pendingCalls n = some pending →
    c.statusOf pending.callerCo = some status → Awaits status n
  sleeping : ∀ timer ∈ c.timers, ∀ co status, timer.callback = .resume co →
    c.statusOf co = some status → status = .armed ∨ status = .suspended .sleep
  once : ∀ timer ∈ c.timers, ∀ co, timer.callback = .resume co → timer.repeating = false
  single : ∀ timer ∈ c.timers, ∀ timer' ∈ c.timers, ∀ co, timer.callback = .resume co →
    timer'.callback = .resume co → timer.id = timer'.id

namespace Linked

variable {c' : CallState V}

lemma mono (h : Linked c)
    (hstatus : ∀ co status, c'.statusOf co = some status → c.statusOf co = some status)
    (hpending : ∀ n pending, c'.pendingCalls n = some pending → c.pendingCalls n = some pending)
    (hnext : c'.nextCallSession = c.nextCallSession)
    (htimers : ∀ timer ∈ c'.timers, timer ∈ c.timers ∨ ∃ vm, timer.callback = .lua vm) :
    Linked c' := by
  have hold : ∀ timer ∈ c'.timers, ∀ co, timer.callback = .resume co → timer ∈ c.timers := by
    intro timer hmem co hcallback
    rcases htimers timer hmem with hmem | ⟨vm, hvm⟩
    · exact hmem
    · rw [hvm] at hcallback
      cases hcallback
  refine ⟨?_, ?_, ?_, ?_, ?_⟩
  · intro n pending hp
    rw [hnext]
    exact h.bound n pending (hpending n pending hp)
  · intro n pending status hp hs
    exact h.pending n pending status (hpending n pending hp) (hstatus _ status hs)
  · intro timer hmem co status hcallback hs
    exact h.sleeping timer (hold timer hmem co hcallback) co status hcallback (hstatus co status hs)
  · intro timer hmem co hcallback
    exact h.once timer (hold timer hmem co hcallback) co hcallback
  · intro timer hmem timer' hmem' co hcallback hcallback'
    exact h.single timer (hold timer hmem co hcallback) timer' (hold timer' hmem' co hcallback')
      co hcallback hcallback'

lemma setStatus (h : Linked c) {before : CoStatus} (status : CoStatus)
    (hco : c.statusOf co = some before)
    (hpending : ∀ n pending, c.pendingCalls n = some pending → Awaits before n → Awaits status n)
    (hsleeping : before = .armed ∨ before = .suspended .sleep →
      (status = .armed ∨ status = .suspended .sleep) ∨
        ∀ timer ∈ c.timers, timer.callback ≠ .resume co) : Linked (c.setStatus co status) := by
  refine ⟨h.bound, ?_, ?_, h.once, h.single⟩
  · intro n pending st hp hst
    by_cases hne : pending.callerCo = co
    · rw [hne, CallState.statusOf_setStatus_self status hco] at hst
      cases hst
      exact hpending n pending hp (h.pending n pending before hp (hne ▸ hco))
    · rw [CallState.statusOf_setStatus_ne c status hne] at hst
      exact h.pending n pending st hp hst
  · intro timer hmem co' st hcallback hst
    by_cases hne : co' = co
    · subst hne
      rw [CallState.statusOf_setStatus_self status hco] at hst
      cases hst
      have hbefore := h.sleeping timer hmem co' before hcallback hco
      exact (hsleeping hbefore).resolve_right (fun hnone => hnone timer hmem hcallback)
    · rw [CallState.statusOf_setStatus_ne c status hne] at hst
      exact h.sleeping timer hmem co' st hcallback hst

lemma dropPending (h : Linked c) (session : Nat) :
    Linked { c with pendingCalls := Function.update c.pendingCalls session none } := by
  refine h.mono (fun _ _ hst => hst) ?_ rfl (fun _ hmem => .inl hmem)
  intro n pending hp
  by_cases hn : n = session
  · simp [hn] at hp
  · simpa [hn] using hp

lemma resumeCaller_of (cause : Cause) (session : Nat) (ok : Bool) (values : List V)
    (hsync : c.pendingSyncCalls session = true → Linked c)
    (hdropped : Linked { c with pendingCalls := Function.update c.pendingCalls session none })
    (hself : AwaitsOwn c session) :
    Linked (c.resumeCaller cause session ok values).1 := by
  obtain ⟨_, _, _, heq, -⟩ := CallState.resumeCaller_fst c cause session ok values
  rw [heq]
  by_cases hs : c.pendingSyncCalls session = true
  · have hnone : c.resumee session = none := by simp [CallState.resumee, hs]
    rw [hnone, if_pos hs]
    exact { hsync hs with }
  rw [if_neg hs]
  cases hresumee : c.resumee session with
  | none => exact { hdropped with }
  | some target =>
    -- the coroutine that is resumed was suspended in this session
    obtain ⟨-, pending, hp, hco, wait, hresumable⟩ := CallState.resumee_eq_some hresumee
    obtain ⟨k, hk, hstatus, -⟩ := CallState.resumable_eq_some.mp hresumable
    have hst : c.statusOf target.1 = some (.suspended wait) := by
      simp [CallState.statusOf, hk, hstatus]
    obtain rfl := hself pending wait hp (hco ▸ hst)
    have hrunning := hdropped.setStatus .running hst ?_ (by simp)
    · exact { hrunning with }
    · rintro n pending hp rfl
      simp at hp

section

variable (h : Linked c)
include h

lemma wait_eq {pending : PendingCall} {wait : Wait} (hp : c.pendingCalls session = some pending)
    (hst : c.statusOf pending.callerCo = some (.suspended wait)) : wait = .call session := by
  have hawaits := h.pending session pending _ hp hst
  cases wait with
  | sleep => exact hawaits.elim
  | call => exact congrArg Wait.call hawaits

lemma resumeCaller (cause : Cause) (session : Nat) (ok : Bool) (values : List V) :
    Linked (c.resumeCaller cause session ok values).1 :=
  resumeCaller_of cause session ok values (fun _ => h) (h.dropPending session)
    (fun _ _ => h.wait_eq)

lemma start (vm : Instance) (request : Request) (hfree : Unreferenced c co) :
    Linked (c.start co vm request) := by
  have hother : ∀ co' status, co' ≠ co → (c.start co vm request).statusOf co' = some status →
      c.statusOf co' = some status := by
    intro co' status hne hst
    simpa [CallState.statusOf, CallState.start, hne] using hst
  refine ⟨h.bound, ?_, ?_, h.once, h.single⟩
  · intro n pending status hp hst
    have hne := hfree.1 n (h.bound n pending hp) pending hp
    exact h.pending n pending status hp (hother _ status hne hst)
  · intro timer hmem co' status hcallback hst
    have hne : co' ≠ co := by
      rintro rfl
      exact hfree.2 timer hmem hcallback
    exact h.sleeping timer hmem co' status hcallback (hother co' status hne hst)

lemma unreferenced_of_running (hco : c.statusOf co = some .running) : Unreferenced c co := by
  refine ⟨?_, ?_⟩
  · rintro n - pending hp rfl
    exact h.pending n pending _ hp hco
  · intro timer hmem hcallback
    have := h.sleeping timer hmem co _ hcallback hco
    simp at this

lemma suspendForCall (id target : ServiceId) (driver : Option Instance)
    (hco : c.statusOf co = some .running) : Linked (c.suspendForCall co id target driver) := by
  have hregistered : Linked (c.setStatus co (.registered c.nextCallSession target)) :=
    h.setStatus _ hco (fun _ _ _ hn => hn.elim) (by simp)
  refine ⟨?_, ?_, hregistered.sleeping, hregistered.once, hregistered.single⟩
  · intro n pending hp
    by_cases hn : n = c.nextCallSession
    · exact hn ▸ Nat.lt_succ_self _
    · simp only [CallState.suspendForCall, Function.update_of_ne hn] at hp
      exact Nat.lt_succ_of_lt (h.bound n pending hp)
  · intro n pending status hp hst
    by_cases hn : n = c.nextCallSession
    · subst hn
      simp only [CallState.suspendForCall, Function.update_self, Option.some.injEq] at hp
      subst hp
      have hself := CallState.statusOf_setStatus_self (.registered c.nextCallSession target) hco
      have heq := hst.symm.trans hself
      cases heq
      rfl
    · simp only [CallState.suspendForCall, Function.update_of_ne hn] at hp
      exact hregistered.pending n pending status hp hst

lemma armSleep (id : ServiceId) (target : Option Instance)
    (hco : c.statusOf co = some .running) : Linked (c.armSleep co id target) := by
  have hfree := h.unreferenced_of_running hco
  have harmed : Linked (c.setStatus co .armed) :=
    h.setStatus _ hco (fun _ _ _ hn => hn.elim) (by simp)
  cases target with
  | none => exact harmed
  | some =>
    have hself : (c.setStatus co .armed).statusOf co = some .armed :=
      CallState.statusOf_setStatus_self .armed hco
    refine ⟨h.bound, harmed.pending, ?_, ?_, ?_⟩
    · intro timer hmem co' status hcallback hst
      rcases List.mem_cons.mp hmem with rfl | hmem
      · cases hcallback
        have heq := hst.symm.trans hself
        cases heq
        exact .inl rfl
      · exact harmed.sleeping timer hmem co' status hcallback hst
    · intro timer hmem co' hcallback
      rcases List.mem_cons.mp hmem with rfl | hmem
      · rfl
      · exact h.once timer hmem co' hcallback
    · intro timer hmem timer' hmem' co' hcallback hcallback'
      rcases List.mem_cons.mp hmem with rfl | hmem
      · rcases List.mem_cons.mp hmem' with rfl | hmem'
        · rfl
        · cases hcallback
          exact absurd hcallback' (hfree.2 timer' hmem')
      · rcases List.mem_cons.mp hmem' with rfl | hmem'
        · cases hcallback'
          exact absurd hcallback (hfree.2 timer hmem)
        · exact h.single timer hmem timer' hmem' co' hcallback hcallback'

lemma wake {timer : ActorTimer} (htimer : timer ∈ c.timers)
    (hcallback : timer.callback = .resume co) :
    Linked ((if timer.repeating then c else c.removeTimer timer.id).resumeSleeper co).1 := by
  have honce := h.once timer htimer co hcallback
  have hremoved : Linked (c.removeTimer timer.id) :=
    h.mono (fun _ _ hst => hst) (fun _ _ hp => hp) rfl
      (fun _ hmem => .inl (List.mem_of_mem_filter hmem))
  have hgone : ∀ timer' ∈ (c.removeTimer timer.id).timers, timer'.callback ≠ .resume co := by
    intro timer' hmem' hcallback'
    obtain ⟨hmem', hid⟩ := List.mem_filter.mp hmem'
    simp [h.single timer htimer timer' hmem' co hcallback hcallback'] at hid
  simp only [honce, Bool.false_eq_true, if_false]
  unfold CallState.resumeSleeper
  split
  · rename_i wait vm hresumable
    obtain ⟨k, hk, hstatus, -⟩ := CallState.resumable_eq_some.mp hresumable
    have hst : (c.removeTimer timer.id).statusOf co = some (.suspended wait) := by
      simp [CallState.statusOf, hk, hstatus]
    have hsleep := h.sleeping timer htimer co _ hcallback hst
    have hwait : wait = .sleep := by simpa using hsleep
    subst hwait
    exact hremoved.setStatus .running hst (fun _ _ _ hn => hn.elim) (fun _ => .inr hgone)
  · exact hremoved

lemma ended (co : Nat) (k : Coroutine) (source : Source) (outcome : Outcome V) :
    Linked (ended c co k source outcome) := by
  refine h.mono ?_ (fun _ _ hp => hp) rfl (fun _ hmem => .inl hmem)
  intro co' status hst
  by_cases hne : co' = co
  · subst hne
    simp [CallState.statusOf, Proofs.ended] at hst
  · simpa [CallState.statusOf, Proofs.ended, hne] using hst

lemma finish (source : Source) (outcome : Outcome V)
    (hco : c.statusOf co = some .running) : Linked (c.finish co source outcome).1 := by
  refine finish_rule (P := Linked) source outcome hco (h.ended co · source) ?_
  intro d cause session values hd
  have huntagged : Linked (untagged d co) := { hd with }
  exact huntagged.resumeCaller _ _ _ _

end

end Linked

lemma linked_init : Linked ({} : CallState V) := by
  constructor <;> simp

variable {s : State V} {l : Label V}

lemma linked_sendFailure (h : Linked c) {target : ServiceId}
    (hco : c.statusOf co = some (.registered session target))
    (hsync : c.pendingSyncCalls session = false) :
    Linked ((c.setStatus co .running).resumeCaller (.sendFailure session) session false []).1 := by
  have hrunning := (h.dropPending session).setStatus .running hco ?_ (by simp)
  · refine Linked.resumeCaller_of _ _ _ _ ?_ { hrunning with } ?_
    · intro hs
      cases hsync.symm.trans hs
    · intro pending wait hp hst
      by_cases hcaller : pending.callerCo = co
      · rw [hcaller, CallState.statusOf_setStatus_self .running hco] at hst
        cases hst
      · rw [CallState.statusOf_setStatus_ne c .running hcaller] at hst
        exact h.wait_eq hp hst
  · rintro n pending hp rfl
    simp at hp

lemma mem_addTimer_lua {id : ServiceId} {target vm : Instance} {repeating : Bool} :
    ∀ timer ∈ (c.addTimer id target (.lua vm) repeating).timers,
      timer ∈ c.timers ∨ ∃ vm, timer.callback = .lua vm := by
  intro timer hmem
  rcases List.mem_cons.mp hmem with rfl | hmem
  · exact .inr ⟨vm, rfl⟩
  · exact .inl hmem

theorem linked_callMove (h : Linked s.calls) (hstart : ∀ co ∈ startsAt l, Unreferenced s.calls co)
    (hfailure : ∀ session, answers s l = some (.sendFailure session, session) →
      s.calls.pendingSyncCalls session = false) (hmove : CallMove s l c) : Linked c := by
  cases hmove with
  | quiet c hquiet =>
    refine h.mono ?_ ?_ hquiet.nextCallSession (fun timer hmem => .inl (hquiet.timers timer hmem))
    · intro co status hst
      simpa only [CallState.statusOf, hquiet.coroutines] using hst
    · intro n pending hp
      rwa [hquiet.pendingCalls] at hp
  | start i co vm request hl => exact h.start vm request (hstart co hl)
  | reject => exact { h with }
  | addTimer =>
    exact h.mono (fun _ _ hst => hst) (fun _ _ hp => hp) rfl mem_addTimer_lua
  | suspend vm co source id target hruns hmakes hco => exact h.suspendForCall id target _ hco
  | arm vm co source id hruns hmakes hco => exact h.armSleep id _ hco
  | advance co before after hco hadvance =>
    cases hadvance with
    | post | yieldCall => exact h.setStatus _ hco (fun _ _ _ hn => hn) (by simp)
    | yieldSleep => exact h.setStatus _ hco (fun _ _ _ hn => hn.elim) (by simp)
  | sendFailure co session target hco hanswers =>
    exact linked_sendFailure h hco (hfailure session hanswers)
  | timeout session =>
    have hcancelled : Linked { s.calls with
        callTimeouts := Function.update s.calls.callTimeouts session none } := { h with }
    exact hcancelled.resumeCaller _ _ _ _
  | finish co source outcome hco => exact h.finish source outcome hco
  | wake timer co htimer hcallback => exact h.wake htimer hcallback
  | collect co =>
    refine h.mono ?_ (fun _ _ hp => hp) rfl (fun _ hmem => .inl hmem)
    intro co' status hst
    by_cases hne : co' = co
    · subst hne
      simp [CallState.statusOf] at hst
    · simpa [CallState.statusOf, hne] using hst

/-- The recipient is the one the cause was meant for. -/
def Belongs : Cause → Recipient → Prop
  | _, .nobody => True
  | _, .notSuspended => True
  | .handler _ request, recipient => recipient = ownCaller request
  | .timeout session, recipient => recipient = .coroutine (.call session)
  | .sendFailure session, recipient => recipient = .coroutine (.call session)

/-- Who is resumed waits for this answer, with the values that the handler has returned. -/
def Correlated (log : List (CallEvent V)) : Prop :=
  ∀ cause session ok values recipient, .resumeCaller cause session ok values recipient ∈ log →
    Belongs cause recipient ∧
      ∀ n request, cause = .handler n request →
        ∃ source waiting, .completed n request (.coroutine source (.returned values)) waiting ∈ log

def matched (c : CallState V) : Cause → Bool
  | .handler _ .send => true
  | .handler _ (.syncCall session) =>
    c.pendingSyncCalls session || (c.pendingCalls session).isNone
  | .handler _ (.coroCall session) => !c.pendingSyncCalls session
  | .timeout session => !c.pendingSyncCalls session
  | .sendFailure session => !c.pendingSyncCalls session

/-- An answer goes to a call of its own kind, and a new coroutine has nothing of an old one. -/
def Separated (s : State V) (l : Label V) : Prop :=
  (∀ answer ∈ answers s l, matched s.calls answer.1 = true) ∧
    ∀ co ∈ startsAt l, Unreferenced s.calls co ∧ s.calls.handlerCallSession co = none

instance (s : State V) (l : Label V) : Decidable (Separated s l) :=
  inferInstanceAs (Decidable (_ ∧ _))

/-- A handler carries the session of its request, none for a send. -/
def Tagged (c : CallState V) : Prop :=
  ∀ co vm request n, c.handlerOf co = some (vm, request, n) →
    c.handlerCallSession co = if request = .send then none else some request.session

lemma tagged_handlerMove (h : Tagged s.calls) (hgood : Separated s l) (hmove : HandlerMove s l c) :
    Tagged c := by
  cases hmove with
  | same c hsame =>
    intro co vm request n hco
    rw [hsame.handlerOf] at hco
    rw [hsame.handlerCallSession]
    exact h co vm request n hco
  | start i co vm request hl hco hrequest =>
    have htag := (hgood.2 co hl).2
    intro co' vm' request' n hco'
    by_cases hne : co' = co
    · subst hne
      simp only [CallState.handlerOf, CallState.start, Function.update_self, Option.map_some,
        Option.some.injEq, Prod.mk.injEq] at hco'
      obtain ⟨rfl, rfl, rfl⟩ := hco'
      by_cases hsend : request = .send
      · subst hsend
        simpa [CallState.start, Request.session] using htag
      · simp [CallState.start, hrequest hsend, hsend]
    · have hold : s.calls.handlerOf co' = some (vm', request', n) := by
        simpa [CallState.handlerOf, CallState.start, hne] using hco'
      rw [← h co' vm' request' n hold]
      simp only [CallState.start]
      split
      · exact Function.update_of_ne hne _ _
      · rfl
  | reject => exact h
  | finish co k source outcome hk hstatus =>
    obtain ⟨hhandler, htags, -⟩ := finish_handlers hk source outcome
    intro co' vm request n hco'
    rw [hhandler] at hco'
    split at hco'
    · cases hco'
    rename_i hne
    rw [htags co' hne]
    exact h co' vm request n hco'
  | collect co c hhandler htag =>
    intro co' vm request n hco'
    rw [hhandler] at hco'
    rw [htag]
    split at hco'
    · cases hco'
    · exact h co' vm request n hco'

lemma Correlated.cons {log : List (CallEvent V)} (h : Correlated log) {event : CallEvent V}
    (hevent : ∀ cause session ok values recipient,
      event = .resumeCaller cause session ok values recipient →
      Belongs cause recipient ∧ ∀ n request, cause = .handler n request →
        ∃ source waiting,
          .completed n request (.coroutine source (.returned values)) waiting ∈ log) :
    Correlated (event :: log) := by
  intro cause session ok values recipient hmem
  have hboth : Belongs cause recipient ∧ ∀ n request, cause = .handler n request →
      ∃ source waiting,
        .completed n request (.coroutine source (.returned values)) waiting ∈ log := by
    rcases List.mem_cons.mp hmem with heq | hmem
    · exact hevent cause session ok values recipient heq.symm
    · exact h cause session ok values recipient hmem
  refine ⟨hboth.1, ?_⟩
  intro n request hcause
  obtain ⟨source, waiting, hcompleted⟩ := hboth.2 n request hcause
  exact ⟨source, waiting, List.mem_cons_of_mem _ hcompleted⟩

lemma recipientOf_of_not_sync (hsync : c.pendingSyncCalls session = false)
    (hself : AwaitsOwn c session) :
    c.recipientOf session = .nobody ∨ c.recipientOf session = .notSuspended ∨
      c.recipientOf session = .coroutine (.call session) := by
  unfold CallState.recipientOf
  rw [if_neg (by simp [hsync])]
  cases hp : c.pendingCalls session with
  | none => exact .inl rfl
  | some pending =>
    cases hresumable : c.resumable pending.callerCo with
    | none => exact .inr (.inl (by simp [hresumable]))
    | some waiting =>
      obtain ⟨wait, vm⟩ := waiting
      obtain ⟨k, hk, hstatus, -⟩ := CallState.resumable_eq_some.mp hresumable
      have hwait := hself pending wait hp (by simp [CallState.statusOf, hk, hstatus])
      exact .inr (.inr (by simp [hresumable, hwait]))

lemma belongs_of_not_sync {cause : Cause} (hcause : Belongs cause (.coroutine (.call session)))
    (hsync : c.pendingSyncCalls session = false)
    (hself : AwaitsOwn c session) :
    Belongs cause (c.recipientOf session) := by
  rcases recipientOf_of_not_sync hsync hself with h | h | h
  · rw [h]
    cases cause <;> trivial
  · rw [h]
    cases cause <;> trivial
  · rw [h]
    exact hcause

lemma belongs_handler (h : Linked c) {n : Nat} {request : Request} (hcall : request ≠ .send)
    (hmatched : matched c (.handler n request) = true) :
    Belongs (.handler n request) (c.recipientOf request.session) := by
  cases request with
  | send => exact absurd rfl hcall
  | coroCall session =>
    have hsync : c.pendingSyncCalls session = false := by simpa [matched] using hmatched
    exact belongs_of_not_sync rfl hsync (fun _ _ => h.wait_eq)
  | syncCall session =>
    change Belongs (.handler n (.syncCall session)) (c.recipientOf session)
    unfold CallState.recipientOf
    by_cases hsync : c.pendingSyncCalls session = true
    · rw [if_pos hsync]
      rfl
    have hnone : c.pendingCalls session = none := by simpa [matched, hsync] using hmatched
    rw [if_neg hsync, hnone]
    trivial

lemma correlated_finish (hlinked : Linked c) (htagged : Tagged c) (h : Correlated c.log)
    {source : Source} {outcome : Outcome V} (hco : c.statusOf co = some .running)
    (hmatched : ∀ values cause session, outcome = .returned values →
      completes c co source = some (cause, session) → matched c cause = true) :
    Correlated (c.finish co source outcome).1.log := by
  obtain ⟨k, hk, hstatus⟩ := Option.map_eq_some_iff.mp hco
  have hended : Correlated (ended c co k source outcome).log :=
    h.cons (fun _ _ _ _ _ heq => nomatch heq)
  rcases finish_cases hk source outcome with
    ⟨values, cause, session, rfl, hcompletes, hfinish⟩ | ⟨-, hfinish⟩
  · have hcause := hmatched values cause session rfl hcompletes
    obtain ⟨rfl, htag, -⟩ := completes_eq_some hk hcompletes
    have hself := htagged co k.vm k.request k.invocation (by simp [CallState.handlerOf, hk])
    have hcall : k.request ≠ .send := by
      intro hsend
      rw [htag, if_pos hsend] at hself
      cases hself
    have hsession : session = k.request.session := by
      rw [htag, if_neg hcall] at hself
      exact Option.some.inj hself
    have hrecipient : (untagged (ended c co k source (.returned values)) co).recipientOf session =
        c.recipientOf session :=
      recipientOf_ended source (.returned values) session hk hstatus
    rw [hfinish, CallState.resumeCaller_log, hrecipient, hsession]
    apply hended.cons
    intro cause session ok values recipient heq
    cases heq
    refine ⟨belongs_handler hlinked hcall hcause, ?_⟩
    intro n request heq
    cases heq
    exact ⟨source, _, List.mem_cons_self⟩
  · rw [hfinish]
    exact hended

theorem correlated_callMove (hlinked : Linked s.calls) (htagged : Tagged s.calls)
    (h : Correlated s.calls.log) (hgood : Separated s l) (hmove : CallMove s l c) :
    Correlated c.log := by
  cases hmove with
  | quiet c hquiet => rwa [hquiet.log]
  | reject => exact h.cons (fun _ _ _ _ _ heq => nomatch heq)
  | arm vm co source id =>
    cases s.actorOf id with
    | none | some => exact h
  | sendFailure co session target hco hanswers =>
    have hsync : s.calls.pendingSyncCalls session = false := by
      simpa [matched] using hgood.1 _ hanswers
    rw [CallState.resumeCaller_log]
    apply h.cons
    intro cause session' ok values recipient heq
    cases heq
    refine ⟨belongs_of_not_sync rfl hsync ?_, fun _ _ heq => nomatch heq⟩
    intro pending wait hp hst
    by_cases hcaller : pending.callerCo = co
    · rw [hcaller, CallState.statusOf_setStatus_self .running hco] at hst
      cases hst
    · rw [CallState.statusOf_setStatus_ne _ _ hcaller] at hst
      exact hlinked.wait_eq hp hst
  | timeout session hanswers =>
    have hsync : s.calls.pendingSyncCalls session = false := by
      simpa [matched] using hgood.1 _ hanswers
    rw [CallState.resumeCaller_log]
    apply h.cons
    intro cause session' ok values recipient heq
    cases heq
    exact ⟨belongs_of_not_sync rfl hsync (fun _ _ => hlinked.wait_eq), fun _ _ heq => nomatch heq⟩
  | finish co source outcome hco hanswers =>
    apply correlated_finish hlinked htagged h hco
    intro values cause session houtcome hcompletes
    exact hgood.1 (cause, session) ((hanswers values houtcome).trans hcompletes)
  | wake timer co =>
    obtain ⟨_, _, heq, -⟩ := wake_fst s.calls timer co
    rwa [heq]
  | _ => exact h

def bothCallsRun : List (Label Nat) :=
  spawning "front" ++ spawning "back" ++
    [.command 0 (.call "back" (some [7])), .receive 1 (.function (some 3)),
      .api (.actor 1) (.ret [7]), .cont (.actor 1), .cont (.actor 1), .cont (.actor 1),
      .wake (.external 0), .command 0 (.send "front" (some [])), .receive 0 (.function (some 4)),
      .coroutine (.actor 0) (.call "back"), .coroutine (.actor 0) (.post []),
      .coroutine (.actor 0) .yield, .receive 1 (.function (some 5)), .api (.actor 1) (.ret [9])]

def sessionClashRun : List (Label Nat) :=
  spawning "front" ++ spawning "back" ++
    [.command 0 (.call "front" (some [])), .receive 0 (.function (some 3)),
      .coroutine (.actor 0) (.call "back"), .coroutine (.actor 0) (.post []),
      .coroutine (.actor 0) .yield, .receive 1 (.function (some 4)), .api (.actor 1) (.ret [9])]

end ShieldRuntime.Proofs
