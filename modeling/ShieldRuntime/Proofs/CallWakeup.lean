import ShieldRuntime.Proofs.CallCorrelation

/-!
# Wake-up of suspended callers

A coroutine inside `shield.call` registers its pending call, posts the request and yields. The session
of the call is the key of its pending call, and it tags the coroutine of its handler.
-/

namespace ShieldRuntime.Proofs
open Lua Library

section

variable {V : Type}

def inTransit : CoStatus → Bool
  | .registered _ _ => true
  | .posted _ => true
  | _ => false

def collects : Label V → Option Nat
  | .collect co => some co
  | _ => none

/-- Nothing is answered while its caller is on the way to `coroutine.yield`. -/
def Paced (s : State V) (l : Label V) : Prop :=
  (∀ answer ∈ answers s l, ∀ pending ∈ s.calls.pendingCalls answer.2,
      (s.calls.statusOf pending.callerCo).any inTransit = false) ∧
    ∀ co ∈ collects l, Unreferenced s.calls co

instance (s : State V) (l : Label V) : Decidable (Paced s l) :=
  inferInstanceAs (Decidable (_ ∧ _))

/-- Whoever waits is known to what will wake it. -/
structure Wakeable (c : CallState V) : Prop extends Linked c where
  awaited : ∀ co status n, c.statusOf co = some status → Awaits status n →
    ∃ pending, c.pendingCalls n = some pending ∧ pending.callerCo = co
  pendingLive : ∀ n pending, c.pendingCalls n = some pending →
    (c.statusOf pending.callerCo).isSome
  timerLive : ∀ timer ∈ c.timers, ∀ co, timer.callback = .resume co → (c.statusOf co).isSome

namespace Wakeable

variable {c c' : CallState V}

lemma mono (h : Wakeable c) (hstatus : c'.statusOf = c.statusOf)
    (hpending : c'.pendingCalls = c.pendingCalls) (hnext : c'.nextCallSession = c.nextCallSession)
    (htimers : ∀ timer ∈ c'.timers, timer ∈ c.timers ∨ ∃ vm, timer.callback = .lua vm) :
    Wakeable c' := by
  refine ⟨h.toLinked.mono ?_ ?_ hnext htimers, ?_, ?_, ?_⟩
  · intro co status hst
    rwa [hstatus] at hst
  · intro n pending hp
    rwa [hpending] at hp
  · intro co status n hst
    rw [hstatus] at hst
    rw [hpending]
    exact h.awaited co status n hst
  · intro n pending hp
    rw [hpending] at hp
    rw [hstatus]
    exact h.pendingLive n pending hp
  · intro timer hmem co hcallback
    rw [hstatus]
    rcases htimers timer hmem with hmem | ⟨vm, hvm⟩
    · exact h.timerLive timer hmem co hcallback
    · rw [hvm] at hcallback
      cases hcallback

variable {co session : Nat} {before : CoStatus}

lemma isSome_setStatus (status : CoStatus) (co' : Nat) (hco : c.statusOf co = some before)
    (hlive : (c.statusOf co').isSome) : ((c.setStatus co status).statusOf co').isSome := by
  by_cases hne : co' = co
  · rw [hne, CallState.statusOf_setStatus_self status hco]
    rfl
  · rwa [CallState.statusOf_setStatus_ne c status hne]

section

variable (h : Wakeable c)
include h

lemma setStatus (status : CoStatus) (hco : c.statusOf co = some before)
    (hawaits : ∀ n, Awaits status n → Awaits before n) (hlinked : Linked (c.setStatus co status)) :
    Wakeable (c.setStatus co status) := by
  refine ⟨hlinked, ?_, ?_, ?_⟩
  · intro co' st n hst hn
    by_cases hne : co' = co
    · subst hne
      rw [CallState.statusOf_setStatus_self status hco] at hst
      cases hst
      exact h.awaited co' before n hco (hawaits n hn)
    · rw [CallState.statusOf_setStatus_ne c status hne] at hst
      exact h.awaited co' st n hst hn
  · intro n pending hp
    exact isSome_setStatus status _ hco (h.pendingLive n pending hp)
  · intro timer hmem co' hcallback
    exact isSome_setStatus status co' hco (h.timerLive timer hmem co' hcallback)

lemma suspended_of_yielded {pending : PendingCall} (hp : c.pendingCalls session = some pending)
    (hyielded : (c.statusOf pending.callerCo).any inTransit = false) :
    c.statusOf pending.callerCo = some (.suspended (.call session)) := by
  obtain ⟨status, hst⟩ := Option.isSome_iff_exists.mp (h.pendingLive session pending hp)
  have hawaits := h.pending session pending status hp hst
  rw [hst] at hyielded ⊢
  cases status with
  | suspended wait =>
    cases wait with
    | sleep => exact hawaits.elim
    | call m => rw [show m = session from hawaits]
  | registered | posted => simp [inTransit] at hyielded
  | running | armed => exact hawaits.elim

lemma recipientOf_ne (hyielded : ∀ pending ∈ c.pendingCalls session,
      (c.statusOf pending.callerCo).any inTransit = false) :
    c.recipientOf session ≠ .notSuspended := by
  unfold CallState.recipientOf
  split
  · simp
  split
  · simp
  rename_i pending hp
  have hst := h.suspended_of_yielded hp (hyielded pending hp)
  obtain ⟨k, hk, hstatus⟩ := Option.map_eq_some_iff.mp hst
  have hresumable := CallState.resumable_eq_some.mpr ⟨k, hk, hstatus, rfl⟩
  simp [hresumable]

lemma resumeCaller (cause : Cause) (ok : Bool) (values : List V)
    (hyielded : ∀ pending ∈ c.pendingCalls session,
      (c.statusOf pending.callerCo).any inTransit = false) :
    Wakeable (c.resumeCaller cause session ok values).1 := by
  have hlive : ∀ co, (c.statusOf co).isSome →
      ((c.resumeCaller cause session ok values).1.statusOf co).isSome := by
    intro co hco
    by_cases hresumed : ∃ vm, c.resumee session = some (co, vm)
    · obtain ⟨vm, hresumed⟩ := hresumed
      rw [CallState.statusOf_resumeCaller_resumee _ _ _ _ _ hresumed]
      rfl
    · rwa [CallState.statusOf_resumeCaller_ne _ _ _ _ _ (fun vm h => hresumed ⟨vm, h⟩)]
  refine ⟨h.toLinked.resumeCaller cause session ok values, ?_, ?_, ?_⟩
  · intro co status n hst hn
    by_cases hresumed : ∃ vm, c.resumee session = some (co, vm)
    · obtain ⟨vm, hresumed⟩ := hresumed
      rw [CallState.statusOf_resumeCaller_resumee _ _ _ _ _ hresumed] at hst
      cases hst
      exact hn.elim
    · rw [CallState.statusOf_resumeCaller_ne _ _ _ _ _ (fun vm h => hresumed ⟨vm, h⟩)] at hst
      obtain ⟨pending, hp, hcaller⟩ := h.awaited co status n hst hn
      refine ⟨pending, ?_, hcaller⟩
      rw [CallState.resumeCaller_pendingCalls]
      split
      · exact hp
      -- the call that was pending under the session is the one whose caller was resumed
      rename_i hsync
      have hne : n ≠ session := by
        rintro rfl
        have hsuspended := h.suspended_of_yielded hp (hyielded pending hp)
        obtain ⟨k, hk, hstatus⟩ := Option.map_eq_some_iff.mp hsuspended
        have hresumable := CallState.resumable_eq_some.mpr ⟨k, hk, hstatus, rfl⟩
        exact hresumed ⟨k.vm, by simp [CallState.resumee, hsync, hp, ← hcaller, hresumable]⟩
      rwa [Function.update_of_ne hne]
  · intro n pending hp
    apply hlive
    rw [CallState.resumeCaller_pendingCalls] at hp
    split at hp
    · exact h.pendingLive n pending hp
    by_cases hne : n = session
    · simp [hne] at hp
    · rw [Function.update_of_ne hne] at hp
      exact h.pendingLive n pending hp
  · intro timer hmem co hcallback
    apply hlive
    simp only [CallState.resumeCaller_kept] at hmem
    exact h.timerLive timer hmem co hcallback

lemma drop (hfree : Unreferenced c co) (hself : c'.statusOf co = none)
    (hstatus : ∀ co', co' ≠ co → c'.statusOf co' = c.statusOf co')
    (hpending : c'.pendingCalls = c.pendingCalls) (hnext : c'.nextCallSession = c.nextCallSession)
    (htimers : c'.timers = c.timers) : Wakeable c' := by
  have hsub : ∀ co' status, c'.statusOf co' = some status → c.statusOf co' = some status := by
    intro co' status hst
    by_cases hne : co' = co
    · rw [hne, hself] at hst
      cases hst
    · rwa [hstatus co' hne] at hst
  refine ⟨h.toLinked.mono hsub ?_ hnext ?_, ?_, ?_, ?_⟩
  · intro n pending hp
    rwa [hpending] at hp
  · intro timer hmem
    rw [htimers] at hmem
    exact .inl hmem
  · intro co' status n hst hn
    rw [hpending]
    exact h.awaited co' status n (hsub co' status hst) hn
  · intro n pending hp
    rw [hpending] at hp
    rw [hstatus _ (hfree.1 n (h.bound n pending hp) pending hp)]
    exact h.pendingLive n pending hp
  · intro timer hmem co' hcallback
    rw [htimers] at hmem
    have hne : co' ≠ co := by
      rintro rfl
      exact hfree.2 timer hmem hcallback
    rw [hstatus co' hne]
    exact h.timerLive timer hmem co' hcallback

lemma start (vm : Instance) (request : Request) (hco : c.coroutines co = none) :
    Wakeable (c.start co vm request) := by
  have hnone : c.statusOf co = none := by simp [CallState.statusOf, hco]
  have hself : (c.start co vm request).statusOf co = some .running := by
    simp [CallState.statusOf, CallState.start]
  have hother : ∀ co', co' ≠ co → (c.start co vm request).statusOf co' = c.statusOf co' := by
    intro co' hne
    simp [CallState.statusOf, CallState.start, hne]
  have hlive : ∀ co', (c.statusOf co').isSome → co' ≠ co := by
    rintro co' hlive rfl
    rw [hnone] at hlive
    cases hlive
  have hfree : Unreferenced c co := by
    refine ⟨?_, ?_⟩
    · intro n _ pending hp
      exact hlive _ (h.pendingLive n pending hp)
    · intro timer hmem hcallback
      exact hlive co (h.timerLive timer hmem co hcallback) rfl
  refine ⟨h.toLinked.start vm request hfree, ?_, ?_, ?_⟩
  · intro co' status n hst hn
    by_cases hne : co' = co
    · rw [hne, hself] at hst
      cases hst
      exact hn.elim
    · rw [hother co' hne] at hst
      exact h.awaited co' status n hst hn
  · intro n pending hp
    have hold := h.pendingLive n pending hp
    rwa [hother _ (hlive _ hold)]
  · intro timer hmem co' hcallback
    have hold := h.timerLive timer hmem co' hcallback
    rwa [hother co' (hlive co' hold)]

lemma suspendForCall (id target : ServiceId) (driver : Option Instance)
    (hco : c.statusOf co = some .running) : Wakeable (c.suspendForCall co id target driver) := by
  have hself := CallState.statusOf_setStatus_self (.registered c.nextCallSession target) hco
  refine ⟨h.toLinked.suspendForCall id target driver hco, ?_, ?_, ?_⟩
  · intro co' status n hst hn
    by_cases hne : co' = co
    · have heq := (hne ▸ hst).symm.trans hself
      cases heq
      cases hn
      exact ⟨{ callerCo := co, callerService := id }, Function.update_self _ _ _, hne.symm⟩
    · have hold : c.statusOf co' = some status :=
        (CallState.statusOf_setStatus_ne c _ hne).symm.trans hst
      obtain ⟨pending, hp, hcaller⟩ := h.awaited co' status n hold hn
      refine ⟨pending, ?_, hcaller⟩
      have hlt := h.bound n pending hp
      exact (Function.update_of_ne hlt.ne _ _).trans hp
  · intro n pending hp
    by_cases hn : n = c.nextCallSession
    · simp only [CallState.suspendForCall, hn, Function.update_self, Option.some.injEq] at hp
      subst hp
      exact Option.isSome_of_eq_some hself
    · simp only [CallState.suspendForCall, Function.update_of_ne hn] at hp
      exact isSome_setStatus _ _ hco (h.pendingLive n pending hp)
  · intro timer hmem co' hcallback
    exact isSome_setStatus _ co' hco (h.timerLive timer hmem co' hcallback)

lemma armSleep (id : ServiceId) (target : Option Instance)
    (hco : c.statusOf co = some .running) : Wakeable (c.armSleep co id target) := by
  have harmed : Wakeable (c.setStatus co .armed) :=
    h.setStatus .armed hco (fun n hn => hn.elim) (h.toLinked.armSleep id none hco)
  cases target with
  | none => exact harmed
  | some a =>
    refine ⟨h.toLinked.armSleep id (some a) hco, harmed.awaited, harmed.pendingLive, ?_⟩
    intro timer hmem co' hcallback
    rcases List.mem_cons.mp hmem with rfl | hmem
    · cases hcallback
      exact Option.isSome_of_eq_some (CallState.statusOf_setStatus_self .armed hco)
    · exact harmed.timerLive timer hmem co' hcallback

lemma wake {timer : ActorTimer} (htimer : timer ∈ c.timers)
    (hcallback : timer.callback = .resume co) :
    Wakeable ((if timer.repeating then c else c.removeTimer timer.id).resumeSleeper co).1 := by
  have hlinked := h.toLinked.wake htimer hcallback
  have hremoved : Wakeable (if timer.repeating then c else c.removeTimer timer.id) := by
    split
    · exact h
    · exact h.mono rfl rfl rfl (fun _ hmem => .inl (List.mem_of_mem_filter hmem))
  unfold CallState.resumeSleeper at hlinked ⊢
  split
  · rename_i wait vm hresumable
    rw [hresumable] at hlinked
    obtain ⟨k, hk, hstatus, -⟩ := CallState.resumable_eq_some.mp hresumable
    have hst : (if timer.repeating then c else c.removeTimer timer.id).statusOf co =
        some (.suspended wait) := by
      simp [CallState.statusOf, hk, hstatus]
    exact hremoved.setStatus .running hst (fun n hn => hn.elim) hlinked
  · exact hremoved

lemma ended (k : Coroutine) (source : Source) (outcome : Outcome V)
    (hco : c.statusOf co = some .running) : Wakeable (ended c co k source outcome) := by
  refine h.drop (h.toLinked.unreferenced_of_running hco) ?_ ?_ rfl rfl rfl
  · simp [CallState.statusOf, Proofs.ended]
  · intro co' hne
    simp [CallState.statusOf, Proofs.ended, hne]

end

end Wakeable

/-- No resume has found its coroutine not suspended. -/
def WakesSuspended (log : List (CallEvent V)) : Prop :=
  ∀ cause session ok values, .resumeCaller cause session ok values .notSuspended ∉ log

lemma WakesSuspended.cons {log : List (CallEvent V)} (h : WakesSuspended log) {event : CallEvent V}
    (hevent : ∀ cause session ok values, event ≠ .resumeCaller cause session ok values .notSuspended) :
    WakesSuspended (event :: log) := by
  intro cause session ok values hmem
  rcases List.mem_cons.mp hmem with heq | hmem
  · exact hevent cause session ok values heq.symm
  · exact h cause session ok values hmem

variable {c : CallState V}

lemma wakeable_resumeCaller (h : Wakeable c) (hlog : WakesSuspended c.log) (cause : Cause)
    {session : Nat} (ok : Bool) (values : List V) (hyielded : ∀ pending ∈ c.pendingCalls session,
      (c.statusOf pending.callerCo).any inTransit = false) :
    Wakeable (c.resumeCaller cause session ok values).1 ∧
      WakesSuspended (c.resumeCaller cause session ok values).1.log := by
  refine ⟨h.resumeCaller cause ok values hyielded, ?_⟩
  rw [CallState.resumeCaller_log]
  apply hlog.cons
  intro _ _ _ _ heq
  injection heq with _ _ _ _ hrecipient
  exact h.recipientOf_ne hyielded hrecipient

lemma wakeable_finish (h : Wakeable c) (hlog : WakesSuspended c.log) {co : Nat} (source : Source)
    (outcome : Outcome V) (hco : c.statusOf co = some .running)
    (hyielded : ∀ values cause session, outcome = .returned values →
      completes c co source = some (cause, session) → ∀ pending ∈ c.pendingCalls session,
        (c.statusOf pending.callerCo).any inTransit = false) :
    Wakeable (c.finish co source outcome).1 ∧
      WakesSuspended (c.finish co source outcome).1.log := by
  obtain ⟨k, hk, hstatus⟩ := Option.map_eq_some_iff.mp hco
  have hended := h.ended k source outcome hco
  have hendedLog : WakesSuspended (ended c co k source outcome).log :=
    hlog.cons (fun _ _ _ _ heq => nomatch heq)
  rcases finish_cases hk source outcome with
    ⟨values, cause, session, rfl, hcompletes, hfinish⟩ | ⟨-, hfinish⟩
  · rw [hfinish]
    have huntagged : Wakeable (untagged (ended c co k source (.returned values)) co) :=
      hended.mono rfl rfl rfl (fun _ hmem => .inl hmem)
    apply wakeable_resumeCaller huntagged hendedLog
    intro pending hp
    have hne := (h.toLinked.unreferenced_of_running hco).1 session (h.bound session pending hp)
      pending hp
    have hsame : (untagged (ended c co k source (.returned values)) co).statusOf pending.callerCo =
        c.statusOf pending.callerCo := by
      simp [CallState.statusOf, untagged, ended, hne]
    rw [hsame]
    exact hyielded values cause session rfl hcompletes pending hp
  · rw [hfinish]
    exact ⟨hended, hendedLog⟩

theorem wakeable_callMove {s : State V} {l : Label V} (h : Wakeable s.calls)
    (hlog : WakesSuspended s.calls.log) (hgood : Paced s l) (hmove : CallMove s l c) :
    Wakeable c ∧ WakesSuspended c.log := by
  cases hmove with
  | quiet c hquiet =>
    refine ⟨h.mono ?_ hquiet.pendingCalls hquiet.nextCallSession
      (fun timer hmem => .inl (hquiet.timers timer hmem)), ?_⟩
    · funext co
      simp only [CallState.statusOf, hquiet.coroutines]
    · rwa [hquiet.log]
  | start i co vm request hl hco => exact ⟨h.start vm request hco, hlog⟩
  | reject =>
    exact ⟨h.mono rfl rfl rfl (fun _ hmem => .inl hmem), hlog.cons (by simp)⟩
  | addTimer =>
    exact ⟨h.mono rfl rfl rfl mem_addTimer_lua, hlog⟩
  | suspend vm co source id target hruns hmakes hco => exact ⟨h.suspendForCall id target _ hco, hlog⟩
  | arm vm co source id hruns hmakes hco =>
    refine ⟨h.armSleep id _ hco, ?_⟩
    cases s.actorOf id with
    | none | some => exact hlog
  | advance co before after hco hadvance =>
    refine ⟨?_, hlog⟩
    cases hadvance with
    | post | yieldCall =>
      exact h.setStatus _ hco (fun _ hn => hn) (h.toLinked.setStatus _ hco (fun _ _ _ hn => hn) (by simp))
    | yieldSleep =>
      exact h.setStatus _ hco (fun _ hn => hn.elim)
        (h.toLinked.setStatus _ hco (fun _ _ _ hn => hn.elim) (by simp))
  | sendFailure co session target hco hanswers =>
    -- the caller itself is still between the registration and the yield
    obtain ⟨pending, hp, hcaller⟩ := h.awaited co _ session hco rfl
    have htransit := hgood.1 _ hanswers pending hp
    rw [hcaller, hco] at htransit
    cases htransit
  | timeout session hanswers =>
    have hcancelled : Wakeable { s.calls with
        callTimeouts := Function.update s.calls.callTimeouts session none } :=
      h.mono rfl rfl rfl (fun _ hmem => .inl hmem)
    exact wakeable_resumeCaller hcancelled hlog _ _ _ (hgood.1 _ hanswers)
  | finish co source outcome hco hanswers =>
    apply wakeable_finish h hlog source outcome hco
    intro values cause session houtcome hcompletes
    exact hgood.1 (cause, session) ((hanswers values houtcome).trans hcompletes)
  | wake timer co htimer hcallback =>
    refine ⟨h.wake htimer hcallback, ?_⟩
    obtain ⟨_, _, heq, -⟩ := wake_fst s.calls timer co
    rwa [heq]
  | collect co wait hl =>
    have hfree : Unreferenced s.calls co := hgood.2 co (by rw [hl]; rfl)
    refine ⟨h.drop hfree ?_ ?_ rfl rfl rfl, hlog⟩
    · simp [CallState.statusOf]
    · intro co' hne
      simp [CallState.statusOf, hne]

lemma wakeable_init : Wakeable ({} : CallState V) := by
  refine ⟨linked_init, ?_, ?_, ?_⟩ <;> simp [CallState.statusOf]

def nestedCallStart : List (Label Nat) :=
  spawning "front" ++ spawning "back" ++
    [.command 0 (.send "front" (some [])), .receive 0 (.function (some 3)),
      .coroutine (.actor 0) (.call "back"), .coroutine (.actor 0) (.post [])]

def lostWakeupRun : List (Label Nat) :=
  nestedCallStart ++ [.receive 1 (.function (some 4)), .api (.actor 1) (.ret [9]),
    .coroutine (.actor 0) .yield]

end

variable {V : Type} {s next : State V} {l : Label V} {c c' : CallState V}

/-- The invocation has taken the pending call of the session. -/
def takesCall (session : Nat) : CallEvent V → Bool
  | .resumeCaller _ n _ _ (.coroutine _) | .resumeCaller _ n _ _ .notSuspended => n == session
  | _ => false

/-- What happens to the pending calls: a new one, a `resume_caller` on behalf of a response, a
timeout, a sweep or a failed send at any time, and what leaves them alone. -/
inductive PendingMove (c : CallState V) : CallState V → Prop where
  | suspend (co id target driver) : PendingMove c (c.suspendForCall co id target driver)
  | resume (cause session ok values) : PendingMove c (c.resumeCaller cause session ok values).1
  | other (c' : CallState V) (hpending : c'.pendingCalls = c.pendingCalls)
    (hnext : c'.nextCallSession = c.nextCallSession)
    (hlog : ∀ n, c'.log.countP (takesCall n) = c.log.countP (takesCall n)) : PendingMove c c'

lemma pendingMoves_of_callMove (h : CallMove s l c) :
    Relation.ReflTransGen PendingMove s.calls c := by
  have hstatus : ∀ {c : CallState V} co status, PendingMove c (c.setStatus co status) :=
    fun _ _ => .other _ rfl rfl fun _ => rfl
  have hended : ∀ co k source outcome, PendingMove s.calls (ended s.calls co k source outcome) :=
    fun _ _ _ _ => .other _ rfl rfl fun _ => List.countP_cons_of_neg (by simp [takesCall])
  cases h with
  | quiet c hquiet =>
    exact .single (.other _ hquiet.pendingCalls hquiet.nextCallSession fun _ => by rw [hquiet.log])
  | start | addTimer | collect => exact .single (.other _ rfl rfl fun _ => rfl)
  | reject =>
    exact .single (.other _ rfl rfl fun _ => List.countP_cons_of_neg (by simp [takesCall]))
  | suspend => exact .single (.suspend _ _ _ _)
  | arm vm co source id =>
    cases s.actorOf id with
    | none | some => exact .single (.other _ rfl rfl fun _ => rfl)
  | advance => exact .single (hstatus _ _)
  | sendFailure => exact .tail (.single (hstatus _ _)) (.resume _ _ _ _)
  | timeout session =>
    refine .tail (.single (.other { s.calls with
      callTimeouts := Function.update s.calls.callTimeouts session none } rfl rfl fun _ => rfl)) ?_
    exact .resume _ _ _ _
  | finish co source outcome hco =>
    refine finish_rule (P := Relation.ReflTransGen PendingMove s.calls) source outcome hco
      (fun _ _ => .single (hended _ _ _ _)) ?_
    intro d cause session values hd
    have huntagged : PendingMove d (untagged d co) := .other _ rfl rfl fun _ => rfl
    exact .tail (.tail hd huntagged) (.resume _ _ _ _)
  | wake timer co =>
    obtain ⟨_, _, heq, -⟩ := wake_fst s.calls timer co
    rw [heq]
    exact .single (.other _ rfl rfl fun _ => rfl)

/-- The pending calls of every run of the manager move in these ways. -/
lemma pendingMoves_of_run {labels : List (Label V)} (h : run State.step {} labels = some s) :
    Relation.ReflTransGen PendingMove {} s.calls := by
  have hstep : ∀ (s : State V) (l : Label V) (next : State V),
      Relation.ReflTransGen PendingMove {} s.calls → s.step l = some next →
        Relation.ReflTransGen PendingMove {} next.calls :=
    fun s l next hs hstep => hs.trans (pendingMoves_of_callMove (step_moved hstep).calls)
  exact reachable_invariant State.step hstep .refl h

/-- How often the pending call of the session was taken, and one more while it is there. -/
def callCount (c : CallState V) (n : Nat) : Nat :=
  c.log.countP (takesCall n) + if (c.pendingCalls n).isSome then 1 else 0

lemma takesCall_recipientOf (c : CallState V) (cause : Cause) (session : Nat) (ok : Bool)
    (values : List V) (n : Nat) :
    takesCall n (.resumeCaller cause session ok values (c.recipientOf session)) =
      (session == n && !c.pendingSyncCalls session && (c.pendingCalls session).isSome) := by
  unfold CallState.recipientOf
  cases hsync : c.pendingSyncCalls session with
  | true => simp [takesCall]
  | false =>
    cases hpending : c.pendingCalls session with
    | none => simp [takesCall]
    | some pending =>
      cases hresumable : c.resumable pending.callerCo with
      | none | some => simp [takesCall, hresumable]

lemma callCount_resumeCaller (c : CallState V) (cause : Cause) (session : Nat) (ok : Bool)
    (values : List V) (n : Nat) :
    callCount (c.resumeCaller cause session ok values).1 n = callCount c n := by
  rw [callCount, CallState.resumeCaller_log, CallState.resumeCaller_pendingCalls, List.countP_cons,
    takesCall_recipientOf, callCount]
  cases hsync : c.pendingSyncCalls session with
  | true => simp
  | false =>
    by_cases hn : n = session
    · cases hcall : c.pendingCalls session <;> simp [hn, hcall]
    · simp [hn, Ne.symm hn]

lemma callCount_move (hmove : PendingMove c c') {n : Nat}
    (h : callCount c n ≤ if n < c.nextCallSession then 1 else 0) :
    callCount c' n ≤ if n < c'.nextCallSession then 1 else 0 := by
  cases hmove with
  | suspend co id target driver =>
    by_cases hn : n = c.nextCallSession
    · subst hn
      simp_all [callCount, CallState.suspendForCall, CallState.setStatus]
    · have hlt : n < c.nextCallSession + 1 ↔ n < c.nextCallSession := by omega
      simpa [callCount, CallState.suspendForCall, CallState.setStatus, hn, hlt] using h
  | resume => simpa [callCount_resumeCaller]
  | other c' hpending hnext hlog => rwa [callCount, hlog, hpending, hnext]

/-- In every order of invocations the pending call of a session is taken at most once, and a later
invocation is dropped exactly if no synchronous call waits under the same number. -/
theorem caller_resumed_once (h : Relation.ReflTransGen PendingMove {} c) :
    (∀ n, c.log.countP (takesCall n) ≤ 1) ∧
      ∀ cause n ok values, 0 < c.log.countP (takesCall n) →
        (c.resumeCaller cause n ok values =
            (c.record (.resumeCaller cause n ok values .nobody), none) ↔
          c.pendingSyncCalls n = false) := by
  have hcount : ∀ n, callCount c n ≤ 1 := by
    intro n
    have hinv : callCount c n ≤ if n < c.nextCallSession then 1 else 0 := by
      induction h with
      | refl => exact Nat.zero_le _
      | tail _ hmove ih => exact callCount_move hmove ih
    split at hinv <;> omega
  refine ⟨fun n => (Nat.le_add_right _ _).trans (hcount n), ?_⟩
  intro cause n ok values htaken
  have hnone : c.pendingCalls n = none := by
    have hle := hcount n
    unfold callCount at hle
    split at hle
    · omega
    · simp_all
  cases hsync : c.pendingSyncCalls n with
  | false => simp [CallState.resumeCaller, hsync, hnone]
  | true =>
    refine iff_of_false (fun heq => ?_) (by simp)
    have hlog := congrArg (fun out => out.1.log) heq
    simp [CallState.resumeCaller, hsync, CallState.record] at hlog

def lateResponseRun : List (Label Nat) :=
  spawning "front" ++ spawning "back" ++
    [.command 0 (.send "front" (some [])), .receive 0 (.function (some 3)),
      .coroutine (.actor 0) (.call "back"), .coroutine (.actor 0) (.post []),
      .coroutine (.actor 0) .yield, .cont (.actor 0), .cont (.actor 0), .tickTimeout 1,
      .receive 1 (.function (some 4)), .receive 0 .missing, .api (.actor 0) (.ret []),
      .command 0 (.call "front" (some [])), .api (.actor 1) (.ret [9])]

/-- The call of `front` has timed out; the late response goes to the thread that called `front`. -/
theorem late_response_completes_sync_call :
    run State.step {} lateResponseRun = some (reached lateResponseRun) ∧
      .resumeCaller (.timeout 1) 1 false [] (.coroutine (.call 1)) ∈
        (reached lateResponseRun).calls.log ∧
      (reached lateResponseRun).calls.syncResults 1 = some (true, [9]) :=
  ⟨rfl, by decide, rfl⟩

theorem caller_resumed_once_late :
    (reached lateResponseRun).calls.log.countP (takesCall 1) = 1 ∧
      ((reached lateResponseRun).calls.resumeCaller (.timeout 1) 1 false []).2 = none := by
  have hrun : run State.step {} lateResponseRun = some (reached lateResponseRun) := rfl
  have hlate := (caller_resumed_once (pendingMoves_of_run hrun)).2 (.timeout 1) 1 false [] (by decide)
  exact ⟨by decide, by rw [hlate.mpr rfl]⟩

/-- A handler that ends without an answer has no session left. -/
def ClearsTags (s : State V) (l : Label V) : Prop :=
  ∀ co ∈ unanswered s l, s.calls.handlerCallSession co = none

instance (s : State V) (l : Label V) : Decidable (ClearsTags s l) :=
  inferInstanceAs (Decidable (∀ co ∈ unanswered s l, _))

/-- Every session tag belongs to the coroutine of the request with this session. -/
def TagsLive (c : CallState V) : Prop :=
  ∀ co session, c.handlerCallSession co = some session → ∃ vm request n,
    c.handlerOf co = some (vm, request, n) ∧ request ≠ .send ∧ request.session = session

lemma tagsLive_handlerMove (h : TagsLive s.calls) (hclears : ClearsTags s l)
    (hmove : HandlerMove s l c) : TagsLive c := by
  -- a coroutine is gone together with its tag
  have hgone : ∀ co, c.handlerCallSession co = none →
      (∀ co', c.handlerOf co' = if co' = co then none else s.calls.handlerOf co') →
      (∀ co', co' ≠ co → c.handlerCallSession co' = s.calls.handlerCallSession co') → TagsLive c := by
    intro co hnone hhandler htag co' session hsession
    have hne : co' ≠ co := by
      rintro rfl
      simp [hnone] at hsession
    rw [hhandler, if_neg hne]
    exact h co' session (htag co' hne ▸ hsession)
  cases hmove with
  | same c hsame =>
    intro co session hsession
    rw [hsame.handlerCallSession] at hsession
    rw [hsame.handlerOf]
    exact h co session hsession
  | start i co vm request hl hco =>
    intro co' session hsession
    by_cases hne : co' = co
    · subst hne
      by_cases hzero : request.session = 0
      · obtain ⟨vm', request', n, hold, -⟩ := h co' session (by simpa [CallState.start, hzero] using hsession)
        simp [CallState.handlerOf, hco] at hold
      · refine ⟨vm, request, _, by simp [CallState.handlerOf, CallState.start]; rfl, ?_, ?_⟩
        · rintro rfl
          exact hzero rfl
        · simpa [CallState.start, hzero] using hsession
    · have hold : s.calls.handlerCallSession co' = some session := by
        simp only [CallState.start] at hsession
        split at hsession
        · simpa [hne] using hsession
        · exact hsession
      simpa [CallState.handlerOf, CallState.start, hne] using h co' session hold
  | reject => exact h
  | finish co k source outcome hk hstatus hunanswered =>
    obtain ⟨hhandler, htag, -⟩ := finish_handlers hk source outcome
    refine hgone co ?_ hhandler htag
    rcases finish_cases hk source outcome with
      ⟨values, cause, session, rfl, -, hfinish⟩ | ⟨hnot, hfinish⟩
    · simp [hfinish, untagged]
    · rw [hfinish]
      exact hclears co (hunanswered hnot)
  | collect co c hhandler htag hnext hlog hunanswered =>
    refine hgone co ?_ hhandler fun _ _ => by rw [htag]
    rw [htag]
    exact hclears co hunanswered

/-- In a run that ends no tagged coroutine without a look at its session, every tag belongs to the
live handler of its own request, so that no handler answers the request of another. -/
theorem session_tags_live {labels : List (Label V)} (hclears : Admits State.step ClearsTags {} labels)
    (hrun : run State.step {} labels = some s) :
    TagsLive s.calls ∧ ∀ l n request session, answers s l = some (.handler n request, session) →
      request ≠ .send ∧ request.session = session := by
  have hstep : ∀ (s : State V) (l : Label V) (next : State V), TagsLive s.calls → ClearsTags s l →
      s.step l = some next → TagsLive next.calls := by
    intro s l next h hclears hstep
    exact tagsLive_handlerMove h hclears (handlerMove (step_moved hstep).calls)
  have hinit : TagsLive ({} : CallState V) := by
    intro co session hsession
    cases hsession
  have hlive := run_invariant State.step hstep hinit hclears hrun
  refine ⟨hlive, ?_⟩
  intro l n request session hanswers
  obtain ⟨co, source, hcompletes⟩ := answers_handler hanswers
  cases hk : s.calls.coroutines co with
  | none => simp [completes, hk] at hcompletes
  | some k =>
    obtain ⟨⟨⟩, htag, -⟩ := completes_eq_some hk hcompletes
    obtain ⟨vm, request, n, hhandler, hrequest⟩ := hlive co session htag
    simp only [CallState.handlerOf, hk, Option.map_some, Option.some.injEq,
      Prod.mk.injEq] at hhandler
    obtain ⟨rfl, rfl, rfl⟩ := hhandler
    exact hrequest

def reusedAddressRun : List (Label Nat) :=
  spawning "echo" ++
    [.command 0 (.call "echo" (some [7])), .receive 0 (.function (some 3)),
      .api (.actor 0) (.raise false), .cont (.actor 0), .api (.actor 0) (.ret []),
      .cont (.actor 0), .cont (.actor 0), .command 1 (.send "echo" (some [])),
      .receive 0 (.function (some 3)), .coroutine (.actor 0) .sleep, .coroutine (.actor 0) .yield,
      .cont (.actor 0), .cont (.actor 0), .tick 1, .receive 0 .missing, .api (.actor 0) (.ret [9])]

/-- The handler of the call has failed and left its tag. A plain message is handled at the same
address, and once its handler has slept, the caller gets what it returns. -/
theorem stale_tag_answers :
    run State.step {} reusedAddressRun = some (reached reusedAddressRun) ∧
      (reached (reusedAddressRun.take 8)).calls.handlerCallSession 3 = some 1 ∧
      (reached (reusedAddressRun.take 8)).calls.coroutines 3 = none ∧
      .resumeCaller (.handler 1 .send) 1 true [9] (.syncCaller 1) ∈
        (reached reusedAddressRun).calls.log :=
  ⟨rfl, rfl, rfl, by decide⟩

theorem session_tags_live_echo :
    Admits State.step ClearsTags {} echoRun ∧ TagsLive (reached echoRun).calls := by
  have hclears : Admits State.step ClearsTags {} echoRun := by decide
  have hrun : run State.step {} echoRun = some (reached echoRun) := rfl
  exact ⟨hclears, (session_tags_live hclears hrun).1⟩

end ShieldRuntime.Proofs
