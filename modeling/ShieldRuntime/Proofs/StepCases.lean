import ShieldRuntime.Lua.Step

/-!
# The steps one by one

Every way in which a step can go, with the checks that it has passed and the state that it leads to.
-/

namespace ShieldRuntime.Proofs

open Lua

variable {V : Type}

/-- The name passes the checks of `spawn`. -/
structure MaySpawn (s : State V) (name : ServiceId) : Prop where
  running : s.registry.stopping = false
  free : s.registry.contains name = false
  valid : validName name = true

/-- The target has an actor to send to. -/
structure MaySend (s : State V) (target : String) (a : Instance) : Prop where
  running : s.registry.stopping = false
  actor : s.registry.targetActor target = some a

/-- The target is another service that has an actor. -/
structure MayCall (s : State V) (frames : List Frame) (target : String) (a : Instance) : Prop where
  running : s.registry.stopping = false
  service : (s.registry.services (s.registry.queryService target)).isSome = true
  other : currentServiceId frames ≠ s.registry.queryService target
  actor : s.registry.serviceActors (s.registry.queryService target) = some a

section

variable (s : State V) (t : Thread) (vm : Instance) (co : Nat) (source : Source) (entry : Entry)
  (rest : List Frame) (i : Instance) (n : Nat)

inductive CoroutineCase : CoroutineOp V → State V → Prop where
  | call (target) (hco : s.calls.statusOf co = some .running) (hexit : isInExit rest = false)
    (hcallee : s.registry.queryService target ≠ "") :
    CoroutineCase (.call target) ({ s with
      calls := s.calls.suspendForCall co (currentServiceId rest)
        (s.registry.queryService target) (s.actorOf (currentServiceId rest)) }.attributed vm
          (currentServiceId rest))
  | post (args session target a) (hco : s.calls.statusOf co = some (.registered session target))
    (htarget : s.registry.targetActor target = some a) :
    CoroutineCase (.post args)
      { s with
        actors := s.actors.post a (.service (some args) session)
        calls := s.calls.setStatus co (.posted session) }
  | postFails (args session target) (hco : s.calls.statusOf co = some (.registered session target))
    (hnone : s.registry.targetActor target = none) :
    CoroutineCase (.post args)
      (s.resumed t (.lua vm (.handler co source) :: rest) .response
        ((s.calls.setStatus co .running).resumeCaller (.sendFailure session) session false []))
  | sleep (hco : s.calls.statusOf co = some .running) :
    CoroutineCase .sleep
      { s with
        calls := s.calls.armSleep co (currentServiceId rest) (s.actorOf (currentServiceId rest))
        trace := .slept co (s.actorOf (currentServiceId rest)).isSome ::
          .attributed vm (currentServiceId rest) :: s.trace }
  | yieldCall (session) (hco : s.calls.statusOf co = some (.posted session)) :
    CoroutineCase .yield
      ({ s with calls := s.calls.setStatus co (.suspended (.call session)) }.setStack t rest)
  | yieldSleep (hco : s.calls.statusOf co = some .armed) :
    CoroutineCase .yield
      ({ s with calls := s.calls.setStatus co (.suspended .sleep) }.setStack t rest)

inductive ApiCase : ApiOp V → State V → Prop where
  | syncCall (target args a) (hexit : isInExit rest = false)
    (hcall : MayCall s (.lua vm entry :: rest) target a) :
    ApiCase (.syncCall target args) ({ s with
      calls := s.calls.registerSync
      actors := s.actors.post a (.syncCall args s.calls.nextSyncCallSession) }.setStack t
        (.cpp (.syncWait s.calls.nextSyncCallSession) :: .lua vm entry :: rest))
  | send (target args a) (hsend : MaySend s target a) :
    ApiCase (.send target args)
      { s with actors := s.actors.post a (.service args 0) }
  | spawn (name) (hspawn : MaySpawn s name) :
    ApiCase (.spawn name)
      (s.setStack t (.cpp (.spawnCreate name) :: .lua vm entry :: rest))
  | exit :
    ApiCase .exit
      ((s.attributed vm (currentServiceId rest)).setStack t
        (.lua vm entry :: requestCurrentExit rest))
  | register (name) (howner : currentServiceId rest ≠ "") (hvalid : validName name = true)
    (hfree : ∀ owner, s.registry.publishedNames name = some owner →
      owner = currentServiceId rest) :
    ApiCase (.register name) ({ s with
      registry := s.registry.registerName (currentServiceId rest) name }.attributed vm
        (currentServiceId rest))
  | unregister (name) (howned : s.registry.publishedNames name = some (currentServiceId rest)) :
    ApiCase (.unregister name) ({ s with
      registry := s.registry.unregisterName (currentServiceId rest) name }.attributed vm
        (currentServiceId rest))
  | timer (repeating a) (hlimit : s.calls.timers.length < timerLimit)
    (ha : s.actorOf (currentServiceId rest) = some a) :
    ApiCase (.timer repeating) ({ s with
      calls := s.calls.addTimer (currentServiceId rest) a (.lua vm) repeating }.attributed vm
        (currentServiceId rest))
  | noTimer (repeating) (hlimit : s.calls.timers.length < timerLimit)
    (hnone : s.actorOf (currentServiceId rest) = none) :
    ApiCase (.timer repeating) (s.attributed vm (currentServiceId rest))
  | cancelTimer (id) : ApiCase (.cancelTimer id) { s with calls := s.calls.removeTimer id }
  | fork (a)
    (hlimit : s.tasks.countP (fun task => task.serviceId = currentServiceId rest) < forkLimit)
    (hid : currentServiceId rest ≠ "")
    (ha : s.registry.serviceActors (currentServiceId rest) = some a) :
    ApiCase .fork ({ s with
      tasks := { id := s.nextTaskId, serviceId := currentServiceId rest, vm } :: s.tasks
      nextTaskId := s.nextTaskId + 1
      actors := s.actors.post a (.forkTask s.nextTaskId) }.attributed vm (currentServiceId rest))
  | noFork (n : Nat)
    (hlimit : s.tasks.countP (fun task => task.serviceId = currentServiceId rest) < forkLimit)
    (hnone : s.actorOf (currentServiceId rest) = none)
    (hn : n = s.nextTaskId ∨ n = s.nextTaskId + 1) :
    ApiCase .fork
      ({ s with nextTaskId := n }.attributed vm (currentServiceId rest))
  | ret (values) :
    ApiCase (.ret values)
      (s.afterLua t vm entry rest (.returned values) false)
  | raise (late) : ApiCase (.raise late) (s.afterLua t vm entry rest .raised late)

inductive CppCase : Cont → State V → Prop where
  | endDispatch (id) (hgoesOn : (currentScope rest).any
      (fun frame => frame.exitRequested && frame.serviceId == id) = false) :
    CppCase (.endDispatch id) (s.setStack t rest)
  | endDispatchExit (id) (hrequested : (currentScope rest).any
      (fun frame => frame.exitRequested && frame.serviceId == id) = true) :
    CppCase (.endDispatch id) (s.setStack t (.cpp (.exit id) :: rest))
  | resetErrorCount (id) :
    CppCase (.resetErrorCount id)
      ({ s with registry := s.registry.setErrorCount id 0 }.setStack t rest)
  | noErrorHook (id) (hnone : s.registry.services id = none) :
    CppCase (.invokeErrorHook id) (s.setStack t rest)
  | invokeErrorHook (id) (vm : Instance) (hservice : s.registry.services id = some vm) :
    CppCase (.invokeErrorHook id) ({ s with
      registry := s.registry.setErrorCount id (s.registry.errorCounts id + 1) }.setStack t
        (.lua vm (.onError id) :: rest))
  | noExit (id) (hnone : s.registry.services id = none) : CppCase (.exit id) (s.setStack t rest)
  | exit (id) (vm : Instance) (hservice : s.registry.services id = some vm) :
    CppCase (.exit id) (s.setStack t
      (.lua vm (.onExit id) :: .scope { serviceId := id, inExit := true } :: rest))
  | exitTimers (id) :
    CppCase (.exitTimers id) ({ s with
      calls := { s.calls with
        timers := s.calls.timers.filter fun timer => timer.serviceId ≠ id } }.setStack t
          (.cpp (.exitTimeouts id) :: rest))
  | exitTimeouts (id) :
    CppCase (.exitTimeouts id) ({ s with
      calls := { s.calls with
        callTimeouts := fun session =>
          if (s.calls.pendingCalls session).any
              (fun pending : PendingCall => pending.callerService = id) then none
          else s.calls.callTimeouts session } }.setStack t (.cpp (.exitErase id) :: rest))
  | exitErase (id a) (ha : s.registry.serviceActors id = some a) :
    CppCase (.exitErase id) ({ s with
      registry := s.registry.eraseService id, actors := s.actors.askExit a }.setStack t rest)
  | exitEraseService (id) (hnone : s.registry.serviceActors id = none) :
    CppCase (.exitErase id)
      ({ s with registry := s.registry.eraseService id }.setStack t rest)
  | create (name) :
    CppCase (.spawnCreate name) ({ s with
      actors := s.actors.create name
      registry := s.registry.emplaceActor name s.actors.nextInstance }.setStack t
        (.lua s.actors.nextInstance .onInit :: .scope { serviceId := name } :: rest))
  | conflict (i : Instance) (name exitAfterInit) (htaken : s.registry.contains name = true) :
    CppCase (.spawnPublish i name exitAfterInit) ({ s with
      registry := s.registry.eraseActor name
      actors := s.actors.stop i }.setStack t rest)
  | publish (i : Instance) (name exitAfterInit) (hfree : s.registry.contains name = false) :
    CppCase (.spawnPublish i name exitAfterInit)
      ({ s with registry := s.registry.publish name i }.setStack t
        (.cpp (.spawnReady i name exitAfterInit) :: rest))
  | ready (i : Instance) (name exitAfterInit) :
    CppCase (.spawnReady i name exitAfterInit)
      ({ s with actors := s.actors.setReady i }.setStack t
        (if exitAfterInit then .cpp (.exit name) :: rest else rest))
  | shutdownEnd (seen) :
    CppCase (.shutdown [] seen)
      ({ s with registry := { s.registry with serviceOrder := [] } }.setStack t rest)
  | shutdownExit (id order seen) (hlive : id ∉ seen ∧ (s.registry.services id).isSome = true) :
    CppCase (.shutdown (id :: order) seen) (s.setStack t
      (.cpp (.exit id) :: .cpp (.shutdown order (id :: seen)) :: rest))
  | shutdownSkip (id order seen) (hskip : ¬ (id ∉ seen ∧ (s.registry.services id).isSome = true)) :
    CppCase (.shutdown (id :: order) seen)
      (s.setStack t (.cpp (.shutdown order (id :: seen)) :: rest))

def Receives (a : Actors V) (i : Instance) : Prop := a.ready i = true ∧ a.stopped i = false

def taken (s : State V) (i : Instance) (rest : List (Mail V)) : State V :=
  { s with actors := { s.actors with mailbox := Function.update s.actors.mailbox i rest } }

inductive Asks : Mail V → Request → Option (List V) → Prop where
  | service (args session) : Asks (.service args session) (State.serviceRequest session) args
  | syncCall (args session) : Asks (.syncCall args session) (State.syncRequest session) args

inductive Rejection : MethodLookup → Option (List V) → Completion V → Prop where
  | notLoaded (args) : Rejection .notLoaded args .notLoaded
  | methodMissing (args) : Rejection .missing args .methodMissing
  | notFunction (args) : Rejection .notFunction args .notFunction
  | argsNotArray (co : Option Nat) : Rejection (.function co) none .argsNotArray

/-- The mail's service, timer or task is gone. -/
def Stale (s : State V) (i : Instance) : Mail V → Prop
  | .service _ _ | .syncCall _ _ => s.registry.services (s.actors.serviceOf i) = none
  | .timerFire timerId => s.calls.timers.find? (fun timer => timer.id = timerId) = none
  | .callTimeout _ => False
  | .forkTask taskId => s.tasks.find? (fun task => task.id = taskId) = none

inductive MailCase : MethodLookup → Mail V → State V → Prop where
  | dropped (look mail) (hstale : Stale s i mail) : MailCase look mail s
  | rejected (look mail request args how) (hasks : Asks mail request args)
    (hrejection : Rejection look args how) :
    MailCase look mail
      ({ s with calls := s.calls.reject request how }.setStack (.actor i)
        [.cpp (.endDispatch (s.actors.serviceOf i)),
          .scope { serviceId := s.actors.serviceOf i }])
  | fallback (mail request args) (vm : Instance) (hasks : Asks mail request (some args))
    (hservice : s.registry.services (s.actors.serviceOf i) = some vm) :
    MailCase (.function none) mail
      (s.setStack (.actor i) [.lua vm (.fallback request),
        .cpp (.endDispatch (s.actors.serviceOf i)),
          .scope { serviceId := s.actors.serviceOf i }])
  | start (mail request args) (vm : Instance) (co : Nat) (hasks : Asks mail request (some args))
    (hservice : s.registry.services (s.actors.serviceOf i) = some vm)
    (hco : s.calls.coroutines co = none) :
    MailCase (.function (some co)) mail
      ({ s with calls := s.calls.start co vm request }.setStack (.actor i)
        [.lua vm (.handler co (.dispatch (s.actors.serviceOf i))),
          .cpp (.endDispatch (s.actors.serviceOf i)),
            .scope { serviceId := s.actors.serviceOf i }])
  | wake (look timerId timer) (co : Nat)
    (hfind : s.calls.timers.find? (fun timer => timer.id = timerId) = some timer)
    (hcallback : timer.callback = .resume co) :
    MailCase look (.timerFire timerId) (s.resumed (.actor i) [] .sleepTimer
      ((if timer.repeating then s.calls else s.calls.removeTimer timerId).resumeSleeper co))
  | fire (look timerId timer) (vm : Instance)
    (hfind : s.calls.timers.find? (fun timer => timer.id = timerId) = some timer)
    (hcallback : timer.callback = .lua vm) :
    MailCase look (.timerFire timerId) ({ s with
      calls := if timer.repeating then s.calls else s.calls.removeTimer timerId }.setStack
        (.actor i)
        [.lua vm (.timer (s.actors.serviceOf i)), .scope { serviceId := s.actors.serviceOf i }])
  | callTimeout (look session) : MailCase look (.callTimeout session) (s.callTimeout i session)
  | forked (look taskId task) (hfind : s.tasks.find? (fun task => task.id = taskId) = some task) :
    MailCase look (.forkTask taskId)
      ({ s with tasks := s.tasks.filter fun other => other.id ≠ taskId }.setStack (.actor i)
        [.lua task.vm (.fork task.serviceId), .scope { serviceId := task.serviceId }])

inductive CommandCase : Command V → State V → Prop where
  | spawn (name) (hspawn : MaySpawn s name) :
    CommandCase (.spawn name) (s.setStack (.external n) [.cpp (.spawnCreate name)])
  | exit (id) : CommandCase (.exit id) (s.setStack (.external n) [.cpp (.exit id)])
  | shutdownAll :
    CommandCase .shutdownAll
      ({ s with registry := { s.registry with stopping := true } }.setStack (.external n)
        [.cpp (.shutdown s.registry.serviceOrder.reverse [])])
  | call (target args a) (hcall : MayCall s [] target a) :
    CommandCase (.call target args) ({ s with
      calls := s.calls.registerSync
      actors := s.actors.post a (.syncCall args s.calls.nextSyncCallSession) }.setStack
        (.external n) [.cpp (.syncWait s.calls.nextSyncCallSession)])
  | send (target args a) (hsend : MaySend s target a) :
    CommandCase (.send target args) { s with actors := s.actors.post a (.service args 0) }

/-- Every way a step can go, by its label. -/
inductive StepCase : Label V → State V → Prop where
  | coroutine (t : Thread) (vm : Instance) (co : Nat) (source : Source) (rest : List Frame)
    (op next) (hstack : s.stack t = .lua vm (.handler co source) :: rest)
    (h : CoroutineCase s t vm co source rest op next) : StepCase (.coroutine t op) next
  | api (t : Thread) (vm : Instance) (entry : Entry) (rest : List Frame) (op next)
    (hstack : s.stack t = .lua vm entry :: rest) (hcan : s.canAct entry = true)
    (h : ApiCase s t vm entry rest op next) : StepCase (.api t op) next
  | cpp (t : Thread) (cont) (rest : List Frame) (next) (hstack : s.stack t = .cpp cont :: rest)
    (h : CppCase s t rest cont next) : StepCase (.cont t) next
  | scope (t : Thread) (frame) (rest : List Frame) (hstack : s.stack t = .scope frame :: rest) :
    StepCase (.cont t) (s.setStack t rest)
  | receive (i : Instance) (look mail mails next) (hreceives : Receives s.actors i)
    (hstack : s.stack (.actor i) = []) (hmailbox : s.actors.mailbox i = mail :: mails)
    (h : MailCase (taken s i mails) i look mail next) : StepCase (.receive i look) next
  | tick (timerId timer)
    (hfind : s.calls.timers.find? (fun timer => timer.id = timerId) = some timer) :
    StepCase (.tick timerId)
      { s with actors := s.actors.post timer.target (.timerFire timerId) }
  | tickTimeout (session a) (ha : s.calls.callTimeouts session = some a) :
    StepCase (.tickTimeout session) { s with
      actors := s.actors.post a (.callTimeout session)
      calls := { s.calls with
        callTimeouts := Function.update s.calls.callTimeouts session none } }
  | wake (t : Thread) (session) (rest : List Frame)
    (hstack : s.stack t = .cpp (.syncWait session) :: rest)
    (hresult : (s.calls.syncResults session).isSome = true) :
    StepCase (.wake t) ({ s with calls := s.calls.releaseSync session }.setStack t rest)
  | giveUp (t : Thread) (session) (rest : List Frame)
    (hstack : s.stack t = .cpp (.syncWait session) :: rest)
    (hresult : (s.calls.syncResults session).isSome = false) :
    StepCase (.giveUp t) ({ s with calls := s.calls.releaseSync session }.setStack t rest)
  | command (n : Nat) (command next) (hstack : s.stack (.external n) = [])
    (h : CommandCase s n command next) : StepCase (.command n command) next
  | terminate (i : Instance) (hexiting : s.actors.exiting i = true)
    (hstack : s.stack (.actor i) = []) :
    StepCase (.terminate i) { s with actors := s.actors.stop i }
  | collect (co : Nat) (k wait) (hk : s.calls.coroutines co = some k)
    (hwait : k.status = .suspended wait)
    (hgone : s.registry.services (s.actors.serviceOf k.vm) ≠ some k.vm) :
    StepCase (.collect co) { s with
      calls := { s.calls with coroutines := Function.update s.calls.coroutines co none } }
  | loadFails (t : Thread) (name) (rest : List Frame)
    (hstack : s.stack t = .cpp (.spawnCreate name) :: rest) :
    StepCase (.loadFails t) (s.setStack t rest)

end

variable {s next : State V} {l : Label V} {t : Thread} {frames rest : List Frame} {target : String}
  {args : Option (List V)} {vm i : Instance} {entry : Entry} {op : ApiOp V} {cont : Cont}
  {look : MethodLookup}

lemma spawn_eq_some {name : ServiceId} (h : s.spawn t frames name = some next) :
    MaySpawn s name ∧ next = s.setStack t (.cpp (.spawnCreate name) :: frames) := by
  unfold State.spawn at h
  split at h
  · cases h
  rename_i hchecks
  simp only [Bool.or_eq_true, not_or, Bool.not_eq_true, Bool.not_eq_false'] at hchecks
  obtain ⟨⟨hrunning, hfree⟩, hvalid⟩ := hchecks
  exact ⟨⟨hrunning, hfree, hvalid⟩, (Option.some.inj h).symm⟩

lemma send_eq_some (h : s.send target args = some next) :
    ∃ a, MaySend s target a ∧ next = { s with actors := s.actors.post a (.service args 0) } := by
  unfold State.send at h
  split at h
  · cases h
  rename_i hrunning
  split at h
  · rename_i a ha
    exact ⟨a, ⟨Bool.not_eq_true _ ▸ hrunning, ha⟩, (Option.some.inj h).symm⟩
  · cases h

lemma call_eq_some (h : s.call t frames target args = some next) :
    ∃ a, MayCall s frames target a ∧ next = { s with
      calls := s.calls.registerSync
      actors := s.actors.post a (.syncCall args s.calls.nextSyncCallSession) }.setStack t
        (.cpp (.syncWait s.calls.nextSyncCallSession) :: frames) := by
  unfold State.call at h
  dsimp only at h
  split at h
  · cases h
  rename_i hchecks
  simp only [Bool.or_eq_true, not_or, Bool.not_eq_true, beq_eq_false_iff_ne] at hchecks
  obtain ⟨⟨hrunning, hservice⟩, hother⟩ := hchecks
  split at h
  · rename_i a ha
    exact ⟨a, ⟨hrunning, by simpa [Option.isSome_iff_ne_none] using hservice, hother, ha⟩,
      (Option.some.inj h).symm⟩
  · cases h

lemma coroutineOp_case {co : Nat} {source : Source} {op : CoroutineOp V}
    (h : s.coroutineOp t vm co source rest op = some next) :
    CoroutineCase s t vm co source rest op next := by
  revert h
  fun_cases State.coroutineOp s t vm co source rest op <;> rintro ⟨⟩
  · rename_i hchecks
    exact .call _ hchecks.1 hchecks.2.1 hchecks.2.2
  · unfold State.postCall
    split
    · exact .post _ _ _ _ ‹_› ‹_›
    · exact .postFails _ _ _ ‹_› ‹_›
  · exact .sleep ‹_›
  · exact .yieldCall _ ‹_›
  · exact .yieldSleep ‹_›

lemma fork_case
    (hlimit : s.tasks.countP (fun task => task.serviceId = currentServiceId rest) < forkLimit) :
    ApiCase s t vm entry rest .fork
      ((s.fork vm (currentServiceId rest)).attributed vm (currentServiceId rest)) := by
  fun_cases State.fork s vm (currentServiceId rest) with
  | case1 hid => exact .noFork _ hlimit (if_pos hid) (.inl rfl)
  | case2 hid a ha => exact .fork a hlimit hid ha
  | case3 hid hnone => exact .noFork _ hlimit ((if_neg hid).trans hnone) (.inr rfl)

lemma apiOp_case (h : s.apiOp t vm entry rest op = some next) :
    ApiCase s t vm entry rest op next := by
  revert h
  fun_cases State.apiOp s t vm entry rest op
  case case2 hexit =>
    intro h
    obtain ⟨a, hcall, rfl⟩ := call_eq_some h
    exact .syncCall _ _ a (Bool.not_eq_true _ ▸ hexit) hcall
  case case3 =>
    intro h
    obtain ⟨a, hsend, rfl⟩ := send_eq_some h
    exact .send _ _ a hsend
  case case4 =>
    intro h
    obtain ⟨hspawn, rfl⟩ := spawn_eq_some h
    exact .spawn _ hspawn
  all_goals rintro ⟨⟩
  · exact .exit
  · rename_i hrefused
    simp only [not_or, Bool.not_eq_true, Bool.not_eq_false'] at hrefused
    obtain ⟨howner, hvalid, hfree⟩ := hrefused
    refine .register _ howner hvalid ?_
    intro owner hpublished
    simpa [hpublished] using hfree
  · exact .unregister _ (not_not.mp (not_or.mp ‹_›).2)
  · exact .timer _ _ (not_le.mp ‹_›) ‹_›
  · exact .noTimer _ (not_le.mp ‹_›) ‹_›
  · exact .cancelTimer _
  · exact fork_case (not_le.mp ‹_›)
  · exact .ret _
  · exact .raise _

lemma runCpp_case (h : s.runCpp t cont rest = some next) : CppCase s t rest cont next := by
  revert h
  fun_cases State.runCpp s t cont rest <;> rintro ⟨⟩
  · exact .endDispatchExit _ ‹_›
  · exact .endDispatch _ (Bool.eq_false_of_not_eq_true ‹_›)
  · exact .resetErrorCount _
  · exact .noErrorHook _ ‹_›
  · exact .invokeErrorHook _ _ ‹_›
  · exact .noExit _ ‹_›
  · exact .exit _ _ ‹_›
  · exact .exitTimers _
  · exact .exitTimeouts _
  · split
    · exact .exitErase _ _ ‹_›
    · exact .exitEraseService _ ‹_›
  · exact .create _
  · exact .conflict _ _ _ ‹_›
  · exact .publish _ _ _ (Bool.eq_false_of_not_eq_true ‹_›)
  · exact .ready _ _ _
  · exact .shutdownEnd _
  · exact .shutdownExit _ _ _ ‹_›
  · exact .shutdownSkip _ _ _ ‹_›

lemma dispatchMessage_case {mail : Mail V} {request : Request} (hasks : Asks mail request args)
    (h : s.dispatchMessage i request args look = some next) : MailCase s i look mail next := by
  revert h
  fun_cases State.dispatchMessage s i request args look <;> rintro ⟨⟩
  · cases hasks with
    | service | syncCall => exact .dropped look _ ‹_›
  · exact .rejected _ mail request _ _ hasks (.notLoaded _)
  · exact .rejected _ mail request _ _ hasks (.methodMissing _)
  · exact .rejected _ mail request _ _ hasks (.notFunction _)
  · exact .rejected _ mail request _ _ hasks (.argsNotArray _)
  · exact .fallback mail request _ _ hasks ‹_›
  · exact .start mail request _ _ _ hasks ‹_› (Option.not_isSome_iff_eq_none.mp ‹_›)

lemma fireActorTimer_case (s : State V) (i : Instance) (look : MethodLookup) (timerId : Nat) :
    MailCase s i look (.timerFire timerId) (s.fireActorTimer i timerId) := by
  fun_cases State.fireActorTimer s i timerId with
  | case1 hnone => exact .dropped look _ hnone
  | case2 timer hfind _ co hcallback => exact .wake look timerId timer co hfind hcallback
  | case3 timer hfind _ vm hcallback => exact .fire look timerId timer vm hfind hcallback

lemma runReadyForkTask_case (s : State V) (i : Instance) (look : MethodLookup) (taskId : Nat) :
    MailCase s i look (.forkTask taskId) (s.runReadyForkTask i taskId) := by
  fun_cases State.runReadyForkTask s i taskId with
  | case1 hnone => exact .dropped look _ hnone
  | case2 task hfind => exact .forked look taskId task hfind

lemma receive_case (h : s.receive i look = some next) : StepCase s (.receive i look) next := by
  unfold State.receive at h
  split at h
  case isFalse => cases h
  case isTrue hcan =>
    obtain ⟨hready, hrunning, hidle⟩ := hcan
    split at h
    case h_1 => cases h
    case h_2 mail mails hmailbox =>
      refine .receive i look mail mails next ⟨hready, hrunning⟩ (List.isEmpty_iff.mp hidle)
        hmailbox ?_
      cases mail with
      | service args session => exact dispatchMessage_case (.service args session) h
      | syncCall args session => exact dispatchMessage_case (.syncCall args session) h
      | timerFire timerId =>
        cases h
        exact fireActorTimer_case (taken s i mails) i look timerId
      | callTimeout session =>
        cases h
        exact .callTimeout look session
      | forkTask taskId =>
        cases h
        exact runReadyForkTask_case (taken s i mails) i look taskId

lemma commandStep_case {n : Nat} {command : Command V} (h : s.commandStep n command = some next) :
    s.stack (.external n) = [] ∧ CommandCase s n command next := by
  unfold State.commandStep at h
  split at h
  case isFalse => cases h
  case isTrue hempty =>
    refine ⟨List.isEmpty_iff.mp hempty, ?_⟩
    cases command with
    | spawn name =>
      obtain ⟨hspawn, rfl⟩ := spawn_eq_some h
      exact .spawn name hspawn
    | exit id =>
      cases h
      exact .exit id
    | shutdownAll =>
      cases h
      exact .shutdownAll
    | call target args =>
      obtain ⟨a, hcall, rfl⟩ := call_eq_some h
      exact .call target args a hcall
    | send target args =>
      obtain ⟨a, hsend, rfl⟩ := send_eq_some h
      exact .send target args a hsend

lemma endWait_eq_some {completed : Bool} (h : s.endWait t completed = some next) :
    ∃ session rest, s.stack t = .cpp (.syncWait session) :: rest ∧
      (s.calls.syncResults session).isSome = completed ∧
      next = { s with calls := s.calls.releaseSync session }.setStack t rest := by
  unfold State.endWait at h
  split at h
  · rename_i session rest hstack
    split at h
    · rename_i hresult
      exact ⟨session, rest, hstack, hresult, (Option.some.inj h).symm⟩
    · cases h
  · cases h

theorem step_case (h : s.step l = some next) : StepCase s l next := by
  cases l with
  | coroutine t op =>
    simp only [State.step, State.coroutineStep] at h
    split at h
    · rename_i vm co source rest hstack
      exact .coroutine t vm co source rest op next hstack (coroutineOp_case h)
    · cases h
  | api t op =>
    simp only [State.step, State.apiStep] at h
    split at h
    · rename_i vm entry rest hstack
      split at h
      · rename_i hcan
        exact .api t vm entry rest op next hstack hcan (apiOp_case h)
      · cases h
    · cases h
  | cont t =>
    simp only [State.step, State.contStep] at h
    split at h
    · rename_i cont rest hstack
      exact .cpp t cont rest next hstack (runCpp_case h)
    · rename_i frame rest hstack
      cases h
      exact .scope t frame rest hstack
    · cases h
  | receive => exact receive_case h
  | tick timerId =>
    simp only [State.step, State.tick] at h
    split at h
    · rename_i timer hfind
      cases h
      exact .tick timerId timer hfind
    · cases h
  | tickTimeout session =>
    simp only [State.step, State.tickTimeout] at h
    split at h
    · rename_i a ha
      cases h
      exact .tickTimeout session a ha
    · cases h
  | wake t =>
    obtain ⟨session, rest, hstack, hresult, rfl⟩ := endWait_eq_some h
    exact .wake t session rest hstack hresult
  | giveUp t =>
    obtain ⟨session, rest, hstack, hresult, rfl⟩ := endWait_eq_some h
    exact .giveUp t session rest hstack hresult
  | command n command =>
    obtain ⟨hempty, hcommand⟩ := commandStep_case h
    exact .command n command next hempty hcommand
  | terminate i =>
    simp only [State.step, State.terminate] at h
    split at h
    · rename_i hexit
      cases h
      exact .terminate i hexit.1 (List.isEmpty_iff.mp hexit.2)
    · cases h
  | collect co =>
    simp only [State.step, State.collect] at h
    split at h
    case h_2 => cases h
    case h_1 k hk =>
      split at h
      case h_2 => cases h
      case h_1 wait hwait =>
        split at h
        · rename_i hgone
          cases h
          exact .collect co k wait hk hwait hgone
        · cases h
  | loadFails t =>
    simp only [State.step, State.loadFails] at h
    split at h
    · rename_i name rest hstack
      cases h
      exact .loadFails t name rest hstack
    · cases h

lemma step_api (hstack : s.stack t = .lua vm entry :: rest) (h : s.step (.api t op) = some next) :
    ApiCase s t vm entry rest op next := by
  cases step_case h with
  | api t' vm' entry' rest' op next hstack' hcan hcase =>
    cases hstack.symm.trans hstack'
    exact hcase

lemma step_cpp (hstack : s.stack t = .cpp cont :: rest) (h : s.step (.cont t) = some next) :
    CppCase s t rest cont next := by
  cases step_case h with
  | cpp t' cont' rest' next hstack' hcase =>
    cases hstack.symm.trans hstack'
    exact hcase
  | scope t' frame rest' hstack' => cases hstack.symm.trans hstack'

end ShieldRuntime.Proofs
