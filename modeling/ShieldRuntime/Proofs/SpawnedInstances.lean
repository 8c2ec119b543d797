import ShieldRuntime.Library.NameIndex
import ShieldRuntime.Proofs.DispatchFrames

/-!
# Instances and the spawns that make them

What holds of the instances in every run, whatever the services do. While a thread spawns an
instance or runs a handler coroutine, no other thread does.
-/

namespace ShieldRuntime.Proofs
open Lua Library

section

variable {V : Type} {s next : State V} {l : Label V}

inductive Token where
  | spawn (i : Instance)
  | handler (co : Nat)

def token : Frame → Option Token
  | .lua i .onInit | .cpp (.spawnPublish i _ _) | .cpp (.spawnReady i _ _) => some (.spawn i)
  | .lua _ (.handler co _) => some (.handler co)
  | _ => none

def tokens (frames : List Frame) : List Token := frames.filterMap token

def Token.Fresh (s : State V) : Token → Prop
  | .spawn i => i = s.actors.nextInstance
  | .handler co => ∀ vm, ¬ Active s.calls co vm

lemma tokens_cons (frame : Frame) (rest : List Frame) :
    tokens (frame :: rest) = (token frame).toList ++ tokens rest := by
  unfold tokens
  cases h : token frame with
  | none | some => simp [h]

variable {frame : Frame} {rest frames : List Frame} {t : Thread} {i : Instance}

lemma tokens_skip (h : token frame = none) (rest : List Frame) :
    tokens (frame :: rest) = tokens rest :=
  List.filterMap_cons_none h

lemma tokens_suffix (h : rest <:+ frames) : (tokens rest).Sublist (tokens frames) :=
  h.sublist.filterMap token

lemma token_neutral {cont : Cont} (h : Neutral cont) : token (.cpp cont) = none := by
  cases cont with
  | spawnPublish | spawnReady => exact h.elim
  | _ => rfl

lemma tokens_push {conts : List Cont} (h : ∀ cont ∈ conts, Neutral cont) (rest : List Frame) :
    tokens (conts.map .cpp ++ rest) = tokens rest := by
  induction conts with
  | nil => rfl
  | cons cont conts ih =>
    rw [List.map_cons, List.cons_append, tokens_skip (token_neutral (h cont List.mem_cons_self))]
    exact ih (fun cont hmem => h cont (List.mem_cons_of_mem _ hmem))

lemma tokens_requestCurrentExit (rest : List Frame) :
    tokens (requestCurrentExit rest) = tokens rest := by
  induction rest with
  | nil => rfl
  | cons frame rest ih =>
    cases frame with
    | scope => rfl
    | lua | cpp => simp only [requestCurrentExit, tokens_cons, ih]

lemma tokens_rest (hstack : s.stack t = frame :: rest) :
    (tokens rest).Sublist (tokens (s.stack t)) :=
  tokens_suffix (hstack ▸ List.suffix_cons _ _)

lemma tokens_codeMove (h : CodeMove s l t frames) :
    (tokens frames).Sublist (tokens (s.stack t)) := by
  cases h with
  | shrink conts rest hleft hconts =>
    rw [tokens_push hconts]
    exact tokens_suffix hleft.suffix
  | requestExit vm entry rest hstack =>
    rw [hstack, tokens_cons, tokens_cons, tokens_requestCurrentExit]
  | report vm entry id rest hstack | errorHook id vm rest hstack
  | panic vm id rest hstack =>
    rw [tokens_skip rfl]
    exact tokens_rest hstack
  | exit id vm rest hstack =>
    rw [tokens_skip rfl, tokens_skip rfl]
    exact tokens_rest hstack
  | exitStage top cont id rest hstack hstage =>
    have hcont : token (.cpp cont) = none := by
      cases hstage with
      | _ => rfl
    rw [tokens_skip hcont]
    exact tokens_rest hstack
  | initialised i exitAfterInit rest hstack =>
    rw [hstack, tokens_cons, tokens_cons]
    exact (tokens_suffix (popScope_suffix rest)).cons_cons (.spawn i)
  | published i name exitAfterInit rest hstack =>
    rw [hstack]
    exact List.Sublist.refl _
  | rejected | fallback
  | fired | forked =>
    exact List.nil_sublist _

lemma not_active_of_resumable {c : CallState V} {co : Nat} {wait : Wait} {vm : Instance}
    (h : c.resumable co = some (wait, vm)) (vm' : Instance) : ¬ Active c co vm' := by
  rintro ⟨k, hk, -, hactive⟩
  obtain ⟨k', hk', hstatus, -⟩ := CallState.resumable_eq_some.mp h
  rw [hk] at hk'
  cases hk'
  exact hactive wait hstatus

lemma tokens_stackMove (h : StackMove s l t frames) :
    (tokens frames).Sublist (tokens (s.stack t)) ∨ ∃ x rest, tokens frames = x :: rest ∧
      rest.Sublist (tokens (s.stack t)) ∧ Token.Fresh s x := by
  cases h with
  | code frames hcode => exact .inl (tokens_codeMove hcode)
  | create name rest hstack =>
    have hrest : (tokens rest).Sublist (tokens (s.stack t)) := tokens_rest hstack
    exact .inr ⟨_, _, rfl, hrest, rfl⟩
  | answer cause session co vm source conts rest hanswers hresumee hsource hleft hscope hconts =>
    obtain ⟨-, pending, -, -, wait, hresumable⟩ := CallState.resumee_eq_some hresumee
    have hrest : (tokens (conts.map .cpp ++ rest)).Sublist (tokens (s.stack t)) := by
      rw [tokens_push fun cont hcont => (hconts cont hcont).1]
      exact tokens_suffix hleft.suffix
    exact .inr ⟨_, _, rfl, hrest, not_active_of_resumable hresumable⟩
  | wake i timer co wait vm ht hready hempty htimer hmail hcallback hresumable =>
    exact .inr ⟨_, _, rfl, List.nil_sublist _, not_active_of_resumable hresumable⟩
  | dispatched i vm co ht hready hempty hservice hco =>
    refine .inr ⟨_, _, rfl, List.nil_sublist _, ?_⟩
    rintro vm' ⟨k, hk, -⟩
    rw [hco] at hk
    cases hk

lemma mem_tokens {x : Token} (hmem : frame ∈ frames) (htoken : token frame = some x) :
    x ∈ tokens frames :=
  List.mem_filterMap.mpr ⟨frame, hmem, htoken⟩

lemma mem_tokens_top {x : Token} (hstack : s.stack t = frame :: rest)
    (htoken : token frame = some x) : x ∈ tokens (s.stack t) :=
  mem_tokens (hstack ▸ List.mem_cons_self) htoken

lemma Moved.spawn_held (hmoved : Moved s l next) (hmem : .spawn i ∈ tokens (next.stack t)) :
    .spawn i ∈ tokens (s.stack t) ∨ i = s.actors.nextInstance := by
  by_cases hl : actingThread l = some t
  · rcases tokens_stackMove (hmoved.stack t hl) with hsub | ⟨x, rest, heq, hsub, hfresh⟩
    · exact .inl (hsub.mem hmem)
    rw [heq] at hmem
    rcases List.mem_cons.mp hmem with rfl | hmem
    · exact .inr hfresh
    · exact .inl (hsub.mem hmem)
  · rw [hmoved.others t hl] at hmem
    exact .inl hmem

def Unpublished (i : Instance) (frame : Frame) : Prop :=
  frame = .lua i .onInit ∨ ∃ name exitAfterInit, frame = .cpp (.spawnPublish i name exitAfterInit)

lemma unpublished_token (h : Unpublished i frame) : token frame = some (.spawn i) := by
  rcases h with rfl | ⟨name, exitAfterInit, rfl⟩ <;> rfl

lemma unpublished_stackMove (h : StackMove s l t frames) (hmem : frame ∈ frames)
    (hi : Unpublished i frame) :
    (∃ frame' ∈ s.stack t, Unpublished i frame') ∨ i = s.actors.nextInstance := by
  rcases h.mem hmem with hold | hframe
  · exact .inl ⟨frame, hold, hi⟩
  have htoken := unpublished_token hi
  cases hframe with
  | create =>
    cases htoken
    exact .inr rfl
  | code frame hcode =>
    cases hcode with
    | initialised j exitAfterInit rest hstack =>
      cases htoken
      exact .inl ⟨_, hstack ▸ List.mem_cons_self, .inl rfl⟩
    | neutral cont hcont =>
      rw [token_neutral hcont] at htoken
      cases htoken
    | exitStage top cont id rest hstack hstage =>
      cases hstage with
      | _ => cases htoken
    | published => simp [Unpublished] at hi
    | _ => cases htoken
  | _ => cases htoken

lemma idle_codeMove (hempty : s.stack (.actor i) = []) (hnot : ¬ Receives s.actors i)
    (h : CodeMove s l (.actor i) frames) : frames = [] := by
  have hother : ∀ {j}, Thread.actor i = .actor j → ¬ Receives s.actors j := by
    intro j hj
    cases hj
    exact hnot
  cases h with
  | shrink conts rest hleft =>
    cases hleft with
    | keep => exact hempty
    | push _ hcaller =>
      rcases hcaller with ⟨-, n, hn⟩ | ⟨vm, entry, rest, hstack⟩
      · cases hn
      · simp [hempty] at hstack
    | pop _ _ _ hstack | init _ _ hstack => simp [hempty] at hstack
  | requestExit vm entry rest hstack | report vm entry id rest hstack
  | errorHook id vm rest hstack | panic vm id rest hstack
  | exit id vm rest hstack | exitStage top cont id rest hstack
  | initialised j exitAfterInit rest hstack | published j name exitAfterInit rest hstack =>
    simp [hempty] at hstack
  | rejected j id ht hready | fallback j vm request ht hready
  | fired j timer vm ht hready | forked j task ht hready =>
    exact absurd hready (hother ht)

lemma Moved.idle (hmoved : Moved s l next) (hempty : s.stack (.actor i) = [])
    (hnot : ¬ Receives s.actors i) : next.stack (.actor i) = [] := by
  by_cases hl : actingThread l = some (.actor i)
  · have hmove := hmoved.stack (.actor i) hl
    have hother : ∀ {j}, Thread.actor i = .actor j → ¬ Receives s.actors j := by
      intro j hj
      cases hj
      exact hnot
    generalize next.stack (.actor i) = frames at hmove
    cases hmove with
    | code frames hcode => exact idle_codeMove hempty hnot hcode
    | create name rest hstack => simp [hempty] at hstack
    | answer _ _ _ _ _ _ _ _ _ _ _ _ _ hcaller =>
      rcases hcaller with ⟨-, j, hj, hready⟩ | ⟨vm, entry, rest, hstack⟩
      · exact absurd hready (hother hj)
      · simp [hempty] at hstack
    | wake j timer co wait vm ht hready =>
      exact absurd hready (hother ht)
    | dispatched j vm co ht hready => exact absurd hready (hother ht)
  · rw [hmoved.others _ hl]
    exact hempty

end

variable {V : Type}

def FrameNamed (a : Actors V) : Frame → Prop
  | .lua vm _ => ∃ name, Named a vm name
  | .cpp (.spawnCreate name) => name ≠ ""
  | .cpp (.spawnPublish i name _) | .cpp (.spawnReady i name _) => Named a i name
  | _ => True

/-- All instances that are referred to were spawned, each in one place. -/
structure Spawned (s : State V) : Prop where
  services : ∀ id vm, s.registry.services id = some vm → Named s.actors vm id
  serviceActors : ∀ id a, s.registry.serviceActors id = some a → Named s.actors a id
  frames : ∀ t, ∀ frame ∈ s.stack t, FrameNamed s.actors frame
  coroutines : ∀ co vm, vmOf s.calls co = some vm → ∃ name, Named s.actors vm name
  timers : ∀ timer ∈ s.calls.timers, ∀ vm, timer.callback = .lua vm → ∃ name, Named s.actors vm name
  tasks : ∀ task ∈ s.tasks, ∃ name, Named s.actors task.vm name
  ready : ∀ i, s.actors.ready i = true → ∃ name, Named s.actors i name
  exclusive : Exclusive fun t => tokens (s.stack t)
  running : ∀ t vm co source, .lua vm (.handler co source) ∈ s.stack t → Active s.calls co vm
  spawning : ∀ t i, .spawn i ∈ tokens (s.stack t) → s.actors.ready i = false
  idle : ∀ i, s.actors.ready i = false → s.stack (.actor i) = []
  unpublished : ∀ t i, ∀ frame ∈ s.stack t, Unpublished i frame →
    s.registry.services (s.actors.serviceOf i) ≠ some i

variable {s next : State V} {l : Label V}

lemma frameNamed_mono {a a' : Actors V} (hnames : ∀ i name, Named a i name → Named a' i name)
    {frame : Frame} (h : FrameNamed a frame) : FrameNamed a' frame := by
  cases frame with
  | scope => trivial
  | lua vm =>
    obtain ⟨name, hvm⟩ := h
    exact ⟨name, hnames vm name hvm⟩
  | cpp cont =>
    cases cont with
    | spawnPublish i name | spawnReady i name => exact hnames i name h
    | spawnCreate => exact h
    | _ => trivial

lemma frameNamed_neutral (a : Actors V) {cont : Cont} (h : Neutral cont) :
    FrameNamed a (.cpp cont) := by
  cases cont with
  | spawnPublish | spawnReady => exact h.elim
  | spawnCreate => exact h
  | _ => trivial

lemma Moved.serviceOf_eq (hmoved : Moved s l next) {i : Instance} {name : ServiceId}
    (hname : Named s.actors i name) : next.actors.serviceOf i = s.actors.serviceOf i := by
  rw [(hmoved.named i name hname).serviceOf, hname.serviceOf]

namespace Spawned

variable {t : Thread} {frame : Frame} {rest : List Frame} {i : Instance}

section

variable (h : Spawned s)
include h

lemma top (hstack : s.stack t = frame :: rest) : FrameNamed s.actors frame :=
  h.frames t frame (hstack ▸ List.mem_cons_self)

lemma frames_stackMove (hmoved : Moved s l next) (hmove : StackMove s l t (next.stack t)) :
    ∀ frame ∈ next.stack t, FrameNamed next.actors frame := by
  have hlua : ∀ {vm entry name}, Named s.actors vm name → FrameNamed next.actors (.lua vm entry) :=
    fun hname => ⟨_, hmoved.named _ _ hname⟩
  have hhandler : ∀ {co wait vm source}, s.calls.resumable co = some (wait, vm) →
      FrameNamed next.actors (.lua vm (.handler co source)) := by
    intro co wait vm source hresumable
    obtain ⟨k, hk, -, rfl⟩ := CallState.resumable_eq_some.mp hresumable
    obtain ⟨name, hname⟩ := h.coroutines co k.vm (vmOf_eq hk)
    exact hlua hname
  intro frame hmem
  rcases hmove.mem hmem with hold | hframe
  · exact frameNamed_mono hmoved.named (h.frames t frame hold)
  cases hframe with
  | create name rest hstack hl =>
    rcases hmoved.created t _ hmem with hold | hnew
    · obtain ⟨_, hname⟩ := h.frames t _ hold
      exact absurd hname.spawned (lt_irrefl _)
    · exact ⟨name, hmoved.named_created hstack hl (h.top hstack) hnew⟩
  | answer cause session co vm source hanswers hresumee =>
    obtain ⟨-, pending, -, -, wait, hresumable⟩ := CallState.resumee_eq_some hresumee
    exact hhandler hresumable
  | wake i timer co wait vm ht htimer hmail hcallback hresumable => exact hhandler hresumable
  | dispatched i vm co ht hready hservice => exact hlua (h.services _ vm hservice)
  | code frame hcode =>
    cases hcode with
    | neutral cont hcont => exact frameNamed_neutral _ hcont
    | endDispatch | scope | report => trivial
    | errorHook id vm rest hstack hservice | exit id vm rest hstack hservice =>
      exact hlua (h.services id vm hservice)
    | panic vm id rest hstack =>
      obtain ⟨name, hname⟩ := h.top hstack
      exact hlua hname
    | exitStage top cont id rest hstack hstage =>
      cases hstage with
      | _ => trivial
    | initialised i exitAfterInit rest hstack =>
      obtain ⟨name, hname⟩ := h.top hstack
      exact hmoved.named i _ (hname.serviceOf ▸ hname)
    | published i name exitAfterInit rest hstack => exact hmoved.named i name (h.top hstack)
    | fallback i vm request ht hready hservice => exact hlua (h.services _ vm hservice)
    | fired i timer vm ht htimer hmail hcallback =>
      obtain ⟨name, hname⟩ := h.timers timer htimer vm hcallback
      exact hlua hname
    | forked i task ht htask =>
      obtain ⟨name, hname⟩ := h.tasks task htask
      exact hlua hname

lemma not_mem_rest {x : Token} (hstack : s.stack t = frame :: rest)
    (htoken : token frame = some x) : x ∉ tokens rest := by
  have hnodup := h.exclusive.nodup t
  rw [hstack, tokens_cons, htoken] at hnodup
  exact (List.nodup_cons.mp hnodup).1

lemma spawn_named (hmem : .spawn i ∈ tokens (s.stack t)) : ∃ name, Named s.actors i name := by
  obtain ⟨frame, hframe, htoken⟩ := List.mem_filterMap.mp hmem
  have hnamed := h.frames t frame hframe
  unfold token at htoken
  split at htoken
  · cases htoken
    exact hnamed
  · cases htoken
    exact ⟨_, hnamed⟩
  · cases htoken
    exact ⟨_, hnamed⟩
  · cases htoken
  · cases htoken

lemma running_token {co : Nat} (hmem : .handler co ∈ tokens (s.stack t)) :
    ∃ vm, Active s.calls co vm := by
  obtain ⟨frame, hframe, htoken⟩ := List.mem_filterMap.mp hmem
  unfold token at htoken
  split at htoken
  · cases htoken
  · cases htoken
  · cases htoken
  · cases htoken
    exact ⟨_, h.running t _ _ _ hframe⟩
  · cases htoken

lemma not_mem_fresh {x : Token} (hfresh : Token.Fresh s x) (t : Thread) :
    x ∉ tokens (s.stack t) := by
  intro hmem
  cases x with
  | spawn i =>
    obtain ⟨name, hname⟩ := h.spawn_named hmem
    have hlt := hname.spawned
    rw [show i = s.actors.nextInstance from hfresh] at hlt
    exact lt_irrefl _ hlt
  | handler =>
    obtain ⟨vm, hactive⟩ := h.running_token hmem
    exact hfresh vm hactive

variable (hmoved : Moved s l next)
include hmoved

lemma gone {top : Frame} (hl : actingThread l = some t)
    (hstack : s.stack t = top :: rest) (htoken : token top = some (.spawn i))
    (hrest : next.stack t <:+ rest) (t' : Thread) : .spawn i ∉ tokens (next.stack t') := by
  intro hmem
  by_cases ht : t' = t
  · subst ht
    exact h.not_mem_rest hstack htoken ((tokens_suffix hrest).mem hmem)
  · rw [hmoved.others t' (by simpa [hl] using Ne.symm ht)] at hmem
    exact ht (h.exclusive.owner t' t _ hmem (mem_tokens_top hstack htoken))

lemma exclusive_moved : Exclusive fun t => tokens (next.stack t) := by
  cases hl : actingThread l with
  | none =>
    have hsame : next.stack = s.stack := by
      funext t
      exact hmoved.others t (by simp [hl])
    rw [hsame]
    exact h.exclusive
  | some t =>
    have hothers : ∀ t', t' ≠ t → tokens (next.stack t') = tokens (s.stack t') := by
      intro t' ht'
      rw [hmoved.others t' (by simpa [hl] using ht'.symm)]
    rcases tokens_stackMove (hmoved.stack t hl) with hsub | ⟨x, rest, heq, hsub, hfresh⟩
    · exact h.exclusive.release hothers hsub
    · exact h.exclusive.acquire hothers heq hsub (h.not_mem_fresh hfresh)

lemma running_moved (t : Thread) (vm : Instance) (co : Nat) (source : Source)
    (hmem : .lua vm (.handler co source) ∈ next.stack t) : Active next.calls co vm := by
  rcases hmoved.entered t vm co source hmem with hold | hactive
  · rcases hmoved.released co vm (h.running t vm co source hold) with
      hkept | ⟨t', vm', source', rest, ht', hstack, hrest⟩
    · exact hkept
    · -- the thread that lets go of the coroutine holds no other frame of it
      have hthread : t = t' :=
        h.exclusive.owner t t' (.handler co) (mem_tokens hold rfl) (mem_tokens_top hstack rfl)
      subst hthread
      exact absurd (mem_tokens (hrest vm source hmem) rfl) (h.not_mem_rest hstack rfl)
  · exact hactive

lemma spawning_moved (t : Thread) (i : Instance)
    (hmem : .spawn i ∈ tokens (next.stack t)) : next.actors.ready i = false := by
  have hheld := hmoved.spawn_held hmem
  by_contra hready
  rw [Bool.not_eq_false] at hready
  rcases hmoved.ready i hready with hold | ⟨t', name, exitAfterInit, rest, ht', hstack, hrest⟩
  · rcases hheld with hheld | rfl
    · rw [h.spawning t i hheld] at hold
      cases hold
    · obtain ⟨name, hname⟩ := h.ready _ hold
      exact lt_irrefl _ hname.spawned
  · have htop : .spawn i ∈ tokens (s.stack t') := mem_tokens_top hstack rfl
    rcases hheld with hheld | rfl
    · have hthread : t = t' := h.exclusive.owner t t' _ hheld htop
      subst hthread
      obtain ⟨frame, hframe, htoken⟩ := List.mem_filterMap.mp hmem
      rcases hrest frame hframe with hframe | rfl
      · exact h.not_mem_rest hstack rfl (mem_tokens hframe htoken)
      · cases htoken
    · exact h.not_mem_fresh (x := .spawn s.actors.nextInstance) rfl t' htop

lemma idle_moved (i : Instance)
    (hready : next.actors.ready i = false) : next.stack (.actor i) = [] := by
  have hbefore : s.actors.ready i = false := by
    by_contra hne
    rw [Bool.not_eq_false] at hne
    rw [hmoved.readyMono i hne] at hready
    cases hready
  apply hmoved.idle (h.idle i hbefore)
  rintro ⟨hready, -⟩
  rw [hbefore] at hready
  cases hready

lemma unpublished_moved (t : Thread)
    (i : Instance) (frame : Frame) (hmem : frame ∈ next.stack t) (hi : Unpublished i frame) :
    next.registry.services (next.actors.serviceOf i) ≠ some i := by
  intro hservice
  rcases hmoved.services _ i hservice with hold | ⟨t', exitAfterInit, rest, -, hstack, hnext⟩
  · have hname := h.services _ i hold
    have hbefore : (∃ frame' ∈ s.stack t, Unpublished i frame') ∨ i = s.actors.nextInstance := by
      by_cases hl : actingThread l = some t
      · exact unpublished_stackMove (hmoved.stack t hl) hmem hi
      · rw [hmoved.others t hl] at hmem
        exact .inl ⟨frame, hmem, hi⟩
    rcases hbefore with ⟨frame', hmem', hi'⟩ | rfl
    · apply h.unpublished t i frame' hmem' hi'
      rw [hname.serviceOf]
      exact hold
    · exact lt_irrefl _ hname.spawned
  · -- the spawn that has just published the instance is the only one of it
    have hready : .spawn i ∈ tokens (next.stack t') := mem_tokens_top hnext rfl
    have hthread : t = t' := (h.exclusive_moved hmoved).owner t t' (.spawn i)
      (mem_tokens hmem (unpublished_token hi)) hready
    rw [hthread, hnext] at hmem
    rcases List.mem_cons.mp hmem with rfl | hmem
    · simp [Unpublished] at hi
    · exact h.not_mem_rest hstack rfl (mem_tokens hmem (unpublished_token hi))

end

end Spawned

lemma Spawned.timers_moved (h : Spawned s) (hmoved : Moved s l next) (timer : ActorTimer)
    (htimer : timer ∈ next.calls.timers) (vm : Instance) (hcallback : timer.callback = .lua vm) :
    ∃ name, Named next.actors vm name := by
  have hold : timer ∈ s.calls.timers → ∃ name, Named next.actors vm name := by
    intro hmem
    obtain ⟨name, hname⟩ := h.timers timer hmem vm hcallback
    exact ⟨name, hmoved.named _ _ hname⟩
  rcases timers_callMove hmoved.calls with ⟨htimers, -⟩ | ⟨new, hnew, htimers, -⟩
  · exact hold (htimers timer htimer)
  rw [htimers] at htimer
  rcases List.mem_cons.mp htimer with rfl | hmem
  · obtain ⟨vm', entry, ⟨t, rest, hstack, -⟩, -, hlua | ⟨co, source, hresume, -⟩⟩ := hnew.callback
    · rw [hlua] at hcallback
      cases hcallback
      obtain ⟨name, hname⟩ := h.top hstack
      exact ⟨name, hmoved.named _ _ hname⟩
    · rw [hresume] at hcallback
      cases hcallback
  · exact hold hmem

theorem spawned_moved (h : Spawned s) (hmoved : Moved s l next) : Spawned next where
  services := hmoved.services_named h.services fun _ _ _ _ _ hstack => h.top hstack
  serviceActors := hmoved.serviceActors_named h.serviceActors fun _ _ _ hstack => h.top hstack
  frames t := by
    by_cases hl : actingThread l = some t
    · exact h.frames_stackMove hmoved (hmoved.stack t hl)
    · rw [hmoved.others t hl]
      exact fun frame hmem => frameNamed_mono hmoved.named (h.frames t frame hmem)
  coroutines := hmoved.coroutines_named h.coroutines h.services
  timers := h.timers_moved hmoved
  tasks task htask := by
    rcases hmoved.tasks task htask with hold | ⟨-, -, -, -, entry, t, rest, hstack, -⟩
    · obtain ⟨name, hname⟩ := h.tasks task hold
      exact ⟨name, hmoved.named _ _ hname⟩
    · obtain ⟨name, hname⟩ := h.top hstack
      exact ⟨name, hmoved.named _ _ hname⟩
  ready := hmoved.ready_named h.ready fun _ _ _ _ _ hstack => h.top hstack
  exclusive := h.exclusive_moved hmoved
  running := h.running_moved hmoved
  spawning := h.spawning_moved hmoved
  idle := h.idle_moved hmoved
  unpublished := h.unpublished_moved hmoved

lemma spawned_init : Spawned ({} : State V) where
  services _ _ h := nomatch h
  serviceActors _ _ h := nomatch h
  frames _ _ h := nomatch h
  coroutines _ _ h := nomatch h
  timers _ h := nomatch h
  tasks _ h := nomatch h
  ready _ h := nomatch h
  exclusive := ⟨fun _ => List.nodup_nil, fun _ _ _ h => nomatch h⟩
  running _ _ _ _ h := nomatch h
  spawning _ _ h := nomatch h
  idle _ _ := rfl
  unpublished _ _ _ h := nomatch h

/-- The instances are as they should be in every state that is reached. -/
theorem spawned_reachable {labels : List (Label V)} (hrun : run State.step {} labels = some s) :
    Spawned s :=
  reachable_invariant State.step (fun _ _ _ h hstep => spawned_moved h (step_moved hstep))
    spawned_init hrun

end ShieldRuntime.Proofs
