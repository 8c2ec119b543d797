import ShieldRuntime.Library.Machine
import ShieldRuntime.Net.SessionStep

/-!
# Admission limits of the listener

An accept that has passed a check holds a place under that limit until it stores its session. `stop`
closes the sessions that it finds in the map.
-/

namespace ShieldRuntime.Proofs
open Library Net

section

variable (config : ListenerConfig) (s : TcpListener)

inductive ListenerCase :
    ListenerLabel → TcpListener → Prop
  -- an accept begins, ends or gives up its connection
  | moved {l phase id rejection} :
    (phase = .idle ∨ phase = .waiting ∨ ∃ ip, phase = .accepted ip ∧ s.listening = true) →
    s.nextSessionId ≤ id →
    ListenerCase l
      { s with accept := phase, nextSessionId := id, lastRejection := rejection }
  | underLimit {ip} : s.accept = .accepted ip →
    ¬(0 < config.maxConnections ∧ config.maxConnections ≤ s.sessions.entries.length) →
    ListenerCase .checkConnections { s with accept := .underLimit ip }
  | admitted {ip} : s.accept = .underLimit ip →
    ¬(0 < config.maxPerIp ∧ (s.ipCounts ip).any (config.maxPerIp ≤ ·) = true) →
    ListenerCase .checkIp { s with accept := .admitted ip }
  | created {ip} : s.accept = .admitted ip →
    ListenerCase .create { s with
      nextSessionId := s.nextSessionId + 1
      accept := .created ⟨s.nextSessionId, ip⟩ }
  | stored {session} : s.accept = .created session →
    ListenerCase .store (s.store session)
  | closed {session} : ListenerCase (.close session) (s.closeSession session)
  | sessionClosed {session} : session ∈ s.closing →
    ListenerCase (.onSessionClose session)
      ({ s with closing := s.closing.erase session }.removeSessionLocked session)
  | kicked {id} : ListenerCase (.kickSession id) (s.kickSession id)
  | stopping : ListenerCase .stop { s with listening := false, stops := s.stops + 1 }
  | cleared : 0 < s.stops → ListenerCase .stopClear s.stopClear
  | takenClosed {session} : session ∈ s.taken →
    ListenerCase (.closeTaken session)
      ({ s with taken := s.taken.erase session }.closeSession session)
  | idTaken : ListenerCase .otherListener { s with nextSessionId := s.nextSessionId + 1 }

end

section

variable {config : ListenerConfig} {s next : TcpListener} {l : ListenerLabel} {ip : String}

lemma checkConnections_case (haccept : s.accept = .accepted ip) :
    ListenerCase config s .checkConnections (s.checkConnections config ip) := by
  unfold TcpListener.checkConnections
  split
  · exact .moved (.inr (.inl rfl)) le_rfl
  · exact .underLimit haccept ‹_›

lemma checkIp_case (haccept : s.accept = .underLimit ip) :
    ListenerCase config s .checkIp (s.checkIp config ip) := by
  unfold TcpListener.checkIp
  split
  · exact .moved (.inr (.inl rfl)) le_rfl
  · exact .admitted haccept ‹_›

theorem listener_case (h : s.step config l = some next) : ListenerCase config s l next := by
  cases l <;> simp only [TcpListener.step] at h
  case start =>
    obtain ⟨-, ⟨⟩⟩ := Option.ite_none_right_eq_some.mp h
    exact .moved (.inr (.inl rfl)) le_rfl
  case accept ip =>
    obtain ⟨⟨-, hlistening⟩, ⟨⟩⟩ := Option.ite_none_right_eq_some.mp h
    exact .moved (.inr (.inr ⟨ip, rfl, hlistening⟩)) le_rfl
  case acceptError =>
    obtain ⟨-, ⟨⟩⟩ := Option.ite_none_right_eq_some.mp h
    exact .moved (.inl rfl) le_rfl
  case checkConnections =>
    split at h <;> cases h
    exact checkConnections_case ‹_›
  case endpointGone =>
    split at h <;> cases h
    exact .moved (.inl rfl) le_rfl
  case checkIp =>
    split at h <;> cases h
    exact checkIp_case ‹_›
  case create =>
    split at h <;> cases h
    exact .created ‹_›
  case createFails =>
    split at h <;> cases h
    exact .moved (.inl rfl) (Nat.le_succ _)
  case store =>
    split at h <;> cases h
    exact .stored ‹_›
  case startSession =>
    split at h <;> cases h
    exact .moved (.inr (.inl rfl)) le_rfl
  case close session =>
    cases h
    exact .closed
  case onSessionClose session =>
    obtain ⟨hmem, ⟨⟩⟩ := Option.ite_none_right_eq_some.mp h
    exact .sessionClosed hmem
  case kickSession id =>
    cases h
    exact .kicked
  case stop =>
    cases h
    exact .stopping
  case stopClear =>
    obtain ⟨hstops, ⟨⟩⟩ := Option.ite_none_right_eq_some.mp h
    exact .cleared hstops
  case closeTaken session =>
    obtain ⟨hmem, ⟨⟩⟩ := Option.ite_none_right_eq_some.mp h
    exact .takenClosed hmem
  case otherListener =>
    cases h
    exact .idTaken

end

def heldSession : AcceptPhase → List Peer
  | .created session => [session]
  | _ => []

def heldPlace : AcceptPhase → Nat
  | .underLimit _ | .admitted _ | .created _ => 1
  | _ => 0

def heldPlaceAt (ip : String) : AcceptPhase → Nat
  | .admitted ip' => if ip' = ip then 1 else 0
  | .created session => if session.ip = ip then 1 else 0
  | _ => 0

def knownSessions (s : TcpListener) : List Peer :=
  s.registered ++ (s.alive ++ (s.closing ++ (s.taken ++ heldSession s.accept)))

/-- A session that was stored and is still held somewhere. -/
def InUse (s : TcpListener) (p : Peer) : Prop :=
  p ∈ s.registered ∨ p ∈ s.alive ∨ p ∈ s.closing ∨ p ∈ s.taken

variable {s : TcpListener} {p session : Peer}

lemma mem_knownSessions : p ∈ knownSessions s ↔ InUse s p ∨ p ∈ heldSession s.accept := by
  simp [knownSessions, InUse, or_assoc]

lemma mem_registered : p ∈ s.registered ↔ s.sessions.lookup p.id = some p.ip := by
  rw [← Option.mem_def, AList.mem_lookup_iff]
  constructor
  · intro h
    obtain ⟨e, he, rfl⟩ := List.mem_map.mp h
    exact he
  · intro h
    exact List.mem_map.mpr ⟨⟨p.id, p.ip⟩, h, rfl⟩

lemma mem_sessions_iff {id : SessionId} :
    id ∈ s.sessions ↔ ∃ ip, s.sessions.lookup id = some ip := by
  rw [← AList.lookup_isSome, Option.isSome_iff_exists]

lemma entries_perm_erase (h : s.sessions.lookup p.id = some p.ip) :
    s.sessions.entries.Perm (⟨p.id, p.ip⟩ :: (s.sessions.erase p.id).entries) := by
  have hmem : p.id ∈ s.sessions.entries.keys := AList.lookup_isSome.mp (by simp [h])
  obtain ⟨ip, front, back, -, hentries, herase⟩ := List.exists_of_kerase hmem
  have hsame : s.sessions.lookup p.id = some ip :=
    AList.mem_lookup_iff.mpr (by simp [hentries])
  have hip : p.ip = ip := Option.some.inj (h.symm.trans hsame)
  subst hip
  rw [show (s.sessions.erase p.id).entries = front ++ back from herase, hentries]
  exact List.perm_middle

lemma removeSessionLocked_eq (s : TcpListener) (session : Peer) :
    s.removeSessionLocked session = { s with
      sessions := s.sessions.erase session.id
      ipCounts := if session.id ∈ s.sessions then TcpListener.releaseIp s.ipCounts session.ip
        else s.ipCounts } := by
  unfold TcpListener.removeSessionLocked
  split
  · rfl
  · rename_i hnone
    have hsame : s.sessions.erase session.id = s.sessions :=
      AList.ext (List.kerase_of_notMem_keys hnone)
    rw [hsame]

lemma closeSession_eq (s : TcpListener) (session : Peer) :
    s.closeSession session = { s with
      alive := s.alive.erase session
      closing := if session ∈ s.alive then session :: s.closing else s.closing } := by
  unfold TcpListener.closeSession
  split
  · rfl
  · rw [List.erase_of_not_mem ‹_›]

lemma kickSession_eq {ip : String} {id : SessionId} (h : s.sessions.lookup id = some ip) :
    s.kickSession id =
      { s with taken := ⟨id, ip⟩ :: s.taken }.removeSessionLocked ⟨id, ip⟩ := by
  simp only [TcpListener.kickSession, h, removeSessionLocked_eq]

lemma mem_registered_remove :
    p ∈ (s.removeSessionLocked session).registered ↔ p ∈ s.registered ∧ p.id ≠ session.id := by
  rw [removeSessionLocked_eq, mem_registered, mem_registered]
  by_cases hid : p.id = session.id
  · have hnone : (s.sessions.erase session.id).lookup p.id = none :=
      hid ▸ AList.lookup_erase p.id s.sessions
    simp [hid, hnone]
  · simp [hid, AList.lookup_erase_ne hid]

lemma inUse_closeSession {taken : List Peer} (htaken : ∀ p ∈ taken, p ∈ s.taken)
    (h : InUse ({ s with taken }.closeSession session) p) : InUse s p := by
  rw [closeSession_eq] at h
  rcases h with h | h | h | h
  · exact .inl h
  · exact .inr (.inl (List.mem_of_mem_erase h))
  · dsimp only at h
    split at h
    · rcases List.mem_cons.mp h with rfl | h
      · exact .inr (.inl ‹_›)
      · exact .inr (.inr (.inl h))
    · exact .inr (.inr (.inl h))
  · exact .inr (.inr (.inr (htaken p h)))

lemma inUse_removeSessionLocked (h : InUse (s.removeSessionLocked session) p) : InUse s p := by
  refine h.imp (fun h => (mem_registered_remove.mp h).1) ?_
  rw [removeSessionLocked_eq]
  exact id

lemma inUse_taken (hreg : session ∈ s.registered)
    (h : InUse { s with taken := session :: s.taken } p) : InUse s p := by
  rcases h with h | h | h | h
  · exact .inl h
  · exact .inr (.inl h)
  · exact .inr (.inr (.inl h))
  · rcases List.mem_cons.mp h with rfl | h
    · exact .inl hreg
    · exact .inr (.inr (.inr h))

lemma inUse_closing (h : InUse { s with closing := s.closing.erase session } p) :
    InUse s p :=
  h.imp_right (Or.imp_right (Or.imp_left List.mem_of_mem_erase))

lemma inUse_stopClear (h : InUse s.stopClear p) : InUse s p := by
  rcases h with h | h | h | h
  · cases h
  · exact .inr (.inl h)
  · exact .inr (.inr (.inl h))
  · exact (List.mem_append.mp h).elim (fun h => .inr (.inr (.inr h))) .inl

/-- The counts are those of the stored sessions and within the limits. -/
structure WithinLimits (config : ListenerConfig) (s : TcpListener) : Prop where
  tally : KeyCounts (fun e => e.2) s.sessions.entries s.ipCounts
  below : ∀ p ∈ knownSessions s, p.id < s.nextSessionId
  address : ∀ p ∈ knownSessions s, ∀ q ∈ knownSessions s, p.id = q.id → p.ip = q.ip
  unstored : ∀ p ∈ heldSession s.accept, p.id ∉ s.sessions
  total : 0 < config.maxConnections →
    s.sessions.entries.length + heldPlace s.accept ≤ config.maxConnections
  perIp : 0 < config.maxPerIp →
    ∀ ip, countOf (fun e => e.2) s.sessions.entries ip + heldPlaceAt ip s.accept ≤ config.maxPerIp

section

variable {config : ListenerConfig} {s : TcpListener} {s' : TcpListener} {ip : String}
  {session : Peer}

lemma WithinLimits.sessions_of_subset (h : WithinLimits config s)
    (hsub : ∀ p ∈ knownSessions s', p ∈ knownSessions s)
    (hid : s.nextSessionId ≤ s'.nextSessionId) :
    (∀ p ∈ knownSessions s', p.id < s'.nextSessionId) ∧
      ∀ p ∈ knownSessions s', ∀ q ∈ knownSessions s', p.id = q.id → p.ip = q.ip := by
  constructor
  · intro p hp
    exact lt_of_lt_of_le (h.below p (hsub p hp)) hid
  · intro p hp q hq
    exact h.address p (hsub p hp) q (hsub q hq)

section

variable (h : WithinLimits config s) (hsessions : s'.sessions = s.sessions)
  (hcounts : s'.ipCounts = s.ipCounts) (hsub : ∀ p ∈ knownSessions s', p ∈ knownSessions s)
  (hid : s.nextSessionId ≤ s'.nextSessionId)
  (hheld : ∀ p ∈ heldSession s'.accept, p ∈ heldSession s.accept)
include h hsessions hcounts hsub hid hheld

lemma WithinLimits.of_same_maps (hplace : 0 < config.maxConnections →
      s.sessions.entries.length + heldPlace s'.accept ≤ config.maxConnections)
    (hplaceAt : 0 < config.maxPerIp → ∀ ip,
      countOf (fun e => e.2) s.sessions.entries ip + heldPlaceAt ip s'.accept ≤ config.maxPerIp) :
    WithinLimits config s' := by
  obtain ⟨hbelow, haddress⟩ := h.sessions_of_subset hsub hid
  refine ⟨?_, hbelow, haddress, ?_, ?_, ?_⟩
  · rw [hsessions, hcounts]
    exact h.tally
  · intro p hp
    rw [hsessions]
    exact h.unstored p (hheld p hp)
  · rw [hsessions]
    exact hplace
  · rw [hsessions]
    exact hplaceAt

lemma WithinLimits.of_released (hplace : heldPlace s'.accept ≤ heldPlace s.accept)
    (hplaceAt : ∀ ip, heldPlaceAt ip s'.accept ≤ heldPlaceAt ip s.accept) :
    WithinLimits config s' := by
  refine h.of_same_maps hsessions hcounts hsub hid hheld ?_ ?_
  · intro hmax
    exact le_trans (Nat.add_le_add_left hplace _) (h.total hmax)
  · intro hmax ip
    exact le_trans (Nat.add_le_add_left (hplaceAt ip) _) (h.perIp hmax ip)

end

lemma WithinLimits.of_inUse (h : WithinLimits config s) (hsessions : s'.sessions = s.sessions)
    (hcounts : s'.ipCounts = s.ipCounts) (haccept : s'.accept = s.accept)
    (hid : s.nextSessionId ≤ s'.nextSessionId) (hsub : ∀ p, InUse s' p → InUse s p) :
    WithinLimits config s' := by
  refine h.of_released hsessions hcounts ?_ hid ?_ ?_ ?_
  · intro p hp
    rw [mem_knownSessions, haccept] at hp
    exact mem_knownSessions.mpr (hp.imp_left (hsub p))
  all_goals simp [haccept]

def HoldsNothing (phase : AcceptPhase) : Prop :=
  heldSession phase = [] ∧ heldPlace phase = 0 ∧ ∀ ip, heldPlaceAt ip phase = 0

lemma WithinLimits.give_up (h : WithinLimits config s) {phase : AcceptPhase} (hnothing : HoldsNothing phase)
    {id : SessionId} (hid : s.nextSessionId ≤ id) (rejection : String) :
    WithinLimits config
      { s with accept := phase, nextSessionId := id, lastRejection := rejection } := by
  obtain ⟨hheld, hplace, hplaceAt⟩ := hnothing
  refine h.of_released rfl rfl ?_ hid ?_ ?_ ?_
  · intro p hp
    rw [mem_knownSessions] at hp ⊢
    simp only [hheld, List.not_mem_nil, or_false] at hp
    exact .inl hp
  · simp [hheld]
  · simp [hplace]
  · simp [hplaceAt]

section

variable (h : WithinLimits config s)
include h

lemma WithinLimits.checkConnections (haccept : s.accept = .accepted ip)
    (hbelow : ¬(0 < config.maxConnections ∧ config.maxConnections ≤ s.sessions.entries.length)) :
    WithinLimits config { s with accept := .underLimit ip } := by
  refine h.of_same_maps rfl rfl ?_ le_rfl ?_ ?_ ?_
  · simp [haccept, knownSessions, TcpListener.registered, heldSession]
  · simp [heldSession]
  · intro hmax
    have : ¬config.maxConnections ≤ s.sessions.entries.length := fun hle => hbelow ⟨hmax, hle⟩
    simp only [heldPlace]
    omega
  · intro hmax other
    simpa [haccept, heldPlaceAt] using h.perIp hmax other

lemma WithinLimits.checkIp (haccept : s.accept = .underLimit ip)
    (hbelow : ¬(0 < config.maxPerIp ∧ (s.ipCounts ip).any (config.maxPerIp ≤ ·) = true)) :
    WithinLimits config { s with accept := .admitted ip } := by
  refine h.of_same_maps rfl rfl ?_ le_rfl ?_ ?_ ?_
  · simp [haccept, knownSessions, TcpListener.registered, heldSession]
  · simp [heldSession]
  · intro hmax
    simpa [haccept, heldPlace] using h.total hmax
  · intro hmax other
    by_cases hip : ip = other
    · subst hip
      -- an address without an entry has no session, one with an entry is below the limit
      have hcount : ¬config.maxPerIp ≤ countOf (fun e => e.2) s.sessions.entries ip := by
        intro hle
        have hne : countOf (fun e => e.2) s.sessions.entries ip ≠ 0 := by omega
        refine hbelow ⟨hmax, ?_⟩
        rw [h.tally ip, if_neg hne]
        simpa using hle
      simp only [heldPlaceAt, if_true]
      omega
    · have := h.perIp hmax other
      simp only [heldPlaceAt, hip, if_false]
      omega

lemma WithinLimits.create (haccept : s.accept = .admitted ip) :
    WithinLimits config { s with
      nextSessionId := s.nextSessionId + 1
      accept := .created ⟨s.nextSessionId, ip⟩ } := by
  have hknown : ∀ p, p ∈ knownSessions { s with
      nextSessionId := s.nextSessionId + 1
      accept := .created ⟨s.nextSessionId, ip⟩ } → p ∈ knownSessions s ∨ p = ⟨s.nextSessionId, ip⟩ := by
    intro p hp
    exact (mem_knownSessions.mp hp).imp (fun hp => mem_knownSessions.mpr (.inl hp))
      List.mem_singleton.mp
  refine ⟨h.tally, ?_, ?_, ?_, ?_, ?_⟩
  · intro p hp
    rcases hknown p hp with hp | rfl
    · exact Nat.lt_succ_of_lt (h.below p hp)
    · exact Nat.lt_succ_self _
  · intro p hp q hq hid
    rcases hknown p hp with hp | rfl <;> rcases hknown q hq with hq | rfl
    · exact h.address p hp q hq hid
    · exact absurd hid (h.below p hp).ne
    · exact absurd hid.symm (h.below q hq).ne
    · rfl
  · intro p hp
    simp only [heldSession, List.mem_singleton] at hp
    subst hp
    intro hmem
    obtain ⟨ip', hlookup⟩ := mem_sessions_iff.mp hmem
    have hreg : (⟨s.nextSessionId, ip'⟩ : Peer) ∈ s.registered := mem_registered.mpr hlookup
    exact lt_irrefl _ (h.below _ (mem_knownSessions.mpr (.inl (.inl hreg))))
  · intro hmax
    simpa [haccept, heldPlace] using h.total hmax
  · intro hmax other
    simpa [haccept, heldPlaceAt] using h.perIp hmax other

lemma WithinLimits.store (haccept : s.accept = .created session) :
    WithinLimits config (s.store session) := by
  have hheld : session ∈ heldSession s.accept := by simp [haccept, heldSession]
  have hentries : (s.sessions.insert session.id session.ip).entries =
      ⟨session.id, session.ip⟩ :: s.sessions.entries :=
    AList.entries_insert_of_notMem (h.unstored session hheld)
  have hsub : ∀ p ∈ knownSessions (s.store session), p ∈ knownSessions s := by
    intro p hp
    simp only [mem_knownSessions, InUse, TcpListener.store, TcpListener.registered, hentries,
      List.map_cons, List.mem_cons, heldSession, List.not_mem_nil, or_false, haccept] at hp ⊢
    tauto
  obtain ⟨hbelow, haddress⟩ := h.sessions_of_subset hsub le_rfl
  refine ⟨?_, hbelow, haddress, ?_, ?_, ?_⟩
  · simp only [TcpListener.store, hentries]
    exact h.tally.add ⟨session.id, session.ip⟩
  · simp [TcpListener.store, heldSession]
  · intro hmax
    have := h.total hmax
    simp only [haccept, heldPlace] at this
    simp only [TcpListener.store, hentries, List.length_cons, heldPlace, add_zero]
    exact this
  · intro hmax ip
    have := h.perIp hmax ip
    simp only [haccept, heldPlaceAt] at this
    simp only [TcpListener.store, hentries, heldPlaceAt, countOf_cons, add_zero]
    exact this

lemma WithinLimits.address_of_known (hsession : session ∈ knownSessions s)
    (hlookup : s.sessions.lookup session.id = some ip) : ip = session.ip :=
  h.address ⟨session.id, ip⟩ (mem_knownSessions.mpr (.inl (.inl (mem_registered.mpr hlookup))))
    session hsession rfl

lemma WithinLimits.removeSessionLocked
    (hsession : ∀ ip, s.sessions.lookup session.id = some ip → ip = session.ip) :
    WithinLimits config (s.removeSessionLocked session) := by
  have hsub : ∀ p ∈ knownSessions (s.removeSessionLocked session), p ∈ knownSessions s := by
    intro p hp
    refine mem_knownSessions.mpr ((mem_knownSessions.mp hp).imp inUse_removeSessionLocked ?_)
    rw [removeSessionLocked_eq]
    exact id
  obtain ⟨hbelow, haddress⟩ := h.sessions_of_subset hsub (by rw [removeSessionLocked_eq])
  unfold TcpListener.removeSessionLocked at hbelow haddress ⊢
  split
  swap
  · exact h
  rename_i hmem
  rw [if_pos hmem] at hbelow haddress
  obtain ⟨ip, hlookup⟩ := mem_sessions_iff.mp hmem
  obtain rfl := hsession ip hlookup
  have hperm := entries_perm_erase hlookup
  have hlength := hperm.length_eq
  refine ⟨?_, hbelow, haddress, ?_, ?_, ?_⟩
  · have hcounted := h.tally.counted hperm
    simp only [TcpListener.releaseIp, hcounted]
    exact h.tally.lower hperm hcounted
  · intro p hp hp'
    exact h.unstored p hp (AList.mem_erase.mp hp').2
  · intro hmax
    have := h.total hmax
    simp only [List.length_cons] at hlength
    dsimp only
    omega
  · intro hmax ip
    have := h.perIp hmax ip
    rw [countOf_perm _ hperm, countOf_cons] at this
    dsimp only
    omega

lemma WithinLimits.closeSession (session : Peer) {taken : List Peer}
    (htaken : ∀ p ∈ taken, p ∈ s.taken) :
    WithinLimits config ({ s with taken }.closeSession session) := by
  refine h.of_inUse ?_ ?_ ?_ ?_ fun _ => inUse_closeSession htaken
  all_goals rw [closeSession_eq]

lemma WithinLimits.kickSession (id : SessionId) : WithinLimits config (s.kickSession id) := by
  cases hlookup : s.sessions.lookup id with
  | none =>
    rw [TcpListener.kickSession, hlookup]
    exact h
  | some ip =>
    -- the session is noted for `close` first, then it leaves the maps
    rw [kickSession_eq hlookup]
    have hreg : (⟨id, ip⟩ : Peer) ∈ s.registered := mem_registered.mpr hlookup
    have hnoted : WithinLimits config { s with taken := ⟨id, ip⟩ :: s.taken } :=
      h.of_inUse rfl rfl rfl le_rfl fun _ => inUse_taken hreg
    exact hnoted.removeSessionLocked fun ip' hip' => Option.some.inj (hip'.symm.trans hlookup)

lemma WithinLimits.stopClear : WithinLimits config s.stopClear := by
  have hsub : ∀ p ∈ knownSessions s.stopClear, p ∈ knownSessions s := fun p hp =>
    mem_knownSessions.mpr ((mem_knownSessions.mp hp).imp_left inUse_stopClear)
  obtain ⟨hbelow, haddress⟩ := h.sessions_of_subset hsub le_rfl
  refine ⟨?_, hbelow, haddress, ?_, ?_, ?_⟩
  · exact KeyCounts.nil
  · simp [TcpListener.stopClear]
  · intro hmax
    have := h.total hmax
    simp only [TcpListener.stopClear, AList.empty_entries, List.length_nil]
    omega
  · intro hmax ip
    have := h.perIp hmax ip
    simp only [TcpListener.stopClear, AList.empty_entries, countOf_nil]
    omega

lemma WithinLimits.onSessionClose (hmem : session ∈ s.closing) :
    WithinLimits config
      ({ s with closing := s.closing.erase session }.removeSessionLocked session) := by
  have herased : WithinLimits config { s with closing := s.closing.erase session } :=
    h.of_inUse rfl rfl rfl le_rfl fun _ => inUse_closing
  exact herased.removeSessionLocked fun ip hlookup =>
    h.address_of_known (mem_knownSessions.mpr (.inl (.inr (.inr (.inl hmem))))) hlookup

theorem WithinLimits.step {l : ListenerLabel} {next : TcpListener}
    (hstep : s.step config l = some next) : WithinLimits config next := by
  cases listener_case hstep with
  | moved hphase hid =>
    refine h.give_up ?_ hid _
    rcases hphase with rfl | rfl | ⟨ip, rfl, -⟩ <;> exact ⟨rfl, rfl, fun _ => rfl⟩
  | underLimit haccept hbelow => exact h.checkConnections haccept hbelow
  | admitted haccept hbelow => exact h.checkIp haccept hbelow
  | created haccept => exact h.create haccept
  | stored haccept => exact h.store haccept
  | closed => exact h.closeSession _ fun _ hp => hp
  | sessionClosed hmem => exact h.onSessionClose hmem
  | kicked => exact h.kickSession _
  | stopping => exact h.of_inUse rfl rfl rfl le_rfl fun _ hp => hp
  | cleared => exact h.stopClear
  | takenClosed => exact h.closeSession _ fun _ => List.mem_of_mem_erase
  | idTaken => exact h.of_inUse rfl rfl rfl (Nat.le_succ _) fun _ hp => hp

end

end

lemma withinLimits_initial (config : ListenerConfig) (listening : Bool) :
    WithinLimits config { listening } where
  tally := KeyCounts.nil
  below := by simp [knownSessions, TcpListener.registered, heldSession]
  address := by simp [knownSessions, TcpListener.registered, heldSession]
  unstored := by simp [heldSession]
  total := by simp [heldPlace]
  perIp := by simp [heldPlaceAt]

lemma countOf_entries (s : TcpListener) (ip : String) :
    countOf (fun e => e.2) s.sessions.entries ip = countOf Peer.ip s.registered ip := by
  simp only [countOf, TcpListener.registered, List.countP_map]
  rfl

/-- The count of every address is the number of its registered sessions, with no entry for an
address without one, and neither limit is ever exceeded. -/
theorem listener_admission_limits (config : ListenerConfig) (listening : Bool)
    (ls : List ListenerLabel) (s : TcpListener)
    (hrun : run (TcpListener.step config) { listening } ls = some s) :
    (∀ ip, s.ipCounts ip =
      if countOf Peer.ip s.registered ip = 0 then none
      else some (countOf Peer.ip s.registered ip)) ∧
    (0 < config.maxConnections → s.registered.length ≤ config.maxConnections) ∧
    (0 < config.maxPerIp → ∀ ip, countOf Peer.ip s.registered ip ≤ config.maxPerIp) := by
  have h : WithinLimits config s := reachable_invariant (TcpListener.step config)
    (fun _ _ _ hinv hstep => hinv.step hstep) (withinLimits_initial config listening) hrun
  refine ⟨?_, ?_, ?_⟩
  · intro ip
    rw [← countOf_entries]
    exact h.tally ip
  · intro hmax
    have := h.total hmax
    simp only [TcpListener.registered, List.length_map]
    omega
  · intro hmax ip
    have := h.perIp hmax ip
    rw [countOf_entries] at this
    omega

def kickedRun : List ListenerLabel :=
  [.start, .accept "10.0.0.1", .checkConnections, .checkIp, .create, .store, .startSession,
    .accept "10.0.0.1", .checkConnections, .checkIp, .accept "10.0.0.2", .checkConnections,
    .checkIp, .kickSession 1, .create, .store, .closeTaken ⟨1, "10.0.0.1"⟩,
    .onSessionClose ⟨1, "10.0.0.1"⟩]

/-- The second connection of the address is turned away, and the session that is kicked and then
closed is counted down once. -/
theorem listener_admission_limits_kicked :
    ∃ s, run (TcpListener.step { maxConnections := 2, maxPerIp := 1 }) { listening := true }
        kickedRun = some s ∧
      s.lastRejection = "ip_limit" ∧ s.registered = [⟨2, "10.0.0.2"⟩] ∧
      s.ipCounts "10.0.0.1" = none ∧ countOf Peer.ip s.registered "10.0.0.2" ≤ 1 := by
  refine ⟨_, rfl, rfl, rfl, ?_⟩
  have h := listener_admission_limits { maxConnections := 2, maxPerIp := 1 } true kickedRun _ rfl
  exact ⟨h.1 "10.0.0.1", h.2.2 (by decide) "10.0.0.2"⟩

def isUnstored : AcceptPhase → Bool
  | .accepted _ | .underLimit _ | .admitted _ | .created _ => true
  | _ => false

/-- Every session that is alive can still be closed. -/
structure Accounted (s : TcpListener) : Prop where
  nodup : s.alive.Nodup
  closed : ∀ p ∈ s.closing, p ∉ s.alive
  kept : ∀ p ∈ s.alive, p ∈ s.registered ∨ p ∈ s.taken
  fresh : ∀ p ∈ heldSession s.accept, ∀ q,
    q ∈ s.registered ∨ q ∈ s.alive ∨ q ∈ s.closing ∨ q ∈ s.taken → q.id ≠ p.id
  stopping : 0 < s.stops → s.listening = false

/-- No session is left, and none can come. -/
structure Stopped (s : TcpListener) : Prop where
  listening : s.listening = false
  stored : isUnstored s.accept = false
  empty : s.registered = []

section

variable {config : ListenerConfig} {s next : TcpListener} {l : ListenerLabel}

lemma Accounted.of_accept (h : Accounted s) {phase : AcceptPhase} {id : SessionId}
    {rejection : String} (hfresh : ∀ p ∈ heldSession phase, ∀ q,
      q ∈ s.registered ∨ q ∈ s.alive ∨ q ∈ s.closing ∨ q ∈ s.taken → q.id ≠ p.id) :
    Accounted { s with accept := phase, nextSessionId := id, lastRejection := rejection } :=
  { h with fresh := hfresh }

lemma Accounted.create (hlimits : WithinLimits config s) (h : Accounted s) (ip : String) :
    Accounted { s with
      nextSessionId := s.nextSessionId + 1
      accept := .created ⟨s.nextSessionId, ip⟩ } := by
  refine h.of_accept ?_
  intro p hp q hq
  rw [List.mem_singleton.mp hp]
  exact (hlimits.below q (mem_knownSessions.mpr (.inl hq))).ne

variable {session : Peer}

lemma Accounted.store (hlimits : WithinLimits config s) (h : Accounted s)
    (haccept : s.accept = .created session) : Accounted (s.store session) := by
  have hheld : session ∈ heldSession s.accept := by simp [haccept, heldSession]
  have hnew : ∀ q, InUse s q → q ≠ session := fun q hq heq => h.fresh session hheld q hq (by rw [heq])
  have hregistered : (s.store session).registered = session :: s.registered := by
    simp only [TcpListener.registered, TcpListener.store,
      AList.entries_insert_of_notMem (hlimits.unstored session hheld), List.map_cons]
  refine ⟨?_, ?_, ?_, by simp [TcpListener.store, heldSession], h.stopping⟩
  · refine List.nodup_cons.mpr ⟨?_, h.nodup⟩
    intro hmem
    exact hnew session (.inr (.inl hmem)) rfl
  · intro p hp hmem
    rcases List.mem_cons.mp hmem with rfl | hmem
    · exact hnew p (.inr (.inr (.inl hp))) rfl
    · exact h.closed p hp hmem
  · intro p hp
    rw [hregistered]
    rcases List.mem_cons.mp hp with rfl | hp
    · exact .inl List.mem_cons_self
    · exact (h.kept p hp).imp_left (List.mem_cons_of_mem _)

lemma Accounted.closeSession (h : Accounted s) (session : Peer) {taken : List Peer}
    (hkept : ∀ p ∈ s.taken, p ≠ session → p ∈ taken) (htaken : ∀ p ∈ taken, p ∈ s.taken) :
    Accounted ({ s with taken }.closeSession session) := by
  have hfresh : ∀ p ∈ heldSession s.accept, ∀ q,
      InUse ({ s with taken }.closeSession session) q → q.id ≠ p.id :=
    fun p hp q hq => h.fresh p hp q (inUse_closeSession htaken hq)
  rw [closeSession_eq] at hfresh ⊢
  refine ⟨h.nodup.erase _, ?_, ?_, hfresh, h.stopping⟩
  · intro p hp hp'
    have hne : p ≠ session := fun heq => h.nodup.not_mem_erase (heq ▸ hp')
    refine h.closed p ?_ (List.mem_of_mem_erase hp')
    dsimp only at hp
    split at hp
    · exact List.mem_of_ne_of_mem hne hp
    · exact hp
  · intro p hp
    -- the session itself is not alive any more
    have hne : p ≠ session := fun heq => h.nodup.not_mem_erase (heq ▸ hp)
    exact (h.kept p (List.mem_of_mem_erase hp)).imp_right fun hmem => hkept p hmem hne

lemma Accounted.removeSessionLocked (h : Accounted s)
    (haddress : ∀ ip, s.sessions.lookup session.id = some ip → ip = session.ip)
    (hsession : session ∈ s.alive → session ∈ s.taken) :
    Accounted (s.removeSessionLocked session) := by
  have hfresh : ∀ p ∈ heldSession s.accept, ∀ q, InUse (s.removeSessionLocked session) q →
      q.id ≠ p.id := fun p hp q hq => h.fresh p hp q (inUse_removeSessionLocked hq)
  have hkept : ∀ p ∈ s.alive, p ∈ (s.removeSessionLocked session).registered ∨ p ∈ s.taken := by
    intro p hp
    rw [mem_registered_remove]
    rcases h.kept p hp with hreg | hmem
    · by_cases hid : p.id = session.id
      · -- one id is one session object
        have hip : p.ip = session.ip := haddress p.ip (hid ▸ mem_registered.mp hreg)
        have heq : p = session := by
          cases p
          cases session
          cases hid
          cases hip
          rfl
        exact .inr (heq ▸ hsession (heq ▸ hp))
      · exact .inl ⟨hreg, hid⟩
    · exact .inr hmem
  rw [removeSessionLocked_eq] at hfresh hkept ⊢
  exact ⟨h.nodup, h.closed, hkept, hfresh, h.stopping⟩

lemma Accounted.onSessionClose (hlimits : WithinLimits config s) (h : Accounted s)
    (hmem : session ∈ s.closing) :
    Accounted ({ s with closing := s.closing.erase session }.removeSessionLocked session) := by
  have herased : Accounted { s with closing := s.closing.erase session } :=
    { h with
      closed := fun p hp => h.closed p (List.mem_of_mem_erase hp)
      fresh := fun p hp q hq => h.fresh p hp q (inUse_closing hq) }
  refine herased.removeSessionLocked (fun ip hlookup => ?_) fun halive =>
    absurd halive (h.closed _ hmem)
  exact hlimits.address_of_known (mem_knownSessions.mpr (.inl (.inr (.inr (.inl hmem))))) hlookup

lemma Accounted.kickSession (h : Accounted s) (id : SessionId) : Accounted (s.kickSession id) := by
  cases hlookup : s.sessions.lookup id with
  | none =>
    rw [TcpListener.kickSession, hlookup]
    exact h
  | some ip =>
    rw [kickSession_eq hlookup]
    have hreg : (⟨id, ip⟩ : Peer) ∈ s.registered := mem_registered.mpr hlookup
    have hnoted : Accounted { s with taken := ⟨id, ip⟩ :: s.taken } :=
      { h with
        kept := fun p hp => (h.kept p hp).imp_right (List.mem_cons_of_mem _)
        fresh := fun p hp q hq => h.fresh p hp q (inUse_taken hreg hq) }
    exact hnoted.removeSessionLocked (fun ip' hip' => Option.some.inj (hip'.symm.trans hlookup))
      fun _ => List.mem_cons_self

lemma Accounted.stopClear (h : Accounted s) : Accounted s.stopClear := by
  refine ⟨h.nodup, h.closed, ?_, fun p hp q hq => h.fresh p hp q (inUse_stopClear hq), ?_⟩
  · intro p hp
    exact .inr (List.mem_append.mpr (h.kept p hp).symm)
  · intro hstops
    refine h.stopping ?_
    simp only [TcpListener.stopClear] at hstops
    omega

theorem Accounted.step (hlimits : WithinLimits config s) (h : Accounted s)
    (hstep : s.step config l = some next) : Accounted next := by
  cases listener_case hstep with
  | moved hphase =>
    refine h.of_accept ?_
    rcases hphase with rfl | rfl | ⟨ip, rfl, -⟩ <;> simp [heldSession]
  | underLimit | admitted => exact h.of_accept (by simp [heldSession])
  | created => exact h.create hlimits _
  | stored haccept => exact h.store hlimits haccept
  | closed => exact h.closeSession _ (fun _ hp _ => hp) fun _ hp => hp
  | sessionClosed hmem => exact h.onSessionClose hlimits hmem
  | kicked => exact h.kickSession _
  | stopping => exact ⟨h.nodup, h.closed, h.kept, h.fresh, fun _ => rfl⟩
  | cleared => exact h.stopClear
  | takenClosed =>
    exact h.closeSession _ (fun _ hp hne => (List.mem_erase_of_ne hne).mpr hp)
      fun _ => List.mem_of_mem_erase
  | idTaken => exact ⟨h.nodup, h.closed, h.kept, h.fresh, h.stopping⟩

theorem Stopped.step (h : Stopped s) (hstep : s.step config l = some next) : Stopped next := by
  have hstored := h.stored
  have hempty : s.sessions = ∅ := AList.ext (List.map_eq_nil_iff.mp h.empty)
  cases listener_case hstep with
  | moved hphase =>
    refine ⟨h.listening, ?_, h.empty⟩
    rcases hphase with rfl | rfl | ⟨ip, rfl, hlistening⟩
    · rfl
    · rfl
    · rw [h.listening] at hlistening
      cases hlistening
  | underLimit haccept | admitted haccept | created haccept | stored haccept =>
    simp [haccept, isUnstored] at hstored
  | closed | takenClosed =>
    rw [closeSession_eq]
    exact ⟨h.listening, h.stored, h.empty⟩
  | sessionClosed =>
    rw [TcpListener.removeSessionLocked, if_neg (by simp [hempty])]
    exact ⟨h.listening, h.stored, h.empty⟩
  | kicked =>
    rw [TcpListener.kickSession, hempty]
    exact h
  | stopping => exact ⟨rfl, h.stored, h.empty⟩
  | cleared => exact ⟨h.listening, h.stored, rfl⟩
  | idTaken => exact ⟨h.listening, h.stored, h.empty⟩

end

/-- `stop` does not clear the tables while an accepted session is not stored. -/
def clearsWhenStored (s : TcpListener) (l : ListenerLabel) : Prop :=
  l = .stopClear → isUnstored s.accept = false

instance decidableClearsWhenStored (s : TcpListener) (l : ListenerLabel) :
    Decidable (clearsWhenStored s l) :=
  inferInstanceAs (Decidable (l = .stopClear → isUnstored s.accept = false))

lemma accounted_initial (listening : Bool) : Accounted { listening } := by
  constructor <;> simp [heldSession]

lemma stopped_of_run {config : ListenerConfig} {s last : TcpListener} {ls : List ListenerLabel}
    (hinv : WithinLimits config s ∧ Accounted s)
    (hgood : Admits (TcpListener.step config) clearsWhenStored s ls)
    (hrun : run (TcpListener.step config) s ls = some last)
    (hstopped : .stopClear ∈ ls ∨ Stopped s) : Stopped last := by
  induction ls generalizing s with
  | nil =>
    cases hrun
    exact hstopped.resolve_left List.not_mem_nil
  | cons l ls ih =>
    obtain ⟨mid, hmid, hrest⟩ := run_cons _ hrun
    refine ih ⟨hinv.1.step hmid, hinv.2.step hinv.1 hmid⟩ (hgood.2 mid hmid) hrest ?_
    rcases hstopped with hmem | hstopped
    · rcases List.mem_cons.mp hmem with rfl | hmem
      · obtain ⟨hstops, ⟨⟩⟩ := Option.ite_none_right_eq_some.mp hmid
        exact .inr ⟨hinv.2.stopping hstops, hgood.1 rfl, rfl⟩
      · exact .inl hmem
    · exact .inr (hstopped.step hmid)

/-- Once `stop` has cleared the maps and closed the sessions it found there, no session is
registered and none is alive, if no accepted connection was on its way to be stored. -/
theorem stop_leaves_no_session (config : ListenerConfig) (listening : Bool)
    (ls : List ListenerLabel) (s : TcpListener)
    (hrun : run (TcpListener.step config) { listening } ls = some s)
    (hgood : Admits (TcpListener.step config) clearsWhenStored { listening } ls)
    (hstop : .stopClear ∈ ls) (hclosed : s.taken = []) : s.registered = [] ∧ s.alive = [] := by
  have hinit : WithinLimits config { listening } ∧ Accounted { listening } :=
    ⟨withinLimits_initial config listening, accounted_initial listening⟩
  have hstopped : Stopped s := stopped_of_run hinit hgood hrun (.inl hstop)
  have hkept : ∀ s l next, WithinLimits config s ∧ Accounted s → s.step config l = some next →
      WithinLimits config next ∧ Accounted next := fun _ _ _ hinv hstep =>
    ⟨hinv.1.step hstep, hinv.2.step hinv.1 hstep⟩
  have hinv := reachable_invariant (TcpListener.step config) hkept hinit hrun
  refine ⟨hstopped.empty, ?_⟩
  rw [List.eq_nil_iff_forall_not_mem]
  intro p hp
  rcases hinv.2.kept p hp with hp' | hp'
  · rw [hstopped.empty] at hp'
    cases hp'
  · rw [hclosed] at hp'
    cases hp'

def stoppedRun : List ListenerLabel :=
  [.start, .accept "10.0.0.1", .checkConnections, .checkIp, .create, .store, .stop, .stopClear,
    .startSession, .closeTaken ⟨1, "10.0.0.1"⟩, .onSessionClose ⟨1, "10.0.0.1"⟩, .acceptError]

theorem stop_leaves_no_session_stored :
    ∃ s, run (TcpListener.step {}) { listening := true } stoppedRun = some s ∧
      s.accept = .idle ∧ s.registered = [] ∧ s.alive = [] := by
  refine ⟨_, rfl, rfl, ?_⟩
  exact stop_leaves_no_session {} true stoppedRun _ rfl (by decide) (by decide) rfl

def lateStoreRun : List ListenerLabel :=
  [.start, .accept "10.0.0.1", .stop, .stopClear, .checkConnections, .checkIp, .create, .store,
    .startSession, .acceptError]

/-- Both have finished, and the session is registered and alive. -/
theorem session_left_by_stop :
    ∃ s, run (TcpListener.step {}) { listening := true } lateStoreRun = some s ∧
      s.accept = .idle ∧ s.stops = 0 ∧ s.taken = [] ∧ s.closing = [] ∧
      s.registered = [⟨1, "10.0.0.1"⟩] ∧ s.alive = [⟨1, "10.0.0.1"⟩] :=
  ⟨_, rfl, rfl, rfl, rfl, rfl, rfl, rfl⟩

end ShieldRuntime.Proofs
