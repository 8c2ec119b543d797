import ShieldRuntime.Library.Machine
import ShieldRuntime.Lua.ScriptCache

/-!
# Scripts served from the cache
-/

namespace ShieldRuntime.Proofs
open Library Lua

variable {entry : ScriptCacheEntry} {config : LuaCacheConfig} {s : ScriptState} {path : String}
  {cache : ScriptCache}

def hasRead : LoadPhase → Option String
  | .missed _ => none
  | .read path _ => some path

/-- Two writes of one file are told apart by their times, whichever of the clock reads are used for
the one and for the other. -/
def ToldApart (clocks : List ClockReads) (file old : FileWrite) : Prop :=
  file.path = old.path → ∀ c ∈ clocks, ∀ d ∈ clocks, c.sctp file.mtime ≠ d.sctp old.mtime

instance (clocks : List ClockReads) (file old : FileWrite) : Decidable (ToldApart clocks file old) :=
  inferInstanceAs (Decidable (_ → _))

instance (clocks : List ClockReads) : Std.Symm (ToldApart clocks) :=
  ⟨fun _ _ h hpath c hc d hd heq => h hpath.symm d hd c hc heq.symm⟩

/-- The clocks are read as in `clocks`, a file is told apart from what it was before, and no file is
written while a load of it is between its two reads. -/
def Unwritten (clocks : List ClockReads) (s : ScriptState) : ScriptLabel → Prop
  | .write file => (∀ old ∈ s.written, ToldApart clocks file old) ∧
    some file.path ∉ s.loads.map hasRead
  | .check _ c _ | .update _ c _ => c ∈ clocks
  | .readFile _ => True

instance (clocks : List ClockReads) (s : ScriptState) : ∀ l, Decidable (Unwritten clocks s l)
  | .write _ => inferInstanceAs (Decidable (_ ∧ _))
  | .check .. | .update .. => inferInstanceAs (Decidable (_ ∈ _))
  | .readFile _ => instDecidableTrue

/-- The entry holds what the file was given in one of its writes, with the time of that write. -/
def FromWrite (clocks : List ClockReads) (s : ScriptState) (item : String × ScriptCacheEntry) :
    Prop :=
  ∃ file ∈ s.written, file.path = item.1 ∧ file.content = item.2.bytecode ∧
    ∃ c ∈ clocks, item.2.mtime = c.sctp file.mtime

/-- What the steps keep. -/
structure CacheCoherent (clocks : List ClockReads) (s : ScriptState) : Prop where
  times : s.written.Pairwise (ToldApart clocks)
  cached : ∀ item ∈ s.scriptCache, FromWrite clocks s item
  read : ∀ path content, .read path content ∈ s.loads →
    ∃ file, s.file path = some file ∧ file.content = content

section Step

variable {next : ScriptState} {l : ScriptLabel}

lemma file_spec {file : FileWrite} (h : s.file path = some file) :
    file ∈ s.written ∧ file.path = path :=
  ⟨List.mem_of_find?_eq_some h, by simpa using List.find?_some h⟩

lemma getFileMtime_of_file {file : FileWrite} (h : s.file path = some file) (c : ClockReads) :
    s.getFileMtime path c = c.sctp file.mtime := by
  rw [ScriptState.getFileMtime, h]

lemma cacheHit_spec {c : ClockReads} {now : Int} (h : s.cacheHit config path c now = some entry) :
    (path, entry) ∈ s.scriptCache ∧ entry.mtime = s.getFileMtime path c := by
  unfold ScriptState.cacheHit at h
  split at h
  · obtain ⟨hentry, hvalid⟩ := Option.filter_eq_some_iff.mp h
    obtain ⟨item, hfind, rfl⟩ := Option.map_eq_some_iff.mp hentry
    have hpath := List.find?_some hfind
    rw [decide_eq_true_eq] at hpath
    rw [isCacheValid, Bool.and_eq_true, beq_iff_eq] at hvalid
    exact ⟨hpath ▸ List.mem_of_find?_eq_some hfind, hvalid.1⟩
  · cases h

lemma mem_of_mem_evict {item : String × ScriptCacheEntry} (h : item ∈ evictIfNeeded config cache) :
    item ∈ cache := by
  unfold evictIfNeeded at h
  split at h
  · exact h
  · exact List.mem_of_mem_filter h

lemma forall_mem_cacheEntry {P : String × ScriptCacheEntry → Prop}
    (hnew : P (path, entry)) (hold : ∀ item ∈ cache, P item) :
    ∀ item ∈ cacheEntry cache path entry, P item :=
  List.forall_mem_cons.mpr ⟨hnew, fun item hitem => hold item (List.mem_of_mem_filter hitem)⟩

theorem CacheCoherent.step {clocks : List ClockReads} (h : CacheCoherent clocks s)
    (hgood : Unwritten clocks s l) (hstep : s.step config l = some next) :
    CacheCoherent clocks next := by
  revert hstep
  fun_cases ScriptState.step config s l with
  | case1 file =>
    rintro ⟨⟩
    refine ⟨List.pairwise_cons.mpr ⟨hgood.1, h.times⟩, fun item hitem => ?_,
      fun path content hread => ?_⟩
    · obtain ⟨old, hold, hrest⟩ := h.cached item hitem
      exact ⟨old, List.mem_cons_of_mem _ hold, hrest⟩
    · have hother : file.path ≠ path := by
        rintro rfl
        exact hgood.2 (List.mem_map_of_mem hread)
      rw [ScriptState.file, List.find?_cons_of_neg (by simpa using hother)]
      exact h.read path content hread
  | case2 path c now entry hhit =>
    rintro ⟨⟩
    have hcached := h.cached _ (cacheHit_spec hhit).1
    exact ⟨h.times, forall_mem_cacheEntry hcached h.cached, h.read⟩
  | case3 path c now =>
    rintro ⟨⟩
    exact ⟨h.times, h.cached, fun path content hread => h.read path content (by simpa using hread)⟩
  | case4 load path hload file hfile =>
    rintro ⟨⟩
    refine ⟨h.times, h.cached, fun path' content hread => ?_⟩
    rcases List.mem_or_eq_of_mem_set hread with hread | heq
    · exact h.read path' content hread
    · cases heq
      exact ⟨file, hfile, rfl⟩
  | case5 load path hload hfile =>
    rintro ⟨⟩
    exact ⟨h.times, h.cached, fun path content hread =>
      h.read path content (List.mem_of_mem_eraseIdx hread)⟩
  | case7 load c now path content hload entry =>
    rintro ⟨⟩
    refine ⟨h.times, ?_, fun path content hread =>
      h.read path content (List.mem_of_mem_eraseIdx hread)⟩
    -- the file is still what the load has read, so its time is that of the content
    obtain ⟨file, hfile, hcontent⟩ := h.read path content (List.mem_of_getElem? hload)
    have hnew : FromWrite clocks s (path, entry) :=
      ⟨file, (file_spec hfile).1, (file_spec hfile).2, hcontent, c, hgood,
        getFileMtime_of_file hfile c⟩
    dsimp only
    split
    · exact forall_mem_cacheEntry hnew fun item hitem => h.cached item (mem_of_mem_evict hitem)
    · exact h.cached
  | _ => simp

end Step

/-- If no file is written between the two reads of a load of it, and the times of its writes stay
apart when they are taken over to the other clock, a load that is served from the cache gets the
content that the file has when its time is checked. -/
theorem cached_script_current (config : LuaCacheConfig) (clocks : List ClockReads)
    (ls : List ScriptLabel) (s : ScriptState)
    (hrun : run (ScriptState.step config) {} ls = some s)
    (hgood : Admits (ScriptState.step config) (Unwritten clocks) {} ls) (path : String)
    (c : ClockReads) (hc : c ∈ clocks) (now : Int) (entry : ScriptCacheEntry)
    (hhit : s.cacheHit config path c now = some entry) :
    ∃ file, s.file path = some file ∧ file.content = entry.bytecode := by
  have h : CacheCoherent clocks s := run_invariant _ (fun s l next hs hl hstep => hs.step hl hstep)
    ⟨.nil, by simp, by simp⟩ hgood hrun
  obtain ⟨hmem, hmtime⟩ := cacheHit_spec hhit
  obtain ⟨old, hold, hpath, hcontent, d, hd, htime⟩ := h.cached _ hmem
  cases hfile : s.file path with
  | none => simpa [hpath] using List.find?_eq_none.mp hfile _ hold
  | some file =>
    refine ⟨file, rfl, ?_⟩
    obtain ⟨hwritten, hname⟩ := file_spec hfile
    rw [htime, getFileMtime_of_file hfile] at hmtime
    have hsame : file = old := by
      by_contra hne
      have hapart := h.times.forall hwritten hold hne (hname.trans hpath.symm)
      exact hapart c hc d hd hmtime.symm
    rw [hsame, hcontent]

/-- The time between the two clock reads differs from load to load. -/
def editedClocks : List ClockReads := [⟨0, 0⟩, ⟨100, 160⟩]

def editedScript : List ScriptLabel :=
  [.write ⟨"a", 1200000, "old"⟩, .check "a" ⟨0, 0⟩ 0, .readFile 0, .update 0 ⟨0, 0⟩ 5,
    .check "a" ⟨100, 160⟩ 6, .write ⟨"a", 2300000, "new"⟩, .check "a" ⟨0, 0⟩ 7, .readFile 0,
    .update 0 ⟨100, 160⟩ 8]

theorem cached_script_current_edited :
    ∃ s, run (ScriptState.step {}) {} editedScript = some s ∧
      ∃ file, s.file "a" = some file ∧ file.content = "new" :=
  ⟨_, rfl, cached_script_current {} editedClocks editedScript _ rfl (by decide) "a" ⟨0, 0⟩
    (by decide) 9 ⟨"new", 2, 8⟩ rfl⟩

/-- The file is written between the two reads of a load; the next load gets the old content. -/
theorem stale_script_served :
    (run (ScriptState.step {}) {} [.write ⟨"a", 1200000, "old"⟩, .check "a" ⟨0, 0⟩ 0, .readFile 0,
      .write ⟨"a", 2300000, "new"⟩, .update 0 ⟨0, 0⟩ 5]).map (fun s =>
        ((s.cacheHit {} "a" ⟨0, 0⟩ 9).map (·.bytecode), (s.file "a").map (·.content))) =
      some (some "old", some "new") := by
  decide

/-! ## How many scripts are cached -/

/-- After a step there are at most `maxSize` entries, and one that is gone was used no later than
any of those before. -/
def KeepsBound (config : LuaCacheConfig) (before after : ScriptCache) : Prop :=
  after.length ≤ config.maxSize ∧ ∀ old ∈ before, old.1 ∉ after.map Prod.fst →
    ∀ item ∈ before, old.2.lastUsed ≤ item.2.lastUsed

/-- A load puts a path into the cache that is in it already, or there is room for one more. -/
def HasRoom (config : LuaCacheConfig) (s : ScriptState) : ScriptLabel → Prop
  | .update load _ _ => config.enabled = true → ∀ path content,
    s.loads[load]? = some (.read path content) →
      path ∈ s.scriptCache.map Prod.fst ∨ s.scriptCache.length < config.maxSize
  | _ => True

lemma keepsBound_self (h : cache.length ≤ config.maxSize) : KeepsBound config cache cache :=
  ⟨h, fun _ hold hnot => absurd (List.mem_map_of_mem hold) hnot⟩

lemma path_mem_cacheEntry (entry : ScriptCacheEntry) {old : String × ScriptCacheEntry}
    (h : old ∈ cache) : old.1 ∈ (cacheEntry cache path entry).map Prod.fst := by
  by_cases hpath : old.1 = path
  · simp [cacheEntry, hpath]
  · exact List.mem_map_of_mem (List.mem_cons_of_mem _ (List.mem_filter.mpr ⟨h, by simpa⟩))

lemma keepsBound_cacheEntry_iff (entry : ScriptCacheEntry) (h : cache.length ≤ config.maxSize) :
    KeepsBound config cache (cacheEntry cache path entry) ↔
      path ∈ cache.map Prod.fst ∨ cache.length < config.maxSize := by
  rw [KeepsBound, and_iff_left fun old hold hnot => absurd (path_mem_cacheEntry entry hold) hnot]
  by_cases hpath : path ∈ cache.map Prod.fst
  · -- the old entry of the path is taken out
    obtain ⟨old, hold, rfl⟩ := List.mem_map.mp hpath
    have hless : (cache.filter fun item => item.1 ≠ old.1).length < cache.length :=
      List.length_filter_lt_length_iff_exists.mpr ⟨old, hold, by simp⟩
    exact iff_of_true (hless.trans_le h) (.inl hpath)
  · have hall : (cache.filter fun item => item.1 ≠ path) = cache :=
      List.filter_eq_self.mpr fun item hitem => by
        rw [decide_eq_true_eq]
        rintro rfl
        exact hpath (List.mem_map_of_mem hitem)
    rw [cacheEntry, hall, List.length_cons, Nat.succ_le_iff, or_iff_right hpath]

lemma step_keepsBound_iff (l : ScriptLabel) (h : s.scriptCache.length ≤ config.maxSize) :
    (∀ next ∈ s.step config l, KeepsBound config s.scriptCache next.scriptCache) ↔
      HasRoom config s l := by
  fun_cases ScriptState.step config s l with
  | case2 path c now entry hhit =>
    have hcached := List.mem_map_of_mem (f := Prod.fst) (cacheHit_spec hhit).1
    refine iff_of_true ?_ trivial
    rintro next ⟨⟩
    exact (keepsBound_cacheEntry_iff _ h).mpr (.inl hcached)
  | case7 load c now path content hload entry =>
    have hevict : evictIfNeeded config s.scriptCache = s.scriptCache := if_pos h
    cases henabled : config.enabled with
    | false => simp [HasRoom, henabled, keepsBound_self h]
    | true => simp [HasRoom, henabled, hload, hevict, keepsBound_cacheEntry_iff _ h]
  | _ => simp_all [HasRoom, keepsBound_self]

/-- The cache keeps its bound exactly if no load puts a new path into a full cache: the eviction
comes before the insertion and makes no room for it. -/
theorem script_cache_bounded_iff (config : LuaCacheConfig) (ls : List ScriptLabel) :
    Admits (ScriptState.step config) (fun s l => ∀ next ∈ s.step config l,
        KeepsBound config s.scriptCache next.scriptCache) {} ls ↔
      Admits (ScriptState.step config) (HasRoom config) {} ls :=
  admits_congr _ (fun s => s.scriptCache.length ≤ config.maxSize)
    (fun _ l h => step_keepsBound_iff l h) (fun _ _ next _ hgood hnext => (hgood next hnext).1)
    (Nat.zero_le _)

/-- With room for one script, the second one is cached beside the first. -/
theorem second_script_cached :
    (run (ScriptState.step { maxSize := 1 }) {} [.write ⟨"a", 1000000, "x"⟩,
      .write ⟨"b", 1000000, "y"⟩, .check "a" ⟨0, 0⟩ 0, .readFile 0, .update 0 ⟨0, 0⟩ 1,
      .check "b" ⟨0, 0⟩ 2, .readFile 0, .update 0 ⟨0, 0⟩ 3]).map
        (fun s => s.scriptCache.map Prod.fst) = some ["b", "a"] := by
  decide

end ShieldRuntime.Proofs
