import Mathlib.Data.List.Sort

/-!
# The cache of scripts

`load_service_module` up to the source that it runs, with a step for each section of it and for each
write of a file. The content of a file is read before the time that is stored with it.
-/

namespace ShieldRuntime.Lua

/-- The settings of the cache. -/
structure LuaCacheConfig where
  enabled : Bool := true
  maxSize : Nat := 100
  ttlSeconds : Int := 0

/-- A script, with the time of the file it was read from. -/
structure ScriptCacheEntry where
  bytecode : String
  mtime : Int
  lastUsed : Int

/-- A write of a file, with the time in nanoseconds that the file system keeps. -/
structure FileWrite where
  path : String
  mtime : Int
  content : String
  deriving DecidableEq

/-- The two clocks that `get_file_mtime` reads one after the other, in nanoseconds. -/
structure ClockReads where
  fileNow : Int
  systemNow : Int
  deriving DecidableEq

/-- A load that does not use the cache, before and after it has read the file. -/
inductive LoadPhase where
  | missed (path : String)
  | read (path content : String)
  deriving DecidableEq

abbrev ScriptCache := List (String × ScriptCacheEntry)

/-- `written` has the writes of all files, the latest first. -/
structure ScriptState where
  written : List FileWrite := []
  scriptCache : ScriptCache := []
  loads : List LoadPhase := []

inductive ScriptLabel where
  | write (file : FileWrite)
  | check (path : String) (clocks : ClockReads) (now : Int)
  | readFile (load : Nat)
  | update (load : Nat) (clocks : ClockReads) (now : Int)

def isCacheValid (config : LuaCacheConfig) (entry : ScriptCacheEntry) (currentMtime now : Int) :
    Bool :=
  entry.mtime == currentMtime &&
    !(0 < config.ttlSeconds && config.ttlSeconds * 1000 < now - entry.lastUsed)

def evictIfNeeded (config : LuaCacheConfig) (cache : ScriptCache) : ScriptCache :=
  if cache.length ≤ config.maxSize then cache
  else
    let entries := cache.map fun item => (item.2.lastUsed, item.1)
    let oldest := entries.insertionSort fun a b => a.1 < b.1 ∨ a.1 = b.1 ∧ a.2 ≤ b.2
    let toRemove := max 1 ((cache.length - config.maxSize) / 10)
    cache.filter fun item => item.1 ∉ (oldest.take toRemove).map Prod.snd

def cacheEntry (cache : ScriptCache) (path : String) (entry : ScriptCacheEntry) : ScriptCache :=
  (path, entry) :: cache.filter fun item => item.1 ≠ path

/-- `duration_cast` cuts towards zero. -/
def ClockReads.sctp (clocks : ClockReads) (ftime : Int) : Int :=
  (ftime - clocks.fileNow + clocks.systemNow).tdiv 1000000

namespace ScriptState

def file (s : ScriptState) (path : String) : Option FileWrite :=
  s.written.find? fun file => file.path = path

/-- The time of the file is taken over from one clock to the other and cut to milliseconds. -/
def getFileMtime (s : ScriptState) (path : String) (clocks : ClockReads) : Int :=
  match s.file path with
  | some file => clocks.sctp file.mtime
  | none => 0

/-- The entry that a load at `now` is served from. -/
def cacheHit (config : LuaCacheConfig) (s : ScriptState) (path : String) (clocks : ClockReads)
    (now : Int) : Option ScriptCacheEntry :=
  if config.enabled then
    ((s.scriptCache.find? fun item => item.1 = path).map Prod.snd).filter fun entry =>
      isCacheValid config entry (s.getFileMtime path clocks) now
  else none

def step (config : LuaCacheConfig) (s : ScriptState) : ScriptLabel → Option ScriptState
  | .write file => some { s with written := file :: s.written }
  | .check path clocks now =>
    match s.cacheHit config path clocks now with
    | some entry =>
      some { s with scriptCache := cacheEntry s.scriptCache path { entry with lastUsed := now } }
    | none => some { s with loads := .missed path :: s.loads }
  | .readFile load =>
    match s.loads[load]? with
    | some (.missed path) =>
      match s.file path with
      | some file => some { s with loads := s.loads.set load (.read path file.content) }
      | none => some { s with loads := s.loads.eraseIdx load }
    | _ => none
  | .update load clocks now =>
    match s.loads[load]? with
    | some (.read path content) =>
      let entry : ScriptCacheEntry := ⟨content, s.getFileMtime path clocks, now⟩
      some { s with
        scriptCache :=
          if config.enabled then cacheEntry (evictIfNeeded config s.scriptCache) path entry
          else s.scriptCache
        loads := s.loads.eraseIdx load }
    | _ => none

end ScriptState

end ShieldRuntime.Lua
