import Mathlib.Logic.Function.Basic
import TinyChat.Lib.ChangeLog
import TinyChat.Lib.Table
import TinyChat.Lib.Transition

/-!
# The discovery of services in etcd

A service manager lists the keys of the services that it includes and
announces them, and then watches the same prefixes.  A cache maps the name and
the platform of a service to the address that was announced.  When a watch is
lost, the monitor clears the cache and opens new watches.
-/

namespace TinyChat

namespace Manager

/-- Names, addresses and keys are texts of ASCII characters. -/
abbrev Text := List Char

/-- The tables compare their keys with the decidable equality. -/
scoped instance (priority := high) beqText : BEq Text :=
  instBEqOfDecidableEq

structure DiscoveryConfig where
  servicesPrefix : Text
  includeServices : List Text
  platformId : Text

namespace DiscoveryConfig

/-- The key under which a platform registers a service. -/
def serviceKey (config : DiscoveryConfig) (srvName platformId : Text) :
    Text :=
  config.servicesPrefix ++ srvName ++ '/' :: platformId

/-- Whether a key is in the answer of `get_prefix` and in the stream of
`watch_prefix` for a service. -/
def matched (config : DiscoveryConfig) (srvName key : Text) : Bool :=
  (config.servicesPrefix ++ srvName).isPrefixOf key

/-- `key[srv_prefix_len:]`. -/
def srvPlatformId (config : DiscoveryConfig) (srvName key : Text) : Text :=
  key.drop (config.servicesPrefix.length + srvName.length + 1)

end DiscoveryConfig

/-- `f"{srv_name}/{srv_platform_id}"`. -/
def cacheKey (srvName platformId : Text) : Text :=
  srvName ++ '/' :: platformId

structure ServiceInfoItem where
  addr : Text
  platformId : Text
  deriving DecidableEq

/-- The content of a `ServiceEvent`. -/
structure ServiceInfo where
  srvName : Text
  srvAddr : Text
  platformId : Text
  deriving DecidableEq

/-- What is dispatched, with the key that an online event comes from, and the
deletions in etcd. -/
inductive Event where
  | online (info : ServiceInfo) (key : Text)
  | offline (info : ServiceInfo)
  | deleted (key : Text)
  deriving DecidableEq

/-- The entry that a consumer makes in the cache when its dispatch is over;
an old one comes from a watch before the last rebuild. -/
structure CacheWrite where
  srvName : Text
  key : Text
  item : ServiceInfoItem
  old : Bool := false
  deriving DecidableEq

/-- etcd and the service manager.  The services that are still to be
announced are known when all listings have come; a watch is at a place of the
history of etcd. -/
structure Discovery where
  entries : Table Text Text := []
  history : List (ChangeLog.Change Text Text) := []
  results : Table Text (Table Text Text) := []
  todo : Option (List (Text × Text × Text)) := none
  cache : Table Text ServiceInfoItem := []
  writes : List CacheWrite := []
  cursor : Text → Option Nat := fun _ => none
  lost : Text → Bool := fun _ => false
  rebuilds : Nat := 0

inductive Action where
  | put (key value : Text)
  | delete (key : Text)
  | list (srvName : Text)
  | crawled
  | announce
  | watch (srvName : Text)
  | consume (srvName : Text)
  | store (place : Nat)
  | lose (srvName : Text)
  | rebuild
  deriving DecidableEq

namespace Discovery

variable (config : DiscoveryConfig)

/-- The answer of `get_prefix`. -/
def getPrefix (srvName : Text) (state : Discovery) : Table Text Text :=
  state.entries.filter (fun entry => config.matched srvName entry.1)

/-- `zip(include_services, results)`, with the pairs of each result. -/
def crawl (state : Discovery) : List (Text × Text × Text) :=
  config.includeServices.flatMap (fun srvName =>
    ((state.results.lookup srvName).getD []).map (fun kv => (srvName, kv)))

/-- The body of the loop of `start_service_discovery`. -/
def announce (srvName key value : Text) (state : Discovery) :
    Discovery × List Event :=
  let platformId := config.srvPlatformId srvName key
  let entry := cacheKey srvName platformId
  if platformId ≠ config.platformId ∧
      (state.cache.lookup entry).isNone then
    ({ state with cache := state.cache.assign entry ⟨value, platformId⟩ },
      [.online ⟨srvName, value, platformId⟩ key])
  else (state, [])

/-- A `PUT` event of a watch. -/
def onPut (srvName key value : Text) (state : Discovery) :
    Discovery × List Event :=
  let platformId := config.srvPlatformId srvName key
  let entry := cacheKey srvName platformId
  if platformId ≠ config.platformId ∧
      (state.cache.lookup entry).isNone then
    ({ state with
        writes := state.writes ++
          [{ srvName, key := entry, item := ⟨value, platformId⟩ }] },
      [.online ⟨srvName, value, platformId⟩ key])
  else (state, [])

/-- A `DELETE` event of a watch. -/
def onDelete (srvName key : Text) (state : Discovery) :
    Discovery × List Event :=
  let platformId := config.srvPlatformId srvName key
  let entry := cacheKey srvName platformId
  if platformId ≠ config.platformId then
    match state.cache.lookup entry with
    | none => (state, [])
    | some item =>
        ({ state with cache := state.cache.pop entry },
          [.offline ⟨srvName, item.addr, platformId⟩])
  else (state, [])

/-- The next change of etcd for a watch; those that do not match are not
delivered. -/
def onConsume (srvName : Text) (change : ChangeLog.Change Text Text)
    (state : Discovery) : Discovery × List Event :=
  if config.matched srvName change.key then
    match change.value with
    | some value => state.onPut config srvName change.key value
    | none => state.onDelete config srvName change.key
  else (state, [])

/-- All watches are open, and `watch_services` has returned. -/
def watching (state : Discovery) : Bool :=
  state.todo = some [] ∧
    config.includeServices.all (fun srvName =>
      (state.cursor srvName).isSome)

/-- A consumer of the current watches waits for its dispatch. -/
def busy (srvName : Text) (state : Discovery) : Bool :=
  state.writes.any (fun write => write.srvName = srvName ∧ !write.old)

/-- etcd takes a change in. -/
def change (state : Discovery) (key : Text) (value : Option Text) :
    Discovery :=
  { state with
    entries :=
      match value with
      | some value => state.entries.assign key value
      | none => state.entries.pop key
    history := state.history ++ [{ key, value }] }

/-- Clear the cache; the new watches are not open yet. -/
def clear (state : Discovery) : Discovery :=
  { state with
    cache := []
    writes := state.writes.map (fun write => { write with old := true })
    cursor := fun _ => none
    lost := fun _ => false
    rebuilds := state.rebuilds + 1 }

def step : Transition.Step Discovery Action Event
  | state, .put key value => some (state.change key (some value), [])
  | state, .delete key =>
      if (state.entries.lookup key).isSome then
        some (state.change key none, [.deleted key])
      else none
  | state, .list srvName =>
      if srvName ∈ config.includeServices ∧
          (state.results.lookup srvName).isNone then
        some ({ state with
          results := state.results.assign srvName
            (state.getPrefix config srvName) }, [])
      else none
  | state, .crawled =>
      if state.todo = none ∧ config.includeServices.all (fun srvName =>
          (state.results.lookup srvName).isSome) then
        some ({ state with todo := some (state.crawl config) }, [])
      else none
  | state, .announce =>
      match state.todo with
      | some ((srvName, key, value) :: todo) =>
          some (({ state with todo := some todo } : Discovery).announce
            config srvName key value)
      | _ => none
  | state, .watch srvName =>
      if state.todo = some [] ∧ srvName ∈ config.includeServices ∧
          state.cursor srvName = none then
        some ({ state with
          cursor := Function.update state.cursor srvName
            (some state.history.length) }, [])
      else none
  | state, .consume srvName =>
      if state.watching config ∧ !state.busy srvName ∧
          !state.lost srvName then
        match state.cursor srvName with
        | none => none
        | some place =>
            match state.history[place]? with
            | none => none
            | some change =>
                some (({ state with
                  cursor := Function.update state.cursor srvName
                    (some (place + 1)) } : Discovery).onConsume config
                      srvName change)
      else none
  | state, .store place =>
      match state.writes[place]? with
      | none => none
      | some write =>
          some ({ state with
            cache := state.cache.assign write.key write.item
            writes := state.writes.eraseIdx place }, [])
  | state, .lose srvName =>
      some ({ state with
        lost := Function.update state.lost srvName true }, [])
  | state, .rebuild =>
      if state.watching config ∨ 0 < state.rebuilds then
        some (state.clear, [])
      else none

/-- The watches have consumed every change that they deliver. -/
def Consumed (state : Discovery) : Prop :=
  ∀ srvName ∈ config.includeServices, ∃ place,
    state.cursor srvName = some place ∧
      ∀ change ∈ state.history.drop place,
        config.matched srvName change.key = false

end Discovery

end Manager

end TinyChat
