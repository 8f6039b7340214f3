import ShipyardCp.Lib.KeyedMap
import ShipyardCp.Lib.SortedLists
import ShipyardCp.Lib.SecondaryIndex
import ShipyardCp.TrackerBridge.TypedRef

/-! Sync events of the tracker-bridge package: searched and sorted in memory, and listed by task in
Redis. -/

namespace ShipyardCp.TrackerBridge

open Types Lib

inductive SyncDirection where
  | inbound | outbound
  deriving DecidableEq

inductive SyncStatus where
  | pending | applied | failed | skipped
  deriving DecidableEq

structure SyncEvent where
  id : String
  trackerConnectionId : String
  direction : SyncDirection
  remoteRef : String
  localRef : Option String
  eventType : String
  fingerprint : Option String
  payloadJson : String
  status : SyncStatus
  errorMessage : Option String
  occurredAt : String
  processedAt : Option String
  createdAt : String
  deriving DecidableEq

/-- `text.includes(part)` -/
def includes (text part : String) : Bool := part.toList <:+: text.toList

/-- The events of `InMemoryBackend`. -/
abbrev MemorySyncEvents := KeyedMap SyncEvent.id

namespace MemorySyncEvents

def setSyncEvent (t : MemorySyncEvents) (event : SyncEvent) : MemorySyncEvents := t.put event

def mentions (entityId : String) (event : SyncEvent) : Bool :=
  event.localRef.any (includes · entityId) || includes event.remoteRef entityId

/-- Whatever the type of the entity, the events that mention it; the comparison is `localeCompare`. -/
def getSyncEventsByEntity (localeCompare : String → String → Ordering) (t : MemorySyncEvents)
    (_entityType entityId : String) (limit : Nat) : List SyncEvent :=
  ((t.values.filter (mentions entityId)).insertionSort
    fun a b => (localeCompare b.occurredAt a.occurredAt).isLE = true).take limit

end MemorySyncEvents

def syncKey (entityType entityId : String) : String :=
  "sync-by-entity:" ++ entityType ++ ":" ++ entityId

/-- The keys `sync:<id>` and `sync-by-entity:<type>:<id>` of `RedisBackend`. -/
structure RedisSyncEvents where
  sync : KeyedMap SyncEvent.id
  byEntity : InsertionMap String (List SyncEvent)

namespace RedisSyncEvents

def setSyncEvent (t : RedisSyncEvents) (event : SyncEvent) : RedisSyncEvents where
  sync := t.sync.put event
  byEntity :=
    if isTruthy event.localRef then
      let key := syncKey "task" ((splitColons (event.localRef.getD ""))[3]?.getD "unknown")
      t.byEntity.set key (pushRecent 100 event (listAt t.byEntity key))
    else t.byEntity

def getSyncEventsByEntity (t : RedisSyncEvents) (entityType entityId : String) (limit : Nat) :
    List SyncEvent :=
  (listAt t.byEntity (syncKey entityType entityId)).take limit

end RedisSyncEvents

end ShipyardCp.TrackerBridge
