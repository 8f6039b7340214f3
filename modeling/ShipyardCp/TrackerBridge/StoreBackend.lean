import ShipyardCp.Lib.SecondaryIndex
import ShipyardCp.Lib.Transition

/-! The caches and entity links of the tracker-bridge package, as its two backends keep them: issues and
pull requests by id with copies by key, and links by id with lists by reference. -/

namespace ShipyardCp.TrackerBridge

open Lib

structure IssueCache where
  id : String
  trackerConnectionId : String
  remoteIssueId : String
  remoteIssueKey : String
  title : String
  status : Option String := none
  assignee : Option String := none
  reporter : Option String := none
  labelsJson : Option String := none
  issueType : Option String := none
  priority : Option String := none
  rawJson : String
  lastSeenAt : String
  createdAt : String
  updatedAt : String
  deriving DecidableEq

structure PRCache where
  id : String
  trackerConnectionId : String
  remotePrId : String
  remotePrKey : String
  title : String
  status : Option String := none
  author : Option String := none
  baseBranch : Option String := none
  headBranch : Option String := none
  mergeable : Option Bool := none
  draft : Option Bool := none
  filesChanged : Option Nat := none
  additions : Option Nat := none
  deletions : Option Nat := none
  commits : Option Nat := none
  rawJson : String
  lastSeenAt : String
  createdAt : String
  updatedAt : String

structure EntityLink where
  id : String
  localRef : String
  remoteRef : String
  linkRole : String
  createdAt : String
  updatedAt : String
  metadataJson : Option String := none
  deriving DecidableEq

/-- The two references by which links are listed. -/
inductive LinkSide where
  | localRef | remoteRef
  deriving DecidableEq

def EntityLink.ref : LinkSide → EntityLink → String
  | .localRef, link => link.localRef
  | .remoteRef, link => link.remoteRef

/-- Links by id, and by each reference the list of those with it. -/
structure EntityLinks where
  links : InsertionMap String EntityLink
  byRef : LinkSide → InsertionMap String (List EntityLink)

namespace EntityLinks

def empty : EntityLinks := ⟨.empty, fun _ => .empty⟩

variable (t : EntityLinks)

def linksByRef (side : LinkSide) (ref : String) : List EntityLink := listAt (t.byRef side) ref

/-- `setEntityLink`: the link is put into the lists of its own references. -/
def set (link : EntityLink) : EntityLinks where
  links := t.links.set link.id link
  byRef side := (t.byRef side).set (link.ref side)
    (upsertById EntityLink.id link (t.linksByRef side (link.ref side)))

end EntityLinks

/-- The maps of a backend: of `InMemoryBackend` as they are, of `RedisBackend` the keys `issue:<id>`,
`issue-key:<key>`, `pr:<id>`, `pr-key:<key>`, `link:<id>`, `links-by-local:<ref>` and
`links-by-remote:<ref>`, whose texts are kept as the values they stand for. -/
structure TrackerTables where
  issues : CopiedTable IssueCache.id IssueCache.remoteIssueKey
  prs : CopiedTable PRCache.id PRCache.remotePrKey
  links : EntityLinks

/-- The operations that write. -/
inductive TrackerOp where
  | setIssue (issue : IssueCache)
  | deleteIssue (id : String)
  | setPR (pr : PRCache)
  | deletePR (id : String)
  | setEntityLink (link : EntityLink)
  | deleteEntityLink (id : String)

namespace TrackerTables

def empty : TrackerTables := ⟨.empty, .empty, .empty⟩

variable (t : TrackerTables)

def getIssueByKey (key : String) : Option IssueCache := t.issues.byKey.get? key

def getPRByKey (key : String) : Option PRCache := t.prs.byKey.get? key

def getEntityLink (id : String) : Option EntityLink := t.links.links.get? id

def getEntityLinksByLocalRef (localRef : String) : List EntityLink :=
  t.links.linksByRef .localRef localRef

def getEntityLinksByRemoteRef (remoteRef : String) : List EntityLink :=
  t.links.linksByRef .remoteRef remoteRef

/-- What an operation writes; `deleteLink` is the deletion of a link. -/
def performWith (deleteLink : EntityLinks → String → EntityLinks) : TrackerOp → TrackerTables
  | .setIssue issue => { t with issues := t.issues.set issue }
  | .deleteIssue id => { t with issues := t.issues.delete id }
  | .setPR pr => { t with prs := t.prs.set pr }
  | .deletePR id => { t with prs := t.prs.delete id }
  | .setEntityLink link => { t with links := t.links.set link }
  | .deleteEntityLink id => { t with links := deleteLink t.links id }

end TrackerTables

def InMemoryBackend.deleteEntityLink (t : EntityLinks) (id : String) : EntityLinks where
  links := t.links.delete id
  byRef side := match t.links.get? id with
    | none => t.byRef side
    | some link => match (t.byRef side).get? (link.ref side) with
      | none => t.byRef side
      | some list => (t.byRef side).set (link.ref side) (list.eraseP (·.id = id))

def RedisBackend.deleteEntityLink (t : EntityLinks) (id : String) : EntityLinks where
  links := t.links.delete id
  byRef side := match t.links.get? id with
    | none => t.byRef side
    | some link => (t.byRef side).set (link.ref side)
      (removeId EntityLink.id (t.linksByRef side (link.ref side)) id)

def InMemoryBackend.perform (t : TrackerTables) : TrackerOp → TrackerTables :=
  t.performWith InMemoryBackend.deleteEntityLink

def RedisBackend.perform (t : TrackerTables) : TrackerOp → TrackerTables :=
  t.performWith RedisBackend.deleteEntityLink

/-! Calls that set and delete links in Redis, command by command: between two commands of a call those of
other calls run. -/

/-- What `setEntityLink` does next; a list that was read is written back with the link in it. -/
inductive SetPhase where
  | store
  | read (side : LinkSide)
  | write (side : LinkSide) (list : List EntityLink)
  | returned
  deriving DecidableEq

/-- What `deleteEntityLink` does next, with the link it has read. -/
inductive DeletePhase where
  | readLink
  | read (side : LinkSide) (link : EntityLink)
  | write (side : LinkSide) (link : EntityLink) (list : List EntityLink)
  | remove (link : Option EntityLink)
  | returned
  deriving DecidableEq

inductive LinkCall where
  | set (link : EntityLink) (phase : SetPhase)
  | delete (id : String) (phase : DeletePhase)

def LinkCall.hasReturned : LinkCall → Bool
  | .set _ phase => phase = .returned
  | .delete _ phase => phase = .returned

def EntityLinks.setList (t : EntityLinks) (side : LinkSide) (link : EntityLink)
    (list : List EntityLink) : EntityLinks :=
  { t with
    byRef := fun s => if s = side then (t.byRef s).set (link.ref s) list else t.byRef s }

def SetPhase.afterWrite : LinkSide → SetPhase
  | .localRef => .read .remoteRef
  | .remoteRef => .returned

def DeletePhase.afterWrite (link : EntityLink) : LinkSide → DeletePhase
  | .localRef => .read .remoteRef link
  | .remoteRef => .remove (some link)

/-- One command of a call; nothing is left of a call that has returned. -/
def LinkCall.command (t : EntityLinks) : LinkCall → Option (EntityLinks × LinkCall)
  | .set link .store =>
    some ({ t with links := t.links.set link.id link }, .set link (.read .localRef))
  | .set link (.read side) =>
    some (t, .set link (.write side (t.linksByRef side (link.ref side))))
  | .set link (.write side list) =>
    some (t.setList side link (upsertById EntityLink.id link list), .set link (.afterWrite side))
  | .set _ .returned => none
  | .delete id .readLink =>
    some (t, .delete id (match t.links.get? id with
      | some link => .read .localRef link
      | none => .remove none))
  | .delete id (.read side link) =>
    some (t, .delete id (.write side link (t.linksByRef side (link.ref side))))
  | .delete id (.write side link list) =>
    some (t.setList side link (removeId EntityLink.id list id), .delete id (.afterWrite link side))
  | .delete id (.remove _) =>
    some ({ t with links := t.links.delete id }, .delete id .returned)
  | .delete _ .returned => none

def LinkCall.runAlone : Nat → EntityLinks → LinkCall → EntityLinks
  | 0, t, _ => t
  | n + 1, t, call => match call.command t with
    | some (t, call) => runAlone n t call
    | none => t

structure LinkState where
  tables : EntityLinks
  calls : List LinkCall

inductive LinkAction where
  | setEntityLink (link : EntityLink)
  | deleteEntityLink (id : String)
  | resume (i : Nat)

def LinkState.next (s : LinkState) : LinkAction → Option LinkState
  | .setEntityLink link => some { s with calls := s.calls ++ [.set link .store] }
  | .deleteEntityLink id => some { s with calls := s.calls ++ [.delete id .readLink] }
  | .resume i => s.calls[i]?.bind fun call =>
    (call.command s.tables).map fun (t, call) => { tables := t, calls := s.calls.set i call }

def linkMachine : Machine LinkState LinkAction := .ofNext (fun s => s = ⟨.empty, []⟩) LinkState.next

section alone

variable (t : EntityLinks)

end alone

end ShipyardCp.TrackerBridge
