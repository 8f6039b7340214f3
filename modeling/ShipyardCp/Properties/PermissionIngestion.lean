import ShipyardCp.Domain.OpenCodeEvents
import ShipyardCp.Lib.NodePath

/-! Whether the two ways to ingest events record the same, keep every permission request, and classify
writes outside the workspace. -/

namespace ShipyardCp.Properties

open Types Domain Lib Lib.NodePath OpenCodeEvent

def withoutTimes (result : IngestedEvents) : IngestedEvents :=
  { result with
    ingestionMeta := { result.ingestionMeta with startedAt := 0, completedAt := 0 } }

/-- A path that the ingestor does not take to be in the workspace: absolute, and under none of the usual
directories. -/
def AbsoluteElsewhere (path : List Char) : Prop := "/".toList <+: path ∧
    ∀ indicator ∈ ["/tmp/", "/workspace/", "/work/", "/project/", "/repo/", "/home/"],
      ¬indicator.toList <+: path

/-- A record counts all events, holds an escalation for every permission request in their order, and
leaves no write elsewhere, or to a protected path, to a plain verdict. -/
structure KeepsRequests (host : EventHost) (events : List OpenCodeEvent) (record : IngestedEvents) :
    Prop where
  counts : ∀ category, record.eventCounts category =
    (events.filter fun event => event.category = category).length
  escalations : record.permissionRequests.map NormalizedEscalation.raw =
    events.filterMap permissionRequest?
  elsewhere : ∀ escalation ∈ record.permissionRequests,
    isWriteTool escalation.raw.toolName = true → AbsoluteElsewhere (escalation.raw.path host) →
    escalation.kind =
      if isSecretAccess host escalation.raw then .secretAccess else .workspaceOutsideWrite
  guarded : ∀ escalation ∈ record.permissionRequests, isWriteTool escalation.raw.toolName = true →
    isProtectedPath (escalation.raw.path host) = true → escalation.kind ≠ .humanVerdict

section classification

variable {host : EventHost} {event : PermissionRequestEvent}

theorem isNetworkTool_of_isWriteTool {tool : String} (hwrite : isWriteTool tool = true) :
    isNetworkTool tool = false ∧ tool ≠ "bash" := by
  unfold isWriteTool at hwrite
  simp only [Bool.or_eq_true, decide_eq_true_eq] at hwrite
  rcases hwrite with (rfl | rfl) | rfl
  · exact ⟨by decide, by decide⟩
  · exact ⟨by decide, by decide⟩
  · exact ⟨by decide, by decide⟩

theorem isInWorkspace_eq_false {path : List Char} (helsewhere : AbsoluteElsewhere path) :
    isInWorkspace path = false ∧ path ≠ [] := by
  obtain ⟨⟨rest, hpath⟩, hnone⟩ := helsewhere
  have hslash : "/".toList = ['/'] := rfl
  rw [hslash, List.singleton_append] at hpath
  subst hpath
  refine ⟨?_, List.cons_ne_nil _ _⟩
  have hindicators : (workspaceIndicators.any fun indicator =>
      indicator.toList.isPrefixOf ('/' :: rest)) = false := by
    rw [List.any_eq_false]
    intro indicator hindicator hprefixed
    exact hnone indicator hindicator (List.isPrefixOf_iff_prefix.mp hprefixed)
  unfold isInWorkspace
  rw [hindicators]
  rfl

theorem kind_of_isWriteTool (hwrite : isWriteTool event.toolName = true) :
    (normalizePermissionRequest host event).kind =
      if isSecretAccess host event then .secretAccess
      else if !(event.path host).isEmpty && !isInWorkspace (event.path host) then
        .workspaceOutsideWrite
      else if !(event.path host).isEmpty && isProtectedPath (event.path host) then
        .protectedPathWrite
      else .humanVerdict := by
  obtain ⟨hnetwork, hbash⟩ := isNetworkTool_of_isWriteTool hwrite
  unfold normalizePermissionRequest
  simp only [hnetwork, hbash, hwrite, decide_false, Bool.false_and, Bool.true_and, if_false,
    Bool.false_eq_true]
  split_ifs <;> rfl

theorem kind_of_elsewhere (hwrite : isWriteTool event.toolName = true)
    (helsewhere : AbsoluteElsewhere (event.path host)) :
    (normalizePermissionRequest host event).kind =
      if isSecretAccess host event then .secretAccess else .workspaceOutsideWrite := by
  obtain ⟨houtside, hpath⟩ := isInWorkspace_eq_false helsewhere
  rw [kind_of_isWriteTool hwrite, houtside]
  simp [hpath]

theorem kind_ne_humanVerdict (hwrite : isWriteTool event.toolName = true)
    (hprotected : isProtectedPath (event.path host) = true) :
    (normalizePermissionRequest host event).kind ≠ .humanVerdict := by
  have hpath : (!(event.path host).isEmpty) = true := by
    unfold isProtectedPath at hprotected
    exact (Bool.and_eq_true_iff.mp hprotected).1
  rw [kind_of_isWriteTool hwrite, hpath, hprotected]
  split_ifs <;> simp_all

theorem raw_normalizePermissionRequest : (normalizePermissionRequest host event).raw = event := by
  unfold normalizePermissionRequest
  dsimp only
  split_ifs <;> rfl

end classification

section ingestion

variable {host : EventHost} {events : List OpenCodeEvent}

def ingested (host : EventHost) (start : IngestedEvents) (events : List OpenCodeEvent) :
    IngestedEvents :=
  events.foldl (ingestEvent host) start

theorem permissionRequests_ingestEvent (result : IngestedEvents) (event : OpenCodeEvent) :
    (ingestEvent host result event).permissionRequests = result.permissionRequests ++
      (event.permissionRequest?.map (normalizePermissionRequest host)).toList := by
  cases event <;> simp [ingestEvent, ingestSingleEvent, IngestedEvents.count, permissionRequest?]

theorem eventCounts_ingestEvent (result : IngestedEvents) (event : OpenCodeEvent) :
    (ingestEvent host result event).eventCounts =
      Function.update result.eventCounts event.category (result.eventCounts event.category + 1) := by
  cases event <;> rfl

theorem ingestEvent_withMeta (result : IngestedEvents) (times : IngestionMeta)
    (event : OpenCodeEvent) :
    ingestEvent host { result with ingestionMeta := times } event =
      { ingestEvent host result event with ingestionMeta := times } := by
  cases event <;> rfl

variable (host events)

theorem ingested_withMeta (start : IngestedEvents) (times : IngestionMeta) :
    ingested host { start with ingestionMeta := times } events =
      { ingested host start events with ingestionMeta := times } := by
  unfold ingested
  induction events generalizing start with
  | nil => rfl
  | cons event events ih =>
    rw [List.foldl_cons, List.foldl_cons, ingestEvent_withMeta, ih]

theorem rawEvents_ingested (start : IngestedEvents) :
    (ingested host start events).rawEvents = start.rawEvents := by
  unfold ingested
  induction events generalizing start with
  | nil => rfl
  | cons event events ih =>
    rw [List.foldl_cons, ih]
    cases event <;> rfl

theorem eventCounts_ingested (start : IngestedEvents) (category : EventCategory) :
    (ingested host start events).eventCounts category = start.eventCounts category +
      (events.filter fun event => event.category = category).length := by
  unfold ingested
  induction events generalizing start with
  | nil => rfl
  | cons event events ih =>
    rw [List.foldl_cons, ih, eventCounts_ingestEvent, List.filter_cons]
    rcases eq_or_ne event.category category with rfl | hother
    · rw [Function.update_self, if_pos (by simp), List.length_cons]
      omega
    · rw [Function.update_of_ne hother.symm, if_neg (by simpa using hother)]

theorem permissionRequests_ingested (start : IngestedEvents) :
    (ingested host start events).permissionRequests = start.permissionRequests ++
      (events.filterMap permissionRequest?).map (normalizePermissionRequest host) := by
  unfold ingested
  induction events generalizing start with
  | nil => simp
  | cons event events ih =>
    rw [List.foldl_cons, ih, permissionRequests_ingestEvent, List.filterMap_cons, List.append_assoc]
    cases event.permissionRequest? <;> rfl

theorem foldl_addEvent (container : EventStreamContainer) : events.foldl (addEvent host) container =
      { container with
        events := container.events ++ events
        ingested := ingested host container.ingested events } := by
  induction events generalizing container with
  | nil => simp [ingested]
  | cons event events ih =>
    rw [List.foldl_cons, ih]
    simp [addEvent, ingested]

theorem keepsRequests_ingested : KeepsRequests host events (ingested host {} events) := by
  have hrequests := permissionRequests_ingested host events {}
  rw [List.nil_append] at hrequests
  constructor
  · intro category
    rw [eventCounts_ingested]
    exact Nat.zero_add _
  · rw [hrequests, List.map_map]
    exact (List.map_congr_left fun event _ => raw_normalizePermissionRequest).trans (List.map_id _)
  · intro escalation hescalation hwrite helsewhere
    rw [hrequests] at hescalation
    obtain ⟨event, _, rfl⟩ := List.mem_map.mp hescalation
    rw [raw_normalizePermissionRequest] at hwrite helsewhere ⊢
    exact kind_of_elsewhere hwrite helsewhere
  · intro escalation hescalation hwrite hprotected
    rw [hrequests] at hescalation
    obtain ⟨event, _, rfl⟩ := List.mem_map.mp hescalation
    rw [raw_normalizePermissionRequest] at hwrite hprotected
    exact kind_ne_humanVerdict hwrite hprotected

theorem ingestEvents_eq (includeRawEvents : Bool) (startedAt completedAt : Timestamp) :
    ingestEvents host includeRawEvents startedAt completedAt events =
      { ingested host {} events with
        ingestionMeta := ⟨startedAt, completedAt, events.length, 0⟩
        rawEvents := if includeRawEvents then some events else none } := by
  have hstart := ingested_withMeta host events {} { startedAt }
  have hraw := rawEvents_ingested host events {}
  unfold ingested at hstart hraw ⊢
  unfold ingestEvents
  dsimp only
  rw [hstart, hraw]

theorem finalizeContainer_eq (includeRawEvents : Bool) (jobId sessionId : String)
    (createdAt finalizedAt : Timestamp) :
    (finalizeContainer includeRawEvents finalizedAt
      (events.foldl (addEvent host) (createEventStreamContainer createdAt jobId sessionId))).ingested =
      { ingested host {} events with
        ingestionMeta := ⟨createdAt, finalizedAt, events.length, 0⟩
        rawEvents := if includeRawEvents then some events else none } := by
  have hraw := rawEvents_ingested host events {}
  rw [foldl_addEvent]
  unfold finalizeContainer createEventStreamContainer
  dsimp only
  rw [List.nil_append, hraw]

end ingestion

/-- Events added one by one to a container that is then finalized, and the same events ingested at once,
come to the same record up to times; and the record keeps every permission request. -/
theorem ingestion_keeps_requests (host : EventHost) (includeRawEvents : Bool)
    (jobId sessionId : String) (createdAt finalizedAt startedAt completedAt : Timestamp)
    (events : List OpenCodeEvent) :
    withoutTimes (finalizeContainer includeRawEvents finalizedAt
        (events.foldl (addEvent host) (createEventStreamContainer createdAt jobId sessionId))).ingested =
      withoutTimes (ingestEvents host includeRawEvents startedAt completedAt events) ∧
    KeepsRequests host events (ingestEvents host includeRawEvents startedAt completedAt events) := by
  have hkeeps := keepsRequests_ingested host events
  rw [finalizeContainer_eq, ingestEvents_eq]
  exact ⟨rfl, hkeeps.counts, hkeeps.escalations, hkeeps.elsewhere, hkeeps.guarded⟩

/-- Texts of records of plain strings, as the language gives them. -/
def plainHost : EventHost where
  stringify
    | .obj fields =>
      let texts := fields.map fun field =>
        "\"" ++ field.1 ++ "\":\"" ++ field.2.asString?.getD "" ++ "\""
      ("\x7b" ++ ",".intercalate texts ++ "\x7d").toList
    | value => (value.asString?.getD "").toList
  toText value := (value.asString?.getD "").toList
  toLowerCase := JsText.toLowerCase

def LiesOutside (workspace : Location) (path : List Char) : Prop :=
  ¬(resolve .posix (fun _ => []) workspace path).Under workspace

instance (workspace : Location) (path : List Char) : Decidable (LiesOutside workspace path) :=
  inferInstanceAs (Decidable (¬_))

/-- A write to the file of a neighbour of the workspace. -/
def neighbourWrite : PermissionRequestEvent where
  id := "permission-1"
  tool := some "write"
  timestamp := 0
  context := some [("path", .str "../neighbour/x.txt")]
  category := .permissionRequest

/-- It is left to a plain verdict. -/
theorem neighbour_write_unclassified :
    ¬∀ (host : EventHost) (workspace : Location) (event : PermissionRequestEvent),
      isWriteTool event.toolName = true → LiesOutside workspace (event.path host) →
      (normalizePermissionRequest host event).kind = .workspaceOutsideWrite ∨
        (normalizePermissionRequest host event).kind = .protectedPathWrite := by
  intro hclassified
  have hkind : (normalizePermissionRequest plainHost neighbourWrite).kind = .humanVerdict := by
    decide +kernel
  have hwrite := hclassified plainHost ⟨[], ["workspace".toList, "app".toList]⟩ neighbourWrite
    (by decide +kernel) (by decide +kernel)
  rw [hkind] at hwrite
  rcases hwrite with houtside | hprotected
  · cases houtside
  · cases hprotected

end ShipyardCp.Properties
