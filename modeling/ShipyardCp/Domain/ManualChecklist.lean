import ShipyardCp.Types.Job

/-! Manual acceptance checklists: the templates of a risk level, checking an item, and validation. -/

namespace ShipyardCp.Domain

open Types

structure ChecklistTemplate where
  id : String
  description : String
  required : Bool
  appliesTo : List RiskLevel
  triggers : Option (List String) := none

def defaultChecklistTemplates : List ChecklistTemplate :=
  [{ id := "tests-passed", description := "All automated tests passed", required := true,
     appliesTo := [.low, .medium, .high] },
   { id := "no-regressions", description := "No regressions in existing functionality",
     required := true, appliesTo := [.low, .medium, .high] },
   { id := "code-compiles", description := "Code compiles without errors", required := true,
     appliesTo := [.low, .medium, .high] },
   { id := "code-review", description := "Code review completed", required := true,
     appliesTo := [.medium, .high] },
   { id := "docs-updated", description := "Documentation updated if applicable",
     required := false, appliesTo := [.medium, .high] },
   { id := "security-review", description := "Security review completed", required := true,
     appliesTo := [.high] },
   { id := "performance-check", description := "Performance impact assessed", required := true,
     appliesTo := [.high] },
   { id := "rollback-plan", description := "Rollback plan documented", required := true,
     appliesTo := [.high], triggers := some ["rollback_notes_required"] },
   { id := "stakeholder-approval", description := "Stakeholder approval obtained",
     required := true, appliesTo := [.high], triggers := some ["high_risk"] },
   { id := "secrets-handled", description := "Secrets handling reviewed and approved",
     required := true, appliesTo := [.low, .medium, .high],
     triggers := some ["secrets_referenced"] },
   { id := "network-approved", description := "Network access approved", required := true,
     appliesTo := [.low, .medium, .high], triggers := some ["network_access"] },
   { id := "core-review", description := "Core area changes reviewed by senior engineer",
     required := true, appliesTo := [.low, .medium, .high],
     triggers := some ["core_area_modified"] },
   { id := "breaking-changes", description := "Breaking changes documented and communicated",
     required := true, appliesTo := [.low, .medium, .high],
     triggers := some ["breaking_change"] }]

def templateApplies (riskLevel : RiskLevel) (triggers : List String) (t : ChecklistTemplate) : Bool :=
  riskLevel ∈ t.appliesTo &&
    match t.triggers with
    | none => true
    | some ts => ts.isEmpty || ts.any (· ∈ triggers)

/-- The checklist of a task, assessed from no risk factors: its own risk level decides, and only the
high-risk trigger can be set. -/
def generateChecklist (riskLevel : RiskLevel) : List ManualChecklistItem :=
  let triggers := if riskLevel = .high then ["high_risk"] else []
  (defaultChecklistTemplates.filter (templateApplies riskLevel triggers)).map fun t =>
    { id := t.id, description := t.description, required := t.required, checked := some false,
      checkedBy := none, checkedAt := none, notes := none }

def missingItems (checklist : List ManualChecklistItem) : List String :=
  (checklist.filter fun item => item.required && item.checked ≠ some true).map (·.id)

def checkItem (now : Timestamp) (checklist : List ManualChecklistItem) (itemId : String)
    (checkedBy notes : Option String) : List ManualChecklistItem :=
  checklist.map fun item =>
    if item.id = itemId then
      { item with checked := some true, checkedBy, checkedAt := some now, notes }
    else item

def checkItems (now : Timestamp) (checklist : List ManualChecklistItem) (items : List CheckedItem) :
    List ManualChecklistItem :=
  items.foldl (fun checklist item => checkItem now checklist item.id item.checkedBy item.notes)
    checklist

theorem missingItems_eq_nil_iff {checklist : List ManualChecklistItem} : missingItems checklist = [] ↔
      ∀ item ∈ checklist, item.required = true → item.checked = some true := by
  simp only [missingItems, List.map_eq_nil_iff, List.filter_eq_nil_iff]
  simp

variable {item : ManualChecklistItem}

theorem generateChecklist_unchecked {riskLevel : RiskLevel}
    (h : item ∈ generateChecklist riskLevel) : item.checked = some false := by
  simp only [generateChecklist, List.mem_map] at h
  obtain ⟨t, _, rfl⟩ := h
  rfl

theorem mem_checkItem {now : Timestamp} {checklist : List ManualChecklistItem} {itemId : String}
    {checkedBy notes : Option String}
    (h : item ∈ checkItem now checklist itemId checkedBy notes) :
    item ∈ checklist ∨ (item.id = itemId ∧ item.checkedAt = some now ∧ item.checkedBy = checkedBy) := by
  simp only [checkItem, List.mem_map] at h
  obtain ⟨old, hmem, rfl⟩ := h
  split_ifs with hid
  · exact Or.inr ⟨hid, rfl, rfl⟩
  · exact Or.inl hmem

theorem mem_checkItems {now : Timestamp} {items : List CheckedItem} :
    ∀ {checklist : List ManualChecklistItem}, item ∈ checkItems now checklist items →
      item ∈ checklist ∨
        ∃ c ∈ items, item.id = c.id ∧ item.checkedAt = some now ∧ item.checkedBy = c.checkedBy := by
  induction items with
  | nil => exact fun h => Or.inl h
  | cons c items ih =>
    intro checklist h
    rcases ih h with hmem | ⟨c', hc', hitem⟩
    · rcases mem_checkItem hmem with hold | hnew
      · exact Or.inl hold
      · exact Or.inr ⟨c, List.mem_cons_self, hnew⟩
    · exact Or.inr ⟨c', List.mem_cons_of_mem c hc', hitem⟩

end ShipyardCp.Domain
