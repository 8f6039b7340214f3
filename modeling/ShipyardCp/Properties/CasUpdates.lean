import ShipyardCp.Store.RedisBackend

/-! Tasks that any number of clients store by compare-and-set. -/

namespace ShipyardCp.Properties

open Types Lib Store VersionedRegister

/-- A client stores the task of a text. -/
structure SetTaskCall where
  taskId : String
  text : String

/-- A call with what it reports and the backend after it. -/
structure SetTaskOutcome where
  call : SetTaskCall
  reported : Bool
  after : Redis

variable (decode : String → TaskHead)

/-- The outcomes of calls in the order in which the backend executes them. -/
def outcomes (r : Redis) : List SetTaskCall → List SetTaskOutcome
  | [] => []
  | call :: calls =>
    let (reported, r') := r.setTask decode call.taskId call.text
    ⟨call, reported, r'⟩ :: outcomes r' calls

def storedTexts (r : Redis) (calls : List SetTaskCall) (taskId : String) : List (Option String) :=
  r.task? taskId :: (outcomes decode r calls).map fun outcome => outcome.after.task? taskId

def textVersion (text : String) : Nat := (decode text).version

def Successive (stored stored' : Option String) : Prop :=
  stored' = stored ∨ ∃ text, stored' = some text ∧ (stored = none ∨ ∃ current, stored = some current ∧
      textVersion decode text = textVersion decode current + 1)

theorem task?_setTask (r : Redis) (call : SetTaskCall) (taskId : String) :
    (r.setTask decode call.taskId call.text).2.task? taskId =
      if taskId = call.taskId then
        write (textVersion decode) (r.task? call.taskId) call.text
      else r.task? taskId :=
  (Redis.setTask_spec taskId).2

theorem successive_setTask (r : Redis) (call : SetTaskCall) (taskId : String) :
    Successive decode (r.task? taskId)
      ((r.setTask decode call.taskId call.text).2.task? taskId) := by
  rw [task?_setTask]
  split_ifs with hid
  · subst hid
    rcases write_cases (textVersion decode) (r.task? call.taskId) call.text with
      hkept | ⟨hwritten, hbefore⟩
    · exact Or.inl hkept
    · exact Or.inr ⟨call.text, hwritten, hbefore⟩
  · exact Or.inl rfl

theorem advances_setTask (r : Redis) (call : SetTaskCall) (taskId : String) :
    VersionedRegister.Advances (textVersion decode) (r.task? taskId)
      ((r.setTask decode call.taskId call.text).2.task? taskId) := by
  rw [task?_setTask]
  split_ifs with hid
  · subst hid
    exact advances_write _ _ _
  · exact fun current hcurrent => ⟨current, hcurrent, Or.inl rfl⟩

theorem reported_setTask (r : Redis) (call : SetTaskCall) :
    (r.setTask decode call.taskId call.text).1 = true ↔
      (r.setTask decode call.taskId call.text).2.task? call.taskId = some call.text := by
  rw [(Redis.setTask_spec call.taskId).1, task?_setTask, if_pos rfl, write]
  split_ifs with haccepts
  · exact ⟨fun _ => rfl, fun _ => haccepts⟩
  · exact ⟨fun h => absurd h haccepts, fun hstored => Or.inr (Or.inl hstored)⟩

theorem isChain_storedTexts (r : Redis) (calls : List SetTaskCall) (taskId : String) :
    (storedTexts decode r calls taskId).IsChain (Successive decode) := by
  induction calls generalizing r with
  | nil => exact .singleton _
  | cons call calls ih => exact (ih _).cons_cons (successive_setTask decode r call taskId)

theorem isChain_advances (r : Redis) (calls : List SetTaskCall) (taskId : String) :
    (storedTexts decode r calls taskId).IsChain
      (VersionedRegister.Advances (textVersion decode)) := by
  induction calls generalizing r with
  | nil => exact .singleton _
  | cons call calls ih => exact (ih _).cons_cons (advances_setTask decode r call taskId)

theorem mem_outcomes_reported {r : Redis} {calls : List SetTaskCall} {outcome : SetTaskOutcome}
    (h : outcome ∈ outcomes decode r calls) : outcome.reported = true ↔
      outcome.after.task? outcome.call.taskId = some outcome.call.text := by
  induction calls generalizing r with
  | nil => cases h
  | cons call calls ih =>
    rcases List.mem_cons.mp h with rfl | h
    · exact reported_setTask decode r call
    · exact ih h

/-- In every interleaving of calls on every key: the stored contents advance by one version at a
time, a version is stored with one content, and success is reported exactly for what is stored. -/
theorem cas_loses_no_update (r : Redis) (calls : List SetTaskCall) (taskId : String) :
    (storedTexts decode r calls taskId).IsChain (Successive decode) ∧
    (∀ text text', some text ∈ storedTexts decode r calls taskId →
      some text' ∈ storedTexts decode r calls taskId →
      textVersion decode text = textVersion decode text' → text = text') ∧
    ∀ outcome ∈ outcomes decode r calls, outcome.reported = true ↔
      outcome.after.task? outcome.call.taskId = some outcome.call.text :=
  ⟨isChain_storedTexts decode r calls taskId, fun _ _ =>
    eq_of_isChain (isChain_advances decode r calls taskId),
    fun _ => mem_outcomes_reported decode⟩

end ShipyardCp.Properties
