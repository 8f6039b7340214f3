import ShipyardCp.Domain.RuntimeTools
import ShipyardCp.Lib.KeyedStacks
import ShipyardCp.Lib.NumberedIds

/-! The registrations of tools form a stack for each name. Whatever registrations are made and
closed, and in whatever order, the last open registration of a name is the one in force. -/

namespace ShipyardCp.Properties

open Domain Types Lib RuntimeToolRegistry InsertionMap

/-- A call to a registry that changes it. -/
inductive RegistrationCall where
  | register (now : Timestamp) (tool : RuntimeToolDefinition)
  | closeRegistration (registrationId : String)

def RegistrationCall.perform (r : RuntimeToolRegistry) : RegistrationCall → RuntimeToolRegistry
  | .register now tool => (r.register now tool).2
  | .closeRegistration registrationId => (r.closeRegistration registrationId).2

def registryAfter (history : List RegistrationCall) : RuntimeToolRegistry :=
  history.foldl RegistrationCall.perform .empty

/-- What has been registered: how many registrations were made, and those that are still open, in
the order in which they were made. -/
structure OpenRegistrations where
  made : Nat
  log : List RuntimeToolRegistration

def OpenRegistrations.after (o : OpenRegistrations) : RegistrationCall → OpenRegistrations
  | .register now tool => ⟨o.made + 1, o.log ++ [⟨s!"toolreg_{o.made + 1}", tool, now⟩]⟩
  | .closeRegistration registrationId =>
    { o with log := o.log.filter fun registration => registration.registrationId ≠ registrationId }

def openAfter (history : List RegistrationCall) : List RuntimeToolRegistration :=
  (history.foldl OpenRegistrations.after ⟨0, []⟩).log

def latest (log : List RuntimeToolRegistration) (name : String) : Option RuntimeToolRegistration :=
  (log.filter fun registration => registration.tool.name = name).getLast?

def holdingOnly : Option RuntimeToolRegistration → RuntimeToolRegistry
  | none => .empty
  | some registration => { tools := .set .empty registration.tool.name [registration],
                           nextRegistration := 0 }

/-- A registry lists and decides by the latest open registration of each name. -/
structure FollowsLatest (r : RuntimeToolRegistry) (log : List RuntimeToolRegistration) : Prop where
  /-- Of a name the list has the definition registered last. -/
  listed : ∀ name, r.list.filter (fun tool => tool.name = name) =
    ((latest log name).map (·.tool)).toList
  /-- Invocations are decided as if nothing else were registered. -/
  decided : ∀ platform policy request, decideInvocation platform r policy request =
    decideInvocation platform (holdingOnly (latest log request.tool)) policy request
  /-- A request for a registration goes ahead only while that is the latest. -/
  pinned : ∀ platform policy request registrationId,
    request.registrationId = some registrationId → registrationId ≠ "" →
    (decideInvocation platform r policy request).allowed = true →
    ∃ registration, latest log request.tool = some registration ∧
      registration.registrationId = registrationId

/-- Closing an id takes out the registration that has it, and nothing else. -/
structure ClosesOnly (r : RuntimeToolRegistry) (log : List RuntimeToolRegistration)
    (registrationId : String) : Prop where
  /-- The answer is whether the registration was open. -/
  answered : (r.closeRegistration registrationId).1 = true ↔
    ∃ registration ∈ log, registration.registrationId = registrationId
  /-- Under every name the other registrations stay in their order. -/
  kept : ∀ name, ((r.closeRegistration registrationId).2.tools.get? name).getD [] =
    ((r.tools.get? name).getD []).filter fun registration =>
      registration.registrationId ≠ registrationId
  /-- The list of the other names stays, with its order. -/
  others : ∀ registration ∈ log, registration.registrationId = registrationId →
    (r.closeRegistration registrationId).2.list.filter
        (fun tool => tool.name ≠ registration.tool.name) =
      r.list.filter fun tool => tool.name ≠ registration.tool.name
  /-- Invocations of the other names are decided as before. -/
  apart : ∀ platform policy request,
    (∀ registration ∈ log, registration.registrationId = registrationId →
      registration.tool.name ≠ request.tool) →
    decideInvocation platform (r.closeRegistration registrationId).2 policy request =
      decideInvocation platform r policy request
  /-- The whole list stays when the registration was not the latest of its name. -/
  covered : ∀ registration ∈ log, registration.registrationId = registrationId →
    latest log registration.tool.name ≠ some registration →
    (r.closeRegistration registrationId).2.list = r.list
  /-- An id that is not open changes nothing. -/
  unknown : (∀ registration ∈ log, registration.registrationId ≠ registrationId) →
    (r.closeRegistration registrationId).2 = r

theorem toolreg_injective {m n : Nat} (h : s!"toolreg_{m}" = s!"toolreg_{n}") : m = n := by
  have hlist := congrArg String.toList h
  simp only [toString, String.toList_append] at hlist
  exact toString_nat_inj (String.toList_inj.mp (List.append_cancel_left hlist))

/-- The registry holds a log of registrations whose ids are its own and differ. -/
structure HoldsLog (r : RuntimeToolRegistry) (o : OpenRegistrations) : Prop where
  made : r.nextRegistration = o.made
  stacked : KeyedStacks (fun registration => registration.tool.name) r.tools o.log
  numbered : ∀ registration ∈ o.log, ∃ n ≤ o.made, registration.registrationId = s!"toolreg_{n}"
  distinct : (o.log.map (·.registrationId)).Nodup

section registry

variable {r : RuntimeToolRegistry} {o : OpenRegistrations} {registrationId : String}
  {registration : RuntimeToolRegistration}

theorem holdsLog_register (h : HoldsLog r o) (now : Timestamp) (tool : RuntimeToolDefinition) :
    HoldsLog (r.register now tool).2 (o.after (.register now tool)) where
  made := congrArg (· + 1) h.made
  stacked := by
    have hpush := h.stacked.push ⟨s!"toolreg_{o.made + 1}", tool, now⟩
    rw [← h.made] at hpush
    simpa only [register, OpenRegistrations.after, ← h.made] using hpush
  numbered x hx := by
    obtain hx | hx := List.mem_append.mp hx
    · obtain ⟨n, hn, hid⟩ := h.numbered x hx
      exact ⟨n, Nat.le_succ_of_le hn, hid⟩
    · rw [List.mem_singleton.mp hx]
      exact ⟨o.made + 1, Nat.le_refl _, rfl⟩
  distinct := by
    rw [OpenRegistrations.after, List.map_append, List.map_singleton]
    refine h.distinct.append (List.nodup_singleton _) (List.disjoint_singleton.mpr fun hmem => ?_)
    obtain ⟨x, hx, hid⟩ := List.mem_map.mp hmem
    obtain ⟨n, hn, hnumber⟩ := h.numbered x hx
    have hsame := toolreg_injective (hnumber.symm.trans hid)
    omega

theorem length_others_ne_iff {stack : List RuntimeToolRegistration} :
    (stack.filter fun x => x.registrationId ≠ registrationId).length ≠ stack.length ↔
      ∃ x ∈ stack, x.registrationId = registrationId := by
  rw [Ne, List.length_filter_eq_length_iff]
  simp

theorem closeRegistration_of_not_open (h : HoldsLog r o)
    (hnone : ∀ x ∈ o.log, x.registrationId ≠ registrationId) :
    r.closeRegistration registrationId = (false, r) := by
  have hfind : r.tools.entries.find? (fun entry => decide ((entry.2.filter fun x =>
      x.registrationId ≠ registrationId).length ≠ entry.2.length)) = none := by
    refine List.find?_eq_none.mpr fun entry hentry hlength => ?_
    obtain ⟨x, hx, hid⟩ := length_others_ne_iff.mp (of_decide_eq_true hlength)
    rw [h.stacked.eq_filter (r.tools.mem_entries_iff.mp hentry)] at hx
    exact hnone x (List.mem_of_mem_filter hx) hid
  rw [closeRegistration, hfind]

theorem closeRegistration_of_open (h : HoldsLog r o) (hopen : registration ∈ o.log)
    (hid : registration.registrationId = registrationId) :
    ∃ stack, r.tools.get? registration.tool.name = some stack ∧
      r.closeRegistration registrationId = (true, { r with
        tools := r.tools.retain registration.tool.name
          (fun x => x.registrationId ≠ registrationId) stack }) := by
  have hunder : registration ∈ (r.tools.get? registration.tool.name).getD [] := by
    rw [h.stacked.under]
    exact List.mem_filter.mpr ⟨hopen, decide_eq_true rfl⟩
  cases hget : r.tools.get? registration.tool.name with
  | none => rw [hget] at hunder; cases hunder
  | some stack =>
    rw [hget] at hunder
    have hfind : r.tools.entries.find? (fun entry => decide ((entry.2.filter fun x =>
        x.registrationId ≠ registrationId).length ≠ entry.2.length)) =
        some (registration.tool.name, stack) := by
      cases hfound : r.tools.entries.find? (fun entry => decide ((entry.2.filter fun x =>
          x.registrationId ≠ registrationId).length ≠ entry.2.length)) with
      | none =>
        have hlength := List.find?_eq_none.mp hfound _ (r.tools.mem_entries_iff.mpr hget)
        exact absurd (decide_eq_true (length_others_ne_iff.mpr ⟨registration, hunder, hid⟩))
          hlength
      | some entry =>
        have hentry := r.tools.mem_entries_iff.mp (List.mem_of_find?_eq_some hfound)
        have hlength := List.find?_some hfound
        obtain ⟨x, hx, hxid⟩ := length_others_ne_iff.mp (of_decide_eq_true hlength)
        rw [h.stacked.eq_filter hentry] at hx
        obtain ⟨hmem, hname⟩ := List.mem_filter.mp hx
        have hsame := List.inj_on_of_nodup_map h.distinct hmem hopen (hxid.trans hid.symm)
        have hkey : entry.1 = registration.tool.name := by
          rw [← hsame]
          exact (of_decide_eq_true hname).symm
        rw [hkey, hget] at hentry
        exact congrArg some (Prod.ext hkey (Option.some.inj hentry).symm)
    refine ⟨stack, rfl, ?_⟩
    rw [closeRegistration, hfind]
    dsimp only
    unfold retain
    split_ifs <;> rfl

theorem holdsLog_close (h : HoldsLog r o) (registrationId : String) :
    HoldsLog (r.closeRegistration registrationId).2
      (o.after (.closeRegistration registrationId)) := by
  have hsub : ((o.after (.closeRegistration registrationId)).log).Sublist o.log := List.filter_sublist
  have hnumbered : ∀ x ∈ (o.after (.closeRegistration registrationId)).log,
      ∃ n ≤ o.made, x.registrationId = s!"toolreg_{n}" := fun x hx => h.numbered x (hsub.subset hx)
  have hdistinct := h.distinct.sublist (hsub.map (·.registrationId))
  by_cases hopen : ∃ x ∈ o.log, x.registrationId = registrationId
  · obtain ⟨x, hx, hid⟩ := hopen
    obtain ⟨stack, hget, hclose⟩ := closeRegistration_of_open h hx hid
    rw [hclose]
    refine ⟨h.made, h.stacked.retain hget fun y hy hkeep => ?_, hnumbered, hdistinct⟩
    have hyid : y.registrationId = registrationId := by simpa using hkeep
    rw [List.inj_on_of_nodup_map h.distinct hy hx (hyid.trans hid.symm)]
  · have hnone : ∀ x ∈ o.log, x.registrationId ≠ registrationId :=
      fun x hx hid => hopen ⟨x, hx, hid⟩
    have hsame : (o.after (.closeRegistration registrationId)).log = o.log :=
      List.filter_eq_self.mpr fun x hx => decide_eq_true (hnone x hx)
    rw [closeRegistration_of_not_open h hnone]
    exact ⟨h.made, hsame.symm ▸ h.stacked, hnumbered, hdistinct⟩

theorem HoldsLog.inForce_eq (h : HoldsLog r o) (name : String) : r.inForce name = latest o.log name :=
  h.stacked.top_eq name

theorem list_eq_tops (r : RuntimeToolRegistry) : r.list = r.tools.tops.map (·.tool) := by
  rw [list, tops, List.map_filterMap]

theorem filter_list_eq (r : RuntimeToolRegistry) (p : String → Bool) :
    r.list.filter (fun tool => p tool.name) =
      (r.tools.tops.filter fun x => p x.tool.name).map (·.tool) := by
  rw [list_eq_tops, List.filter_map]
  rfl

theorem name_of_latest {log : List RuntimeToolRegistration} {name : String}
    (h : latest log name = some registration) : registration.tool.name = name :=
  of_decide_eq_true (List.mem_filter.mp (List.mem_of_getLast? h)).2

theorem inForce_holdingOnly {log : List RuntimeToolRegistration} (name : String) :
    (holdingOnly (latest log name)).inForce name = latest log name := by
  cases hlatest : latest log name with
  | none => rfl
  | some x =>
    have hget : (holdingOnly (some x)).tools.get? name = some [x] := by
      rw [← name_of_latest hlatest]
      exact get?_set_self _ _ _
    rw [inForce, hget]
    rfl

theorem decideInvocation_congr {s : RuntimeToolRegistry} (platform : NodePath.Platform)
    (policy : WorkerRuntimePolicy) (request : ToolInvocationRequest)
    (h : r.inForce request.tool = s.inForce request.tool) :
    decideInvocation platform r policy request = decideInvocation platform s policy request := by
  unfold decideInvocation
  rw [h]

theorem inForce_of_allowed {platform : NodePath.Platform} {policy : WorkerRuntimePolicy}
    {request : ToolInvocationRequest} (hasked : request.registrationId = some registrationId)
    (hnamed : registrationId ≠ "")
    (h : (decideInvocation platform r policy request).allowed = true) :
    ∃ x, r.inForce request.tool = some x ∧ x.registrationId = registrationId := by
  unfold decideInvocation at h
  cases hforce : r.inForce request.tool with
  | none => rw [hforce] at h; cases h
  | some x =>
    refine ⟨x, rfl, ?_⟩
    by_contra hne
    have hstale : (request.registrationId.any fun asked =>
        decide (asked ≠ "") && decide (asked ≠ x.registrationId)) = true := by
      rw [hasked, Option.any_some, Bool.and_eq_true]
      exact ⟨decide_eq_true hnamed, decide_eq_true (Ne.symm hne)⟩
    rw [hforce] at h
    dsimp only at h
    rw [if_pos hstale] at h
    cases h

theorem HoldsLog.followsLatest (h : HoldsLog r o) : FollowsLatest r o.log where
  listed name := by
    rw [filter_list_eq r fun name' => name' = name, h.stacked.filter_tops_eq name,
      h.stacked.top_eq name]
    show (latest o.log name).toList.map (·.tool) = _
    cases latest o.log name <;> rfl
  decided platform policy request := by
    refine decideInvocation_congr platform policy request ?_
    rw [h.inForce_eq, inForce_holdingOnly]
  pinned platform policy request registrationId hasked hnamed hallowed := by
    rw [← h.inForce_eq]
    exact inForce_of_allowed hasked hnamed hallowed

theorem HoldsLog.closesOnly (h : HoldsLog r o) (registrationId : String) :
    ClosesOnly r o.log registrationId := by
  have hafter := holdsLog_close h registrationId
  constructor
  · constructor
    · intro hclosed
      by_contra hnone
      rw [closeRegistration_of_not_open h fun x hx hid => hnone ⟨x, hx, hid⟩] at hclosed
      cases hclosed
    · rintro ⟨x, hx, hid⟩
      obtain ⟨stack, _, hclose⟩ := closeRegistration_of_open h hx hid
      rw [hclose]
  · intro name
    rw [hafter.stacked.under, h.stacked.under, OpenRegistrations.after, List.filter_filter,
      List.filter_filter]
    simp only [Bool.and_comm]
  · intro x hx hid
    obtain ⟨stack, _, hclose⟩ := closeRegistration_of_open h hx hid
    have hstacks := hafter.stacked
    rw [hclose] at hstacks ⊢
    rw [filter_list_eq _ fun name => name ≠ x.tool.name,
      filter_list_eq _ fun name => name ≠ x.tool.name, h.stacked.filter_tops_retain hstacks]
  · intro platform policy request hother
    refine decideInvocation_congr platform policy request ?_
    rw [hafter.inForce_eq, h.inForce_eq, latest, latest, OpenRegistrations.after, List.filter_filter]
    refine congrArg List.getLast? (List.filter_congr fun x hx => ?_)
    by_cases hid : x.registrationId = registrationId
    · simp [hother x hx hid]
    · simp [hid]
  · intro x hx hid hcovered
    obtain ⟨stack, hget, hclose⟩ := closeRegistration_of_open h hx hid
    rw [hclose, list_eq_tops, list_eq_tops]
    have hnonempty := h.stacked.nonempty _ _ hget
    have hlatest : stack.getLast? = latest o.log x.tool.name := by
      rw [h.stacked.eq_filter hget]
      rfl
    refine congrArg (List.map _) (KeyedStacks.tops_retain hget ?_ hnonempty)
    obtain ⟨front, last, hstack⟩ := (List.eq_nil_or_concat stack).resolve_left hnonempty
    rw [List.concat_eq_append] at hstack
    -- the last element has another id: else it were the registration that is closed
    have hkeep : last.registrationId ≠ registrationId := by
      intro hlast
      have hmem : last ∈ o.log := by
        have hunder : last ∈ stack := by simp [hstack]
        rw [h.stacked.eq_filter hget] at hunder
        exact List.mem_of_mem_filter hunder
      have hsame := List.inj_on_of_nodup_map h.distinct hmem hx (hlast.trans hid.symm)
      rw [hstack, List.getLast?_concat, hsame] at hlatest
      exact hcovered hlatest.symm
    have hlast : [last].filter (fun y => y.registrationId ≠ registrationId) = [last] :=
      List.filter_eq_self.mpr fun y hy =>
        decide_eq_true (List.mem_singleton.mp hy ▸ hkeep)
    rw [hstack, List.filter_append, hlast, List.getLast?_concat, List.getLast?_concat]
  · exact fun hnone => congrArg Prod.snd (closeRegistration_of_not_open h hnone)

end registry

theorem holdsLog_after (history : List RegistrationCall) :
    HoldsLog (registryAfter history) (history.foldl OpenRegistrations.after ⟨0, []⟩) := by
  induction history using List.reverseRecOn with
  | nil => exact ⟨rfl, .empty, nofun, List.nodup_nil⟩
  | append_singleton history call ih =>
    rw [registryAfter, List.foldl_append, List.foldl_append]
    cases call with
    | register now tool => exact holdsLog_register ih now tool
    | closeRegistration registrationId => exact holdsLog_close ih registrationId

/-- After any history the registry follows the latest open registration of every name, and closing
any id takes out the one registration that has it. -/
theorem registrations_form_stacks (history : List RegistrationCall) :
    FollowsLatest (registryAfter history) (openAfter history) ∧
      ∀ registrationId, ClosesOnly (registryAfter history) (openAfter history) registrationId :=
  ⟨(holdsLog_after history).followsLatest, (holdsLog_after history).closesOnly⟩

end ShipyardCp.Properties
