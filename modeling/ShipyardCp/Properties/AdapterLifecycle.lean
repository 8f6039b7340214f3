import ShipyardCp.Domain.AdapterJobs
import ShipyardCp.Lib.NumberedIds
import ShipyardCp.Properties.GenuineEvidence

/-! The life of an adapter's jobs: each has its own id, ends with one answer at most, and until then a poll
reports what its execution has come to. -/

namespace ShipyardCp.Properties

open Lib Types Domain OpenCodeServeAdapter AdapterJobs AdapterSystem

section ids

theorem clockId_inj {name name' : String} {now now' : Nat}
    (h : clockId name now = clockId name' now') : name = name' ∧ now = now' :=
  numberedId_inj h

end ids

/-- The reply is an answer that ends a job: a cancellation that succeeded, or the outcome of its
execution. -/
def endsJob (k : Nat) : AdapterReply → Bool
  | .polled k' answer => k' = some k && (answer.status = .succeeded || answer.status = .failed)
  | .cancelled k' answer => k' = some k && answer.success

def HasEnded (s : AdapterSystem) (k : Nat) : Prop := ∃ reply ∈ s.replies, endsJob k reply = true

def shownError (kind : AdapterKind) (error : Option String) : Option String :=
  match kind with
  | .opencodeServe => some (failureText error)
  | _ => error

def ReportsOutcome (kind : AdapterKind) (answer : AdapterPoll) : ExecutionOutcome → Prop
  | .ok result => answer.status = .succeeded ∧ answer.result = some result
  | .error error => answer.status = .failed ∧ answer.error = shownError kind error

/-- Each accepted job has an id of its own; it gets at most one answer that ends it; and up to that a poll
would report the outcome of its execution, or that it is queued or running while that goes on. -/
structure LifecycleKept (kind : AdapterKind) (s : AdapterSystem) : Prop where
  distinct : ∀ (i j : Nat) (a b : Submission), s.submissions[i]? = some a →
    s.submissions[j]? = some b → a.phase = .accepted → b.phase = .accepted →
      a.externalJobId = b.externalJobId → i = j
  once : ∀ k a, s.submissions[k]? = some a → a.phase = .accepted →
    (s.replies.filter (endsJob k)).length ≤ 1
  reported : ∀ k a, s.submissions[k]? = some a → a.phase = .accepted → ¬HasEnded s k →
    match a.outcome with
    | none => (kind.pollJob s.jobs a.externalJobId).2.2.status = .queued ∨
        (kind.pollJob s.jobs a.externalJobId).2.2.status = .running
    | some outcome => ReportsOutcome kind (kind.pollJob s.jobs a.externalJobId).2.2 outcome

/-- No two submissions of a job come at one time, and a completion does not throw before its first await;
a job is cancelled by its executor before any other answer has ended it; and the serve adapter is not
refused the cancellation of a job that has not ended. -/
def AdapterApart (kind : AdapterKind) (s : AdapterSystem) : AdapterAction → Prop
  | .submitJob job _ _ now thrown => thrown = none ∧
      ∀ a ∈ s.submissions, kind.jobName a.job = kind.jobName job → a.submittedAt ≠ now
  | .cancelAnswered i cancelled => ∀ c, s.cancels[i]? = some c →
      (cancelled = true → ¬HasEnded s c.object) ∧
      (cancelled = false → kind = .opencodeServe → HasEnded s c.object ∨
        ∃ a, s.submissions[c.object]? = some a ∧ a.phase = .refused)
  | _ => True

/-- What the state object of a job that has not ended tells of its submission. -/
def Tells (kind : AdapterKind) (a : Submission) (state : AdapterJob) : Prop :=
  match a.phase, a.outcome with
  | .awaitingServer, outcome => outcome = none ∧ state.status = .queued
  | .accepted, none => state.status = .running
  | .accepted, some outcome => ∀ x, ReportsOutcome kind (kind.pollAnswer x state) outcome
  | .refused, _ => True

/-- External ids are distinct and known until their jobs have ended, and what is known tells of them. -/
structure AdapterInvariant (kind : AdapterKind) (s : AdapterSystem) : Prop where
  lengths : s.submissions.length = s.jobs.objects.length
  ids : ∀ (i j : Nat) (a b : Submission), s.submissions[i]? = some a →
    s.submissions[j]? = some b → a.externalJobId = b.externalJobId → i = j
  clocked : ∀ a ∈ s.submissions, a.externalJobId = clockId (kind.jobName a.job) a.submittedAt
  known : ∀ x k, s.jobs.jobStates.get? x = some k →
    ∃ a, s.submissions[k]? = some a ∧ a.externalJobId = x
  replied : ∀ k, HasEnded s k → k < s.submissions.length
  ended : ∀ k a, s.submissions[k]? = some a → HasEnded s k →
    s.jobs.jobStates.get? a.externalJobId = none
  kept : ∀ k a, s.submissions[k]? = some a → a.phase ≠ .refused → ¬HasEnded s k →
    s.jobs.jobStates.get? a.externalJobId = some k
  told : ∀ k a state, s.submissions[k]? = some a → s.jobs.objects[k]? = some state →
    state.job = a.job ∧ (¬HasEnded s k → Tells kind a state)
  once : ∀ k, (s.replies.filter (endsJob k)).length ≤ 1
  cancels : ∀ c ∈ s.cancels, ∃ a, s.submissions[c.object]? = some a ∧
    a.externalJobId = c.externalJobId

theorem pollJob_eq (kind : AdapterKind) (jobs : AdapterJobs) (x : String) :
    kind.pollJob jobs x = pollWith kind.pollAnswer jobs x := by
  cases kind <;> rfl

section step

variable {kind : AdapterKind} {s : AdapterSystem} {k : Nat} {a : Submission}

theorem AdapterInvariant.object (hinv : AdapterInvariant kind s)
    (hk : s.submissions[k]? = some a) : ∃ state, s.jobs.objects[k]? = some state := by
  have hlt := (List.getElem?_eq_some_iff.mp hk).1
  rw [hinv.lengths] at hlt
  exact ⟨_, List.getElem?_eq_getElem hlt⟩

theorem AdapterInvariant.lifecycleKept (hinv : AdapterInvariant kind s) : LifecycleKept kind s where
  distinct := fun i j a b hi hj _ _ hids => hinv.ids i j a b hi hj hids
  once := fun k _ _ _ => hinv.once k
  reported := fun k a hk haccepted hopen => by
    obtain ⟨state, hstate⟩ := hinv.object hk
    have hknown := hinv.kept k a hk (by rw [haccepted]; exact nofun) hopen
    have hget : s.jobs.get? a.externalJobId = some (k, state) := by
      simp [AdapterJobs.get?, hknown, hstate]
    have hanswer : (kind.pollJob s.jobs a.externalJobId).2.2 =
        kind.pollAnswer a.externalJobId state := by
      rw [pollJob_eq, pollWith, hget]
    have htells := (hinv.told k a state hk hstate).2 hopen
    rw [hanswer]
    cases houtcome : a.outcome with
    | none =>
      simp only [Tells, haccepted, houtcome] at htells
      refine .inr ?_
      cases kind <;>
        simp only [AdapterKind.pollAnswer, OpenAICompatibleCompletionAdapter.pollAnswer,
          ProductionClaudeCodeAdapter.pollAnswer, pollAnswer, htells]
    | some outcome =>
      simp only [Tells, haccepted, houtcome] at htells
      exact htells a.externalJobId

theorem adapterInvariant_empty : AdapterInvariant kind ⟨.empty, [], [], []⟩ where
  lengths := rfl
  ids := fun _ _ _ _ h => by cases h
  clocked := fun _ h => by cases h
  known := fun _ _ h => by cases h
  replied := fun _ h => by obtain ⟨_, h, _⟩ := h; cases h
  ended := fun _ _ h => by cases h
  kept := fun _ _ h => by cases h
  told := fun _ _ _ h => by cases h
  once := fun _ => Nat.zero_le 1
  cancels := fun _ h => by cases h

variable {s' : AdapterSystem}

theorem hasEnded_append {reply : AdapterReply}
    (hreplies : s'.replies = s.replies ++ [reply]) (k : Nat) :
    HasEnded s' k ↔ HasEnded s k ∨ endsJob k reply = true := by
  simp only [HasEnded, hreplies, List.mem_append, List.mem_singleton]
  constructor
  · rintro ⟨r, hr | rfl, hends⟩
    · exact .inl ⟨r, hr, hends⟩
    · exact .inr hends
  · rintro (⟨r, hr, hends⟩ | hends)
    · exact ⟨r, .inl hr, hends⟩
    · exact ⟨reply, .inr rfl, hends⟩

theorem AdapterInvariant.reply (hinv : AdapterInvariant kind s) {reply : AdapterReply}
    (hends : ∀ k, endsJob k reply = false) :
    AdapterInvariant kind { s with replies := s.replies ++ [reply] } := by
  have hsame : ∀ k, HasEnded { s with replies := s.replies ++ [reply] } k ↔ HasEnded s k := by
    intro k
    rw [hasEnded_append rfl k, hends k]
    simp
  refine ⟨hinv.lengths, hinv.ids, hinv.clocked, hinv.known, ?_, ?_, ?_, ?_, ?_, hinv.cancels⟩
  · exact fun k h => hinv.replied k ((hsame k).mp h)
  · exact fun k a hk h => hinv.ended k a hk ((hsame k).mp h)
  · exact fun k a hk hphase h => hinv.kept k a hk hphase fun hs => h ((hsame k).mpr hs)
  · intro k a state hk hstate
    obtain ⟨hjob, htells⟩ := hinv.told k a state hk hstate
    exact ⟨hjob, fun h => htells fun hs => h ((hsame k).mpr hs)⟩
  · intro k
    rw [List.filter_append, List.filter_cons_of_neg (by simp [hends k])]
    simpa using hinv.once k

theorem AdapterInvariant.finish (hinv : AdapterInvariant kind s) (hk : s.submissions[k]? = some a)
    (hopen : ¬HasEnded s k) {f : AdapterJob → AdapterJob} (hf : ∀ state, (f state).job = state.job)
    {reply : AdapterReply} (hends : ∀ k', endsJob k' reply = true ↔ k' = k) :
    AdapterInvariant kind { s with
      jobs := (s.jobs.update k f).delete a.externalJobId
      replies := s.replies ++ [reply] } := by
  have hended : ∀ k', HasEnded { s with
      jobs := (s.jobs.update k f).delete a.externalJobId
      replies := s.replies ++ [reply] } k' ↔ HasEnded s k' ∨ k' = k := by
    intro k'
    rw [hasEnded_append rfl k', hends k']
  refine ⟨?_, hinv.ids, hinv.clocked, ?_, ?_, ?_, ?_, ?_, ?_, hinv.cancels⟩
  · simp [update, delete, hinv.lengths]
  · intro x k' hget
    simp only [delete, update, InsertionMap.get?_delete] at hget
    split at hget
    · cases hget
    · exact hinv.known x k' hget
  · intro k' h
    rcases (hended k').mp h with h | rfl
    · exact hinv.replied k' h
    · exact (List.getElem?_eq_some_iff.mp hk).1
  · intro k' b hk' h
    simp only [delete, update, InsertionMap.get?_delete]
    split
    · rfl
    · next hne =>
      rcases (hended k').mp h with h | rfl
      · exact hinv.ended k' b hk' h
      · obtain rfl := Option.some.inj (hk.symm.trans hk')
        exact absurd rfl hne
  · intro k' b hk' hphase h
    simp only [delete, update, InsertionMap.get?_delete]
    have hne : ¬b.externalJobId = a.externalJobId := fun hids =>
      h ((hended k').mpr (.inr (hinv.ids k' k b a hk' hk hids)))
    rw [if_neg hne]
    exact hinv.kept k' b hk' hphase fun hs => h ((hended k').mpr (.inl hs))
  · intro k' b state hk' hstate
    simp only [delete, update, List.getElem?_modify] at hstate
    obtain ⟨old, hold, rfl⟩ := Option.map_eq_some_iff.mp hstate
    obtain ⟨hjob, htells⟩ := hinv.told k' b old hk' hold
    constructor
    · split
      · exact (hf old).trans hjob
      · exact hjob
    · intro h
      have hne : ¬k = k' := fun hkk => h ((hended k').mpr (.inr hkk.symm))
      rw [if_neg hne]
      exact htells fun hs => h ((hended k').mpr (.inl hs))
  · intro k'
    rw [List.filter_append, List.length_append]
    by_cases hkk : k' = k
    · subst hkk
      have hnone : s.replies.filter (endsJob k') = [] :=
        List.filter_eq_nil_iff.mpr fun r hr hends => hopen ⟨r, hr, hends⟩
      rw [hnone]
      exact Nat.zero_add _ ▸ List.length_filter_le _ _
    · rw [List.filter_cons_of_neg (by rw [hends]; exact hkk)]
      simpa using hinv.once k'

theorem AdapterInvariant.forget (hinv : AdapterInvariant kind s) (hk : s.submissions[k]? = some a)
    (hover : HasEnded s k ∨ a.phase = .refused) :
    AdapterInvariant kind { s with jobs := s.jobs.delete a.externalJobId } := by
  refine ⟨hinv.lengths, hinv.ids, hinv.clocked, ?_, hinv.replied, ?_, ?_, hinv.told, hinv.once,
    hinv.cancels⟩
  · intro x k' hget
    simp only [delete, InsertionMap.get?_delete] at hget
    split at hget
    · cases hget
    · exact hinv.known x k' hget
  · intro k' b hk' h
    simp only [delete, InsertionMap.get?_delete]
    split
    · rfl
    · exact hinv.ended k' b hk' h
  · intro k' b hk' hphase h
    simp only [delete, InsertionMap.get?_delete]
    have hne : ¬b.externalJobId = a.externalJobId := by
      intro hids
      obtain rfl := hinv.ids k' k b a hk' hk hids
      obtain rfl := Option.some.inj (hk.symm.trans hk')
      exact hover.elim h hphase
    rw [if_neg hne]
    exact hinv.kept k' b hk' hphase h

theorem AdapterInvariant.setCancels (hinv : AdapterInvariant kind s) {cancels : List PendingCancel}
    (hcancels : ∀ c ∈ cancels, ∃ a, s.submissions[c.object]? = some a ∧
      a.externalJobId = c.externalJobId) :
    AdapterInvariant kind { s with cancels := cancels } :=
  ⟨hinv.lengths, hinv.ids, hinv.clocked, hinv.known, hinv.replied, hinv.ended, hinv.kept, hinv.told,
    hinv.once, hcancels⟩

theorem AdapterInvariant.add (hinv : AdapterInvariant kind s) (a : Submission) (state : AdapterJob)
    (hclocked : a.externalJobId = clockId (kind.jobName a.job) a.submittedAt)
    (hfresh : ∀ b ∈ s.submissions, kind.jobName b.job = kind.jobName a.job →
      b.submittedAt ≠ a.submittedAt)
    (hjob : state.job = a.job) (htells : Tells kind a state) :
    AdapterInvariant kind { s with
      jobs := s.jobs.add a.externalJobId state
      submissions := s.submissions ++ [a] } := by
  have hids : ∀ b ∈ s.submissions, b.externalJobId ≠ a.externalJobId := by
    intro b hb hid
    rw [hinv.clocked b hb, hclocked] at hid
    obtain ⟨hname, hnow⟩ := clockId_inj hid
    exact hfresh b hb hname hnow
  have hat : ∀ {k : Nat} {b : Submission}, (s.submissions ++ [a])[k]? = some b →
      s.submissions[k]? = some b ∨ k = s.submissions.length ∧ b = a := by
    intro k b hb
    rcases Nat.lt_or_ge k s.submissions.length with hlt | hge
    · rw [List.getElem?_append_left hlt] at hb
      exact .inl hb
    · rw [List.getElem?_append_right hge, List.getElem?_singleton] at hb
      split at hb
      · exact .inr ⟨by omega, (Option.some.inj hb).symm⟩
      · cases hb
  have hleft : ∀ {k : Nat} {b : Submission}, s.submissions[k]? = some b →
      (s.submissions ++ [a])[k]? = some b := fun hb =>
    (List.getElem?_append_left (List.getElem?_eq_some_iff.mp hb).1).trans hb
  refine ⟨by simp [AdapterJobs.add, hinv.lengths], ?_, ?_, ?_, ?_, ?_, ?_, ?_, hinv.once, ?_⟩
  · intro i j b c hb hc hid
    rcases hat hb with hold | ⟨rfl, rfl⟩ <;> rcases hat hc with hold' | ⟨rfl, rfl⟩
    · exact hinv.ids i j b c hold hold' hid
    · exact absurd hid (hids b (List.mem_of_getElem? hold))
    · exact absurd hid.symm (hids c (List.mem_of_getElem? hold'))
    · rfl
  · intro b hb
    rcases List.mem_append.mp hb with hb | hb
    · exact hinv.clocked b hb
    · rw [List.mem_singleton.mp hb]
      exact hclocked
  · intro x k hget
    simp only [AdapterJobs.add, InsertionMap.get?_set] at hget
    split at hget
    · next hx =>
      obtain rfl := Option.some.inj hget
      refine ⟨a, ?_, hx.symm⟩
      rw [← hinv.lengths]
      simp
    · obtain ⟨b, hb, hid⟩ := hinv.known x k hget
      exact ⟨b, hleft hb, hid⟩
  · intro k h
    rw [List.length_append]
    exact Nat.lt_add_right _ (hinv.replied k h)
  · intro k b hb h
    have hlt := hinv.replied k h
    rcases hat hb with hb | ⟨rfl, _⟩
    · simp only [AdapterJobs.add, InsertionMap.get?_set]
      rw [if_neg (hids b (List.mem_of_getElem? hb))]
      exact hinv.ended k b hb h
    · exact absurd hlt (Nat.lt_irrefl _)
  · intro k b hb hphase h
    simp only [AdapterJobs.add, InsertionMap.get?_set]
    rcases hat hb with hb | ⟨rfl, rfl⟩
    · rw [if_neg (hids b (List.mem_of_getElem? hb))]
      exact hinv.kept k b hb hphase h
    · rw [if_pos rfl, hinv.lengths]
  · intro k b state' hb hstate'
    simp only [AdapterJobs.add] at hstate'
    rcases hat hb with hb | ⟨rfl, rfl⟩
    · have hlt := (List.getElem?_eq_some_iff.mp hb).1
      rw [hinv.lengths] at hlt
      rw [List.getElem?_append_left hlt] at hstate'
      exact hinv.told k b state' hb hstate'
    · rw [hinv.lengths, List.getElem?_concat_length] at hstate'
      obtain rfl := Option.some.inj hstate'
      exact ⟨hjob, fun _ => htells⟩
  · intro c hc
    obtain ⟨b, hb, hid⟩ := hinv.cancels c hc
    exact ⟨b, hleft hb, hid⟩

variable {state : AdapterJob}

theorem AdapterInvariant.goesOn (hinv : AdapterInvariant kind s) (hk : s.submissions[k]? = some a) (hstate : s.jobs.objects[k]? = some state) {f : Submission → Submission}
    {g : AdapterJob → AdapterJob} (hid : ∀ b, (f b).externalJobId = b.externalJobId)
    (hsame : ∀ b, (f b).job = b.job ∧ (f b).submittedAt = b.submittedAt)
    (hphase : (f a).phase = .refused ∨ a.phase ≠ .refused) (hjob : (g state).job = state.job)
    (htells : Tells kind a state → Tells kind (f a) (g state)) :
    AdapterInvariant kind { s with
      jobs := s.jobs.update k g
      submissions := s.submissions.modify k f } := by
  have hat : ∀ {k' : Nat} {b : Submission}, (s.submissions.modify k f)[k']? = some b →
      ∃ old, s.submissions[k']? = some old ∧ b = if k = k' then f old else old := by
    intro k' b hb
    rw [List.getElem?_modify] at hb
    obtain ⟨old, hold, rfl⟩ := Option.map_eq_some_iff.mp hb
    exact ⟨old, hold, rfl⟩
  have hmap : ∀ {k' : Nat} {old : Submission}, s.submissions[k']? = some old →
      ∃ b, (s.submissions.modify k f)[k']? = some b ∧ b.externalJobId = old.externalJobId := by
    intro k' old hold
    refine ⟨if k = k' then f old else old, by rw [List.getElem?_modify, hold]; rfl, ?_⟩
    split
    · exact hid old
    · rfl
  have hids : ∀ {k' : Nat} {old : Submission},
      (if k = k' then f old else old).externalJobId = old.externalJobId := by
    intro k' old
    split
    · exact hid old
    · rfl
  refine ⟨by simp [update, hinv.lengths], ?_, ?_, ?_, ?_, ?_, ?_, ?_, hinv.once, ?_⟩
  · intro i j b c hb hc hbc
    obtain ⟨old, hold, rfl⟩ := hat hb
    obtain ⟨old', hold', rfl⟩ := hat hc
    rw [hids, hids] at hbc
    exact hinv.ids i j old old' hold hold' hbc
  · intro b hb
    obtain ⟨k', hk'⟩ := List.mem_iff_getElem?.mp hb
    obtain ⟨old, hold, rfl⟩ := hat hk'
    have hclocked := hinv.clocked old (List.mem_of_getElem? hold)
    split
    · rw [hid, (hsame old).1, (hsame old).2]
      exact hclocked
    · exact hclocked
  · intro x k' hget
    obtain ⟨old, hold, hx⟩ := hinv.known x k' hget
    obtain ⟨b, hb, hbid⟩ := hmap hold
    exact ⟨b, hb, hbid.trans hx⟩
  · intro k' h
    rw [List.length_modify]
    exact hinv.replied k' h
  · intro k' b hb h
    obtain ⟨old, hold, rfl⟩ := hat hb
    rw [hids]
    exact hinv.ended k' old hold h
  · intro k' b hb hb' h
    obtain ⟨old, hold, rfl⟩ := hat hb
    rw [hids]
    refine hinv.kept k' old hold ?_ h
    split at hb'
    · next hkk =>
      subst hkk
      obtain rfl := Option.some.inj (hk.symm.trans hold)
      exact hphase.resolve_left hb'
    · exact hb'
  · intro k' b state' hb hstate'
    obtain ⟨old, hold, rfl⟩ := hat hb
    simp only [update, List.getElem?_modify] at hstate'
    obtain ⟨oldState, holdState, rfl⟩ := Option.map_eq_some_iff.mp hstate'
    obtain ⟨holdJob, holdTells⟩ := hinv.told k' old oldState hold holdState
    split
    · next hkk =>
      subst hkk
      obtain rfl := Option.some.inj (hk.symm.trans hold)
      obtain rfl := Option.some.inj (hstate.symm.trans holdState)
      exact ⟨hjob.trans (holdJob.trans (hsame a).1.symm), fun h => htells (holdTells h)⟩
    · exact ⟨holdJob, holdTells⟩
  · intro c hc
    obtain ⟨old, hold, hcid⟩ := hinv.cancels c hc
    obtain ⟨b, hb, hbid⟩ := hmap hold
    exact ⟨b, hb, hbid.trans hcid⟩

variable {x : String}

theorem get?_eq_some {jobs : AdapterJobs} (h : jobs.get? x = some (k, state)) :
    jobs.jobStates.get? x = some k ∧ jobs.objects[k]? = some state := by
  obtain ⟨k', hk', hmap⟩ := Option.bind_eq_some_iff.mp h
  obtain ⟨state', hstate', heq⟩ := Option.map_eq_some_iff.mp hmap
  obtain ⟨rfl, rfl⟩ := Prod.mk.inj heq
  exact ⟨hk', hstate'⟩

theorem AdapterInvariant.found (hinv : AdapterInvariant kind s)
    (h : s.jobs.get? x = some (k, state)) :
    ∃ a, s.submissions[k]? = some a ∧ a.externalJobId = x ∧ ¬HasEnded s k := by
  obtain ⟨hknown, _⟩ := get?_eq_some h
  obtain ⟨a, hk, rfl⟩ := hinv.known x k hknown
  refine ⟨a, hk, rfl, fun hended => ?_⟩
  rw [hinv.ended k a hk hended] at hknown
  cases hknown

theorem AdapterInvariant.polled (hinv : AdapterInvariant kind s)
    (hnext : s.next kind (.pollJob x) = some s') : AdapterInvariant kind s' := by
  simp only [next, pollJob_eq, pollWith] at hnext
  cases hget : s.jobs.get? x with
  | none =>
    rw [hget] at hnext
    cases hnext
    exact hinv.reply fun _ => rfl
  | some found =>
    obtain ⟨k, state⟩ := found
    obtain ⟨a, hk, rfl, hopen⟩ := hinv.found hget
    rw [hget] at hnext
    simp only at hnext
    split at hnext
    · next hterminal =>
      cases hnext
      have hends : ∀ k', endsJob k' (.polled (some k) (kind.pollAnswer a.externalJobId state)) = true ↔
          k' = k := by
        intro k'
        simp only [endsJob, Bool.and_eq_true, decide_eq_true_eq, Bool.or_eq_true, Option.some.injEq]
        exact ⟨fun h => h.1.symm, fun h => ⟨h.symm, hterminal⟩⟩
      have hfinished := hinv.finish hk hopen (fun state => (rfl : (id state).job = state.job)) hends
      rwa [AdapterJobs.update_id] at hfinished
    · next hgoing =>
      cases hnext
      refine hinv.reply fun k' => ?_
      simp only [endsJob, Bool.and_eq_false_iff, decide_eq_false_iff_not, Bool.or_eq_false_iff]
      exact .inr ⟨fun h => hgoing (.inl h), fun h => hgoing (.inr h)⟩

theorem cancelledJob_job (state : AdapterJob) : (cancelledJob state).job = state.job := rfl

theorem endsJob_cancelled {k : Option Nat} {answer : CancelResult} (h : answer.success = false)
    (j : Nat) : endsJob j (.cancelled k answer) = false := by
  simp [endsJob, h]

theorem endsJob_success {k j : Nat} {answer : CancelResult} (h : answer.success = true) :
    endsJob j (.cancelled (some k) answer) = true ↔ j = k := by
  simp [endsJob, h, eq_comm]

theorem AdapterInvariant.awaits (hinv : AdapterInvariant kind s)
    (hget : s.jobs.get? x = some (k, state)) (session : Bool) :
    AdapterInvariant kind { s with cancels := s.cancels ++ [⟨x, k, session, false⟩] } := by
  obtain ⟨a, hk, rfl, _⟩ := hinv.found hget
  refine hinv.setCancels fun c hc => ?_
  rcases List.mem_append.mp hc with hc | hc
  · exact hinv.cancels c hc
  · rw [List.mem_singleton.mp hc]
    exact ⟨a, hk, rfl⟩

theorem AdapterInvariant.cancelBegun (hinv : AdapterInvariant kind s) (hnext : s.next kind (.cancelJob x) = some s') :
    AdapterInvariant kind s' := by
  cases hget : s.jobs.get? x with
  | none =>
    cases kind <;>
    · simp only [next, AdapterKind.cancelJob,
        OpenAICompatibleCompletionAdapter.cancelJob, ProductionClaudeCodeAdapter.cancelJob,
        cancelJob, hget] at hnext
      cases hnext
      exact hinv.reply fun _ => rfl
  | some found =>
    obtain ⟨k, state⟩ := found
    cases kind with
    | completion externalJobPrefix =>
      simp only [next, AdapterKind.cancelJob,
        OpenAICompatibleCompletionAdapter.cancelJob, hget] at hnext
      split at hnext
      · next hstart =>
        split at hstart
        · cases hstart
          cases hnext
          exact hinv.reply (endsJob_cancelled rfl)
        · cases hstart
          cases hnext
          obtain ⟨a, hk, rfl, hopen⟩ := hinv.found hget
          refine hinv.finish hk hopen cancelledJob_job fun j => ?_
          exact endsJob_success rfl
      · next hstart => split at hstart <;> cases hstart
    | claudeCode =>
      simp only [next, AdapterKind.cancelJob, ProductionClaudeCodeAdapter.cancelJob, hget] at hnext
      split at hnext
      · next hstart =>
        split at hstart
        · cases hstart
          cases hnext
          exact hinv.reply (endsJob_cancelled rfl)
        · cases hstart
      · next hstart =>
        split at hstart
        · cases hstart
        · cases hstart
          cases hnext
          exact hinv.awaits hget _
    | opencodeServe =>
      simp only [next, AdapterKind.cancelJob, cancelJob, hget] at hnext
      cases hnext
      exact hinv.awaits hget _

theorem AdapterInvariant.cancelAnswered (hinv : AdapterInvariant kind s) {i : Nat} {cancelled : Bool} (hapart : AdapterApart kind s (.cancelAnswered i cancelled))
    (hnext : s.next kind (.cancelAnswered i cancelled) = some s') : AdapterInvariant kind s' := by
  obtain ⟨c, hc, hanswered⟩ := Option.bind_eq_some_iff.mp hnext
  obtain ⟨hfirst, hover⟩ := hapart c hc
  obtain ⟨a, hk, hid⟩ := hinv.cancels c (List.mem_of_getElem? hc)
  have hcancels : ∀ c' ∈ s.cancels.modify i (fun c => { c with answered := true }),
      ∃ a, s.submissions[c'.object]? = some a ∧ a.externalJobId = c'.externalJobId := by
    intro c' hc'
    obtain ⟨j, hj⟩ := List.mem_iff_getElem?.mp hc'
    rw [List.getElem?_modify] at hj
    obtain ⟨old, hold, rfl⟩ := Option.map_eq_some_iff.mp hj
    obtain ⟨b, hb, hbid⟩ := hinv.cancels old (List.mem_of_getElem? hold)
    refine ⟨b, ?_, ?_⟩
    · split <;> exact hb
    · split <;> exact hbid
  have hinv' := hinv.setCancels hcancels
  split at hanswered
  · cases hanswered
  · obtain ⟨⟨jobs, answer⟩, hstep, rfl⟩ := Option.map_eq_some_iff.mp hanswered
    cases kind with
    | completion externalJobPrefix => cases hstep
    | claudeCode =>
      simp only [AdapterKind.cancelAnswered, ProductionClaudeCodeAdapter.cancelAnswered, ← hid] at hstep
      cases cancelled with
      | true =>
        cases hstep
        refine hinv'.finish hk (hfirst rfl) cancelledJob_job fun j => ?_
        exact endsJob_success rfl
      | false =>
        cases hstep
        exact hinv'.reply (endsJob_cancelled rfl)
    | opencodeServe =>
      simp only [AdapterKind.cancelAnswered, cancelAnswered, ← hid] at hstep
      cases cancelled with
      | true =>
        cases hstep
        have hends : ∀ k', endsJob k' (.cancelled (some c.object)
            { success := true, status := .cancelled }) = true ↔ k' = c.object := fun k' =>
          endsJob_success rfl
        have hfinished := hinv'.finish hk (hfirst rfl)
          (fun state => (rfl : (id state).job = state.job)) hends
        rwa [AdapterJobs.update_id] at hfinished
      | false =>
        cases hstep
        have hended : HasEnded s c.object ∨ a.phase = .refused := by
          refine (hover rfl rfl).imp_right ?_
          rintro ⟨b, hb, hphase⟩
          obtain rfl := Option.some.inj (hk.symm.trans hb)
          exact hphase
        exact (hinv'.forget hk hended).reply (endsJob_cancelled rfl)

theorem settle_spec {env : AdapterEnv} {state' : AdapterJob} {settling : Settling}
    (h : kind.settle env state settling = some state') : state'.job = state.job ∧
      ∀ x, ReportsOutcome kind (kind.pollAnswer x state') (kind.outcome env state.job settling) := by
  cases settling with
  | completion answer =>
    cases kind with
    | completion externalJobPrefix =>
      cases h
      cases answer with
      | ok content => exact ⟨rfl, fun _ => ⟨rfl, rfl⟩⟩
      | error message => exact ⟨rfl, fun _ => ⟨rfl, rfl⟩⟩
    | claudeCode => cases h
    | opencodeServe => cases h
  | execution answer =>
    cases kind with
    | completion externalJobPrefix => cases h
    | claudeCode =>
      cases h
      cases answer with
      | error message => exact ⟨rfl, fun _ => ⟨rfl, rfl⟩⟩
      | ok result =>
        cases hsuccess : result.success with
        | true =>
          simp only [ProductionClaudeCodeAdapter.settle, AdapterKind.outcome, hsuccess]
          exact ⟨rfl, fun _ => ⟨rfl, rfl⟩⟩
        | false =>
          simp only [ProductionClaudeCodeAdapter.settle, AdapterKind.outcome, hsuccess]
          exact ⟨rfl, fun _ => ⟨rfl, rfl⟩⟩
    | opencodeServe =>
      cases h
      cases answer with
      | error message =>
        refine ⟨rfl, fun _ => ?_⟩
        simp [settle, AdapterKind.outcome, AdapterKind.pollAnswer,
          pollAnswer, ReportsOutcome, shownError]
      | ok result =>
        cases hsuccess : result.success with
        | true =>
          simp only [settle, AdapterKind.outcome, hsuccess]
          exact ⟨rfl, fun _ => ⟨rfl, rfl⟩⟩
        | false =>
          refine ⟨by simp [settle, hsuccess], fun _ => ?_⟩
          simp [settle, AdapterKind.outcome, AdapterKind.pollAnswer,
            pollAnswer, ReportsOutcome, shownError, hsuccess]

theorem AdapterInvariant.settled (hinv : AdapterInvariant kind s) {env : AdapterEnv}
    {settling : Settling}
    (hnext : s.next kind (.settles k env settling) = some s') : AdapterInvariant kind s' := by
  obtain ⟨a, hk, hrest⟩ := Option.bind_eq_some_iff.mp hnext
  obtain ⟨state, hstate, hsettles⟩ := Option.bind_eq_some_iff.mp hrest
  split at hsettles
  · next hrunning =>
    obtain ⟨state', hsettle, rfl⟩ := Option.map_eq_some_iff.mp hsettles
    obtain ⟨hjob, hreports⟩ := settle_spec hsettle
    have hsame := (hinv.told k a state hk hstate).1
    refine hinv.goesOn hk hstate (fun _ => rfl) (fun _ => ⟨rfl, rfl⟩) (.inr ?_) hjob fun _ => ?_
    · rw [hrunning.1]
      exact nofun
    · simp only [Tells, hrunning.1]
      rw [← hsame]
      exact hreports
  · cases hsettles

theorem AdapterInvariant.serverAnswered (hinv : AdapterInvariant kind s) {ready : Option Bool} (hnext : s.next kind (.serverAnswered k ready) = some s') :
    AdapterInvariant kind s' := by
  obtain ⟨a, hk, hrest⟩ := Option.bind_eq_some_iff.mp hnext
  obtain ⟨state, hstate⟩ := hinv.object hk
  split at hrest
  · next hawaiting =>
    have hphase : a.phase ≠ .refused := by
      rw [hawaiting]
      exact nofun
    cases ready with
    | some ready =>
      cases hrest
      refine hinv.goesOn hk hstate (fun _ => rfl) (fun _ => ⟨rfl, rfl⟩) (.inr hphase) rfl ?_
      intro htells
      simp only [Tells, hawaiting] at htells
      simp only [Tells, htells.1]
    | none =>
      cases hrest
      have hrefused := hinv.goesOn hk hstate
        (fun b => (rfl : ({ b with phase := .refused } : Submission).externalJobId = b.externalJobId))
        (fun _ => ⟨rfl, rfl⟩) (.inl rfl) (rfl : (id state).job = state.job) fun _ => trivial
      rwa [AdapterJobs.update_id] at hrefused
  · cases hrest

theorem AdapterInvariant.submitted (hinv : AdapterInvariant kind s) {job : WorkerJob}
    {hasContext hasEnvelope : Bool} {now : Nat} {thrown : Option String}
    (hapart : AdapterApart kind s (.submitJob job hasContext hasEnvelope now thrown))
    (hnext : s.next kind (.submitJob job hasContext hasEnvelope now thrown) = some s') :
    AdapterInvariant kind s' := by
  obtain ⟨rfl, hfresh⟩ := hapart
  obtain ⟨⟨jobs, submission⟩, hsubmit, rfl⟩ := Option.map_eq_some_iff.mp hnext
  have hrejected : AdapterInvariant kind { s with submissions := s.submissions ++ [] } := by
    rwa [List.append_nil]
  let started := { newJob job now with status := .running }
  cases kind with
  | completion externalJobPrefix =>
    simp only [AdapterKind.submitJob, OpenAICompatibleCompletionAdapter.submitJob] at hsubmit
    split at hsubmit
    · cases hsubmit
      exact hinv.add ⟨clockId (externalJobPrefix ++ "-" ++ job.jobId) now, job, now, .accepted, none⟩
        started rfl hfresh rfl rfl
    · cases hsubmit
      exact hrejected
  | claudeCode =>
    simp only [AdapterKind.submitJob, ProductionClaudeCodeAdapter.submitJob] at hsubmit
    split at hsubmit
    · cases hsubmit
      exact hinv.add ⟨clockId ("claude-" ++ job.jobId) now, job, now, .accepted, none⟩
        started rfl hfresh rfl rfl
    · cases hsubmit
      exact hrejected
  | opencodeServe =>
    simp only [AdapterKind.submitJob, submitJob] at hsubmit
    split at hsubmit
    · cases hsubmit
      exact hinv.add ⟨clockId ("opencode-serve-" ++ job.workerType.text ++ "-" ++ job.jobId) now,
        job, now, .awaitingServer, none⟩ (newJob job now) rfl hfresh rfl ⟨rfl, rfl⟩
    · cases hsubmit
      exact hrejected

theorem AdapterInvariant.next (hinv : AdapterInvariant kind s) {action : AdapterAction} (hapart : AdapterApart kind s action)
    (hnext : s.next kind action = some s') : AdapterInvariant kind s' := by
  cases action with
  | submitJob => exact hinv.submitted hapart hnext
  | serverAnswered => exact hinv.serverAnswered hnext
  | pollJob => exact hinv.polled hnext
  | cancelJob => exact hinv.cancelBegun hnext
  | cancelAnswered => exact hinv.cancelAnswered hapart hnext
  | settles => exact hinv.settled hnext

end step

/-- In a run of an adapter whose steps are all kept apart, every state keeps the life of its jobs. -/
theorem adapter_lifecycle_kept {kind : AdapterKind} {h : History AdapterSystem AdapterAction}
    {s : AdapterSystem} (hrun : (adapterMachine kind).Run h s)
    (hapart : Machine.Steps (AdapterApart kind) h) : LifecycleKept kind s := by
  have hinv : AdapterInvariant kind s := by
    refine hrun.stateInvariant ?_ ?_ hapart
    · rintro _ rfl
      exact adapterInvariant_empty
    · intro s a s' hinv hap hstep
      exact hinv.next hap hstep
  exact hinv.lifecycleKept

section samples

instance (s : AdapterSystem) (k : Nat) : Decidable (HasEnded s k) :=
  inferInstanceAs (Decidable (∃ reply ∈ s.replies, endsJob k reply = true))

instance (kind : AdapterKind) (s : AdapterSystem) : DecidablePred (AdapterApart kind s)
  | .submitJob job _ _ now thrown => inferInstanceAs (Decidable (thrown = none ∧
      ∀ a ∈ s.submissions, kind.jobName a.job = kind.jobName job → a.submittedAt ≠ now))
  | .cancelAnswered i cancelled => inferInstanceAs (Decidable (∀ c ∈ s.cancels[i]?,
      (cancelled = true → ¬HasEnded s c.object) ∧
      (cancelled = false → kind = .opencodeServe → HasEnded s c.object ∨
        ∃ a ∈ s.submissions[c.object]?, a.phase = .refused)))
  | .serverAnswered _ _ => .isTrue trivial
  | .pollJob _ => .isTrue trivial
  | .cancelJob _ => .isTrue trivial
  | .settles _ _ _ => .isTrue trivial

theorem exists_adapter_of_script (kind : AdapterKind) (script : List AdapterAction)
    (test : History AdapterSystem AdapterAction × AdapterSystem → Bool)
    (h : (Machine.replay (next kind) ⟨.empty, [], [], []⟩
      (script.map fun a _ => some a)).any test = true) :
    ∃ h s, (adapterMachine kind).Run h s ∧ test (h, s) = true :=
  Machine.exists_run_of_replay rfl h

def submits (now : Nat) : AdapterAction := .submitJob acceptanceJob false false now none

def fails (k : Nat) : AdapterAction :=
  .settles k sampleAdapterEnv (.execution (.ok ⟨false, ⟨none, none⟩, some "failed", none, false⟩))

def cancelledOnce : List AdapterAction :=
  [submits 0, .cancelJob "claude-job_0-0", .cancelAnswered 0 true, submits 1,
    .cancelJob "claude-job_0-1", .cancelAnswered 1 false, fails 1, .pollJob "claude-job_0-1"]

theorem cancelled_once_kept : ∃ h s, (adapterMachine .claudeCode).Run h s ∧
    s.submissions.length = 2 ∧ HasEnded s 0 ∧ HasEnded s 1 ∧ LifecycleKept .claudeCode s := by
  obtain ⟨h, s, hrun, htest⟩ := exists_adapter_of_script .claudeCode cancelledOnce
    (fun p => p.1.all (fun q => AdapterApart .claudeCode q.1 q.2) &&
      decide (p.2.submissions.length = 2 ∧ HasEnded p.2 0 ∧ HasEnded p.2 1)) (by decide +kernel)
  rw [Bool.and_eq_true, List.all_eq_true, decide_eq_true_eq] at htest
  have hapart : Machine.Steps (AdapterApart .claudeCode) h := fun p hp =>
    of_decide_eq_true (htest.1 p hp)
  exact ⟨h, s, hrun, htest.2.1, htest.2.2.1, htest.2.2.2, adapter_lifecycle_kept hrun hapart⟩

def polledMeanwhile : List AdapterAction :=
  [submits 0, .cancelJob "claude-job_0-0", fails 0, .pollJob "claude-job_0-0", .cancelAnswered 0 true]

def cancelRefused : List AdapterAction :=
  [submits 0, .serverAnswered 0 (some true), .cancelJob "opencode-serve-codex-job_0-0",
    .cancelAnswered 0 false]

/-- Completions of one job submitted at one time share an id, a job of Claude Code is both ended by a poll
and cancelled, and a job of the serve adapter is lost by a cancellation that fails. -/
theorem adapter_lifecycle_lost :
    (¬∀ h s, (adapterMachine (.completion "oai")).Run h s → LifecycleKept (.completion "oai") s) ∧
    (¬∀ h s, (adapterMachine .claudeCode).Run h s → LifecycleKept .claudeCode s) ∧
    ¬∀ h s, (adapterMachine .opencodeServe).Run h s → LifecycleKept .opencodeServe s := by
  refine ⟨fun hall => ?_, fun hall => ?_, fun hall => ?_⟩
  · obtain ⟨h, s, hrun, htest⟩ := exists_adapter_of_script (.completion "oai") [submits 0, submits 0]
      (fun p => (p.2.submissions[0]?).any fun (a : Submission) =>
        (p.2.submissions[1]?).any fun (b : Submission) => decide (a.phase = .accepted ∧
          b.phase = .accepted ∧ a.externalJobId = b.externalJobId))
      (by decide +kernel)
    obtain ⟨a, ha, htest⟩ := (Option.any_eq_true _ _).mp htest
    obtain ⟨b, hb, htest⟩ := (Option.any_eq_true _ _).mp htest
    obtain ⟨haccepted, hbccepted, hids⟩ := of_decide_eq_true htest
    exact absurd ((hall h s hrun).distinct 0 1 a b ha hb haccepted hbccepted hids) (by decide)
  · obtain ⟨h, s, hrun, htest⟩ := exists_adapter_of_script .claudeCode polledMeanwhile
      (fun p => (p.2.submissions[0]?).any fun (a : Submission) => decide (a.phase = .accepted ∧
        (p.2.replies.filter (endsJob 0)).length = 2)) (by decide +kernel)
    obtain ⟨a, ha, htest⟩ := (Option.any_eq_true _ _).mp htest
    obtain ⟨haccepted, htwice⟩ := of_decide_eq_true htest
    have honce := (hall h s hrun).once 0 a ha haccepted
    rw [show (s.replies.filter (endsJob 0)).length = 2 from htwice] at honce
    exact absurd honce (by decide)
  · obtain ⟨h, s, hrun, htest⟩ := exists_adapter_of_script .opencodeServe cancelRefused
      (fun p => (p.2.submissions[0]?).any fun (a : Submission) => a.outcome.isNone &&
        decide (a.phase = .accepted ∧ ¬HasEnded p.2 0 ∧
          (AdapterKind.opencodeServe.pollJob p.2.jobs a.externalJobId).2.2.status = .failed))
      (by decide +kernel)
    obtain ⟨a, ha, htest⟩ := (Option.any_eq_true _ _).mp htest
    rw [Bool.and_eq_true, Option.isNone_iff_eq_none, decide_eq_true_eq] at htest
    obtain ⟨hgoing, haccepted, hopen, hfailed⟩ := htest
    have hreported := (hall h s hrun).reported 0 a ha haccepted hopen
    rw [hgoing] at hreported
    simp only [hfailed] at hreported
    exact hreported.elim (fun h => by cases h) fun h => by cases h

end samples

end ShipyardCp.Properties
