import ShipyardCp.Monitoring.AlertManager

/-! Deduplication and resolution of alerts: whether the index of fingerprints keeps up with the alerts
that are stored, and what an evaluation leaves firing. -/

namespace ShipyardCp.Properties

open Types Lib Monitoring
open AlertManager (fingerprintOf evaluateRule evaluateRules evaluate enforceMaxAlerts dropAlert
  clearResolved ruleMatches oldestFirst)

variable {host : AlertHost} {maxAlerts : Nat}

/-- One alert of a fingerprint fires at most, and the index names the newest one stored. -/
structure AlertLaws (manager : AlertManager) : Prop where
  single : ∀ a b, manager.alerts.get? a.id = some a → manager.alerts.get? b.id = some b →
    a.status = .firing → b.status = .firing → a.fingerprint = b.fingerprint → a = b
  newest : ∀ a, manager.alerts.get? a.id = some a →
    ∃ b, manager.fingerprintIndex.get? a.fingerprint = some b.id ∧
      manager.alerts.get? b.id = some b ∧ b.fingerprint = a.fingerprint ∧
      ∀ c, manager.alerts.get? c.id = some c → c.fingerprint = a.fingerprint → c.id ≤ b.id

/-- What a call has stored before it deletes alerts, and the alerts that it deletes, first to
last. -/
def deletions (host : AlertHost) (maxAlerts : Nat) (manager : AlertManager) (call : AlertCall) :
    AlertManager × List Alert :=
  match call.op with
  | .evaluate stats customMetrics =>
    let evaluated := (evaluateRules host stats customMetrics call.now manager).manager
    (evaluated, (enforceMaxAlerts maxAlerts evaluated).2)
  | .clearResolved => (manager, manager.resolvedAlerts)
  | _ => (AlertState.apply host maxAlerts manager call, [])

def ResolvedFirst (stored : AlertManager) (evicted : List Alert) : Prop :=
  ∀ before a after, evicted = before ++ a :: after → a.status = .firing →
    ∀ b, stored.alerts.get? b.id = some b → b.status = .resolved → b ∈ before

/-- What an evaluation does: it evicts resolved alerts first, and leaves no alert of a rule firing
whose condition fails. -/
def EvaluatesWell (host : AlertHost) (maxAlerts : Nat) (s : AlertState) (call : AlertCall)
    (s' : AlertState) : Prop :=
  match call.op with
  | .evaluate stats customMetrics =>
    ResolvedFirst (deletions host maxAlerts s.manager call).1
      (deletions host maxAlerts s.manager call).2 ∧
    ∀ rule, s.manager.rules.get? rule.id = some rule → rule.enabled = true →
      ruleMatches rule stats customMetrics = false →
      ∀ a, s'.manager.alerts.get? a.id = some a → a.ruleId = rule.id → a.status ≠ .firing
  | _ => True

/-- No alert is deleted of whose fingerprint another one stays stored. -/
def deletesWholly (host : AlertHost) (maxAlerts : Nat) (manager : AlertManager) (call : AlertCall) :
    Bool :=
  let (stored, deleted) := deletions host maxAlerts manager call
  deleted.all fun a => stored.alerts.values.all fun b =>
    a.fingerprint ≠ b.fingerprint || deleted.any fun c => c.id = b.id

/-- The index names the newest alert of each fingerprint that is stored, only that one may be firing,
and the fingerprint of an alert is that of its rule. -/
structure IndexedAlerts (host : AlertHost) (manager : AlertManager) : Prop where
  issued : ∀ a, manager.alerts.get? a.id = some a → a.id < manager.issued
  named : ∀ fingerprint id, manager.fingerprintIndex.get? fingerprint = some id →
    ∃ a, manager.alerts.get? id = some a ∧ a.fingerprint = fingerprint ∧
      ∀ c, manager.alerts.get? c.id = some c → c.fingerprint = fingerprint → c.id ≤ id
  stored : ∀ a, manager.alerts.get? a.id = some a →
    (manager.fingerprintIndex.get? a.fingerprint).isSome = true
  firing : ∀ a, manager.alerts.get? a.id = some a → a.status = .firing →
    manager.fingerprintIndex.get? a.fingerprint = some a.id
  rules : ∀ a, manager.alerts.get? a.id = some a →
    ∃ rule, manager.rules.get? a.ruleId = some rule ∧ fingerprintOf host rule = a.fingerprint

theorem alertLaws_of_indexed {manager : AlertManager} (hindexed : IndexedAlerts host manager) :
    AlertLaws manager where
  single a b ha hb hfiring hfiring' hsame := by
    have hnamed := hindexed.firing a ha hfiring
    rw [hsame, hindexed.firing b hb hfiring', Option.some.injEq] at hnamed
    rw [hnamed] at hb
    exact Option.some.inj (ha.symm.trans hb)
  newest a ha := by
    obtain ⟨id, hid⟩ := Option.isSome_iff_exists.mp (hindexed.stored a ha)
    obtain ⟨b, hb, hfingerprint, hmax⟩ := hindexed.named _ id hid
    obtain rfl : b.id = id := manager.alerts.key_of_get? hb
    exact ⟨b, hid, hb, hfingerprint, hmax⟩

section deleting

variable {manager : AlertManager}

theorem get?_dropAlerts (dropped : List Alert) (manager : AlertManager) :
    (∀ id, (dropped.foldl dropAlert manager).alerts.get? id =
      if id ∈ dropped.map Alert.id then none else manager.alerts.get? id) ∧
    (∀ fingerprint, (dropped.foldl dropAlert manager).fingerprintIndex.get? fingerprint =
      if fingerprint ∈ dropped.map Alert.fingerprint then none
      else manager.fingerprintIndex.get? fingerprint) ∧
    (dropped.foldl dropAlert manager).rules = manager.rules ∧
    (dropped.foldl dropAlert manager).issued = manager.issued := by
  induction dropped generalizing manager with
  | nil => exact ⟨fun _ => rfl, fun _ => rfl, rfl, rfl⟩
  | cons a dropped ih =>
    obtain ⟨halerts, hindex, hrules, hissued⟩ := ih (dropAlert manager a)
    rw [List.foldl_cons]
    refine ⟨fun id => ?_, fun fingerprint => ?_, hrules, hissued⟩
    · rw [halerts]
      simp only [List.map_cons, List.mem_cons, dropAlert, KeyedMap.get?_delete]
      by_cases hid : id = a.id <;> by_cases hmem : id ∈ dropped.map Alert.id <;> simp [hid, hmem]
    · rw [hindex]
      simp only [List.map_cons, List.mem_cons, dropAlert, InsertionMap.get?_delete]
      by_cases hf : fingerprint = a.fingerprint <;>
        by_cases hmem : fingerprint ∈ dropped.map Alert.fingerprint <;> simp [hf, hmem]

theorem indexed_dropAlerts {dropped : List Alert} (hindexed : IndexedAlerts host manager)
    (hstored : ∀ a ∈ dropped, manager.alerts.get? a.id = some a)
    (hwholly : ∀ a ∈ dropped, ∀ b, manager.alerts.get? b.id = some b →
      a.fingerprint = b.fingerprint → b.id ∈ dropped.map Alert.id) :
    IndexedAlerts host (dropped.foldl dropAlert manager) := by
  obtain ⟨halerts, hindex, hrules, hissued⟩ := get?_dropAlerts dropped manager
  have hkept : ∀ id a, (dropped.foldl dropAlert manager).alerts.get? id = some a →
      id ∉ dropped.map Alert.id ∧ manager.alerts.get? id = some a := by
    intro id a ha
    rw [halerts] at ha
    split_ifs at ha with hmem
    exact ⟨hmem, ha⟩
  have hfree : ∀ a, (dropped.foldl dropAlert manager).alerts.get? a.id = some a →
      (dropped.foldl dropAlert manager).fingerprintIndex.get? a.fingerprint =
        manager.fingerprintIndex.get? a.fingerprint := by
    intro a ha
    obtain ⟨hid, ha⟩ := hkept _ a ha
    rw [hindex, if_neg]
    intro hmem
    obtain ⟨b, hb, hsame⟩ := List.mem_map.mp hmem
    exact hid (hwholly b hb a ha hsame)
  constructor
  · intro a ha
    rw [hissued]
    exact hindexed.issued a (hkept _ a ha).2
  · intro fingerprint id hid
    rw [hindex] at hid
    split_ifs at hid with hmem
    obtain ⟨a, ha, hfingerprint, hmax⟩ := hindexed.named fingerprint id hid
    refine ⟨a, ?_, hfingerprint, fun c hc => hmax c (hkept _ c hc).2⟩
    rw [halerts, if_neg]
    · exact ha
    · intro hdropped
      obtain ⟨b, hb, rfl⟩ := List.mem_map.mp hdropped
      obtain rfl := Option.some.inj ((hstored b hb).symm.trans ha)
      exact hmem (List.mem_map.mpr ⟨b, hb, hfingerprint⟩)
  · intro a ha
    rw [hfree a ha]
    exact hindexed.stored a (hkept _ a ha).2
  · intro a ha hfiring
    rw [hfree a ha]
    exact hindexed.firing a (hkept _ a ha).2 hfiring
  · intro a ha
    rw [hrules]
    exact hindexed.rules a (hkept _ a ha).2

theorem wholly_of_laws {dropped : List Alert} (hlaws : AlertLaws (dropped.foldl dropAlert manager)) :
    ∀ a ∈ dropped, ∀ b, manager.alerts.get? b.id = some b → a.fingerprint = b.fingerprint →
      b.id ∈ dropped.map Alert.id := by
  obtain ⟨halerts, hindex, _, _⟩ := get?_dropAlerts dropped manager
  intro a ha b hb hsame
  by_contra hkept
  obtain ⟨c, hc, _⟩ := hlaws.newest b (by rw [halerts, if_neg hkept, hb])
  rw [hindex, if_pos (List.mem_map.mpr ⟨a, ha, hsame⟩)] at hc
  cases hc

theorem mem_oldestFirst {alerts : List Alert} {a : Alert} : a ∈ oldestFirst alerts ↔ a ∈ alerts :=
  List.mem_insertionSort _

theorem mem_resolvedAlerts {a : Alert} : a ∈ manager.resolvedAlerts ↔
    manager.alerts.get? a.id = some a ∧ a.status = .resolved := by
  unfold AlertManager.resolvedAlerts
  rw [List.mem_filter, KeyedMap.mem_values_iff, decide_eq_true_eq]

theorem evictResolved (alerts dropped : List Alert) :
    ∃ taken ⊆ alerts, alerts.foldl (fun (e : AlertManager × List Alert) alert =>
        if e.1.alerts.values.length ≤ maxAlerts then e else (dropAlert e.1 alert, e.2 ++ [alert]))
        (dropped.foldl dropAlert manager, dropped) =
      ((dropped ++ taken).foldl dropAlert manager, dropped ++ taken) ∧
      (maxAlerts < ((dropped ++ taken).foldl dropAlert manager).alerts.values.length →
        alerts ⊆ taken) := by
  induction alerts generalizing dropped with
  | nil => exact ⟨[], List.Subset.refl _, by rw [List.append_nil, List.foldl_nil],
      fun _ => List.Subset.refl _⟩
  | cons a alerts ih =>
    rw [List.foldl_cons]
    split_ifs with hsize
    · refine ⟨[], List.nil_subset _, ?_, fun hmore => ?_⟩
      · rw [List.append_nil]
        apply List.foldl_fixed'
        exact fun _ => if_pos hsize
      · rw [List.append_nil] at hmore
        exact absurd hsize (Nat.not_le.mpr hmore)
    · have hdrop : dropAlert (dropped.foldl dropAlert manager) a =
          (dropped ++ [a]).foldl dropAlert manager := by
        rw [List.foldl_append, List.foldl_cons, List.foldl_nil]
      obtain ⟨taken, hsubset, hfold, hall⟩ := ih (dropped ++ [a])
      dsimp only
      rw [hdrop]
      rw [List.append_assoc, List.singleton_append] at hfold hall
      exact ⟨a :: taken, List.cons_subset_cons a hsubset, hfold,
        fun hmore => List.cons_subset_cons a (hall hmore)⟩

theorem enforceMaxAlerts_spec (maxAlerts : Nat) (manager : AlertManager) :
    (enforceMaxAlerts maxAlerts manager).1 =
        (enforceMaxAlerts maxAlerts manager).2.foldl dropAlert manager ∧
      (∀ a ∈ (enforceMaxAlerts maxAlerts manager).2, manager.alerts.get? a.id = some a) ∧
      ResolvedFirst manager (enforceMaxAlerts maxAlerts manager).2 := by
  obtain ⟨taken, hsubset, hfold, hall⟩ :=
    @evictResolved maxAlerts manager (oldestFirst manager.resolvedAlerts) []
  rw [List.nil_append] at hfold hall
  have htaken : ∀ a ∈ taken, manager.alerts.get? a.id = some a ∧ a.status = .resolved :=
    fun a ha => mem_resolvedAlerts.mp (mem_oldestFirst.mp (hsubset ha))
  obtain ⟨halerts, _⟩ := get?_dropAlerts taken manager
  unfold enforceMaxAlerts
  dsimp only
  rw [show (manager, []) = (List.foldl dropAlert manager [], ([] : List Alert)) from rfl, hfold]
  dsimp only
  generalize hremoved : (oldestFirst (taken.foldl dropAlert manager).alerts.values).take
    ((taken.foldl dropAlert manager).alerts.values.length - maxAlerts) = removed
  refine ⟨by rw [List.foldl_append], fun a ha => ?_, ?_⟩
  · rcases List.mem_append.mp ha with ha | ha
    · exact (htaken a ha).1
    · rw [← hremoved] at ha
      have hget := (KeyedMap.mem_values_iff _).mp (mem_oldestFirst.mp (List.mem_of_mem_take ha))
      rw [halerts] at hget
      split_ifs at hget
      exact hget
  · intro before a after heq hfiring b hb hresolved
    rcases List.append_eq_append_iff.mp heq with ⟨more, rfl, hmore⟩ | ⟨more, htakes, hmore⟩
    · have hlarge : maxAlerts < (taken.foldl dropAlert manager).alerts.values.length := by
        by_contra hsmall
        rw [Nat.sub_eq_zero_of_le (Nat.not_lt.mp hsmall), List.take_zero] at hremoved
        rw [← hremoved] at hmore
        exact List.append_ne_nil_of_right_ne_nil _ (List.cons_ne_nil a after) hmore.symm
      exact List.mem_append_left _ (hall hlarge (mem_oldestFirst.mpr
        (mem_resolvedAlerts.mpr ⟨hb, hresolved⟩)))
    · cases more with
      | nil =>
        rw [List.append_nil] at htakes
        rw [List.nil_append] at hmore
        have hlarge : maxAlerts < (taken.foldl dropAlert manager).alerts.values.length := by
          by_contra hsmall
          rw [Nat.sub_eq_zero_of_le (Nat.not_lt.mp hsmall), List.take_zero] at hremoved
          rw [← hremoved] at hmore
          cases hmore
        rw [← htakes]
        exact hall hlarge (mem_oldestFirst.mpr (mem_resolvedAlerts.mpr ⟨hb, hresolved⟩))
      | cons c more =>
        obtain ⟨rfl, _⟩ := List.cons.inj hmore
        have ha := (htaken a (by rw [htakes]; exact List.mem_append_right _ List.mem_cons_self)).2
        rw [hfiring] at ha
        cases ha

end deleting

section evaluating

variable {manager : AlertManager} {rule : AlertRule} {stats : ErrorStats}
  {customMetrics : Option (String → Option ℚ)} {now : Timestamp}

/-- Another form of a stored alert takes its place, and no other alert fires for it. -/
structure Rewrites (manager manager' : AlertManager) (alert alert' : Alert) : Prop where
  stored : manager.alerts.get? alert.id = some alert
  id : alert'.id = alert.id
  fingerprint : alert'.fingerprint = alert.fingerprint
  ruleId : alert'.ruleId = alert.ruleId
  status : alert'.status = .firing → alert.status = .firing
  alerts : manager'.alerts = manager.alerts.put alert'
  index : manager'.fingerprintIndex = manager.fingerprintIndex
  rules : manager'.rules = manager.rules
  issued : manager'.issued = manager.issued

theorem indexed_of_rewrites (hindexed : IndexedAlerts host manager) {manager' : AlertManager}
    {alert alert' : Alert} (hrewrites : Rewrites manager manager' alert alert') :
    IndexedAlerts host manager' := by
  obtain ⟨hget, hid, hfingerprint, hrule, hstatus, halerts, hindex, hrules, hissued⟩ := hrewrites
  have hforms : ∀ id a, manager'.alerts.get? id = some a → ∃ b, manager.alerts.get? id = some b ∧
      b.id = a.id ∧ b.fingerprint = a.fingerprint ∧ b.ruleId = a.ruleId ∧
      (a.status = .firing → b.status = .firing) := by
    intro id a ha
    rw [halerts, KeyedMap.get?_put] at ha
    split_ifs at ha with hsame
    · obtain rfl := Option.some.inj ha
      rw [hsame, hid]
      exact ⟨alert, hget, rfl, hfingerprint.symm, hrule.symm, hstatus⟩
    · exact ⟨a, ha, rfl, rfl, rfl, fun h => h⟩
  constructor
  · intro a ha
    obtain ⟨b, hb, hsame, _⟩ := hforms _ a ha
    rw [hissued, ← hsame]
    exact hindexed.issued b (by rw [hsame, hb])
  · intro fingerprint id hnamed
    rw [hindex] at hnamed
    obtain ⟨a, ha, rfl, hmax⟩ := hindexed.named fingerprint id hnamed
    have hmax' : ∀ c, manager'.alerts.get? c.id = some c → c.fingerprint = a.fingerprint →
        c.id ≤ id := by
      intro c hc hsame
      obtain ⟨b, hb, hbid, hbf, _⟩ := hforms _ c hc
      rw [← hbid]
      exact hmax b (by rw [hbid, hb]) (hbf.trans hsame)
    by_cases hsame : id = alert'.id
    · refine ⟨alert', by rw [halerts, KeyedMap.get?_put, if_pos hsame], ?_, hmax'⟩
      rw [hsame, hid, hget] at ha
      rw [hfingerprint, Option.some.inj ha]
    · exact ⟨a, by rw [halerts, KeyedMap.get?_put, if_neg hsame, ha], rfl, hmax'⟩
  · intro a ha
    obtain ⟨b, hb, hbid, hbf, _⟩ := hforms _ a ha
    rw [hindex, ← hbf]
    exact hindexed.stored b (by rw [hbid, hb])
  · intro a ha hfiring
    obtain ⟨b, hb, hbid, hbf, _, hbs⟩ := hforms _ a ha
    rw [hindex, ← hbf, ← hbid]
    exact hindexed.firing b (by rw [hbid, hb]) (hbs hfiring)
  · intro a ha
    obtain ⟨b, hb, hbid, hbf, hbr, _⟩ := hforms _ a ha
    rw [hrules, ← hbf, ← hbr]
    exact hindexed.rules b (by rw [hbid, hb])

theorem indexed_fire (hindexed : IndexedAlerts host manager)
    (hrule : manager.rules.get? rule.id = some rule)
    (hfree : ∀ a, AlertManager.existingAlert manager (fingerprintOf host rule) = some a →
      a.status ≠ .firing) (value : ℚ) (now : Timestamp) :
    IndexedAlerts host (AlertManager.fire host manager rule value now) := by
  generalize hfingerprint : fingerprintOf host rule = fingerprint at hfree
  generalize halert : AlertManager.createAlert host manager rule value now = alert
  have hid : alert.id = manager.issued := by rw [← halert]; rfl
  have hruleId : alert.ruleId = rule.id := by rw [← halert]; rfl
  have hprint : alert.fingerprint = fingerprint := by rw [← halert, ← hfingerprint]; rfl
  have hsplit : ∀ a, (AlertManager.fire host manager rule value now).alerts.get? a.id = some a →
      a = alert ∨ a.id ≠ manager.issued ∧ manager.alerts.get? a.id = some a := by
    intro a ha
    simp only [AlertManager.fire, halert, KeyedMap.get?_put] at ha
    split_ifs at ha with hsame
    · exact Or.inl (Option.some.inj ha).symm
    · exact Or.inr ⟨by rwa [hid] at hsame, ha⟩
  have hindex : ∀ f, (AlertManager.fire host manager rule value now).fingerprintIndex.get? f =
      if f = fingerprint then some manager.issued else manager.fingerprintIndex.get? f := by
    intro f
    simp only [AlertManager.fire, halert, InsertionMap.get?_set, hprint, hid]
  have hissued : (AlertManager.fire host manager rule value now).issued = manager.issued + 1 := rfl
  have hbelow : ∀ a, (AlertManager.fire host manager rule value now).alerts.get? a.id = some a →
      a.id ≤ manager.issued := by
    intro a ha
    rcases hsplit a ha with rfl | ⟨_, ha⟩
    · exact Nat.le_of_eq hid
    · exact Nat.le_of_lt (hindexed.issued a ha)
  constructor
  · intro a ha
    rw [hissued]
    exact Nat.lt_succ_of_le (hbelow a ha)
  · intro f id hnamed
    rw [hindex] at hnamed
    split_ifs at hnamed with hsame
    · obtain rfl := Option.some.inj hnamed
      refine ⟨alert, ?_, by rw [hprint, hsame], fun c hc _ => hbelow c hc⟩
      simp only [AlertManager.fire, halert, KeyedMap.get?_put, hid, if_true]
    · obtain ⟨a, ha, hf, hmax⟩ := hindexed.named f id hnamed
      have hne : id ≠ alert.id := by
        obtain rfl := manager.alerts.key_of_get? ha
        rw [hid]
        exact Nat.ne_of_lt (hindexed.issued a ha)
      refine ⟨a, ?_, hf, fun c hc hcf => ?_⟩
      · simp only [AlertManager.fire, halert, KeyedMap.get?_put, if_neg hne, ha]
      · rcases hsplit c hc with rfl | ⟨_, hc⟩
        · exact absurd (hcf.symm.trans hprint) hsame
        · exact hmax c hc hcf
  · intro a ha
    rw [hindex]
    split_ifs with hsame
    · rfl
    · rcases hsplit a ha with rfl | ⟨_, ha⟩
      · exact absurd hprint hsame
      · exact hindexed.stored a ha
  · intro a ha hfiring
    rw [hindex]
    rcases hsplit a ha with rfl | ⟨_, ha⟩
    · rw [if_pos hprint, hid]
    · have hnamed := hindexed.firing a ha hfiring
      rw [if_neg, hnamed]
      intro hsame
      refine hfree a ?_ hfiring
      rw [AlertManager.existingAlert, ← hsame, hnamed]
      exact ha
  · intro a ha
    rcases hsplit a ha with rfl | ⟨_, ha⟩
    · exact ⟨rule, by rw [hruleId]; exact hrule, by rw [hprint, hfingerprint]⟩
    · exact hindexed.rules a ha

theorem stored_of_existing {fingerprint : String} {alert : Alert}
    (hexisting : AlertManager.existingAlert manager fingerprint = some alert) :
    manager.alerts.get? alert.id = some alert := by
  obtain ⟨id, _, hget⟩ := Option.bind_eq_some_iff.mp hexisting
  rwa [manager.alerts.key_of_get? hget]

theorem evaluateRule_cases (evaluation : AlertEvaluation) (rule : AlertRule) :
    (evaluateRule host stats customMetrics now evaluation rule).manager = evaluation.manager ∧
      (rule.enabled = true → ruleMatches rule stats customMetrics = false → ∀ a,
        AlertManager.existingAlert evaluation.manager (fingerprintOf host rule) = some a →
        a.status ≠ .firing) ∨
    (∃ alert alert',
      AlertManager.existingAlert evaluation.manager (fingerprintOf host rule) = some alert ∧
      Rewrites evaluation.manager (evaluateRule host stats customMetrics now evaluation rule).manager
        alert alert' ∧ alert.status = .firing ∧
      (ruleMatches rule stats customMetrics = false → alert'.status = .resolved)) ∨
    ruleMatches rule stats customMetrics = true ∧
      (∀ a, AlertManager.existingAlert evaluation.manager (fingerprintOf host rule) = some a →
        a.status ≠ .firing) ∧
      (evaluateRule host stats customMetrics now evaluation rule).manager =
        AlertManager.fire host (AlertManager.endCooldown evaluation.manager (fingerprintOf host rule))
          rule (AlertManager.ruleValue rule stats customMetrics) now := by
  unfold evaluateRule
  dsimp only
  have hsame : ∀ manager fingerprint, AlertManager.existingAlert
      (AlertManager.endCooldown manager fingerprint) fingerprint =
        AlertManager.existingAlert manager fingerprint := fun _ _ => rfl
  split_ifs with henabled hmatches hcooldown
  · refine Or.inl ⟨rfl, fun h => ?_⟩
    rw [h] at henabled
    cases henabled
  · refine Or.inl ⟨rfl, fun _ h => ?_⟩
    rw [hmatches] at h
    cases h
  · rw [hsame]
    cases hexisting : AlertManager.existingAlert evaluation.manager (fingerprintOf host rule) with
    | none => exact Or.inr (Or.inr ⟨hmatches, nofun, rfl⟩)
    | some alert =>
      dsimp only
      split_ifs with hfiring
      · let updated := { alert with
          value := AlertManager.ruleValue rule stats customMetrics
          updatedAt := now
          count := some (alert.count.getD 0 + 1) }
        refine Or.inr (Or.inl ⟨alert, updated, rfl, ⟨stored_of_existing hexisting, rfl, rfl, rfl,
          fun _ => hfiring, rfl, rfl, rfl, rfl⟩, hfiring, fun h => ?_⟩)
        rw [hmatches] at h
        cases h
      · refine Or.inr (Or.inr ⟨hmatches, fun a ha => ?_, rfl⟩)
        rwa [← Option.some.inj ha]
  · cases hexisting : AlertManager.existingAlert evaluation.manager (fingerprintOf host rule) with
    | none => exact Or.inl ⟨rfl, fun _ _ => nofun⟩
    | some alert =>
      dsimp only
      split_ifs with hfiring
      · exact Or.inr (Or.inl ⟨alert, AlertManager.resolved alert now, rfl,
          ⟨stored_of_existing hexisting, rfl, rfl, rfl, nofun, rfl, rfl, rfl, rfl⟩, hfiring,
          fun _ => rfl⟩)
      · refine Or.inl ⟨rfl, fun _ _ a ha => ?_⟩
        rwa [← Option.some.inj ha]

theorem rules_evaluateRule (evaluation : AlertEvaluation) (rule : AlertRule) :
    (evaluateRule host stats customMetrics now evaluation rule).manager.rules =
      evaluation.manager.rules := by
  rcases @evaluateRule_cases host stats customMetrics now evaluation rule with
    ⟨h, _⟩ | ⟨_, _, _, h, _⟩ | ⟨_, _, h⟩
  · rw [h]
  · exact h.rules
  · rw [h]
    rfl

theorem indexed_evaluateRule {evaluation : AlertEvaluation}
    (hindexed : IndexedAlerts host evaluation.manager)
    (hrule : evaluation.manager.rules.get? rule.id = some rule) :
    IndexedAlerts host (evaluateRule host stats customMetrics now evaluation rule).manager := by
  rcases @evaluateRule_cases host stats customMetrics now evaluation rule with
    ⟨h, _⟩ | ⟨_, _, _, h, _⟩ | ⟨_, hfree, h⟩
  · rwa [h]
  · exact indexed_of_rewrites hindexed h
  · rw [h]
    have hcooled : IndexedAlerts host
        (AlertManager.endCooldown evaluation.manager (fingerprintOf host rule)) :=
      ⟨hindexed.issued, hindexed.named, hindexed.stored, hindexed.firing, hindexed.rules⟩
    exact indexed_fire hcooled hrule hfree _ now

def Silent (rule : AlertRule) (manager : AlertManager) : Prop :=
  ∀ a, manager.alerts.get? a.id = some a → a.ruleId = rule.id → a.status ≠ .firing

theorem existing_of_firing (hindexed : IndexedAlerts host manager)
    (hrule : manager.rules.get? rule.id = some rule) {a : Alert}
    (ha : manager.alerts.get? a.id = some a) (hid : a.ruleId = rule.id)
    (hfiring : a.status = .firing) :
    AlertManager.existingAlert manager (fingerprintOf host rule) = some a := by
  obtain ⟨rule', hrule', hfingerprint⟩ := hindexed.rules a ha
  rw [hid] at hrule'
  obtain rfl := Option.some.inj (hrule.symm.trans hrule')
  rw [AlertManager.existingAlert, hfingerprint, hindexed.firing a ha hfiring]
  exact ha

variable {evaluation : AlertEvaluation}

theorem silent_evaluateRule (hindexed : IndexedAlerts host evaluation.manager)
    (hrule : evaluation.manager.rules.get? rule.id = some rule) (henabled : rule.enabled = true)
    (hfails : ruleMatches rule stats customMetrics = false) :
    Silent rule (evaluateRule host stats customMetrics now evaluation rule).manager := by
  intro a ha hid hfiring
  rcases @evaluateRule_cases host stats customMetrics now evaluation rule with
    ⟨h, hnone⟩ | ⟨alert, alert', hexisting, h, _, hresolved⟩ | ⟨hmatches, _, _⟩
  · rw [h] at ha
    exact hnone henabled hfails a (existing_of_firing hindexed hrule ha hid hfiring) hfiring
  · rw [h.alerts, KeyedMap.get?_put] at ha
    split_ifs at ha with hsame
    · obtain rfl := Option.some.inj ha
      rw [hresolved hfails] at hfiring
      cases hfiring
    · have hfound := existing_of_firing hindexed hrule ha hid hfiring
      rw [hexisting] at hfound
      obtain rfl := Option.some.inj hfound
      exact hsame h.id.symm
  · rw [hfails] at hmatches
    cases hmatches

theorem silent_evaluateRule_of_ne {other : AlertRule}
    (hsilent : Silent other evaluation.manager) (hne : rule.id ≠ other.id) :
    Silent other (evaluateRule host stats customMetrics now evaluation rule).manager := by
  intro a ha hid
  rcases @evaluateRule_cases host stats customMetrics now evaluation rule with
    ⟨h, _⟩ | ⟨alert, alert', _, h, hfiring, _⟩ | ⟨_, _, h⟩
  · rw [h] at ha
    exact hsilent a ha hid
  · rw [h.alerts, KeyedMap.get?_put] at ha
    split_ifs at ha with hsame
    · obtain rfl := Option.some.inj ha
      exact absurd hfiring (hsilent alert h.stored (by rw [← h.ruleId, hid]))
    · exact hsilent a ha hid
  · rw [h] at ha
    simp only [AlertManager.fire, KeyedMap.get?_put] at ha
    split_ifs at ha with hsame
    · obtain rfl := Option.some.inj ha
      exact absurd hid hne
    · exact hsilent a ha hid

theorem evaluateRules_spec {rules : List AlertRule} (hnodup : (rules.map AlertRule.id).Nodup) (hindexed : IndexedAlerts host evaluation.manager)
    (hrules : ∀ rule ∈ rules, evaluation.manager.rules.get? rule.id = some rule) :
    IndexedAlerts host (rules.foldl (evaluateRule host stats customMetrics now) evaluation).manager ∧
      (∀ rule ∈ rules, rule.enabled = true → ruleMatches rule stats customMetrics = false →
        Silent rule (rules.foldl (evaluateRule host stats customMetrics now) evaluation).manager) ∧
      ∀ other : AlertRule, other.id ∉ rules.map AlertRule.id → Silent other evaluation.manager →
        Silent other
          (rules.foldl (evaluateRule host stats customMetrics now) evaluation).manager := by
  induction rules generalizing evaluation with
  | nil => exact ⟨hindexed, fun _ h => absurd h List.not_mem_nil, fun _ _ h => h⟩
  | cons rule rules ih =>
    obtain ⟨hnot, hnodup⟩ := List.nodup_cons.mp hnodup
    have hrule := hrules rule List.mem_cons_self
    obtain ⟨hkept, hfailing, hothers⟩ := ih hnodup
      (@indexed_evaluateRule host rule stats customMetrics now evaluation hindexed hrule)
      (fun r hr => by rw [rules_evaluateRule]; exact hrules r (List.mem_cons_of_mem _ hr))
    refine ⟨hkept, fun r hr henabled hfails => ?_, fun other hother hsilent => ?_⟩
    · rcases List.mem_cons.mp hr with rfl | hr
      · exact hothers r hnot (silent_evaluateRule hindexed hrule henabled hfails)
      · exact hfailing r hr henabled hfails
    · rw [List.map_cons, List.mem_cons, not_or] at hother
      exact hothers other hother.2 (silent_evaluateRule_of_ne hsilent (Ne.symm hother.1))

end evaluating

section calls

variable {manager : AlertManager} {call : AlertCall}

theorem deletesWholly_iff : deletesWholly host maxAlerts manager call = true ↔
    ∀ a ∈ (deletions host maxAlerts manager call).2, ∀ b,
      (deletions host maxAlerts manager call).1.alerts.get? b.id = some b →
      a.fingerprint = b.fingerprint →
      b.id ∈ (deletions host maxAlerts manager call).2.map Alert.id := by
  unfold deletesWholly
  simp only [List.all_eq_true, KeyedMap.mem_values_iff, Bool.or_eq_true, decide_eq_true_eq,
    List.any_eq_true, List.mem_map, ← imp_iff_not_or, ne_eq]

theorem apply_eq_dropAlerts (host : AlertHost) (maxAlerts : Nat) (manager : AlertManager)
    (call : AlertCall) : AlertState.apply host maxAlerts manager call =
      (deletions host maxAlerts manager call).2.foldl dropAlert
        (deletions host maxAlerts manager call).1 := by
  unfold AlertState.apply deletions
  cases hop : call.op with
  | evaluate stats customMetrics => exact (enforceMaxAlerts_spec maxAlerts _).1
  | _ => first | rfl | simp [AlertState.apply, hop]

theorem indexed_setEnabled (hindexed : IndexedAlerts host manager) (enabled : Bool)
    (ruleId : String) : IndexedAlerts host (AlertManager.setEnabled enabled manager ruleId) := by
  unfold AlertManager.setEnabled
  cases hget : manager.rules.get? ruleId with
  | none => exact hindexed
  | some rule =>
    refine ⟨hindexed.issued, hindexed.named, hindexed.stored, hindexed.firing, fun a ha => ?_⟩
    obtain ⟨rule', hrule', hfingerprint⟩ := hindexed.rules a ha
    dsimp only
    rw [KeyedMap.get?_put]
    split_ifs with hsame
    · refine ⟨_, rfl, ?_⟩
      have hid : rule.id = ruleId := manager.rules.key_of_get? hget
      rw [hsame] at hrule'
      rw [show ({ rule with enabled := enabled } : AlertRule).id = ruleId from hid, hget] at hrule'
      rw [← hfingerprint, ← Option.some.inj hrule']
      rfl
    · exact ⟨rule', hrule', hfingerprint⟩

theorem indexed_resolveAlert (hindexed : IndexedAlerts host manager) (id : AlertId)
    (now : Timestamp) : IndexedAlerts host (AlertManager.resolveAlert manager id now) := by
  unfold AlertManager.resolveAlert
  cases hget : manager.alerts.get? id with
  | none => exact hindexed
  | some alert =>
    obtain rfl := manager.alerts.key_of_get? hget
    dsimp only
    split_ifs
    · exact hindexed
    · have hrewrites : Rewrites manager
          { manager with alerts := manager.alerts.put (AlertManager.resolved alert now) } alert
          (AlertManager.resolved alert now) := ⟨hget, rfl, rfl, rfl, nofun, rfl, rfl, rfl, rfl⟩
      exact indexed_of_rewrites hindexed hrewrites

theorem indexed_acknowledgeAlert (hindexed : IndexedAlerts host manager) (id : AlertId)
    (now : Timestamp) : IndexedAlerts host (AlertManager.acknowledgeAlert host manager id now) := by
  unfold AlertManager.acknowledgeAlert
  cases hget : manager.alerts.get? id with
  | none => exact hindexed
  | some alert =>
    obtain rfl := manager.alerts.key_of_get? hget
    have hrewrites : Rewrites manager
        { manager with alerts := manager.alerts.put (AlertManager.acknowledged host alert now) } alert
        (AlertManager.acknowledged host alert now) :=
      ⟨hget, rfl, rfl, rfl, fun h => h, rfl, rfl, rfl, rfl⟩
    exact indexed_of_rewrites hindexed hrewrites

theorem indexed_deletions (hindexed : IndexedAlerts host manager)
    (hnew : ∀ rule, call.op = .addRule rule → manager.rules.get? rule.id = none) :
    IndexedAlerts host (deletions host maxAlerts manager call).1 ∧
      ∀ a ∈ (deletions host maxAlerts manager call).2,
        (deletions host maxAlerts manager call).1.alerts.get? a.id = some a := by
  unfold deletions AlertState.apply
  cases hop : call.op with
  | evaluate stats customMetrics =>
    refine ⟨?_, (enforceMaxAlerts_spec maxAlerts _).2.1⟩
    exact (evaluateRules_spec (manager.rules.nodup_map_key_values) hindexed
      fun rule hrule => (KeyedMap.mem_values_iff _).mp hrule).1
  | addRule rule =>
    refine ⟨⟨hindexed.issued, hindexed.named, hindexed.stored, hindexed.firing, fun a ha => ?_⟩,
      fun a ha => absurd ha List.not_mem_nil⟩
    obtain ⟨rule', hrule', hfingerprint⟩ := hindexed.rules a ha
    refine ⟨rule', ?_, hfingerprint⟩
    dsimp only [AlertManager.addRule]
    rw [KeyedMap.get?_put, if_neg, hrule']
    intro hsame
    rw [hsame, hnew rule hop] at hrule'
    cases hrule'
  | enableRule ruleId =>
    exact ⟨indexed_setEnabled hindexed true ruleId, fun a ha => absurd ha List.not_mem_nil⟩
  | disableRule ruleId =>
    exact ⟨indexed_setEnabled hindexed false ruleId, fun a ha => absurd ha List.not_mem_nil⟩
  | resolveAlert id =>
    exact ⟨indexed_resolveAlert hindexed id call.now, fun a ha => absurd ha List.not_mem_nil⟩
  | acknowledgeAlert id =>
    exact ⟨indexed_acknowledgeAlert hindexed id call.now, fun a ha => absurd ha List.not_mem_nil⟩
  | clearResolved => exact ⟨hindexed, fun a ha => (mem_resolvedAlerts.mp ha).1⟩

theorem evaluatesWell_of_indexed {s s' : AlertState} (hindexed : IndexedAlerts host s.manager)
    (hmanager : s'.manager = AlertState.apply host maxAlerts s.manager call) :
    EvaluatesWell host maxAlerts s call s' := by
  unfold EvaluatesWell
  rw [apply_eq_dropAlerts] at hmanager
  unfold deletions at *
  cases hop : call.op with
  | evaluate stats customMetrics =>
    rw [hop] at hmanager
    refine ⟨(enforceMaxAlerts_spec maxAlerts _).2.2, fun rule hrule henabled hfails a ha hid => ?_⟩
    have hinitial : IndexedAlerts host ({ manager := s.manager } : AlertEvaluation).manager :=
      hindexed
    obtain ⟨_, hfailing, _⟩ := evaluateRules_spec s.manager.rules.nodup_map_key_values hinitial
      (fun rule hrule => (KeyedMap.mem_values_iff _).mp hrule)
    rw [hmanager, (get?_dropAlerts _ _).1] at ha
    split_ifs at ha
    exact hfailing rule ((KeyedMap.mem_values_iff _).mpr hrule) henabled hfails a ha hid
  | _ => trivial

end calls

section runs

variable {h : History AlertState AlertCall} {s : AlertState}

theorem indexed_initial (host : AlertHost) : IndexedAlerts host AlertManager.initial := by
  have hnone : ∀ (a : Alert) (id : AlertId), AlertManager.initial.alerts.get? id ≠ some a :=
    fun _ _ => nofun
  constructor
  · exact fun a ha => absurd ha (hnone a _)
  · exact fun _ _ hnamed => nomatch hnamed
  · exact fun a ha => absurd ha (hnone a _)
  · exact fun a ha => absurd ha (hnone a _)
  · exact fun a ha => absurd ha (hnone a _)

theorem admitted_of_step {s' : AlertState} {call : AlertCall}
    (hstep : (alertMachine host maxAlerts).step s call s') :
    s'.manager = AlertState.apply host maxAlerts s.manager call ∧
      ∀ rule, call.op = .addRule rule → s.manager.rules.get? rule.id = none := by
  change AlertState.next host maxAlerts s call = some s' at hstep
  unfold AlertState.next at hstep
  split_ifs at hstep with hadmits
  obtain rfl := Option.some.inj hstep
  refine ⟨rfl, fun rule hop => ?_⟩
  unfold AlertState.admits at hadmits
  rw [hop, Bool.and_eq_true] at hadmits
  exact Option.isNone_iff_eq_none.mp hadmits.2

/-- In every run the alerts stay deduplicated and resolved exactly when no call deletes an alert of
whose fingerprint another one stays stored. -/
theorem alertLaws_iff (hrun : (alertMachine host maxAlerts).Run h s) :
    (∀ t ∈ Machine.states h s, AlertLaws t.manager) ∧
        (alertMachine host maxAlerts).EveryStep (fun _ => EvaluatesWell host maxAlerts) h ↔
      Machine.Steps (fun t call => deletesWholly host maxAlerts t.manager call = true) h := by
  have hinit : ∀ t, (alertMachine host maxAlerts).init t → IndexedAlerts host t.manager := by
    intro t ht
    rw [show t.manager = AlertManager.initial from ht]
    exact indexed_initial host
  have hkeeps : ∀ t call t', IndexedAlerts host t.manager →
      deletesWholly host maxAlerts t.manager call = true →
      (alertMachine host maxAlerts).step t call t' → IndexedAlerts host t'.manager := by
    intro t call t' hindexed hwholly hstep
    obtain ⟨hmanager, hnew⟩ := admitted_of_step hstep
    obtain ⟨hstored, hdropped⟩ := @indexed_deletions host maxAlerts t.manager call hindexed hnew
    rw [hmanager, apply_eq_dropAlerts]
    exact indexed_dropAlerts hstored hdropped (deletesWholly_iff.mp hwholly)
  have honly : ∀ h t call t', (alertMachine host maxAlerts).Run h t → IndexedAlerts host t.manager →
      (alertMachine host maxAlerts).step t call t' → AlertLaws t'.manager →
      deletesWholly host maxAlerts t.manager call = true := by
    intro _ t call t' _ _ hstep hlaws
    rw [(admitted_of_step hstep).1, apply_eq_dropAlerts] at hlaws
    exact deletesWholly_iff.mpr (wholly_of_laws hlaws)
  have hstates := hrun.forall_states_iff hinit (fun _ => alertLaws_of_indexed)
    (fun _ t call t' _ => hkeeps t call t') honly
  refine ⟨fun hlaws => hstates.mp hlaws.1, fun hsteps => ⟨hstates.mpr hsteps, ?_⟩⟩
  refine hrun.everyStep (fun h t call t' hbefore hwholly _ hstep => ?_) hsteps
  exact evaluatesWell_of_indexed (hbefore.stateInvariant hinit hkeeps hwholly)
    (admitted_of_step hstep).1

def clockHost : AlertHost := ⟨compare, fun now => toString now⟩

def evaluateRate (rate : ℚ) (now : Timestamp) : AlertCall :=
  ⟨.evaluate ⟨0, fun _ => 0, fun _ => 0, some rate⟩ none, now⟩

theorem alerts_begin : (alertMachine clockHost 1000).init ⟨.initial, 0⟩ := rfl

/-- An alert fires, is resolved when the rate falls, and is cleared. -/
theorem resolved_alert_cleared : ∃ h s, (alertMachine clockHost 1000).Run h s ∧ s.manager.issued = 1 ∧
    (∀ t ∈ Machine.states h s, AlertLaws t.manager) ∧
      (alertMachine clockHost 1000).EveryStep (fun _ => EvaluatesWell clockHost 1000) h := by
  have hplayed : (Machine.replay (AlertState.next clockHost 1000) ⟨.initial, 0⟩
      ([evaluateRate 20 0, evaluateRate 0 60000, ⟨.clearResolved, 60000⟩].map
        fun call _ => some call)).any (fun p =>
          p.1.all (fun q => deletesWholly clockHost 1000 q.1.manager q.2) &&
            p.2.manager.issued = 1) = true := by
    decide +kernel
  obtain ⟨h, s, hrun, htest⟩ := Machine.exists_run_of_replay alerts_begin hplayed
  rw [Bool.and_eq_true, List.all_eq_true, decide_eq_true_eq] at htest
  exact ⟨h, s, hrun, htest.2, (alertLaws_iff hrun).mpr htest.1⟩

/-- An alert fires again after it has been resolved; once the old one is cleared, the new one is no
longer found, and a third fires beside it. -/
theorem cleared_alert_fires_twice : ¬∀ h s, (alertMachine clockHost 1000).Run h s →
    ∀ t ∈ Machine.states h s, AlertLaws t.manager := by
  intro hall
  have hplayed : (Machine.replay (AlertState.next clockHost 1000) ⟨.initial, 0⟩
      ([evaluateRate 20 0, ⟨.resolveAlert 0, 1000⟩, evaluateRate 20 300000, ⟨.clearResolved, 300000⟩,
        evaluateRate 20 600000].map fun call _ => some call)).any (fun p =>
          (p.2.manager.alerts.get? 1).any fun a => (p.2.manager.alerts.get? 2).any fun b =>
            a.id = 1 && b.id = 2 && a.status = .firing && b.status = .firing &&
              a.fingerprint = b.fingerprint) = true := by
    decide +kernel
  obtain ⟨h, s, hrun, htest⟩ := Machine.exists_run_of_replay alerts_begin hplayed
  obtain ⟨a, ha, htest⟩ := (Option.any_eq_true _ _).mp htest
  obtain ⟨b, hb, htest⟩ := (Option.any_eq_true _ _).mp htest
  simp only [Bool.and_eq_true, decide_eq_true_eq] at htest
  obtain ⟨⟨⟨⟨haid, hbid⟩, hfiring⟩, hfiring'⟩, hsame⟩ := htest
  have hlaws := hall h s hrun s (List.mem_append_right _ (List.mem_singleton_self s))
  have heq := hlaws.single a b (by rw [haid, ha]) (by rw [hbid, hb]) hfiring hfiring' hsame
  rw [heq, hbid] at haid
  cases haid

end runs

end ShipyardCp.Properties
