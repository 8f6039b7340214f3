import ShipyardCp.Monitoring.StructuredLogger

/-! What the record of a log call shows of the values under sensitive keys. -/

namespace ShipyardCp.Properties
open Lib Monitoring LogValue InsertionMap

/-- Masks compose to the shallower one; what is masked has the mark under every sensitive key, and does
not tell what stood there. -/
theorem maskSensitive_laws (n m : ℕ) (secret : Primitive) (value : LogValue) :
    maskSensitive n (maskSensitive m value) = maskSensitive (min n m) value ∧
      (maskSensitive n value).withSecrets (.str "[REDACTED]") = maskSensitive n value ∧
      maskSensitive n (value.withSecrets secret) = maskSensitive n value :=
  ⟨maskSensitive_maskSensitive n m value, withSecrets_maskSensitive n value,
    maskSensitive_withSecrets secret n value⟩

/-- A logger, a chain of children made from it, and a call on the last of them. -/
structure LogRun where
  defaultContext : LogContext
  children : List LogContext
  context : LogContext

namespace LogRun

def logger (run : LogRun) : StructuredLogger :=
  run.children.foldl StructuredLogger.child ⟨run.defaultContext⟩

def record (run : LogRun) : LogContext := run.logger.buildContext (some run.context)

def withSecrets (secret : Primitive) (run : LogRun) : LogRun where
  defaultContext := run.defaultContext.mapWithKey (LogValue.withSecretsAt secret)
  children := run.children.map fun context => context.mapWithKey (LogValue.withSecretsAt secret)
  context := run.context.mapWithKey (LogValue.withSecretsAt secret)

def DifferInSecrets (run run' : LogRun) : Prop := run.withSecrets .null = run'.withSecrets .null

def NonInterfering (run : LogRun) : Prop :=
  ∀ run' : LogRun, run.DifferInSecrets run' → run'.record = run.record

def BindsNoSecrets (run : LogRun) : Prop :=
  ∀ key value, run.logger.defaultContext.get? key = some value → run.context.get? key = none →
    (isSensitive key || value.namesSecret) = false

end LogRun

namespace LogRun

variable {run run' : LogRun}

theorem logger_withSecrets (secret : Primitive) (run : LogRun) :
    (run.withSecrets secret).logger.defaultContext =
      run.logger.defaultContext.mapWithKey (withSecretsAt secret) := by
  obtain ⟨first, children, context⟩ := run
  unfold logger withSecrets
  induction children generalizing first with
  | nil => rfl
  | cons child children ih =>
    have hchild : assign (first.mapWithKey (withSecretsAt secret))
        (child.mapWithKey (withSecretsAt secret)).entries =
          (assign first child.entries).mapWithKey (withSecretsAt secret) := by
      rw [mapWithKey_assign, assign]
      exact List.foldl_map
    refine Eq.trans ?_ (ih (assign first child.entries))
    rw [← hchild]
    rfl

theorem keys_maskedMembers (context : LogContext) :
    (maskedMembers context).map Prod.fst = context.keys := by
  simp [maskedMembers, maskSensitive, keys, Function.comp_def]

theorem maskedMembers_withSecrets (secret : Primitive) (context : LogContext) :
    maskedMembers (context.mapWithKey (withSecretsAt secret)) = maskedMembers context := by
  have hmask := maskSensitive_withSecrets secret 11 (.object context.entries)
  rw [LogValue.withSecrets] at hmask
  unfold maskedMembers
  rw [← hmask]
  rfl

theorem record_eq (run : LogRun) :
    run.record = assign run.logger.defaultContext (maskedMembers run.context) := rfl

theorem notMem_maskedMembers {context : LogContext} {key : String} :
    key ∉ (maskedMembers context).map Prod.fst ↔ context.get? key = none := by
  rw [keys_maskedMembers, mem_keys_iff, Option.eq_none_iff_forall_ne_some, not_exists]

theorem differInSecrets_withSecrets (secret : Primitive) (run : LogRun) :
    run.DifferInSecrets (run.withSecrets secret) := by
  have htwice : ∀ context : LogContext, (context.mapWithKey (withSecretsAt secret)).mapWithKey
      (withSecretsAt .null) = context.mapWithKey (withSecretsAt .null) := fun context => by
    rw [mapWithKey_mapWithKey]
    simp only [withSecretsAt_withSecretsAt]
  simp [DifferInSecrets, withSecrets, htwice, Function.comp_def]

/-- What reaches the record by being bound is masked nowhere: the record is the same for every value under
sensitive keys just where no bound value that the call leaves is such a value or has one within it. -/
theorem nonInterfering_iff (run : LogRun) : run.NonInterfering ↔ run.BindsNoSecrets := by
  constructor
  · intro hsame key value hbound hcall
    rw [withSecretsAt_eq_self_iff (namesSecret_eq_false_iff value)]
    intro secret
    have hrecord := congrArg (get? · key) (hsame _ (differInSecrets_withSecrets secret run))
    simp only [record_eq, logger_withSecrets] at hrecord
    have hcall' : (maskedMembers (run.withSecrets secret).context) = maskedMembers run.context :=
      maskedMembers_withSecrets secret run.context
    rw [hcall', get?_assign_of_notMem (notMem_maskedMembers.mpr hcall),
      get?_assign_of_notMem (notMem_maskedMembers.mpr hcall), get?_mapWithKey,
      hbound] at hrecord
    exact Option.some.inj hrecord
  · intro hfree run' hdiffer
    have hbound := (logger_withSecrets .null run').symm.trans
      ((congrArg (·.logger.defaultContext) hdiffer.symm).trans (logger_withSecrets .null run))
    have hcall : maskedMembers run'.context = maskedMembers run.context :=
      (maskedMembers_withSecrets .null run'.context).symm.trans
        ((congrArg (maskedMembers ·.context) hdiffer.symm).trans
          (maskedMembers_withSecrets .null run.context))
    rw [record_eq, record_eq, hcall]
    refine assign_congr ?_ fun key hkey => ?_
    · have hkeys := congrArg (mapWithKey · fun _ _ => ()) hbound
      simpa only [mapWithKey_mapWithKey] using hkeys
    · have hvalues := congrArg (get? · key) hbound
      simp only [get?_mapWithKey] at hvalues
      cases hvalue : run.logger.defaultContext.get? key with
      | none => simpa [hvalue] using hvalues
      | some value =>
        rw [hvalue] at hvalues
        obtain ⟨value', hvalue', heq⟩ := Option.map_eq_some_iff.mp hvalues
        have hnone := hfree key value hvalue (notMem_maskedMembers.mp hkey)
        obtain ⟨hplain, hnames⟩ := Bool.or_eq_false_iff.mp hnone
        simp only [withSecretsAt, hplain, Bool.false_eq_true, if_false] at heq
        have hnames' : value'.namesSecret = false := by
          rw [← namesSecret_withSecrets .null, heq, namesSecret_withSecrets, hnames]
        rw [hvalue', ← (namesSecret_eq_false_iff value').mp hnames' .null, heq,
          (namesSecret_eq_false_iff value).mp hnames .null]

def keyBound (apiKey : String) : LogRun where
  defaultContext := .empty
  children := [empty.set "apiKey" (.plain (.str apiKey))]
  context := .empty

theorem bound_secret_recorded : (keyBound "one").DifferInSecrets (keyBound "other") ∧
    (keyBound "one").record ≠ (keyBound "other").record := by
  have hkey : isSensitive "apiKey" = true := by decide +kernel
  constructor
  · simp only [DifferInSecrets, keyBound, withSecrets, List.map_singleton, mapWithKey_set,
      withSecretsAt, hkey, if_true]
  · intro hsame
    have hvalue : some (plain (.str "one")) = some (plain (.str "other")) :=
      congrArg (get? · "apiKey") hsame
    simp at hvalue

end LogRun

end ShipyardCp.Properties
