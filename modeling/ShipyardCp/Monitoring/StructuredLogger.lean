import Mathlib.Data.Rat.Defs
import ShipyardCp.Lib.InsertionMap
import ShipyardCp.Lib.JsText

/-! The context of a log record: the bound contexts and the masked one of the call. -/

namespace ShipyardCp.Monitoring
open Lib InsertionMap

inductive Primitive where
  | null
  | undefined
  | bool (b : Bool)
  | num (n : ℚ)
  | str (s : String)

/-- A value under a key of a context; the keys of an object are distinct. -/
inductive LogValue where
  | plain (value : Primitive)
  | array (items : List LogValue)
  | object (members : List (String × LogValue))

def SENSITIVE_FIELDS : List String :=
  ["password", "passwd", "secret", "token", "apiKey", "api_key", "authorization", "credential",
    "private_key", "privateKey", "access_token", "accessToken", "refresh_token", "refreshToken"]

def isSensitive (key : String) : Bool := SENSITIVE_FIELDS.any fun field =>
    JsText.includes (JsText.toLowerCase key.toList) (JsText.toLowerCase field.toList)

def LogValue.redacted : LogValue := .plain (.str "[REDACTED]")

/-- The mask with so many levels left: at depth 0 there are eleven. -/
def maskSensitive : Nat → LogValue → LogValue
  | 0, _ => .plain (.str "[max depth reached]")
  | _ + 1, .plain value => .plain value
  | levels + 1, .array items => .array (items.map (maskSensitive levels))
  | levels + 1, .object members => .object (members.map fun (key, value) => (key,
      if isSensitive key then .redacted
      else match value with
        | .plain value => .plain value
        | value => maskSensitive levels value))

namespace LogValue

theorem sizeOf_snd_lt {member : String × LogValue} {members : List (String × LogValue)}
    (h : member ∈ members) : sizeOf member.2 < sizeOf (object members) := by
  have hlt := List.sizeOf_lt_of_mem h
  have hmember : sizeOf member = 1 + sizeOf member.1 + sizeOf member.2 := rfl
  have hobject : sizeOf (object members) = 1 + sizeOf members := object.sizeOf_spec members
  omega

theorem sizeOf_item_lt {item : LogValue} {items : List LogValue} (h : item ∈ items) :
    sizeOf item < sizeOf (array items) := by
  have hlt := List.sizeOf_lt_of_mem h
  have harray : sizeOf (array items) = 1 + sizeOf items := array.sizeOf_spec items
  omega

def withSecrets (secret : Primitive) : LogValue → LogValue
  | .plain value => .plain value
  | .array items => .array (items.map fun item => withSecrets secret item)
  | .object members => .object (members.map fun member => (member.1,
      if isSensitive member.1 then .plain secret else withSecrets secret member.2))
decreasing_by
  · exact sizeOf_item_lt ‹_›
  · exact sizeOf_snd_lt ‹_›

def namesSecret : LogValue → Bool
  | .plain _ => false
  | .array items => (items.map fun item => namesSecret item).any id
  | .object members => (members.map fun member => isSensitive member.1 || namesSecret member.2).any id
decreasing_by
  · exact sizeOf_item_lt ‹_›
  · exact sizeOf_snd_lt ‹_›

def withSecretsAt (secret : Primitive) (key : String) (value : LogValue) : LogValue :=
  if isSensitive key then .plain secret else value.withSecrets secret

theorem withSecrets_withSecrets (secret secret' : Primitive) (value : LogValue) :
    (value.withSecrets secret).withSecrets secret' = value.withSecrets secret' := by
  fun_induction withSecrets secret value with
  | case1 value => rw [withSecrets]
  | case2 items ih =>
    rw [withSecrets, withSecrets, List.map_map]
    exact congrArg array (List.map_congr_left ih)
  | case3 members ih =>
    rw [withSecrets, withSecrets, List.map_map]
    refine congrArg object (List.map_congr_left fun member hmember => ?_)
    have hvalue := ih member hmember
    by_cases hkey : isSensitive member.1 = true
    · simp [hkey]
    · simp [hkey, hvalue]

theorem namesSecret_withSecrets (secret : Primitive) (value : LogValue) :
    (value.withSecrets secret).namesSecret = value.namesSecret := by
  fun_induction withSecrets secret value with
  | case1 value => rfl
  | case2 items ih =>
    rw [namesSecret, namesSecret, List.map_map]
    exact congrArg (List.any · id) (List.map_congr_left ih)
  | case3 members ih =>
    rw [namesSecret, namesSecret, List.map_map]
    refine congrArg (List.any · id) (List.map_congr_left fun member hmember => ?_)
    have hvalue := ih member hmember
    by_cases hkey : isSensitive member.1 = true
    · simp [hkey]
    · simp [hkey, hvalue]

theorem withSecretsAt_withSecretsAt (secret secret' : Primitive) (key : String) (value : LogValue) :
    withSecretsAt secret' key (withSecretsAt secret key value) = withSecretsAt secret' key value := by
  unfold withSecretsAt
  split_ifs
  · rfl
  · exact withSecrets_withSecrets secret secret' value

theorem withSecretsAt_eq_self_iff {key : String} {value : LogValue}
    (ih : value.namesSecret = false ↔ ∀ secret, value.withSecrets secret = value) :
    (isSensitive key || value.namesSecret) = false ↔ ∀ secret, withSecretsAt secret key value = value := by
  unfold withSecretsAt
  by_cases hkey : isSensitive key = true
  · have hclash : ¬ ∀ secret, plain secret = value := fun h => by
      cases (h .null).trans (h .undefined).symm
    simpa [hkey] using hclash
  · simpa [hkey] using ih

theorem namesSecret_eq_false_iff (value : LogValue) :
    value.namesSecret = false ↔ ∀ secret, value.withSecrets secret = value := by
  have hself : ∀ {α : Type} (f : Primitive → α → α) (l : List α),
      (∀ secret, l.map (f secret) = l) ↔ ∀ x ∈ l, ∀ secret, f secret x = x := by
    intro α f l
    have hone : ∀ secret, l.map (f secret) = l ↔ ∀ x ∈ l, f secret x = x := fun secret => by
      simpa using List.map_eq_map_iff (f := f secret) (g := id) (l := l)
    simp only [hone]
    exact ⟨fun h x hx secret => h secret x hx, fun h secret x hx => h x hx secret⟩
  fun_induction namesSecret value with
  | case1 value => simp [withSecrets]
  | case2 items ih =>
    simp only [withSecrets, array.injEq, hself, List.any_map, List.any_eq_false, Function.comp_apply,
      id, Bool.not_eq_true]
    exact forall₂_congr ih
  | case3 members ih =>
    simp only [withSecrets, object.injEq, hself, List.any_map, List.any_eq_false, Function.comp_apply,
      id, Bool.not_eq_true]
    refine forall₂_congr fun member hmember => (withSecretsAt_eq_self_iff (ih member hmember)).trans ?_
    exact forall_congr' fun secret => ⟨fun h => Prod.ext rfl h, fun h => congrArg Prod.snd h⟩

theorem maskSensitive_withSecrets (secret : Primitive) (levels : Nat) (value : LogValue) :
    maskSensitive levels (value.withSecrets secret) = maskSensitive levels value := by
  induction levels generalizing value with
  | zero => rfl
  | succ levels ih =>
    cases value with
    | plain value => rw [withSecrets]
    | array items => simp [withSecrets, maskSensitive, ih]
    | object members =>
      rw [withSecrets, maskSensitive, maskSensitive, List.map_map]
      refine congrArg object (List.map_congr_left fun member _ => ?_)
      by_cases hkey : isSensitive member.1 = true
      · simp [hkey]
      · cases hvalue : member.2 with
        | plain value => simp [hkey, hvalue, withSecrets]
        | array items =>
          have hrest := ih (array items)
          rw [withSecrets] at hrest
          simp [hkey, hvalue, withSecrets, hrest]
        | object more =>
          have hrest := ih (object more)
          rw [withSecrets] at hrest
          simp [hkey, hvalue, withSecrets, hrest]

theorem maskSensitive_maskSensitive (n m : ℕ) (value : LogValue) :
    maskSensitive n (maskSensitive m value) = maskSensitive (min n m) value := by
  induction n generalizing m value with
  | zero => rw [Nat.zero_min, maskSensitive, maskSensitive]
  | succ n ih =>
    cases m with
    | zero => rw [Nat.min_zero, maskSensitive, maskSensitive]
    | succ m =>
      rw [Nat.succ_min_succ]
      cases value with
      | plain value => rfl
      | array items => simp [maskSensitive, ih]
      | object members =>
        rw [maskSensitive, maskSensitive, maskSensitive, List.map_map]
        refine congrArg object (List.map_congr_left fun member _ => ?_)
        have hmember := ih m member.2
        by_cases hkey : isSensitive member.1 = true
        · simp [hkey]
        · cases hvalue : member.2 <;> cases m <;> simp_all [maskSensitive]

theorem withSecrets_maskSensitive (levels : ℕ) (value : LogValue) :
    (maskSensitive levels value).withSecrets (.str "[REDACTED]") = maskSensitive levels value := by
  induction levels generalizing value with
  | zero => rw [maskSensitive, withSecrets]
  | succ levels ih =>
    cases value with
    | plain value => rw [maskSensitive, withSecrets]
    | array items => simp [maskSensitive, withSecrets, ih]
    | object members =>
      rw [maskSensitive, withSecrets, List.map_map]
      refine congrArg object (List.map_congr_left fun member _ => ?_)
      have hmember := ih member.2
      by_cases hkey : isSensitive member.1 = true
      · simp [hkey, redacted]
      · cases hvalue : member.2 with
        | plain value => simp [hkey, hvalue, withSecrets]
        | array items => simpa [hkey, hvalue] using hmember
        | object more => simpa [hkey, hvalue] using hmember
end LogValue

abbrev LogContext := InsertionMap String LogValue

/-- `Object.assign`. -/
def assign (target : LogContext) (members : List (String × LogValue)) : LogContext :=
  members.foldl (fun target member => target.set member.1 member.2) target

def maskedMembers (context : LogContext) : List (String × LogValue) :=
  match maskSensitive 11 (.object context.entries) with
  | .object members => members
  | _ => []

structure StructuredLogger where
  defaultContext : LogContext

namespace StructuredLogger

def child (logger : StructuredLogger) (context : LogContext) : StructuredLogger :=
  ⟨assign logger.defaultContext context.entries⟩

def buildContext (logger : StructuredLogger) : Option LogContext → LogContext
  | none => logger.defaultContext
  | some context => assign logger.defaultContext (maskedMembers context)

end StructuredLogger

section assign

variable {target : LogContext} {members : List (String × LogValue)}

theorem get?_assign_of_notMem {key : String} (h : key ∉ members.map Prod.fst) :
    (assign target members).get? key = target.get? key := by
  induction members generalizing target with
  | nil => rfl
  | cons member members ih =>
    rw [List.map_cons, List.mem_cons, not_or] at h
    exact (ih h.2).trans (get?_set_of_ne _ _ h.1)

theorem mapWithKey_assign {α : Type} (f : String → LogValue → α) :
    (assign target members).mapWithKey f =
      members.foldl (fun target member => target.set member.1 (f member.1 member.2))
        (target.mapWithKey f) := by
  induction members generalizing target with
  | nil => rfl
  | cons member members ih => exact ih.trans (by rw [mapWithKey_set]; rfl)

/-- What is not overridden decides. -/
theorem assign_congr {target' : LogContext}
    (hkeys : target.mapWithKey (fun _ _ => ()) = target'.mapWithKey (fun _ _ => ()))
    (hrest : ∀ key ∉ members.map Prod.fst, target.get? key = target'.get? key) :
    assign target members = assign target' members := by
  induction members generalizing target target' with
  | nil =>
    refine eq_of_get?_eq ?_ fun key => hrest key List.not_mem_nil
    have hentries := congrArg keys hkeys
    simp only [keys, mapWithKey, List.map_map] at hentries
    exact hentries
  | cons member members ih =>
    refine ih (by rw [mapWithKey_set, mapWithKey_set, hkeys]) fun key hkey => ?_
    rw [get?_set, get?_set]
    split_ifs with hsame
    · rfl
    · exact hrest key (by simpa [hsame] using hkey)

end assign

end ShipyardCp.Monitoring
