import ShipyardCp.Properties.SpawnRate
import ShipyardCp.Web.SpawnController

/-! The token buckets of the server and of the web application: whether a look at the tokens changes
what can be consumed, and whether both give the same answers. -/

namespace ShipyardCp.Properties

open Types Lib BucketCall

/-- What a call takes out of a bucket, if it is not a look at it. -/
def BucketCall.request (call : BucketCall) : ℕ × Option ℚ := (call.now, match call.op with
    | .consume count => some count
    | .peek => none
    | .getTokens => none)

/-- The answers of a bucket of the server to the calls that consume, with the counts asked for. -/
def serverAnswers : Domain.TokenBucket → List BucketCall → List (ℚ × Bool)
  | _, [] => []
  | b, ⟨now, .consume count⟩ :: calls =>
    (count, (b.consume now count).1) :: serverAnswers (b.consume now count).2 calls
  | b, ⟨now, .peek⟩ :: calls => serverAnswers (b.peek now).2 calls
  | b, ⟨now, .getTokens⟩ :: calls => serverAnswers (b.getTokens now).2 calls

/-- The answers of a bucket of the web application. -/
def webAnswers : Web.TokenBucket → List BucketCall → List (ℚ × Bool)
  | _, [] => []
  | b, ⟨now, .consume count⟩ :: calls =>
    (count, (b.consume now count).1) :: webAnswers (b.consume now count).2 calls
  | b, ⟨now, .peek⟩ :: calls => webAnswers (b.peek now).2 calls
  | b, ⟨now, .getTokens⟩ :: calls => webAnswers (b.getTokens now).2 calls

def Clocked (created : Timestamp) (calls : List BucketCall) : Prop :=
  (created :: calls.map now).Pairwise (· ≤ ·)

/-- More looks at the tokens among the same calls. -/
structure LooksAdded (calls more : List BucketCall) : Prop where
  among : calls.Sublist more
  consumes : more.filter (·.request.2.isSome) = calls.filter (·.request.2.isSome)

def Unobserved {σ : Type} (new : Timestamp → σ) (answers : σ → List BucketCall → List (ℚ × Bool)) :
    Prop :=
  ∀ created calls more, LooksAdded calls more → Clocked created more →
    answers (new created) more = answers (new created) calls

def answersToOne (answers : List (ℚ × Bool)) : List (ℚ × Bool) := answers.filter (·.1 = 1)

/-- Looks change no answer of either bucket, and both answer alike when they are asked for a token.
-/
structure TokenBucketLaws (maxTokens refillRate : ℚ) : Prop where
  server : Unobserved (.new · maxTokens refillRate) serverAnswers
  web : Unobserved (.new · maxTokens refillRate) webAnswers
  agree : ∀ created calls, Clocked created calls →
    answersToOne (serverAnswers (.new created maxTokens refillRate) calls) =
      answersToOne (webAnswers (.new created maxTokens refillRate) calls)

section meters

def serverMeter : Meter Domain.TokenBucket ℚ where
  refresh := Domain.TokenBucket.refill
  take b count :=
    if b.tokens ≥ count then (true, { b with tokens := b.tokens - count }) else (false, b)

def webMeter : Meter Web.TokenBucket ℚ where
  refresh := Web.TokenBucket.refill
  take b count :=
    if b.tokens ≥ count then
      (true, { b with tokens := Web.TokenBucket.floorTokens (b.tokens - count) })
    else (false, b)

theorem serverAnswers_eq (b : Domain.TokenBucket) (calls : List BucketCall) :
    serverAnswers b calls = serverMeter.answers b (calls.map request) := by
  induction calls generalizing b with
  | nil => rfl
  | cons call calls ih =>
    obtain ⟨now, op⟩ := call
    cases op with
    | consume count =>
      rw [serverAnswers, ih]
      rfl
    | peek => exact ih _
    | getTokens => exact ih _

theorem webAnswers_eq (b : Web.TokenBucket) (calls : List BucketCall) :
    webAnswers b calls = webMeter.answers b (calls.map request) := by
  induction calls generalizing b with
  | nil => rfl
  | cons call calls ih =>
    obtain ⟨now, op⟩ := call
    cases op with
    | consume count =>
      rw [webAnswers, ih]
      rfl
    | peek => exact ih _
    | getTokens => exact ih _

theorem unobserved_of_absorbs {σ : Type} {M : Meter σ ℚ} {met : σ → Prop} {clock : σ → ℕ}
    (A : M.Absorbs met clock) {new : Timestamp → σ} (hmet : ∀ created, met (new created))
    (hclock : ∀ created, clock (new created) = created) {answers : σ → List BucketCall → _}
    (hanswers : ∀ s calls, answers s calls = M.answers s (calls.map request)) :
    Unobserved new answers := by
  intro created calls more hadded hclocked
  have hall : ∀ calls : List BucketCall, Clocked created calls →
      M.answers (new created) (calls.map request) = M.answers (new created)
          ((calls.filter (·.request.2.isSome)).map request) := by
    intro calls hcalls
    have hsorted : (clock (new created) ::
        (calls.map request).map Prod.fst).Pairwise (· ≤ ·) := by
      rw [hclock, List.map_map]
      exact hcalls
    rw [A.answers_filter (hmet created) hsorted, List.filter_map]
    rfl
  have hfewer : Clocked created calls := hclocked.sublist ((hadded.among.map now).cons_cons created)
  rw [hanswers, hanswers, hall more hclocked, hall calls hfewer, hadded.consumes]

end meters

section rounding

open Web.TokenBucket (EPSILON EPSILON_pos floorTokens)

variable {maxTokens tokens more refillRate : ℚ}

def rounded (maxTokens tokens : ℚ) : ℚ :=
  let floored := floorTokens (min maxTokens tokens)
  if maxTokens - floored < EPSILON then maxTokens else floored

def Distinct (tokens : ℚ) : Prop := tokens = 0 ∨ EPSILON ≤ tokens

theorem distinct_floorTokens (tokens : ℚ) : Distinct (floorTokens tokens) := by
  unfold floorTokens
  split_ifs with hfew
  · exact Or.inl rfl
  · exact Or.inr (not_lt.mp hfew)

theorem floorTokens_of_distinct (hdistinct : Distinct tokens) : floorTokens tokens = tokens := by
  unfold floorTokens
  rcases hdistinct with rfl | hmany
  · exact ite_self 0
  · exact if_neg (not_lt.mpr hmany)

theorem Distinct.nonneg (hdistinct : Distinct tokens) : 0 ≤ tokens := by
  rcases hdistinct with rfl | hmany
  · exact le_rfl
  · exact EPSILON_pos.le.trans hmany

theorem Distinct.add (hdistinct : Distinct tokens) (hmore : Distinct more) :
    Distinct (tokens + more) := by
  rcases hdistinct with rfl | hmany
  · rwa [zero_add]
  · exact Or.inr (hmany.trans (le_add_of_nonneg_right hmore.nonneg))

theorem rounded_of_lt (hfew : maxTokens < EPSILON) : rounded maxTokens tokens = maxTokens := by
  have hfloored : floorTokens (min maxTokens tokens) = 0 := if_pos ((min_le_left _ _).trans_lt hfew)
  simp [rounded, hfloored, hfew]

theorem rounded_self (hmax : EPSILON ≤ maxTokens) : rounded maxTokens maxTokens = maxTokens := by
  unfold rounded
  rw [min_self, floorTokens_of_distinct (Or.inr hmax)]
  exact ite_self _

theorem distinct_rounded (hmax : EPSILON ≤ maxTokens) (tokens : ℚ) :
    Distinct (rounded maxTokens tokens) := by
  unfold rounded
  dsimp only
  split_ifs
  · exact Or.inr hmax
  · exact distinct_floorTokens _

theorem rounded_of_distinct (hmax : EPSILON ≤ maxTokens) (hdistinct : Distinct tokens) :
    rounded maxTokens tokens = if maxTokens - tokens < EPSILON then maxTokens else tokens := by
  have hpos := EPSILON_pos
  unfold rounded
  rcases le_total maxTokens tokens with hfull | hroom
  · rw [min_eq_left hfull, floorTokens_of_distinct (Or.inr hmax), ite_self, if_pos (by linarith)]
  · rw [min_eq_right hroom, floorTokens_of_distinct hdistinct]

theorem rounded_rounded_add (hmax : EPSILON ≤ maxTokens) (hdistinct : Distinct tokens)
    (hmore : Distinct more) :
    rounded maxTokens (rounded maxTokens tokens + more) = rounded maxTokens (tokens + more) := by
  have hpos := EPSILON_pos
  have hnonneg := hmore.nonneg
  rw [rounded_of_distinct hmax hdistinct]
  split_ifs with hfull
  · rw [rounded_of_distinct hmax (Distinct.add (Or.inr hmax) hmore), if_pos (by linarith)]
    rcases hmore with rfl | hmany
    · rw [add_zero, rounded_of_distinct hmax hdistinct, if_pos hfull]
    · rw [rounded_of_distinct hmax (hdistinct.add (Or.inr hmany)), if_pos (by linarith)]
  · rfl

theorem tokens_refill (b : Web.TokenBucket) (now : Timestamp) : (b.refill now).tokens =
    rounded b.maxTokens (b.tokens + ((now : ℚ) - (b.lastRefill : ℚ)) * b.refillRate) := by
  simp [Web.TokenBucket.refill, rounded]

theorem distinct_refill (hrate : Distinct refillRate) {t u : ℕ} (htu : t ≤ u) :
    Distinct (((u : ℚ) - (t : ℚ)) * refillRate) := by
  rcases hrate with rfl | hmany
  · exact Or.inl (mul_zero _)
  · rcases htu.eq_or_lt with rfl | hlater
    · exact Or.inl (by rw [sub_self, zero_mul])
    · have hone : (1 : ℚ) ≤ (u : ℚ) - (t : ℚ) := by
        have hcast : ((t + 1 : ℕ) : ℚ) ≤ (u : ℚ) := Nat.cast_le.mpr hlater
        push_cast at hcast
        linarith
      exact Or.inr (hmany.trans (le_mul_of_one_le_left (EPSILON_pos.le.trans hmany) hone))

end rounding

section absorbing

open Web.TokenBucket (EPSILON EPSILON_pos floorTokens)

variable {maxTokens refillRate : ℚ}

theorem serverMeter_absorbs (hrate : 0 ≤ refillRate) :
    serverMeter.Absorbs (fun b => b.refillRate = refillRate) Domain.TokenBucket.lastRefill where
  met_refresh _ _ hmet _ := hmet
  met_take b t count hmet _ := by
    unfold serverMeter
    dsimp only
    split_ifs <;> exact hmet
  clock_refresh _ _ := rfl
  clock_take b count := by
    unfold serverMeter
    dsimp only
    split_ifs <;> rfl
  refresh_refresh b t u hmet _ htu := by
    have hmore : 0 ≤ ((u : ℚ) - (t : ℚ)) * refillRate :=
      mul_nonneg (sub_nonneg.mpr (Nat.cast_le.mpr htu)) hrate
    have hsum : b.tokens + ((t : ℚ) - (b.lastRefill : ℚ)) * refillRate +
        ((u : ℚ) - (t : ℚ)) * refillRate =
          b.tokens + ((u : ℚ) - (b.lastRefill : ℚ)) * refillRate := by ring
    subst hmet
    simp only [serverMeter, Domain.TokenBucket.refill, Int.cast_natCast,
      Domain.TokenBucket.mk.injEq, and_true]
    rw [← min_add_add_right, hsum, ← min_assoc, min_eq_left (le_add_of_nonneg_right hmore)]

def SettledBucket (maxTokens refillRate : ℚ) (b : Web.TokenBucket) : Prop :=
  b.maxTokens = maxTokens ∧ b.refillRate = refillRate ∧ (EPSILON ≤ maxTokens → Distinct b.tokens)

theorem webMeter_absorbs (hrate : maxTokens < EPSILON ∨ Distinct refillRate) :
    webMeter.Absorbs (SettledBucket maxTokens refillRate) Web.TokenBucket.lastRefill where
  met_refresh b t hmet _ := by
    refine ⟨hmet.1, hmet.2.1, fun hmax => ?_⟩
    change Distinct (b.refill t).tokens
    rw [tokens_refill, hmet.1]
    exact distinct_rounded hmax _
  met_take b t count hmet _ := by
    unfold webMeter
    dsimp only
    split_ifs with htokens
    · exact ⟨hmet.1, hmet.2.1, fun _ => distinct_floorTokens _⟩
    · refine ⟨hmet.1, hmet.2.1, fun hmax => ?_⟩
      change Distinct (b.refill t).tokens
      rw [tokens_refill, hmet.1]
      exact distinct_rounded hmax _
  clock_refresh _ _ := rfl
  clock_take b count := by
    unfold webMeter
    dsimp only
    split_ifs <;> rfl
  refresh_refresh b t u hmet ht htu := by
    obtain ⟨hmax, hrefill, hdistinct⟩ := hmet
    have htokens : ((b.refill t).refill u).tokens = (b.refill u).tokens := by
      rw [tokens_refill, tokens_refill, tokens_refill]
      change rounded b.maxTokens (rounded b.maxTokens _ + ((u : ℚ) - (t : ℚ)) * b.refillRate) = _
      rw [hmax, hrefill]
      rcases hrate with hfew | hrate
      · rw [rounded_of_lt hfew, rounded_of_lt hfew]
      · rcases lt_or_ge maxTokens EPSILON with hfew | hmany
        · rw [rounded_of_lt hfew, rounded_of_lt hfew]
        · rw [rounded_rounded_add hmany ((hdistinct hmany).add (distinct_refill hrate ht))
            (distinct_refill hrate htu)]
          congr 1
          ring
    change (b.refill t).refill u = b.refill u
    unfold Web.TokenBucket.refill at htokens ⊢
    simpa using htokens

end absorbing

section laws

open Web.TokenBucket (EPSILON EPSILON_pos EPSILON_lt_one floorTokens)

variable {maxTokens refillRate : ℚ}

theorem distinct_of_one_le {tokens : ℚ} (hone : 1 ≤ tokens) : Distinct tokens :=
  Or.inr (EPSILON_lt_one.le.trans hone)

def looks (first n : ℕ) : List BucketCall := (List.range' first n).map (⟨·, .peek⟩)

theorem webAnswers_looks (hmax : EPSILON ≤ maxTokens) (hrate : refillRate < EPSILON)
    (n : ℕ) (calls : List BucketCall) : ∀ first,
      webAnswers ⟨0, first, maxTokens, refillRate⟩ (looks (first + 1) n ++ calls) =
        webAnswers ⟨0, first + n, maxTokens, refillRate⟩ calls := by
  induction n with
  | zero => exact fun _ => rfl
  | succ n ih =>
    intro first
    have hempty : (Web.TokenBucket.refill ⟨0, first, maxTokens, refillRate⟩ (first + 1)).tokens =
        0 := by
      rw [tokens_refill]
      have hfew : floorTokens (min maxTokens refillRate) = 0 :=
        if_pos ((min_le_right _ _).trans_lt hrate)
      simp [rounded, hfew, hmax]
    have hbucket : Web.TokenBucket.refill ⟨0, first, maxTokens, refillRate⟩ (first + 1) =
        ⟨0, first + 1, maxTokens, refillRate⟩ :=
      congrArg (fun tokens => (⟨tokens, first + 1, maxTokens, refillRate⟩ : Web.TokenBucket)) hempty
    have hnext := ih (first + 1)
    rw [← hbucket, Nat.add_right_comm first 1 n] at hnext
    exact hnext

theorem consume_full (created : Timestamp) (hmax : EPSILON ≤ maxTokens) :
    (Web.TokenBucket.new created maxTokens refillRate).consume created maxTokens =
      (true, ⟨0, created, maxTokens, refillRate⟩) := by
  have hfull : ((Web.TokenBucket.new created maxTokens refillRate).refill created).tokens =
      maxTokens := by
    rw [tokens_refill]
    simp [Web.TokenBucket.new, rounded_self hmax]
  rw [Web.TokenBucket.consume_of_le hfull.ge, hfull, sub_self, floorTokens_of_distinct (Or.inl rfl)]
  rfl

theorem not_unobserved (hmax : EPSILON ≤ maxTokens) (hpos : 0 < refillRate)
    (hrate : refillRate < EPSILON) : ¬Unobserved (.new · maxTokens refillRate) webAnswers := by
  intro hall
  obtain ⟨n, hn⟩ : ∃ n : ℕ, EPSILON / refillRate ≤ n := ⟨_, Nat.le_ceil _⟩
  have henough : EPSILON ≤ n * refillRate := (div_le_iff₀ hpos).mp hn
  have hadded : LooksAdded [⟨0, .consume maxTokens⟩, ⟨n, .consume EPSILON⟩]
      (⟨0, .consume maxTokens⟩ :: (looks 1 n ++ [⟨n, .consume EPSILON⟩])) := by
    refine ⟨(List.sublist_append_right _ _).cons_cons _, ?_⟩
    have hnone : (looks 1 n).filter (·.request.2.isSome) = [] := by
      refine List.filter_eq_nil_iff.mpr fun call hcall => ?_
      obtain ⟨k, _, rfl⟩ := List.mem_map.mp hcall
      exact Bool.false_ne_true
    rw [List.filter_cons_of_pos rfl, List.filter_append, hnone]
    rfl
  have hclocked : Clocked 0 (⟨0, .consume maxTokens⟩ :: (looks 1 n ++ [⟨n, .consume EPSILON⟩])) := by
    have hlooks : (looks 1 n).map now = List.range' 1 n := by
      rw [looks, List.map_map]
      exact List.map_id _
    unfold Clocked
    rw [List.map_cons, List.map_append, hlooks]
    simp only [List.pairwise_cons, List.pairwise_append, Nat.zero_le, implies_true, true_and]
    refine ⟨List.pairwise_le_range', List.pairwise_singleton _ _,
      fun (k : ℕ) hk (last : ℕ) hlast => ?_⟩
    rw [List.mem_range'_1] at hk
    have hle : k ≤ n := by omega
    rw [List.mem_singleton.mp hlast]
    exact hle
  have hsame := hall 0 _ _ hadded hclocked
  have hempty : ((⟨0, n, maxTokens, refillRate⟩ : Web.TokenBucket).refill n).tokens < EPSILON := by
    rw [tokens_refill, sub_self, zero_mul, add_zero, rounded_of_distinct hmax (Or.inl rfl),
      sub_zero, if_neg (not_lt.mpr hmax)]
    exact EPSILON_pos
  have hfilled : EPSILON ≤ ((⟨0, 0, maxTokens, refillRate⟩ : Web.TokenBucket).refill n).tokens := by
    rw [tokens_refill]
    simp only [Nat.cast_zero, sub_zero, zero_add]
    rw [rounded_of_distinct hmax (Or.inr henough)]
    split_ifs
    · exact hmax
    · exact henough
  have hlooks := webAnswers_looks hmax hrate n [⟨n, .consume EPSILON⟩] 0
  rw [Nat.zero_add, Nat.zero_add] at hlooks
  simp only [webAnswers, consume_full 0 hmax, hlooks, Web.TokenBucket.consume_of_le hfilled,
    Web.TokenBucket.consume_of_lt hempty] at hsame
  simp at hsame

theorem answersToOne_eq (hfew : maxTokens < 1) (calls : List BucketCall) :
    ∀ (b : Domain.TokenBucket) (b' : Web.TokenBucket), b.maxTokens = maxTokens →
      b'.maxTokens = maxTokens →
        answersToOne (serverAnswers b calls) = answersToOne (webAnswers b' calls) := by
  induction calls with
  | nil => exact fun _ _ _ _ => rfl
  | cons call calls ih =>
    intro b b' hb hb'
    obtain ⟨now, op⟩ := call
    have hserver : (b.refill now).tokens < 1 := (min_le_left _ _).trans_lt (hb ▸ hfew)
    have hweb : (b'.refill now).tokens < 1 := Web.TokenBucket.refill_le.trans_lt (hb' ▸ hfew)
    cases op with
    | consume count =>
      have hkept : (b.consume now count).2.maxTokens = maxTokens := by
        unfold Domain.TokenBucket.consume
        dsimp only
        split_ifs <;> exact hb
      have hkept' : (b'.consume now count).2.maxTokens = maxTokens := by
        unfold Web.TokenBucket.consume
        dsimp only
        split_ifs <;> exact hb'
      have hrest := ih _ _ hkept hkept'
      unfold answersToOne at hrest ⊢
      rw [serverAnswers, webAnswers, List.filter_cons, List.filter_cons, hrest]
      by_cases hone : count = 1
      · subst hone
        rw [Domain.TokenBucket.consume_of_lt hserver, Web.TokenBucket.consume_of_lt hweb]
      · rw [if_neg (by simpa using hone), if_neg (by simpa using hone)]
    | peek => exact ih _ _ hb hb'
    | getTokens => exact ih _ _ hb hb'

theorem serverRefill_same (tokens : ℚ) (now : Timestamp) :
    Domain.TokenBucket.refill ⟨tokens, now, maxTokens, refillRate⟩ now =
      ⟨min maxTokens tokens, now, maxTokens, refillRate⟩ := by
  simp [Domain.TokenBucket.refill]

theorem webRefill_same (tokens : ℚ) (now : Timestamp) :
    Web.TokenBucket.refill ⟨tokens, now, maxTokens, refillRate⟩ now =
      ⟨rounded maxTokens tokens, now, maxTokens, refillRate⟩ := by
  simp [Web.TokenBucket.refill, rounded]

theorem not_agree (hmany : 1 ≤ maxTokens) : ¬∀ created calls, Clocked created calls →
    answersToOne (serverAnswers (.new created maxTokens refillRate) calls) =
      answersToOne (webAnswers (.new created maxTokens refillRate) calls) := by
  intro hall
  have hmax := EPSILON_lt_one.le.trans hmany
  have hsmall : (1 / 1000 : ℚ) < EPSILON := by norm_num [EPSILON]
  have hsame := hall 0 [⟨0, .consume (1 / 1000)⟩, ⟨0, .consume (maxTokens - 1)⟩, ⟨0, .consume 1⟩]
    (by simp [Clocked])
  have hserver : serverAnswers (.new 0 maxTokens refillRate)
      [⟨0, .consume (1 / 1000)⟩, ⟨0, .consume (maxTokens - 1)⟩, ⟨0, .consume 1⟩] =
        [(1 / 1000, true), (maxTokens - 1, true), (1, false)] := by
    have hfirst : (Domain.TokenBucket.new 0 maxTokens refillRate).consume 0 (1 / 1000) =
        (true, ⟨maxTokens - 1 / 1000, 0, maxTokens, refillRate⟩) := by
      unfold Domain.TokenBucket.new Domain.TokenBucket.consume
      rw [serverRefill_same, min_self]
      exact if_pos (by linarith)
    have hsecond : Domain.TokenBucket.consume ⟨maxTokens - 1 / 1000, 0, maxTokens, refillRate⟩ 0
        (maxTokens - 1) =
          (true, ⟨maxTokens - 1 / 1000 - (maxTokens - 1), 0, maxTokens, refillRate⟩) := by
      unfold Domain.TokenBucket.consume
      rw [serverRefill_same, min_eq_right (by linarith)]
      exact if_pos (by linarith)
    have hthird : (Domain.TokenBucket.consume
        ⟨maxTokens - 1 / 1000 - (maxTokens - 1), 0, maxTokens, refillRate⟩ 0 1).1 = false := by
      unfold Domain.TokenBucket.consume
      rw [serverRefill_same, min_eq_right (by linarith), if_neg (by simp)]
    simp only [serverAnswers, hfirst, hsecond, hthird]
  have hweb : webAnswers (.new 0 maxTokens refillRate)
      [⟨0, .consume (1 / 1000)⟩, ⟨0, .consume (maxTokens - 1)⟩, ⟨0, .consume 1⟩] =
        [(1 / 1000, true), (maxTokens - 1, true), (1, true)] := by
    have hleft : Distinct (maxTokens - 1 / 1000) := Or.inr (by norm_num [EPSILON]; linarith)
    have hfirst : (Web.TokenBucket.new 0 maxTokens refillRate).consume 0 (1 / 1000) =
        (true, ⟨maxTokens - 1 / 1000, 0, maxTokens, refillRate⟩) := by
      unfold Web.TokenBucket.new Web.TokenBucket.consume
      rw [webRefill_same, rounded_self hmax]
      dsimp only
      rw [if_pos (by linarith), floorTokens_of_distinct hleft]
    have hsecond : Web.TokenBucket.consume ⟨maxTokens - 1 / 1000, 0, maxTokens, refillRate⟩ 0
        (maxTokens - 1) = (true, ⟨1, 0, maxTokens, refillRate⟩) := by
      unfold Web.TokenBucket.consume
      rw [webRefill_same, rounded_of_distinct hmax hleft, sub_sub_cancel, if_pos hsmall]
      dsimp only
      rw [if_pos (by linarith), sub_sub_cancel, floorTokens_of_distinct (distinct_of_one_le le_rfl)]
    have hthird : (Web.TokenBucket.consume ⟨1, 0, maxTokens, refillRate⟩ 0 1).1 = true := by
      unfold Web.TokenBucket.consume
      rw [webRefill_same, rounded_of_distinct hmax (distinct_of_one_le le_rfl)]
      dsimp only
      rw [if_pos]
      split_ifs
      · exact hmany
      · exact le_rfl
    simp only [webAnswers, hfirst, hsecond, hthird]
  rw [hserver, hweb] at hsame
  change ([(1 / 1000, true), (maxTokens - 1, true)] ++ [((1 : ℚ), false)]).filter _ =
    ([(1 / 1000, true), (maxTokens - 1, true)] ++ [((1 : ℚ), true)]).filter _ at hsame
  rw [List.filter_append, List.filter_append] at hsame
  have hlast := List.append_cancel_left hsame
  simp at hlast

/-- Looks change nothing, and the two buckets agree about a token, exactly when the bucket cannot
hold a token, and the rate is none, or noticed at every instant, or the bucket holds next to
nothing. -/
theorem tokenBucketLaws_iff (maxTokens : ℚ) {refillRate : ℚ} (hrate : 0 ≤ refillRate) :
    TokenBucketLaws maxTokens refillRate ↔
      maxTokens < 1 ∧ (maxTokens < EPSILON ∨ refillRate = 0 ∨ EPSILON ≤ refillRate) := by
  constructor
  · intro hlaws
    refine ⟨not_le.mp fun hmany => not_agree hmany hlaws.agree, ?_⟩
    by_contra hnone
    push Not at hnone
    exact not_unobserved hnone.1 (lt_of_le_of_ne hrate (Ne.symm hnone.2.1)) hnone.2.2 hlaws.web
  · rintro ⟨hfew, hnoticed⟩
    refine ⟨?_, ?_, ?_⟩
    · exact unobserved_of_absorbs (serverMeter_absorbs hrate) (fun _ => rfl) (fun _ => rfl)
        serverAnswers_eq
    · refine unobserved_of_absorbs (webMeter_absorbs hnoticed) (fun created => ?_) (fun _ => rfl)
        webAnswers_eq
      exact ⟨rfl, rfl, fun hmax => Or.inr hmax⟩
    · exact fun created calls _ => answersToOne_eq hfew calls _ _ rfl rfl

/-- A rate at which every instant is noticed, and a bucket that is never enough for a token. -/
theorem half_bucket : TokenBucketLaws (1 / 2) 1 :=
  (tokenBucketLaws_iff (1 / 2) zero_le_one).mpr (by norm_num [EPSILON])

/-- A hundred and fifty tokens in a minute, one at a time: two looks keep a token away, and a token
comes early. -/
theorem looks_keep_token_away : ¬Unobserved (.new · 1 (1 / 400)) webAnswers ∧
    ¬∀ created calls, Clocked created calls →
      answersToOne (serverAnswers (.new created 1 (1 / 400)) calls) =
        answersToOne (webAnswers (.new created 1 (1 / 400)) calls) := by
  constructor
  · intro hall
    have hsame := hall 0 [⟨0, .consume 1⟩, ⟨400, .consume 1⟩]
      [⟨0, .consume 1⟩, ⟨1, .peek⟩, ⟨2, .getTokens⟩, ⟨400, .consume 1⟩]
      ⟨by simp, rfl⟩ (by simp [Clocked])
    revert hsame
    decide +kernel
  · intro hall
    have hsame := hall 0 [⟨0, .consume 1⟩, ⟨399, .consume 1⟩] (by simp [Clocked])
    revert hsame
    decide +kernel

end laws

end ShipyardCp.Properties
