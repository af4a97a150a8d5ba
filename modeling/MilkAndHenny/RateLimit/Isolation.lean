import MilkAndHenny.RateLimit.Agreement

/-! Identities do not disturb one another but through the window that they share, and no window lets more attempts pass than it may. -/

namespace MilkAndHenny.RateLimit

open Library

variable {options : RateLimitOptions} {now : Int} {call : Call}

section

variable {windows others : Windows Subject} {subject : Subject}

theorem attempted_congr (same : List.lookup subject windows = List.lookup subject others) (duration : Int) :
    windows.attempted running subject now duration = others.attempted running subject now duration := by
  unfold Windows.attempted Windows.current
  rw [same]

theorem shared_eq : shared windows options now = windows.attempted running (.everyone options.name) now (milliseconds options.windowSeconds) :=
  attempted_congr (lookup_afterOwn windows options now) _

theorem lookup_reserve : List.lookup subject (Limiter.reserve options now windows).2 =
    if subject ∈ (Call.reserve options now).subjects then some (windows.attempted running subject now (milliseconds options.windowSeconds))
    else List.lookup subject windows := by
  have first : List.lookup subject (afterOwn windows options now) =
      if subject = .identity options.name options.identity then some (own windows options now) else List.lookup subject windows :=
    Windows.lookup_set ..
  cases cap : options.globalLimit with
  | none =>
    rw [reserve_uncapped cap, first]
    simp only [Call.subjects, cap, map_none, Option.toList_none, mem_singleton]
    split
    · next same =>
      rw [same]
      rfl
    · rfl
  | some =>
    rw [reserve_capped cap, Windows.lookup_set, first, shared_eq]
    simp only [Call.subjects, cap, map_some, toList_some, mem_cons, not_mem_nil, or_false]
    by_cases everyone : subject = .everyone options.name
    · simp [everyone]
    · by_cases same : subject = .identity options.name options.identity
      · rw [if_neg everyone, if_pos same, if_pos (.inl same), same]
        rfl
      · rw [if_neg everyone, if_neg same, if_neg (by simp [everyone, same])]

theorem lookup_next (same : List.lookup subject windows = List.lookup subject others) (call : Call) :
    List.lookup subject (Limiter.store.next call windows) = List.lookup subject (Limiter.store.next call others) := by
  cases call with
  | reserve =>
    simp [Store.next, Limiter.store, lookup_reserve, same, attempted_congr same]
  | clear => simp [Store.next, Limiter.store, Windows.lookup_clear, same]

theorem lookup_quiet (quiet : subject ∉ call.subjects) : List.lookup subject (Limiter.store.next call windows) = List.lookup subject windows := by
  cases call with
  | reserve =>
    simp only [Store.next, Limiter.store, lookup_reserve]
    rw [if_neg quiet]
  | clear =>
    simp only [Store.next, Limiter.store, Windows.lookup_clear]
    exact if_neg fun same => quiet (by simp [Call.subjects, same])

end

/-! ### Isolation -/

def Call.concerns (name identity : String) : Call → Bool
  | .reserve options _ => options.name == name && options.identity == identity
  | .clear cleared other _ => cleared == name && other == identity

def Call.reaches (name identity : String) (call : Call) : Bool :=
  call.concerns name identity ||
    match call with
    | .reserve options _ => options.globalLimit.isSome && options.name == name
    | .clear _ _ _ => false

def answered {δ : Type} (name identity : String) (answer : RateLimitOptions × δ) : Bool := answer.1.name == name && answer.1.identity == identity

def ruled (answer : RateLimitOptions × Ruling) : RateLimitOptions × Bool × Int := (answer.1, answer.2.allowed, answer.2.remaining)

def decided (answer : RateLimitOptions × RateLimitDecision) : RateLimitOptions × Bool × Int := (answer.1, answer.2.allowed, answer.2.remaining)

def alone (verdict : RateLimitOptions × Bool × Int) : RateLimitOptions × Int × Option Bool :=
  (verdict.1, verdict.2.2, if verdict.1.globalLimit.isSome then none else some verdict.2.1)

section

variable {name identity : String} {windows others : Windows Subject}

theorem ruling_congr
    (own : List.lookup (.identity options.name options.identity) windows = List.lookup (.identity options.name options.identity) others)
    (shared : List.lookup (.everyone options.name) windows = List.lookup (.everyone options.name) others) :
    (Limiter.reserve options now windows).1 = (Limiter.reserve options now others).1 := by
  have first : RateLimit.own windows options now = RateLimit.own others options now := attempted_congr own _
  have second : RateLimit.shared windows options now = RateLimit.shared others options now := by
    rw [shared_eq, shared_eq]
    exact attempted_congr shared _
  cases cap : options.globalLimit with
  | none => rw [reserve_uncapped cap, reserve_uncapped cap, first]
  | some => rw [reserve_capped cap, reserve_capped cap, first, second]

theorem alone_congr
    (own : List.lookup (.identity options.name options.identity) windows = List.lookup (.identity options.name options.identity) others) :
    alone (ruled (options, (Limiter.reserve options now windows).1)) = alone (ruled (options, (Limiter.reserve options now others).1)) := by
  have first : RateLimit.own windows options now = RateLimit.own others options now := attempted_congr own _
  cases cap : options.globalLimit with
  | none => rw [reserve_uncapped cap, reserve_uncapped cap, first]
  | some =>
    rw [reserve_capped cap, reserve_capped cap, first]
    simp [alone, ruled, cap]

theorem answers_filter {β : Type} {view : List Subject} {keep : Call → Bool} {seen : RateLimitOptions × Ruling → β}
    (quiet : ∀ call, keep call = false → (∀ subject ∈ view, subject ∉ call.subjects) ∧ call.concerns name identity = false)
    (follows : ∀ options now (windows others : Windows Subject), options.name = name → options.identity = identity →
      (∀ subject ∈ view, List.lookup subject windows = List.lookup subject others) →
      seen (options, (Limiter.reserve options now windows).1) = seen (options, (Limiter.reserve options now others).1))
    (same : ∀ subject ∈ view, List.lookup subject windows = List.lookup subject others) (calls : List Call) :
    ((Limiter.store.answers windows calls).filter (answered name identity)).map seen =
      ((Limiter.store.answers others (calls.filter keep)).filter (answered name identity)).map seen := by
  induction calls generalizing windows others with
  | nil => rfl
  | cons call calls ih =>
    cases kept : keep call with
    | false =>
      obtain ⟨untouched, foreign⟩ := quiet call kept
      have rest := ih fun subject mem => (lookup_quiet (untouched subject mem)).trans (same subject mem)
      rw [filter_cons_of_neg (by simp [kept]), ← rest]
      cases call with
      | reserve options now =>
        have skipped : answered name identity (options, (Limiter.reserve options now windows).1) = false := foreign
        simp only [Store.answers, Limiter.store, filter_cons, skipped]
        rfl
      | clear => rfl
    | true =>
      have rest := ih fun subject mem => lookup_next (same subject mem) call
      rw [filter_cons_of_pos kept]
      cases call with
      | reserve options now =>
        simp only [Store.answers, filter_cons]
        by_cases mine : options.name = name ∧ options.identity = identity
        · have chosen (ruling : Ruling) : answered name identity (options, ruling) = true := by simp [answered, mine.1, mine.2]
          simp only [chosen, if_true, map_cons]
          exact congrArg₂ List.cons (follows options now windows others mine.1 mine.2 same) rest
        · have skipped (ruling : Ruling) : answered name identity (options, ruling) = false := by
            simp only [answered, and_eq_false_imp, beq_iff_eq, beq_eq_false_iff_ne]
            exact fun first second => mine ⟨first, second⟩
          simp only [skipped, false_eq_true, if_false]
          exact rest
      | clear => exact rest

theorem reaches_quiet (far : call.reaches name identity = false) :
    (∀ subject ∈ [Subject.identity name identity, .everyone name], subject ∉ call.subjects) ∧ call.concerns name identity = false := by
  obtain ⟨foreign, apart⟩ := or_eq_false_iff.mp far
  refine ⟨?_, foreign⟩
  cases call with
  | reserve =>
    simp only [Call.concerns, and_eq_false_imp, beq_iff_eq, beq_eq_false_iff_ne] at foreign
    simp only [and_eq_false_imp, beq_eq_false_iff_ne] at apart
    rintro subject mem listed
    simp only [Call.subjects, mem_cons, mem_toList, map_eq_some_iff] at mem listed
    rcases mem with rfl | rfl | mem
    · rcases listed with same | ⟨_, _, other⟩
      · cases same
        exact foreign rfl rfl
      · cases other
    · rcases listed with same | ⟨globalLimit, capped, other⟩
      · cases same
      · cases other
        exact apart (by rw [capped]; rfl) rfl
    · cases mem
  | clear =>
    simp only [Call.concerns, and_eq_false_imp, beq_iff_eq, beq_eq_false_iff_ne] at foreign
    rintro subject mem listed
    cases mem_singleton.mp listed
    simp only [mem_cons, Subject.identity.injEq, not_mem_nil, or_false, reduceCtorEq] at mem
    exact foreign mem.1 mem.2

theorem concerns_quiet (foreign : call.concerns name identity = false) :
    (∀ subject ∈ [Subject.identity name identity], subject ∉ call.subjects) ∧ call.concerns name identity = false := by
  refine ⟨fun subject mem listed => ?_, foreign⟩
  cases mem_singleton.mp mem
  cases call with
  | reserve =>
    simp only [Call.concerns, and_eq_false_imp, beq_iff_eq, beq_eq_false_iff_ne] at foreign
    simp only [Call.subjects, mem_cons, mem_toList, map_eq_some_iff] at listed
    rcases listed with same | ⟨_, _, other⟩
    · cases same
      exact foreign rfl rfl
    · cases other
  | clear =>
    simp only [Call.concerns, and_eq_false_imp, beq_iff_eq, beq_eq_false_iff_ne] at foreign
    cases mem_singleton.mp listed
    exact foreign rfl rfl

theorem shared_answers (name identity : String) (calls : List Call) :
    ((Limiter.store.answers [] calls).filter (answered name identity)).map ruled =
      ((Limiter.store.answers [] (calls.filter (Call.reaches name identity))).filter (answered name identity)).map ruled := by
  refine @answers_filter name identity [] [] _ [.identity name identity, .everyone name] _ ruled (fun call far => reaches_quiet far) ?_
    (fun _ _ => rfl) calls
  rintro options now windows others rfl rfl same
  rw [ruling_congr (same _ (by simp)) (same _ (by simp))]

theorem own_answers (name identity : String) (calls : List Call) :
    ((Limiter.store.answers [] calls).filter (answered name identity)).map (alone ∘ ruled) =
      ((Limiter.store.answers [] (calls.filter (Call.concerns name identity))).filter (answered name identity)).map (alone ∘ ruled) := by
  refine @answers_filter name identity [] [] _ [.identity name identity] _ (alone ∘ ruled) (fun call foreign => concerns_quiet foreign) ?_
    (fun _ _ => rfl) calls
  rintro options now windows others rfl rfl same
  exact alone_congr (same _ (mem_singleton_self _))

end

/-! ### Bounds -/

/-- The limiter's windows with the attempts that each of them has let pass. -/
structure Counted where
  windows : Windows Subject
  allowed : Subject → Nat

def Counted.next (call : Call) (counted : Counted) : Counted :=
  match call with
  | .reserve options now =>
    let (ruling, windows) := Limiter.reserve options now counted.windows
    { windows
      allowed := fun subject =>
        if subject ∈ call.subjects then
          let before := if ((List.lookup subject windows).map (·.attempts)) = some 1 then 0 else counted.allowed subject
          before + ruling.allowed.toNat
        else counted.allowed subject }
  | .clear name identity _ => { counted with windows := counted.windows.clear (.identity name identity) }

/-- An attempt that passes is within the limits of its windows. -/
def Bounded (call : Call) (counted : Counted) : Prop :=
  match call with
  | .reserve options now =>
    (Limiter.reserve options now counted.windows).1.allowed = true →
      ((counted.next call).allowed (.identity options.name options.identity) : Int) ≤ options.limit ∧
        ∀ globalLimit ∈ options.globalLimit, ((counted.next call).allowed (.everyone options.name) : Int) ≤ globalLimit
  | .clear _ _ _ => True

/-- No window has let more attempts pass than it has counted. -/
def Within (counted : Counted) : Prop := ∀ subject window, List.lookup subject counted.windows = some window → counted.allowed subject ≤ window.attempts

section

variable {counted : Counted}

theorem allowed_le (within : Within counted) {subject : Subject} (mem : subject ∈ (Call.reserve options now).subjects) :
    (counted.next (.reserve options now)).allowed subject ≤
      (counted.windows.attempted running subject now (milliseconds options.windowSeconds)).attempts := by
  have found : List.lookup subject (Limiter.reserve options now counted.windows).2 =
      some (counted.windows.attempted running subject now (milliseconds options.windowSeconds)) := by
    rw [lookup_reserve, if_pos mem]
  have one : (Limiter.reserve options now counted.windows).1.allowed.toNat ≤ 1 := Bool.toNat_le _
  simp only [Counted.next, if_pos mem, found, map_some, some.injEq]
  rcases Windows.attempted_cases running counted.windows subject now (milliseconds options.windowSeconds) with first | ⟨window, known, counts⟩
  · rw [if_pos first, first]
    omega
  · have bound := within subject window known
    split <;> omega

theorem Within.next (within : Within counted) (call : Call) : Within (counted.next call) := by
  intro subject window found
  cases call with
  | reserve options now =>
    by_cases mem : subject ∈ (Call.reserve options now).subjects
    · have lookup : List.lookup subject (Limiter.reserve options now counted.windows).2 = some window := found
      rw [lookup_reserve, if_pos mem] at lookup
      cases lookup
      exact allowed_le within mem
    · have lookup : List.lookup subject (Limiter.reserve options now counted.windows).2 = some window := found
      rw [lookup_reserve, if_neg mem] at lookup
      simp only [Counted.next, if_neg mem]
      exact within subject window lookup
  | clear =>
    simp only [Counted.next, Windows.lookup_clear] at found
    split at found
    · cases found
    · exact within subject window found

theorem Within.bounded (within : Within counted) (call : Call) : Bounded call counted := by
  cases call with
  | clear => exact trivial
  | reserve options now =>
    intro passes
    have ownBound := allowed_le within (@own_subject options now)
    constructor
    · have limit : ((own counted.windows options now).attempts : Int) ≤ options.limit := by
        cases cap : options.globalLimit with
        | none =>
          rw [reserve_uncapped cap] at passes
          exact of_decide_eq_true passes
        | some =>
          rw [reserve_capped cap] at passes
          exact of_decide_eq_true ((and_eq_true _ _).mp passes).1
      exact (Int.ofNat_le.mpr ownBound).trans limit
    · intro globalLimit cap
      have sharedBound := allowed_le within (@shared_subject options now globalLimit cap)
      rw [reserve_capped cap, shared_eq] at passes
      exact (Int.ofNat_le.mpr sharedBound).trans (of_decide_eq_true ((and_eq_true _ _).mp passes).2)

theorem bounded (calls : List Call) : EachStep Counted.next Bounded { windows := [], allowed := fun _ => 0 } calls := by
  have step {counted : Counted} {call : Call} (within : Within counted) (_ : True) : Within (counted.next call) ∧ Bounded call counted :=
    ⟨within.next call, within.bounded call⟩
  have empty : Within { windows := [], allowed := fun _ => 0 } := by
    intro subject window found
    cases found
  exact (@EachStep.shows _ _ Counted.next (fun _ _ => True) Within Bounded step _ calls empty (EachStep.always fun _ _ => trivial)).2

end

/-! ### The stores -/

/-- A store's answers are the limiter's; those to one identity follow from the calls that reach its windows, and what no cap has a part in from its own. -/
structure Settles (seconds : Int → Int) (answers : List (RateLimitOptions × RateLimitDecision)) (calls : List Call) : Prop where
  agrees : Forall₂ (Agrees seconds) (Limiter.store.answers [] calls) answers
  isolated : ∀ name identity, (answers.filter (answered name identity)).map decided =
    ((Limiter.store.answers [] (calls.filter (Call.reaches name identity))).filter (answered name identity)).map ruled
  alone : ∀ name identity, (answers.filter (answered name identity)).map (alone ∘ decided) =
    ((Limiter.store.answers [] (calls.filter (Call.concerns name identity))).filter (answered name identity)).map (RateLimit.alone ∘ ruled)

section

variable {seconds : Int → Int} {answers : List (RateLimitOptions × RateLimitDecision)} {calls : List Call}

theorem decided_filter {rulings : List (RateLimitOptions × Ruling)} (agrees : Forall₂ (Agrees seconds) rulings answers) (name identity : String) :
    (answers.filter (answered name identity)).map decided = (rulings.filter (answered name identity)).map ruled := by
  induction agrees with
  | nil => rfl
  | @cons ruling answer rulings answers agree _ ih =>
    have same : decided answer = ruled ruling := by rw [decided, ruled, agree.options, agree.allowed, agree.remaining]
    have chosen : answered name identity answer = answered name identity ruling := by simp [answered, agree.options]
    simp only [filter_cons, chosen]
    split
    · rw [map_cons, map_cons, ih, same]
    · exact ih

theorem Settles.of_agrees (agrees : Forall₂ (Agrees seconds) (Limiter.store.answers [] calls) answers) : Settles seconds answers calls where
  agrees := agrees
  isolated name identity := (decided_filter agrees name identity).trans (shared_answers name identity calls)
  alone name identity := by
    have same := congrArg (List.map RateLimit.alone) (decided_filter agrees name identity)
    rw [map_map, map_map] at same
    exact same.trans (own_answers name identity calls)

theorem inside_subjects {call : Call} (mem : call ∈ calls) : ∀ subject ∈ call.subjects, subject ∈ subjects calls :=
  fun _ listed => mem_flatMap.mpr ⟨call, mem, listed⟩

theorem agree_nil {κ : Type} [DecidableEq κ] (k : Subject → κ) (view : List Subject) : Windows.Agree k view [] [] := fun _ _ => rfl

theorem redis_settles (service : RedisService) (apart : Windows.Apart redisKey (subjects calls))
    (each : EachStep Limiter.store.next (RedisMeets service) [] calls) : Settles service.ttlSeconds (service.store.answers [] calls) calls := by
  refine .of_agrees (@answers_agree _ service.store service.ttlSeconds (RedisMeets service) (Windows.Agree redisKey (subjects calls))
    (fun call => ∀ subject ∈ call.subjects, subject ∈ subjects calls) ?_ ?_ _ _ calls (agree_nil _ _) (fun call => inside_subjects) each)
  · exact RedisService.reserve_agrees apart
  · exact fun agree inside _ => agree.clear apart (inside _ (mem_singleton_self _))

theorem memory_settles (apart : Windows.Apart redisKey (subjects calls)) (each : EachStep Limiter.store.next MemoryMeets [] calls) :
    Settles Memory.seconds (Memory.store.answers [] calls) calls := by
  refine .of_agrees (@answers_agree _ Memory.store Memory.seconds MemoryMeets (Windows.Agree redisKey (subjects calls))
    (fun call => ∀ subject ∈ call.subjects, subject ∈ subjects calls) ?_ ?_ _ _ calls (agree_nil _ _) (fun call => inside_subjects) each)
  · exact Memory.reserve_agrees apart
  · exact fun agree inside _ => agree.clear apart (inside _ (mem_singleton_self _))

theorem postgres_settles (service : PostgresService)
    (valid : ∀ options now, Call.reserve options now ∈ calls → validRateLimitOptions options = true)
    (apart : Windows.Apart service.key (subjects calls)) (each : EachStep Limiter.store.next PostgresMeets [] calls) :
    Settles PostgresService.retrySeconds (service.store.answers [] calls) calls := by
  refine .of_agrees (@answers_agree _ service.store PostgresService.retrySeconds PostgresMeets (Windows.Agree service.key (subjects calls))
    (fun call => call ∈ calls) ?_ ?_ _ _ calls (agree_nil _ _) (fun call mem => mem) each)
  · exact fun agree mem meets => PostgresService.reserve_agrees (valid _ _ mem) apart agree (inside_subjects mem) meets
  · intro name identity now state windows agree mem meets
    have cleared := agree.clear apart (inside_subjects mem _ (mem_singleton_self _))
    have storable : PostgresService.storable name = true := meets
    simp only [PostgresService.store, storable, if_true]
    exact cleared

end

/-- Each store answers valid calls as the limiter does, and keeps identities apart as it does, in the runs in which the store's own condition holds; and
the limiter lets no more attempts pass than its windows may. -/
theorem rate_limits_settle (redis : RedisService) (postgres : PostgresService) (calls : List Call)
    (valid : ∀ options now, Call.reserve options now ∈ calls → validRateLimitOptions options = true) :
    (Windows.Apart redisKey (subjects calls) → EachStep Limiter.store.next (RedisMeets redis) [] calls →
      Settles redis.ttlSeconds (redis.store.answers [] calls) calls) ∧
    (Windows.Apart postgres.key (subjects calls) → EachStep Limiter.store.next PostgresMeets [] calls →
      Settles PostgresService.retrySeconds (postgres.store.answers [] calls) calls) ∧
    (Windows.Apart redisKey (subjects calls) → EachStep Limiter.store.next MemoryMeets [] calls →
      Settles Memory.seconds (Memory.store.answers [] calls) calls) ∧
    EachStep Counted.next Bounded { windows := [], allowed := fun _ => 0 } calls :=
  ⟨redis_settles redis, postgres_settles postgres valid, memory_settles, bounded calls⟩

def plainRedis : RedisService := { lingers := false, ttl := fun left => (left + 500) / 1000, ordered := fun le => by omega }

def plainPostgres : PostgresService := { hmac := id }

def login (name identity : String) (limit : Int) (globalLimit : Option Int) : RateLimitOptions :=
  { name, identity, limit, windowSeconds := 60, globalLimit }

def logins : List Call :=
  [.reserve (login "login" "guest" 5 (some 9)) 0, .reserve (login "login" "owner" 5 (some 9)) 1000, .clear "login" "owner" 2000]

theorem rate_limits_settle_logins :
    Settles plainRedis.ttlSeconds (plainRedis.store.answers [] logins) logins ∧
      Settles PostgresService.retrySeconds (plainPostgres.store.answers [] logins) logins ∧
      Settles Memory.seconds (Memory.store.answers [] logins) logins := by
  have valid : ∀ options now, Call.reserve options now ∈ logins → validRateLimitOptions options = true := by
    intro options now mem
    simp only [logins, mem_cons, Call.reserve.injEq, reduceCtorEq, not_mem_nil, or_false] at mem
    rcases mem with ⟨rfl, -⟩ | ⟨rfl, -⟩ <;> decide
  obtain ⟨redis, postgres, memory, -⟩ := rate_limits_settle plainRedis plainPostgres logins valid
  refine ⟨redis (by decide) ⟨⟨?_, by decide⟩, ⟨?_, by decide⟩, ⟨?_, trivial⟩, trivial⟩,
    postgres (by decide) ⟨by decide, by decide, by decide, trivial⟩,
    memory (by decide) ⟨by decide, by decide, ⟨trivial, trivial⟩, trivial⟩⟩
  all_goals exact nofun

def sameKey : List Call := List.replicate 3 (.reserve (login "login" "global" 5 (some 5)) 0)

/-- An identity that goes on after it has been refused. -/
def goesOn : List Call :=
  [.reserve (login "login" "guest" 1 (some 2)) 0, .reserve (login "login" "guest" 1 (some 2)) 0, .reserve (login "login" "owner" 1 (some 2)) 0]

def shorter : List Call :=
  [.reserve { login "login" "guest" 5 (some 1) with windowSeconds := 600 } 0, .reserve (login "login" "owner" 5 (some 1)) 0]

theorem stores_differ :
    (plainRedis.store.answers [] sameKey).map decided ≠ (plainPostgres.store.answers [] sameKey).map decided ∧
      (Memory.store.answers [] goesOn).map decided ≠ (plainPostgres.store.answers [] goesOn).map decided ∧
      (Limiter.store.answers [] shorter).map (fun answer => answer.2.capped) = [none, some 600000] ∧
      (plainRedis.store.answers [] shorter).map (fun answer => answer.2.retryAfterSeconds) = [600, 60] := by
  exact ⟨by decide, by decide, by decide, by decide⟩

end MilkAndHenny.RateLimit
