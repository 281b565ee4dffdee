/-
# The rate limiter

`RateLimiter` keeps a token bucket for each client, in the order the clients were last seen.
Any number of threads check requests. A check first drops the buckets that are full or have
been idle for five minutes, if it is time to do so, then finds or makes the bucket of its
client, and takes a token from it at the end. The dictionary has a lock and every bucket has
one, and the token is taken without the lock of the dictionary.

The model takes one step for what a thread does under a lock. Buckets are kept by client and
by number, in the order they were made, also after they have been dropped, since a thread may
still hold one. Tokens and times are numbers of any ordered ring, without rounding. The
requests that were allowed are recorded, and nothing depends on that record.

A client gets no more than its allowance as long as its bucket is only dropped when it is full
and nobody holds it. A bucket that is dropped otherwise comes back with more tokens than it
had, or is emptied once more by those who still hold it.
-/

import Pounce.Math.Allowance
import Pounce.Math.Dict
import Pounce.Math.Transition

namespace Pounce

open Pounce.Math

/-! ## Buckets -/

/-- `TokenBucket`. -/
structure TokenBucket (Num : Type) where
  capacity : Num
  rate : Num
  tokens : Num
  lastRefill : Num
  deriving DecidableEq, Repr

namespace TokenBucket

variable {Num : Type} [CommRing Num] [LinearOrder Num] (bucket : TokenBucket Num) (now : Num)

/-- A new bucket is full. -/
def make (rate : Num) (burst : ℕ) (now : Num) : TokenBucket Num where
  capacity := burst
  rate := rate
  tokens := burst
  lastRefill := now

/-- The tokens after a refill. -/
def tokensAt : Num := min bucket.capacity (bucket.tokens + (now - bucket.lastRefill) * bucket.rate)

/-- `consume`. -/
def consume : Bool × TokenBucket Num :=
  if 1 ≤ bucket.tokensAt now then
    (true, { bucket with tokens := bucket.tokensAt now - 1, lastRefill := now })
  else (false, { bucket with tokens := bucket.tokensAt now, lastRefill := now })

/-- `is_full_at`. -/
def isFullAt : Bool := bucket.capacity ≤ bucket.tokensAt now

/-- `idle_since`. -/
def idleSince : Num := now - bucket.lastRefill

end TokenBucket

/-! ## State -/

/-- What a limiter is made with. It checks the cap itself, and `ServerConfig` the rate. -/
structure RateConfig (Num : Type) [CommRing Num] [LinearOrder Num] where
  rate : Num
  burst : ℕ
  maxTrackedIps : ℕ
  rate_pos : 0 < rate
  maxTrackedIps_pos : 0 < maxTrackedIps

/-- What is done next with a bucket that may be dropped. -/
inductive SweepStage where
  | fullness
  /-- It is not full. -/
  | idleness
  /-- It is full, or idle. -/
  | deletion
  deriving DecidableEq, Repr

/-- Where a thread is in `check_rate_limit`. -/
inductive CheckPhase (Num : Type) where
  | outside
  /-- `_maybe_cleanup` has read the clock. -/
  | entered (clientIp : String) (now : Num)
  /-- The buckets of the snapshot are looked at. The first is known to be not full, or is not. -/
  | probing (clientIp : String) (now : Num) (snapshot : List (String × ℕ)) (stale : List String)
      (notFull : Bool)
  /-- The stale ones are looked at again, with the lock. -/
  | sweeping (clientIp : String) (now : Num) (stale : List String) (stage : SweepStage)
  | cleaned (clientIp : String)
  /-- The thread holds a bucket. -/
  | consuming (clientIp : String) (number : ℕ)
  deriving DecidableEq, Repr

/-- The state of a limiter and of the threads that use it. -/
structure RateLimiter (Num : Type) where
  /-- `time.monotonic()`. -/
  clock : Num
  /-- The buckets of a client. -/
  bucket : String → ℕ → TokenBucket Num
  /-- How many there have been. -/
  made : String → ℕ := fun _ => 0
  /-- `_buckets`, by the number of the bucket. -/
  buckets : Dict String ℕ := {}
  lastCleanup : Num
  /-- The thread that has the lock of the dictionary. -/
  lock : Option ℕ := none
  phase : ℕ → CheckPhase Num := fun _ => .outside
  /-- The requests that were allowed, by client and time. -/
  allowed : List (String × Num) := []

/-- What happens to a limiter. -/
inductive LimiterAction (Num : Type) where
  | tick (elapsed : Num)
  | call (thread : ℕ) (clientIp : String)
  /-- A thread goes on. -/
  | act (thread : ℕ)
  deriving DecidableEq, Repr

namespace RateLimiter

variable {Num : Type} [CommRing Num] [LinearOrder Num] (config : RateConfig Num)
  (limiter : RateLimiter Num)

/-- A limiter at the start. -/
def initial (start : Num) : RateLimiter Num where
  clock := start
  bucket _ _ := .make config.rate config.burst start
  lastCleanup := start

/-- A thread goes on to a phase. -/
def goOn (thread : ℕ) (phase : CheckPhase Num) : RateLimiter Num :=
  { limiter with phase := Function.update limiter.phase thread phase }

/-- It is time for a cleanup. -/
def needsCleanup (now : Num) : Bool :=
  config.maxTrackedIps ≤ limiter.buckets.size ∨ ¬ now - limiter.lastCleanup < 300

/-- Look at a bucket of the snapshot. -/
def probe (thread : ℕ) (clientIp : String) (now : Num) (entry : String × ℕ)
    (rest : List (String × ℕ)) (stale : List String) (notFull : Bool) : RateLimiter Num :=
  let bucket := limiter.bucket entry.1 entry.2
  if notFull then
    if 300 ≤ bucket.idleSince now then
      limiter.goOn thread (.probing clientIp now rest (stale ++ [entry.1]) false)
    else limiter.goOn thread (.probing clientIp now rest stale false)
  else if bucket.isFullAt now then
    limiter.goOn thread (.probing clientIp now rest (stale ++ [entry.1]) false)
  else limiter.goOn thread (.probing clientIp now (entry :: rest) stale true)

/-- Look at a stale client again, and drop its bucket if it is still stale. -/
def sweep (thread : ℕ) (clientIp : String) (now : Num) (client : String) (rest : List String)
    (stage : SweepStage) : RateLimiter Num :=
  let skipped := limiter.goOn thread (.sweeping clientIp now rest .fullness)
  match limiter.buckets.get client with
  | none => skipped
  | some number =>
      let bucket := limiter.bucket client number
      match stage with
      | .fullness =>
          limiter.goOn thread (.sweeping clientIp now (client :: rest)
            (if bucket.isFullAt now then .deletion else .idleness))
      | .idleness =>
          if 300 ≤ bucket.idleSince now then
            limiter.goOn thread (.sweeping clientIp now (client :: rest) .deletion)
          else skipped
      | .deletion => { skipped with buckets := limiter.buckets.pop client }

/-- Find the bucket of a client, or make room for it and make it. -/
def lookup (thread : ℕ) (clientIp : String) : RateLimiter Num :=
  match limiter.buckets.get clientIp with
  | some number =>
      { limiter.goOn thread (.consuming clientIp number) with
        buckets := limiter.buckets.moveToEnd clientIp }
  | none =>
      let number := limiter.made clientIp
      { limiter.goOn thread (.consuming clientIp number) with
        bucket := Function.update limiter.bucket clientIp
          (Function.update (limiter.bucket clientIp) number
            (.make config.rate config.burst limiter.clock))
        made := Function.update limiter.made clientIp (number + 1)
        buckets := (limiter.buckets.shrink (config.maxTrackedIps - 1)).set clientIp number }

/-- Take a token from the bucket of a client, and leave. -/
def consume (thread : ℕ) (clientIp : String) (number : ℕ) : RateLimiter Num :=
  let granted := (limiter.bucket clientIp number).consume limiter.clock
  { limiter.goOn thread .outside with
    bucket := Function.update limiter.bucket clientIp
      (Function.update (limiter.bucket clientIp) number granted.2)
    allowed := if granted.1 then limiter.allowed ++ [(clientIp, limiter.clock)]
      else limiter.allowed }

/-- What a thread does next. -/
def act (thread : ℕ) : Option (RateLimiter Num) :=
  match limiter.phase thread with
  | .outside => none
  | .entered clientIp now =>
      if limiter.lock = none then
        some (limiter.goOn thread (if limiter.needsCleanup config now then
          .probing clientIp now limiter.buckets.entries [] false else .cleaned clientIp))
      else none
  | .probing clientIp now [] stale _ =>
      if limiter.lock = none then
        some { limiter.goOn thread (.sweeping clientIp now stale .fullness) with
          lock := some thread }
      else none
  | .probing clientIp now (entry :: rest) stale notFull =>
      some (limiter.probe thread clientIp now entry rest stale notFull)
  | .sweeping clientIp now [] _ =>
      some { limiter.goOn thread (.cleaned clientIp) with lastCleanup := now, lock := none }
  | .sweeping clientIp now (client :: rest) stage =>
      some (limiter.sweep thread clientIp now client rest stage)
  | .cleaned clientIp =>
      if limiter.lock = none then some (limiter.lookup config thread clientIp) else none
  | .consuming clientIp number => some (limiter.consume thread clientIp number)

/-- One step. -/
def step : LimiterAction Num → Option (RateLimiter Num)
  | .tick elapsed =>
      if 0 ≤ elapsed then some { limiter with clock := limiter.clock + elapsed } else none
  | .call thread clientIp =>
      if limiter.phase thread = .outside then
        some (limiter.goOn thread (.entered clientIp limiter.clock))
      else none
  | .act thread => limiter.act config thread

end RateLimiter

/-- A limiter and the threads that use it. -/
def limiterMachine {Num : Type} [CommRing Num] [LinearOrder Num] (config : RateConfig Num) :
    Machine (RateLimiter Num) (LimiterAction Num) where
  init limiter := ∃ start, limiter = .initial config start
  step limiter action := limiter.step config action

/-! ## What is promised -/

namespace RateLimiter

variable {Num : Type} [CommRing Num] [LinearOrder Num] (config : RateConfig Num)
  (clientIp : String) (limiter : RateLimiter Num)

/-- When a client was allowed a request. -/
def allowedFor : List Num :=
  (limiter.allowed.filter fun entry => entry.1 = clientIp).map Prod.snd

/-- In no interval is a client allowed more than a burst and what is new in the interval. -/
def Bounded : Prop :=
  ∀ first last, first ≤ last → (grantsIn first last (limiter.allowedFor clientIp) : Num) ≤
    config.burst + config.rate * (last - first)

/-- The bucket of the client is not dropped to make room, and is only dropped for being stale
when it is full and no thread holds one. -/
def Tame : LimiterAction Num → Prop
  | .act thread =>
      (∀ caller, limiter.phase thread = .cleaned caller → limiter.buckets.get caller = none →
        (limiter.buckets.shrink (config.maxTrackedIps - 1)).get clientIp =
          limiter.buckets.get clientIp) ∧
      ∀ caller now rest, limiter.phase thread = .sweeping caller now (clientIp :: rest) .deletion →
        ∀ number, limiter.buckets.get clientIp = some number →
          (limiter.bucket clientIp number).isFullAt limiter.clock ∧
            ∀ other held, limiter.phase other ≠ .consuming clientIp held
  | _ => True

end RateLimiter

/-! ## One step -/

namespace TokenBucket

variable {Num : Type} [CommRing Num] [LinearOrder Num] [IsStrictOrderedRing Num]
  {bucket : TokenBucket Num} {now later : Num}

omit [IsStrictOrderedRing Num] in
/-- A bucket is never fuller than its capacity. -/
theorem tokensAt_le : bucket.tokensAt now ≤ bucket.capacity := min_le_left ..

/-- What a bucket gains with time. -/
theorem tokensAt_add_le (hrate : 0 ≤ bucket.rate) (hlater : now ≤ later) :
    bucket.tokensAt later ≤ bucket.tokensAt now + bucket.rate * (later - now) := by
  have hnew : 0 ≤ bucket.rate * (later - now) := mul_nonneg hrate (sub_nonneg.mpr hlater)
  rcases min_choice bucket.capacity (bucket.tokens + (now - bucket.lastRefill) * bucket.rate) with
    heq | heq
  · have hle : bucket.tokensAt later ≤ bucket.capacity := tokensAt_le
    rw [tokensAt.eq_def bucket now, heq]
    linarith
  · have hle : bucket.tokensAt later ≤
        bucket.tokens + (later - bucket.lastRefill) * bucket.rate := min_le_right ..
    rw [tokensAt.eq_def bucket now, heq]
    linarith

omit [IsStrictOrderedRing Num] in
/-- Right after a refill there are the tokens that are in the bucket. -/
theorem tokensAt_refilled {tokens : Num} (htokens : tokens ≤ bucket.capacity) :
    TokenBucket.tokensAt { bucket with tokens, lastRefill := now } now = tokens := by
  rw [tokensAt]
  show min bucket.capacity (tokens + (now - now) * bucket.rate) = tokens
  rw [sub_self, zero_mul, add_zero, min_eq_right htokens]

omit [IsStrictOrderedRing Num] in
theorem tokensAt_make {rate : Num} {burst : ℕ} : (make rate burst now).tokensAt now = burst := by
  rw [tokensAt, make, sub_self, zero_mul, add_zero, min_self]

end TokenBucket

namespace RateLimiter

variable {Num : Type} [CommRing Num] [LinearOrder Num]
  {config : RateConfig Num} {clientIp : String} {limiter next : RateLimiter Num}

variable (config clientIp limiter) in
/-- The tokens of a client. Without a bucket it would get a full one. -/
def level : Num :=
  match limiter.buckets.get clientIp with
  | none => config.burst
  | some number => (limiter.bucket clientIp number).tokensAt limiter.clock

variable (config clientIp limiter) in
/-- Whoever holds a bucket of the client holds the one that is kept, and the client has been
allowed no more than the tokens of that one leave room for. -/
structure Metered : Prop where
  held : ∀ thread number, limiter.phase thread = .consuming clientIp number →
    limiter.buckets.get clientIp = some number
  kept : ∀ number, limiter.buckets.get clientIp = some number →
    (limiter.bucket clientIp number).capacity = config.burst ∧
      (limiter.bucket clientIp number).rate = config.rate
  allowance : Allowance config.rate config.burst (limiter.allowedFor clientIp) limiter.clock
    (limiter.level config clientIp)

/-- The tokens of a client are those of its bucket. -/
theorem level_eq {number : ℕ} {bucket : TokenBucket Num}
    (hnumber : limiter.buckets.get clientIp = some number)
    (hbucket : limiter.bucket clientIp number = bucket) :
    limiter.level config clientIp = bucket.tokensAt limiter.clock := by
  rw [level, hnumber, ← hbucket]

theorem level_eq_burst (hnumber : limiter.buckets.get clientIp = none) :
    limiter.level config clientIp = config.burst := by
  rw [level, hnumber]

omit [CommRing Num] [LinearOrder Num] in
/-- Where a bucket is put, there it is. -/
theorem update_bucket (number : ℕ) (bucket : TokenBucket Num) :
    Function.update limiter.bucket clientIp
      (Function.update (limiter.bucket clientIp) number bucket) clientIp number = bucket := by
  rw [Function.update_self, Function.update_self]

omit [CommRing Num] [LinearOrder Num] in
/-- The threads that have not gone on are where they were. -/
theorem goOn_consuming {thread other number : ℕ} {phase : CheckPhase Num}
    (hphase : phase ≠ .consuming clientIp number)
    (hheld : (limiter.goOn thread phase).phase other = .consuming clientIp number) :
    limiter.phase other = .consuming clientIp number := by
  have hheld : Function.update limiter.phase thread phase other = .consuming clientIp number :=
    hheld
  by_cases hother : other = thread
  case pos =>
    subst hother
    rw [Function.update_self] at hheld
    exact absurd hheld hphase
  case neg =>
    rw [Function.update_of_ne hother] at hheld
    exact hheld

/-- What changes nothing that the client has keeps it metered. -/
theorem Metered.same (hmetered : limiter.Metered config clientIp)
    (hclock : next.clock = limiter.clock)
    (hbucket : next.bucket clientIp = limiter.bucket clientIp)
    (hbuckets : next.buckets.get clientIp = limiter.buckets.get clientIp)
    (hallowed : next.allowedFor clientIp = limiter.allowedFor clientIp)
    (hheld : ∀ thread number, next.phase thread = .consuming clientIp number →
      limiter.phase thread = .consuming clientIp number ∨
        limiter.buckets.get clientIp = some number) :
    next.Metered config clientIp := by
  have hlevel : next.level config clientIp = limiter.level config clientIp := by
    rw [level, level, hbuckets, hbucket, hclock]
  constructor
  case held =>
    intro thread number hphase
    rw [hbuckets]
    rcases hheld thread number hphase with hphase | hnumber
    · exact hmetered.held thread number hphase
    · exact hnumber
  case kept =>
    rw [hbuckets, hbucket]
    exact hmetered.kept
  case allowance =>
    rw [hallowed, hclock, hlevel]
    exact hmetered.allowance

/-- A thread that goes on without a bucket keeps the client metered. -/
theorem Metered.goOn (hmetered : limiter.Metered config clientIp) {thread : ℕ}
    {phase : CheckPhase Num} (hphase : ∀ caller number, phase ≠ .consuming caller number) :
    (limiter.goOn thread phase).Metered config clientIp := by
  apply hmetered.same
  · rfl
  · rfl
  · rfl
  · rfl
  · exact fun other number hheld => .inl (goOn_consuming (hphase clientIp number) hheld)

/-- With time the tokens of the client grow. -/
theorem Metered.tick [IsStrictOrderedRing Num] (hmetered : limiter.Metered config clientIp)
    {elapsed : Num} (helapsed : 0 ≤ elapsed) :
    ({ limiter with clock := limiter.clock + elapsed } : RateLimiter Num).Metered config
      clientIp := by
  have hlater : limiter.clock ≤ limiter.clock + elapsed := le_add_of_nonneg_right helapsed
  constructor
  case held => exact hmetered.held
  case kept => exact hmetered.kept
  case allowance =>
    have hnew : 0 ≤ config.rate * (limiter.clock + elapsed - limiter.clock) :=
      mul_nonneg config.rate_pos.le (sub_nonneg.mpr hlater)
    refine hmetered.allowance.advance config.rate_pos.le hlater ?_ ?_
    · rw [level]
      split
      case h_1 => exact le_refl _
      case h_2 number hnumber =>
        exact (hmetered.kept number hnumber).1 ▸ TokenBucket.tokensAt_le
    · rw [level, level]
      show (match limiter.buckets.get clientIp with
        | none => (config.burst : Num)
        | some number =>
            (limiter.bucket clientIp number).tokensAt (limiter.clock + elapsed)) ≤ _
      cases hnumber : limiter.buckets.get clientIp with
      | none => exact le_add_of_nonneg_right hnew
      | some number =>
          have hrate := (hmetered.kept number hnumber).2
          have hle := TokenBucket.tokensAt_add_le (hrate ▸ config.rate_pos.le) hlater
          rw [hrate] at hle
          exact hle

/-- To look at the buckets keeps the client metered. -/
theorem Metered.probe (hmetered : limiter.Metered config clientIp) {thread : ℕ} {caller : String}
    {now : Num} {entry : String × ℕ} {rest : List (String × ℕ)} {stale : List String}
    {notFull : Bool} :
    (limiter.probe thread caller now entry rest stale notFull).Metered config clientIp := by
  have hprobing : ∀ snapshot stale notFull,
      (limiter.goOn thread (.probing caller now snapshot stale notFull)).Metered config clientIp :=
    fun _ _ _ => hmetered.goOn fun _ _ hnot => (by cases hnot)
  rw [RateLimiter.probe]
  split
  case isTrue =>
    split
    · exact hprobing ..
    · exact hprobing ..
  case isFalse =>
    split
    · exact hprobing ..
    · exact hprobing ..

/-- A full bucket that nobody holds may be dropped. -/
theorem Metered.drop (hmetered : limiter.Metered config clientIp) {number : ℕ}
    (hnumber : limiter.buckets.get clientIp = some number)
    (hfull : (limiter.bucket clientIp number).isFullAt limiter.clock)
    (hunheld : ∀ other held, limiter.phase other ≠ .consuming clientIp held)
    {thread : ℕ} {phase : CheckPhase Num} (hphase : ∀ caller number, phase ≠ .consuming caller number) :
    ({ limiter.goOn thread phase with buckets := limiter.buckets.pop clientIp } :
      RateLimiter Num).Metered config clientIp := by
  have hlevel : limiter.level config clientIp = config.burst := by
    rw [level_eq hnumber rfl]
    exact le_antisymm ((hmetered.kept number hnumber).1 ▸ TokenBucket.tokensAt_le)
      ((hmetered.kept number hnumber).1 ▸ of_decide_eq_true hfull)
  constructor
  case held =>
    intro other held hheld
    exact absurd (goOn_consuming (hphase clientIp held) hheld) (hunheld other held)
  case kept =>
    intro held hheld
    rw [Dict.get_pop_self] at hheld
    cases hheld
  case allowance =>
    have hallowance := hmetered.allowance
    rw [hlevel] at hallowance
    rw [level_eq_burst Dict.get_pop_self]
    exact hallowance

/-- To look at a stale client again keeps the client metered, if its bucket is dropped only
when it may be. -/
theorem Metered.sweep (hmetered : limiter.Metered config clientIp) {thread : ℕ}
    {caller client : String} {now : Num} {rest : List String} {stage : SweepStage}
    (hdrop : client = clientIp → stage = .deletion →
      ∀ number, limiter.buckets.get clientIp = some number →
        (limiter.bucket clientIp number).isFullAt limiter.clock ∧
          ∀ other held, limiter.phase other ≠ .consuming clientIp held) :
    (limiter.sweep thread caller now client rest stage).Metered config clientIp := by
  have hsweeping : ∀ stale stage,
      (limiter.goOn thread (.sweeping caller now stale stage)).Metered config clientIp :=
    fun _ _ => hmetered.goOn fun _ _ hnot => (by cases hnot)
  rw [RateLimiter.sweep]
  dsimp only
  cases hnumber : limiter.buckets.get client with
  | none => exact hsweeping ..
  | some number =>
      cases stage with
      | fullness => exact hsweeping ..
      | idleness =>
          dsimp only
          split
          · exact hsweeping ..
          · exact hsweeping ..
      | deletion =>
          by_cases hclient : client = clientIp
          case pos =>
            subst hclient
            obtain ⟨hfull, hunheld⟩ := hdrop rfl rfl number hnumber
            exact hmetered.drop hnumber hfull hunheld fun _ _ hnot => (by cases hnot)
          case neg =>
            apply (hsweeping rest .fullness).same
            · rfl
            · rfl
            · exact Dict.get_pop_of_ne (Ne.symm hclient)
            · rfl
            · exact fun _ _ hheld => .inl hheld

/-- To find or make a bucket keeps the client metered, if its own is not dropped to make
room. -/
theorem Metered.lookup (hmetered : limiter.Metered config clientIp) {thread : ℕ}
    {caller : String} (hroom : limiter.buckets.get caller = none →
      (limiter.buckets.shrink (config.maxTrackedIps - 1)).get clientIp =
        limiter.buckets.get clientIp) :
    (limiter.lookup config thread caller).Metered config clientIp := by
  have hgoOn : ∀ {number other held : ℕ},
      (limiter.goOn thread (.consuming caller number)).phase other = .consuming clientIp held →
        limiter.phase other = .consuming clientIp held ∨ (caller = clientIp ∧ number = held) := by
    intro number other held hheld
    by_cases heq : (CheckPhase.consuming caller number : CheckPhase Num) = .consuming clientIp held
    case pos =>
      cases heq
      exact .inr ⟨rfl, rfl⟩
    case neg => exact .inl (goOn_consuming heq hheld)
  rw [RateLimiter.lookup]
  cases hnumber : limiter.buckets.get caller with
  | some number =>
      apply hmetered.same
      · rfl
      · rfl
      · exact Dict.get_moveToEnd
      · rfl
      · intro other held hheld
        rcases hgoOn hheld with hheld | ⟨rfl, rfl⟩
        · exact .inl hheld
        · exact .inr hnumber
  | none =>
      dsimp only
      by_cases hcaller : caller = clientIp
      case neg =>
        apply hmetered.same
        · rfl
        · exact Function.update_of_ne (Ne.symm hcaller) ..
        · exact (Dict.get_set_of_ne (Ne.symm hcaller)).trans (hroom hnumber)
        · rfl
        · intro other held hheld
          rcases hgoOn hheld with hheld | ⟨hnot, -⟩
          · exact .inl hheld
          · exact absurd hnot hcaller
      case pos =>
        -- the bucket of the client is new and full, as it would have been before
        subst hcaller
        constructor
        case held =>
          intro other held hheld
          rcases hgoOn hheld with hheld | ⟨-, rfl⟩
          · have hnot := hmetered.held other held hheld
            rw [hnumber] at hnot
            cases hnot
          · exact Dict.get_set_self
        case kept =>
          intro held hheld
          rw [Dict.get_set_self] at hheld
          obtain rfl := Option.some.inj hheld
          have hmade : Function.update limiter.bucket caller
              (Function.update (limiter.bucket caller) (limiter.made caller)
                (.make config.rate config.burst limiter.clock)) caller (limiter.made caller) =
              .make config.rate config.burst limiter.clock := update_bucket ..
          exact ⟨congrArg TokenBucket.capacity hmade, congrArg TokenBucket.rate hmade⟩
        case allowance =>
          have hallowance := hmetered.allowance
          rw [level_eq_burst hnumber] at hallowance
          rw [level_eq Dict.get_set_self (update_bucket ..)]
          show Allowance _ _ _ _
            ((TokenBucket.make config.rate config.burst limiter.clock).tokensAt limiter.clock)
          rw [TokenBucket.tokensAt_make]
          exact hallowance

/-- To take a token from the bucket of the client keeps it metered. -/
theorem Metered.consume [IsStrictOrderedRing Num] (hmetered : limiter.Metered config clientIp)
    {thread number : ℕ} {caller : String} (hphase : limiter.phase thread = .consuming caller number) :
    (limiter.consume thread caller number).Metered config clientIp := by
  rw [RateLimiter.consume]
  by_cases hcaller : caller = clientIp
  case neg =>
    apply hmetered.same
    · rfl
    · exact Function.update_of_ne (Ne.symm hcaller) ..
    · rfl
    · rw [allowedFor, allowedFor]
      dsimp only
      split
      · rw [List.filter_append, List.filter_cons_of_neg (by simpa using hcaller), List.filter_nil,
          List.append_nil]
      · rfl
    · exact fun other held hheld => .inl (goOn_consuming (fun hnot => (by cases hnot)) hheld)
  case pos =>
    subst hcaller
    have hnumber := hmetered.held thread number hphase
    obtain ⟨hcapacity, hrate⟩ := hmetered.kept number hnumber
    have hallowance := hmetered.allowance
    rw [level_eq hnumber rfl] at hallowance
    constructor
    case held =>
      intro other held hheld
      exact hmetered.held other held (goOn_consuming (fun hnot => (by cases hnot)) hheld)
    case kept =>
      intro held hheld
      obtain rfl := Option.some.inj (hnumber.symm.trans hheld)
      dsimp only
      rw [update_bucket, TokenBucket.consume]
      split
      · exact ⟨hcapacity, hrate⟩
      · exact ⟨hcapacity, hrate⟩
    case allowance =>
      have hlevel : ∀ after allowed, RateLimiter.level config caller
          { limiter.goOn thread .outside with
            bucket := Function.update limiter.bucket caller
              (Function.update (limiter.bucket caller) number after)
            allowed := allowed } = after.tokensAt limiter.clock :=
        fun after allowed => level_eq hnumber (update_bucket ..)
      rw [hlevel, TokenBucket.consume, allowedFor]
      dsimp only
      split
      case isTrue htoken =>
        have hle : (limiter.bucket caller number).tokensAt limiter.clock - 1 ≤
            (limiter.bucket caller number).capacity :=
          (sub_le_self _ zero_le_one).trans TokenBucket.tokensAt_le
        rw [if_pos rfl, List.filter_append, List.filter_cons_of_pos (by simp), List.filter_nil,
          List.map_append, TokenBucket.tokensAt_refilled hle]
        exact hallowance.grant config.rate_pos.le htoken
      case isFalse =>
        rw [TokenBucket.tokensAt_refilled TokenBucket.tokensAt_le]
        exact hallowance

/-- A tame step keeps the client metered. -/
theorem metered_step [IsStrictOrderedRing Num] {action : LimiterAction Num}
    (hmetered : limiter.Metered config clientIp) (htame : limiter.Tame config clientIp action)
    (hstep : limiter.step config action = some next) : next.Metered config clientIp := by
  cases action with
  | tick elapsed =>
      obtain ⟨helapsed, rfl⟩ := Machine.of_guard hstep
      exact hmetered.tick helapsed
  | call thread caller =>
      obtain ⟨-, rfl⟩ := Machine.of_guard hstep
      exact hmetered.goOn fun _ _ hnot => (by cases hnot)
  | act thread =>
      obtain ⟨hroom, hdrop⟩ := htame
      rw [step, act] at hstep
      cases hphase : limiter.phase thread with
      | outside =>
          rw [hphase] at hstep
          cases hstep
      | entered caller now =>
          rw [hphase] at hstep
          obtain ⟨-, rfl⟩ := Machine.of_guard hstep
          apply hmetered.goOn
          intro caller number
          split
          · exact fun hnot => (by cases hnot)
          · exact fun hnot => (by cases hnot)
      | probing caller now snapshot stale notFull =>
          rw [hphase] at hstep
          cases snapshot with
          | nil =>
              obtain ⟨-, rfl⟩ := Machine.of_guard hstep
              apply hmetered.same
              · rfl
              · rfl
              · rfl
              · rfl
              · exact fun other held hheld =>
                  .inl (goOn_consuming (fun hnot => (by cases hnot)) hheld)
          | cons entry rest =>
              obtain rfl := Option.some.inj hstep
              exact hmetered.probe
      | sweeping caller now stale stage =>
          rw [hphase] at hstep
          cases stale with
          | nil =>
              obtain rfl := Option.some.inj hstep
              apply hmetered.same
              · rfl
              · rfl
              · rfl
              · rfl
              · exact fun other held hheld =>
                  .inl (goOn_consuming (fun hnot => (by cases hnot)) hheld)
          | cons client rest =>
              obtain rfl := Option.some.inj hstep
              apply hmetered.sweep
              rintro rfl rfl
              exact hdrop caller now rest hphase
      | cleaned caller =>
          rw [hphase] at hstep
          obtain ⟨-, rfl⟩ := Machine.of_guard hstep
          exact hmetered.lookup (hroom caller hphase)
      | consuming caller number =>
          rw [hphase] at hstep
          obtain rfl := Option.some.inj hstep
          exact hmetered.consume hphase

end RateLimiter

/-- In every tame run a client is allowed no more in any interval than a burst and what is new
in it. -/
theorem rate_bounded {Num : Type} [CommRing Num] [LinearOrder Num] [IsStrictOrderedRing Num]
    (config : RateConfig Num) (clientIp : String) {limiter : RateLimiter Num}
    (hreach : (limiterMachine config).Reach
      (fun limiter action => limiter.Tame config clientIp action) limiter) :
    limiter.Bounded config clientIp := by
  have hmetered : limiter.Metered config clientIp := by
    apply hreach.invariant
    · rintro _ ⟨start, rfl⟩
      constructor
      case held => exact fun _ _ hnot => (by cases hnot)
      case kept => exact fun _ hnot => (by cases hnot)
      case allowance => exact .start config.rate_pos.le (Nat.cast_nonneg _) (le_refl _)
    · exact fun limiter action next hmetered htame hstep =>
        RateLimiter.metered_step hmetered htame hstep
  exact hmetered.allowance.bounded

/-! ## A single token -/

/-- One request in a second, and one at once. Time is counted in seconds. -/
def singleConfig : RateConfig ℤ where
  rate := 1
  burst := 1
  maxTrackedIps := 100
  rate_pos := by decide
  maxTrackedIps_pos := by decide

/-- A client is checked, and five minutes later by two threads at once. The first of them drops the
bucket, which is full again, and makes the one from which both take. -/
def checkedAround : List (LimiterAction ℤ) :=
  [.call 0 "10.0.0.1", .act 0, .act 0, .act 0, .tick 300,
    .call 1 "10.0.0.1", .act 1, .call 0 "10.0.0.1", .act 1, .act 1, .act 1, .act 1, .act 1,
    .act 0, .act 1, .act 0, .act 1, .act 0]

/-- A client is checked by two threads, and the second cleans up while the first holds the
bucket. -/
def checkedTwice : List (LimiterAction ℤ) :=
  [.tick 299, .call 0 "10.0.0.1", .act 0, .act 0,
    .tick 1, .call 1 "10.0.0.1", .act 1, .act 1, .act 1, .act 1, .act 1, .act 1, .act 1, .act 1,
    .act 0]

theorem initial_init : (limiterMachine singleConfig).init (.initial singleConfig 0) := ⟨0, rfl⟩

section Tame

variable {limiter : RateLimiter ℤ} {thread : ℕ}

/-- A thread that neither looks a bucket up nor drops one is tame. -/
theorem tame_of_phase (phase : CheckPhase ℤ) (hphase : limiter.phase thread = phase)
    (hcleaned : ∀ caller, phase ≠ .cleaned caller)
    (hsweeping : ∀ caller now rest, phase ≠ .sweeping caller now rest .deletion) :
    limiter.Tame singleConfig "10.0.0.1" (.act thread) :=
  ⟨fun caller heq => absurd (hphase.symm.trans heq) (hcleaned caller),
    fun caller now _ heq => absurd (hphase.symm.trans heq) (hsweeping caller now _)⟩

/-- So is one that finds the bucket, or room for it. -/
theorem tame_of_lookup (hphase : limiter.phase thread = .cleaned "10.0.0.1")
    (hroom : limiter.buckets.get "10.0.0.1" = none → limiter.buckets.size < 100) :
    limiter.Tame singleConfig "10.0.0.1" (.act thread) := by
  constructor
  · intro caller heq hnone
    obtain rfl := CheckPhase.cleaned.inj (hphase.symm.trans heq)
    have hsize : limiter.buckets.size ≤ singleConfig.maxTrackedIps - 1 :=
      Nat.le_of_lt_succ (hroom hnone)
    rw [Dict.shrink_of_size_le hsize]
  · intro caller now rest heq
    cases hphase.symm.trans heq

end Tame

theorem tame_checkedAround : (limiterMachine singleConfig).Along
    (fun limiter action => limiter.Tame singleConfig "10.0.0.1" action)
    (.initial singleConfig 0) checkedAround := by
  refine .cons trivial rfl
    (.cons (tame_of_phase (.entered "10.0.0.1" 0) rfl nofun nofun) rfl
    (.cons (tame_of_lookup rfl (by decide)) rfl
    (.cons (tame_of_phase (.consuming "10.0.0.1" 0) rfl nofun nofun) rfl
    (.cons trivial rfl (.cons trivial rfl
    (.cons (tame_of_phase (.entered "10.0.0.1" 300) rfl nofun nofun) rfl (.cons trivial rfl
    (.cons (tame_of_phase (.probing "10.0.0.1" 300 [("10.0.0.1", 0)] [] false) rfl nofun nofun) rfl
    (.cons (tame_of_phase (.probing "10.0.0.1" 300 [] ["10.0.0.1"] false) rfl nofun nofun) rfl
    (.cons (tame_of_phase (.sweeping "10.0.0.1" 300 ["10.0.0.1"] .fullness) rfl nofun (by simp)) rfl
    (.cons ⟨?_, ?_⟩ rfl
    (.cons (tame_of_phase (.sweeping "10.0.0.1" 300 [] .fullness) rfl nofun (by simp)) rfl
    (.cons (tame_of_phase (.entered "10.0.0.1" 300) rfl nofun nofun) rfl
    (.cons (tame_of_lookup rfl (by decide)) rfl
    (.cons (tame_of_lookup rfl (by decide)) rfl
    (.cons (tame_of_phase (.consuming "10.0.0.1" 1) rfl nofun nofun) rfl
    (.cons (tame_of_phase (.consuming "10.0.0.1" 1) rfl nofun nofun) rfl trivial)))))))))))))))))
  · rintro caller hnot
    cases hnot
  · -- the bucket is dropped, and the other thread has only begun its check
    rintro caller now rest - number hnumber
    cases hnumber
    refine ⟨by decide, ?_⟩
    rintro (_ | _ | other) held hnot
    · cases hnot
    · cases hnot
    · cases hnot

theorem rate_bounded_around :
    ∃ limiter, (limiterMachine singleConfig).run (.initial singleConfig 0) checkedAround =
        some limiter ∧ limiter.made "10.0.0.1" = 2 ∧
      limiter.allowedFor "10.0.0.1" = [0, 300] ∧ limiter.Bounded singleConfig "10.0.0.1" :=
  ⟨_, rfl, by decide, by decide, rate_bounded singleConfig "10.0.0.1"
    (Machine.Reach.run (.init initial_init) tame_checkedAround rfl)⟩

theorem allowedFor_checkedTwice :
    ((limiterMachine singleConfig).run (.initial singleConfig 0) checkedTwice).map
      (·.allowedFor "10.0.0.1") = some [300, 300] := by
  decide

/-- Two requests are allowed at once, where there was one token. -/
theorem rate_bounded_twice :
    ¬ ∀ limiter, (limiterMachine singleConfig).Reachable limiter →
      limiter.Bounded singleConfig "10.0.0.1" := by
  intro hclaim
  obtain ⟨limiter, hrun, hallowed⟩ := Option.map_eq_some_iff.mp allowedFor_checkedTwice
  have hbounded := hclaim limiter (Machine.reachable_run initial_init hrun) 300 300 (le_refl _)
  rw [hallowed] at hbounded
  exact absurd hbounded (by decide)

end Pounce
