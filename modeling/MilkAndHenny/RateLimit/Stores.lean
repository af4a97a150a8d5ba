import MilkAndHenny.Library.Window

/-! The shared rate limiter over its three stores. Times are milliseconds. -/

namespace MilkAndHenny.RateLimit

open Library

structure RateLimitDecision where
  allowed : Bool
  remaining : Int
  retryAfterSeconds : Int
  backendAvailable : Bool

structure RateLimitOptions where
  name : String
  identity : String
  limit : Int
  windowSeconds : Int
  globalLimit : Option Int
  deriving DecidableEq

inductive Call
  | reserve (options : RateLimitOptions) (now : Int)
  | clear (name identity : String) (now : Int)

def Call.now : Call → Int
  | .reserve _ now => now
  | .clear _ _ now => now

/-- One implementation, with what it answers. -/
structure Store (σ δ : Type) where
  reserve : RateLimitOptions → Int → σ → δ × σ
  clear : String → String → σ → σ

namespace Store

variable {σ δ : Type} (store : Store σ δ)

def next (call : Call) (state : σ) : σ :=
  match call with
  | .reserve options now => (store.reserve options now state).2
  | .clear name identity _ => store.clear name identity state

def answers (state : σ) : List Call → List (RateLimitOptions × δ)
  | [] => []
  | .reserve options now :: calls => (options, (store.reserve options now state).1) :: answers (store.reserve options now state).2 calls
  | .clear name identity _ :: calls => answers (store.clear name identity state) calls

end Store

def utf16Length (text : String) : Nat := (text.toList.map fun char => if char.val < 0x10000 then 1 else 2).sum

def maxInteger : Int := 2147483647

variable (options : RateLimitOptions) (now : Int)

def validRateLimitOptions : Bool :=
  0 < utf16Length options.name && utf16Length options.name ≤ 120 && 0 < utf16Length options.identity &&
    0 < options.limit && options.limit ≤ maxInteger && 0 < options.windowSeconds && options.windowSeconds ≤ 90 * 86400 &&
    options.globalLimit.all fun globalLimit => 0 < globalLimit && globalLimit ≤ maxInteger

def identityKey (name identity : String) : String := "ratelimit:" ++ name ++ ":" ++ identity

def globalKey (name : String) : String := "ratelimit:" ++ name ++ ":global"

def milliseconds (windowSeconds : Int) : Int := windowSeconds * 1000

def ceilSeconds (duration : Int) : Int := -(-duration / 1000)

def failsClosed : RateLimitDecision :=
  { allowed := false, remaining := 0, retryAfterSeconds := options.windowSeconds, backendAvailable := false }

/-! ### Redis -/

/-- What is left to Redis: whether a key still lives in the millisecond in which it runs out, and how it counts the seconds left. -/
structure RedisService where
  lingers : Bool
  ttl : Int → Int
  ordered : ∀ {sooner later}, sooner ≤ later → ttl sooner ≤ ttl later

namespace RedisService

variable (service : RedisService)

def alive (now endsAt : Int) : Bool := now < endsAt || service.lingers && now == endsAt

def ttlSeconds (left : Int) : Int := max 0 (service.ttl left)

/-- The reserve script and what is made of its reply. -/
def reserveRateLimit (windows : Windows String) : RateLimitDecision × Windows String :=
  let (identity, windows) := windows.attempt service.alive (identityKey options.name options.identity) now (milliseconds options.windowSeconds)
  let remaining := max 0 (options.limit - identity.attempts)
  let retryAfterSeconds := service.ttlSeconds (identity.endsAt - now)
  match options.globalLimit with
  | none => ({ allowed := identity.attempts ≤ options.limit, remaining, retryAfterSeconds, backendAvailable := true }, windows)
  | some globalLimit =>
    let (shared, windows) := windows.attempt service.alive (globalKey options.name) now (milliseconds options.windowSeconds)
    ({ allowed := identity.attempts ≤ options.limit && shared.attempts ≤ globalLimit, remaining, retryAfterSeconds, backendAvailable := true }, windows)

def store : Store (Windows String) RateLimitDecision where
  reserve := service.reserveRateLimit
  clear name identity windows := windows.clear (identityKey name identity)

end RedisService

def running (now endsAt : Int) : Bool := now < endsAt

/-! ### Memory -/

namespace Memory

def reserveInMemory (key : String) (limit windowSeconds : Int) (now : Int) (windows : Windows String) : RateLimitDecision × Windows String :=
  let (window, windows) := windows.attempt running key now (milliseconds windowSeconds)
  ({ allowed := window.attempts ≤ limit, remaining := max 0 (limit - window.attempts)
     retryAfterSeconds := max 1 (ceilSeconds (window.endsAt - now)), backendAvailable := false }, windows)

def reserveRateLimit (windows : Windows String) : RateLimitDecision × Windows String :=
  let (decision, windows) := reserveInMemory (identityKey options.name options.identity) options.limit options.windowSeconds now windows
  match options.globalLimit with
  | none => (decision, windows)
  | some globalLimit =>
    if decision.allowed then
      let (shared, windows) := reserveInMemory (globalKey options.name) globalLimit options.windowSeconds now windows
      (if shared.allowed then decision else { decision with allowed := false }, windows)
    else (decision, windows)

def store : Store (Windows String) RateLimitDecision where
  reserve := reserveRateLimit
  clear name identity windows := windows.clear (identityKey name identity)

end Memory

/-! ### Postgres -/

/-- The keyed hash of a text. -/
structure PostgresService where
  hmac : String → String

abbrev PostgresKey : Type := String × String × String

namespace PostgresService

variable (service : PostgresService)

def rateSubjectHash (name scope identity : String) : String := service.hmac (name ++ "\x00" ++ scope ++ "\x00" ++ identity)

def identityRow (name identity : String) : PostgresKey := (name, "identity", service.rateSubjectHash name "identity" identity)

def globalRow (name : String) : PostgresKey := (name, "global", service.rateSubjectHash name "global" "all-identities")

/-- A text column takes no null character. -/
def storable (name : String) : Bool := !name.toList.contains '\x00'

/-- The statement fails on a name that cannot be stored and on a count that does not fit its column. -/
def reservePostgresWindow (key : PostgresKey) (windowSeconds now : Int) (windows : Windows PostgresKey) : Option (Window × Windows PostgresKey) :=
  let (window, windows) := windows.attempt running key now (milliseconds windowSeconds)
  if storable key.1 && (window.attempts : Int) ≤ maxInteger then some (window, windows) else none

def retrySeconds (left : Int) : Int := max 0 (ceilSeconds left)

/-- A transaction: where one of its statements fails, nothing is counted. -/
def reserveInPostgres (windows : Windows PostgresKey) : Option (RateLimitDecision × Windows PostgresKey) := do
  let (individual, windows) ←
    reservePostgresWindow (service.identityRow options.name options.identity) options.windowSeconds now windows
  let remaining := max 0 (options.limit - individual.attempts)
  let identityBlocked : Bool := individual.attempts > options.limit
  match options.globalLimit with
  | none =>
    some ({ allowed := !identityBlocked, remaining, retryAfterSeconds := retrySeconds (individual.endsAt - now), backendAvailable := true }, windows)
  | some globalLimit => do
    let (shared, windows) ← reservePostgresWindow (service.globalRow options.name) options.windowSeconds now windows
    let globalBlocked : Bool := shared.attempts > globalLimit
    let own := retrySeconds (individual.endsAt - now)
    let others := retrySeconds (shared.endsAt - now)
    some ({ allowed := !identityBlocked && !globalBlocked, remaining
            retryAfterSeconds := if identityBlocked && globalBlocked then max own others else if globalBlocked then others else own
            backendAvailable := true }, windows)

def reserveRateLimit (windows : Windows PostgresKey) : RateLimitDecision × Windows PostgresKey :=
  if validRateLimitOptions options then (service.reserveInPostgres options now windows).getD (failsClosed options, windows)
  else (failsClosed options, windows)

def store : Store (Windows PostgresKey) RateLimitDecision where
  reserve := service.reserveRateLimit
  clear name identity windows := if storable name then windows.clear (service.identityRow name identity) else windows

end PostgresService

end MilkAndHenny.RateLimit
