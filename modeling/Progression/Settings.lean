-- The settings of the service, read from the environment. Five of them
-- must be there; the others are numbers, and a number that cannot be read
-- is its default.
import Progression.Backoff
import Progression.Decimal

namespace Progression

/-! ## Texts without blanks -/

/-- The characters with the Unicode property White_Space. -/
def isWhiteSpace (c : Char) : Bool :=
  let n := c.toNat
  (9 ≤ n && n ≤ 13) || n == 0x20 || n == 0x85 || n == 0xA0 || n == 0x1680
    || (0x2000 ≤ n && n ≤ 0x200A) || n == 0x2028 || n == 0x2029 || n == 0x202F || n == 0x205F
    || n == 0x3000

/-- A text without the last characters that satisfy `p`. -/
def dropEndWhile (p : Char → Bool) (cs : List Char) : List Char :=
  (cs.reverse.dropWhile p).reverse

/-- A text without the white space at its ends. -/
def trimmed (cs : List Char) : List Char := dropEndWhile isWhiteSpace (cs.dropWhile isWhiteSpace)

/-! ## Settings -/

/-- What the environment holds under a name. -/
inductive Variable where
  | unset
  /-- Bytes that are no text. -/
  | notText
  | text (value : String)
deriving DecidableEq, Repr

abbrev Environment := String → Variable

/-- Why a required setting cannot be read. -/
inductive SettingsFault where
  | unset
  | notText
deriving DecidableEq, Repr

structure Settings where
  databaseUrl : String
  databaseMaxConnections : UInt32
  redisUrl : String
  serverHost : String
  serverPort : UInt16
  userServiceUrl : String
  referralServiceUrl : String
  cacheLifetimeSecs : UInt64
  pricesLifetimeSecs : UInt64
  clientTimeoutSecs : UInt64
  clientRetries : UInt32
  requestTimeoutSecs : UInt64
deriving DecidableEq, Repr

namespace Settings

/-! ## Reading one setting -/

/-- A setting without which the service cannot run. -/
def required (env : Environment) (name : String) : Except SettingsFault String :=
  match env name with
  | .unset => .error .unset
  | .notText => .error .notText
  | .text value => .ok value

/-- A number below `bound`, with blanks around it and a plus sign before it allowed. -/
def number? (bound : Nat) (cs : List Char) : Option Nat :=
  Decimal.unsigned? bound (trimmed cs)

/-- Seconds are written as a number, or as a number and `s`. -/
def seconds? (bound : Nat) (cs : List Char) : Option Nat :=
  Decimal.unsigned? bound (dropEndWhile (· == 's') (trimmed cs))

/-- A setting that is a number by that reading, or else its default. -/
def optional (env : Environment) (name : String) (read? : List Char → Option Nat) (default : Nat) :
    Nat :=
  match env name with
  | .text value => (read? value.toList).getD default
  | _ => default

def word16 (env : Environment) (name : String) (default : Nat) : UInt16 :=
  UInt16.ofNat (optional env name (number? UInt16.size) default)

def word32 (env : Environment) (name : String) (default : Nat) : UInt32 :=
  UInt32.ofNat (optional env name (number? UInt32.size) default)

def secondsOf (env : Environment) (name : String) (default : Nat) : UInt64 :=
  UInt64.ofNat (optional env name (seconds? UInt64.size) default)

/-! ## Reading all settings -/

/-- The first required setting that cannot be read is the fault of the whole. -/
def ofEnvironment (env : Environment) : Except SettingsFault Settings := do
  let databaseUrl ← required env "DATABASE_URL"
  let redisUrl ← required env "REDIS_URL"
  let serverHost ← required env "SERVER_HOST"
  let userServiceUrl ← required env "USER_SERVICE_URL"
  let referralServiceUrl ← required env "REFERRAL_SERVICE_URL"
  return {
    databaseUrl, redisUrl, serverHost, userServiceUrl, referralServiceUrl
    databaseMaxConnections := word32 env "DATABASE_MAX_CONNECTIONS" 10
    serverPort := word16 env "SERVER_PORT" 3000
    cacheLifetimeSecs := secondsOf env "CACHE_LIFETIME" 3600
    pricesLifetimeSecs := secondsOf env "LEVEL_PRICES_LIFETIME" 86400
    clientTimeoutSecs := secondsOf env "CLIENT_TIMEOUT" 5
    clientRetries := word32 env "CLIENT_RETRIES" 3
    requestTimeoutSecs := secondsOf env "REQUEST_TIMEOUT" 15 }

/-! ## Times -/

def cacheLifetime (s : Settings) : Span := .ofSeconds s.cacheLifetimeSecs

def pricesLifetime (s : Settings) : Span := .ofSeconds s.pricesLifetimeSecs

def clientTimeout (s : Settings) : Span := .ofSeconds s.clientTimeoutSecs

def requestTimeout (s : Settings) : Span := .ofSeconds s.requestTimeoutSecs

/-- The deadline of a request under these settings. -/
def deadline (s : Settings) : Span :=
  requestDeadline s.requestTimeout s.clientTimeout s.clientRetries

end Settings

end Progression
