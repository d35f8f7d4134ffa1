-- What goes wrong at a collaborator: the store, the cache or the payment
-- gateway. Every fault knows its wording, and a payment fault knows
-- whether the gateway may have done its work all the same.
import Progression.Basic

namespace Progression

/-! ## The store -/

/-- A fault of the database below the store. -/
inductive DatabaseFault where
  | poolTimedOut
  | poolClosed
  | rowNotFound
  | workerCrashed
  | protocol (text : String)
  | columnNotFound (name : String)
  /-- The connection broke or was never made. -/
  | connection (text : String)
  /-- A cell of this column holds no value of the column's type. -/
  | columnUnreadable (column : Nat)
  /-- The database itself refused the statement. -/
  | server (message : String)
deriving DecidableEq, Repr

def DatabaseFault.message : DatabaseFault → String
  | .poolTimedOut => "pool timed out while waiting for an open connection"
  | .poolClosed => "attempted to acquire a connection on a closed pool"
  | .rowNotFound => "no rows returned by a query that expected to return at least one row"
  | .workerCrashed => "attempted to communicate with a crashed background worker"
  | .protocol text => "encountered unexpected or invalid data: " ++ text
  | .columnNotFound name => "no column found for name: " ++ name
  | .connection text => "error communicating with database: " ++ text
  | .columnUnreadable column => "error occurred while decoding column " ++ toString column
  | .server message => "error returned from database: " ++ message

inductive StoreFault where
  | noCharacter (user : UserId)
  /-- The character has left the level that the caller expected. -/
  | levelMoved (user : UserId) (expected : Level)
  | database (fault : DatabaseFault)
deriving DecidableEq, Repr

def StoreFault.message : StoreFault → String
  | .noCharacter user => "character " ++ toString user ++ " not found"
  | .levelMoved user expected =>
    "character " ++ toString user ++ " is no longer at level " ++ toString expected
  | .database fault => "database error: " ++ fault.message

/-! ## The cache -/

inductive CacheFault where
  | backend (text : String)
  | unwritable (text : String)
deriving DecidableEq, Repr

def CacheFault.message : CacheFault → String
  | .backend text => "redis error: " ++ text
  | .unwritable text => "cache serialization error: " ++ text

/-! ## The payment gateway -/

/-- Where an exchange with the gateway broke off. -/
inductive TransportClass where
  | timeout
  | connect
  | builder
  | decode
  | body
  | redirect
  | request
  | other
deriving DecidableEq, Repr

/-- The gateway may have received a request that broke off there. -/
def TransportClass.mayHaveArrived : TransportClass → Bool
  | .timeout | .connect | .request => true
  | _ => false

inductive PaymentFault where
  | transport (cls : TransportClass) (text : String)
  | timeout (attempts : Nat)
  | rejected (operation : String) (status : Nat) (body : String)
deriving DecidableEq, Repr

def PaymentFault.message : PaymentFault → String
  | .transport _ text => "payment gateway transport error: " ++ text
  | .timeout attempts => "payment gateway timed out after " ++ toString attempts ++ " attempt(s)"
  | .rejected operation status body =>
    "payment gateway rejected " ++ operation ++ " with status " ++ toString status ++ ": " ++ body

/-- After an ambiguous fault nobody knows whether the gateway did its work. -/
def PaymentFault.isAmbiguous : PaymentFault → Bool
  | .transport cls _ => cls.mayHaveArrived
  | .timeout _ => true
  | .rejected _ status _ => decide (500 ≤ status)

end Progression
