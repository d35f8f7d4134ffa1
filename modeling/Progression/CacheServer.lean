-- The cache on a server of keys and texts: the words of each command,
-- and what the server's replies mean.
import Progression.Bytes
import Progression.Fault
import Progression.Span

namespace Progression.CacheServer

/-- What the server says to a command. -/
inductive Reply where
  | nothing
  | bytes (bytes : List UInt8)
  | status (text : String)
  | number (n : Int)
  | list
  | refused (text : String)
  /-- The connection broke or was never made. -/
  | lost (reason : String)
deriving DecidableEq, Repr

def get (key : String) : List String := ["GET", key]

/-- A lifetime is written in whole seconds, and none is shorter than one. -/
def set (key text : String) (lifetime : Span) : List String :=
  ["SETEX", key, toString (max lifetime.wholeSeconds 1), text]

def invalidate (key : String) : List String := ["DEL", key]

/-- The text of an entry, if there is one. -/
def readText : Reply → Except CacheFault (Option String)
  | .nothing => .ok none
  | .bytes bytes =>
    match (Utf8.glyphs bytes).mapM id with
    | some cs => .ok (some (String.ofList cs))
    | none => .error (.backend "the entry is no text")
  | .status text => .ok (some text)
  | .number n => .ok (some (toString n))
  | .list => .error (.backend "the entry is no text")
  | .refused text => .error (.backend text)
  | .lost reason => .error (.backend reason)

/-- Whether a change was made. -/
def readDone : Reply → Except CacheFault Unit
  | .refused text => .error (.backend text)
  | .lost reason => .error (.backend reason)
  | _ => .ok ()

end Progression.CacheServer
