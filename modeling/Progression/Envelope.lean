-- The answer that every route gives: a status, and an envelope with a
-- code, a message and, on success, the data.
import Progression.Refusal

namespace Progression

/-- What a caller is told besides the status. -/
structure Envelope (α : Type) where
  code : Int32
  msg : String
  data : Option α
deriving DecidableEq, Repr

/-- An envelope and the status it travels under. -/
structure Verdict (α : Type) where
  status : Nat
  envelope : Envelope α
deriving DecidableEq, Repr

/-! ## Codes -/

namespace Code

def success : Int32 := 0
def invalid : Int32 := 1000
def notFound : Int32 := 1004
def conflict : Int32 := 1006
def policy : Int32 := 2000
def tooPoor : Int32 := 2001
def topLevel : Int32 := 2002
def skinLocked : Int32 := 2003
def payment : Int32 := 3001
def internal : Int32 := 5000

end Code

namespace RefusalKind

def status : RefusalKind → Nat
  | .notFound => 404
  | .conflict => 409
  | .payment => 502
  | .policy => 422
  | .infrastructure => 500

def code : RefusalKind → Int32
  | .notFound => Code.notFound
  | .conflict => Code.conflict
  | .payment => Code.payment
  | .policy => Code.policy
  | .infrastructure => Code.internal

end RefusalKind

namespace Refusal

def status (refusal : Refusal) : Nat := refusal.kind.status

/-- The policies that stop a request have codes of their own; otherwise the kind decides. -/
def code : Refusal → Int32
  | .topLevel _ => Code.topLevel
  | .tooPoor .. => Code.tooPoor
  | .skinLocked _ => Code.skinLocked
  | refusal => refusal.kind.code

/-- What callers read in place of the details of an infrastructure fault. -/
def hiddenMessage : String := "内部服务器错误"

/-- The wording that may leave the service. -/
def publicMessage (refusal : Refusal) : String :=
  match refusal.kind with
  | .infrastructure => hiddenMessage
  | _ => refusal.message

end Refusal

/-! ## The three verdicts -/

namespace Verdict

def success {α : Type} (data : α) : Verdict α := ⟨200, ⟨Code.success, "success", some data⟩⟩

def refused {α : Type} (refusal : Refusal) : Verdict α :=
  ⟨refusal.status, ⟨refusal.code, refusal.publicMessage, none⟩⟩

/-- A request without the number it needs. -/
def required {α : Type} (field : String) : Verdict α :=
  ⟨400, ⟨Code.invalid, field ++ " is required", none⟩⟩

def ofExcept {α : Type} : Except Refusal α → Verdict α
  | .ok data => success data
  | .error refusal => refused refusal

end Verdict

end Progression
