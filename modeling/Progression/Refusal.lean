-- Why a request is not served. A refusal has a kind, which fixes the
-- answer's status, a wording, and the chain of faults below it.
import Progression.Fault

namespace Progression

inductive Refusal where
  | noCharacter (user : UserId)
  | noSkin (skin : SkinId)
  /-- The level-up could not learn the character's level. -/
  | levelUnknown (cause : Refusal)
  | topLevel (current : Level)
  | tooPoor (nextLevel : Level) (price balance : Coins) (needed referrals : Referrals)
  | skinLocked (skin : SkinId)
  /-- Another level-up was faster. -/
  | levelMoved (cause : StoreFault)
  | store (fault : StoreFault)
  | payment (fault : PaymentFault)
  | internal (text : String)
deriving DecidableEq, Repr

/-- What a refusal means to the caller. -/
inductive RefusalKind where
  | notFound
  | infrastructure
  | policy
  | payment
  | conflict
deriving DecidableEq, Repr

namespace Refusal

/-- A missing character and a moved level stay what they are; any other fault is the store's. -/
def ofStore : StoreFault → Refusal
  | .noCharacter user => .noCharacter user
  | fault@(.levelMoved ..) => .levelMoved fault
  | fault => .store fault

def kind : Refusal → RefusalKind
  | .noCharacter _ | .noSkin _ => .notFound
  | .levelUnknown cause => cause.kind
  | .topLevel _ | .tooPoor .. | .skinLocked _ => .policy
  | .levelMoved _ => .conflict
  | .payment _ => .payment
  | .store _ | .internal _ => .infrastructure

def message : Refusal → String
  | .noCharacter user => "character " ++ toString user ++ " not found"
  | .noSkin skin => "skin " ++ toString skin ++ " not found"
  | .levelUnknown _ => "cannot determine character level"
  | .topLevel current => "no further levels after level " ++ toString current
  | .tooPoor next price balance needed referrals =>
    "not enough coins or referrals to reach level " ++ toString next ++ ": " ++ toString balance
      ++ "/" ++ toString price ++ " coins, " ++ toString referrals ++ "/" ++ toString needed
      ++ " referrals"
  | .skinLocked skin => "skin " ++ toString skin ++ " is not opened"
  | .levelMoved _ => "character level changed concurrently"
  | .store fault => "store error: " ++ fault.message
  | .payment fault => "payment failed: " ++ fault.message
  | .internal text => "internal error: " ++ text

/-- The wordings of the faults below a refusal, the nearest first. -/
def sources : Refusal → List String
  | .levelUnknown cause => cause.message :: cause.sources
  | .levelMoved fault | .store fault => [fault.message]
  | .payment fault => [fault.message]
  | _ => []

end Refusal

end Progression
