/-!
# Shutdown tokens

A shutdown is requested by cancelling a token. That cancels the tokens which stem from it too, and no
others.
-/

namespace CalendarSync
set_option autoImplicit false

/-- A token by which a shutdown can be requested. -/
inductive Token where
  | root (id : Nat)
  /-- One of the children of a token. -/
  | child (parent : Token) (id : Nat)
deriving DecidableEq

namespace Token
variable {token parent origin : Token} {id : Nat}

/-- A token is the other one or stems from it. -/
def stemsFrom : Token → Token → Bool
  | root id, origin => origin = root id
  | child parent id, origin => origin = child parent id || parent.stemsFrom origin

/-- The token has been cancelled, by itself or as a child, when these have been. -/
def isCancelled (token : Token) (cancelled : List Token) : Bool :=
  cancelled.any token.stemsFrom

theorem stemsFrom_self (token : Token) : token.stemsFrom token = true := by
  cases token <;> simp [stemsFrom]

theorem stemsFrom_child (h : parent.stemsFrom origin = true) :
    (child parent id).stemsFrom origin = true := by
  simp [stemsFrom, h]

end Token
end CalendarSync
