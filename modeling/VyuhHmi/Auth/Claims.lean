import Mathlib.Tactic.Linarith

/-!
# Roles and token claims
-/

namespace VyuhHmi

/-- User roles ordered by privilege level. -/
inductive Role
  | viewer | operator | admin
deriving DecidableEq

namespace Role

/-- Any other text reads back as `viewer`. -/
def fromStr (s : String) : Role :=
  if s = "admin" then admin
  else if s = "operator" then operator
  else viewer

def level : Role → ℕ
  | viewer => 0
  | operator => 1
  | admin => 2

/-- Check if role has at least the given permission level. -/
def hasPermission (role required : Role) : Bool := required.level ≤ role.level

theorem fromStr_hasPermission_operator (s : String) :
    (fromStr s).hasPermission operator ↔ s = "operator" ∨ s = "admin" := by
  unfold fromStr
  split
  case isTrue hadmin => simp [hadmin, hasPermission, level]
  case isFalse hadmin =>
      split
      case isTrue hoperator => simp [hoperator, hasPermission, level]
      case isFalse hoperator => simp [hadmin, hoperator, hasPermission, level]

theorem fromStr_hasPermission_admin (s : String) :
    (fromStr s).hasPermission admin ↔ s = "admin" := by
  unfold fromStr
  split
  case isTrue hadmin => simp [hadmin, hasPermission]
  case isFalse hadmin =>
      split <;> simp [hadmin, hasPermission, level]

end Role

/-- JWT claims stored in the token.  A token without `session_id` is a legacy token. -/
structure Claims where
  sub : String
  role : String
  userId : String
  exp : ℕ
  iat : ℕ
  sessionId : Option String
deriving DecidableEq

end VyuhHmi
