import VyuhHmi.Auth.Claims
import VyuhHmi.Models

/-!
# The audit trail

Entries are only ever appended.  The details of an entry are JSON text; `serde_json` writes the
keys of an object in alphabetical order and no spaces.
-/

namespace VyuhHmi

/-- Audit trail entry. -/
structure AuditEntry where
  id : ℤ
  userId : String
  username : String
  action : String
  deviceId : Option String
  details : String
  timestamp : Instant
  ipAddress : Option String
deriving DecidableEq

/-- The `audit_trail` table. -/
abbrev AuditTable := RowTable AuditEntry AuditEntry.id

def auditEntry (userId username action : String) (deviceId : Option String) (details : String)
    (ipAddress : Option String) (now : Instant) (id : ℤ) : AuditEntry where
  id := id
  userId := userId
  username := username
  action := action
  deviceId := deviceId
  details := details
  timestamp := now
  ipAddress := ipAddress

@[simp] theorem auditEntry_id (userId username action : String) (deviceId : Option String)
    (details : String) (ipAddress : Option String) (now : Instant) (id : ℤ) :
    (auditEntry userId username action deviceId details ipAddress now id).id = id := rfl

/-- Log an action to the audit trail. -/
def logAudit (trail : AuditTable) (userId username action : String) (deviceId : Option String)
    (details : String) (ipAddress : Option String) (now : Instant) : AuditTable :=
  trail.insert (auditEntry userId username action deviceId details ipAddress now)
    (auditEntry_id userId username action deviceId details ipAddress now)

/-- The details of a `write_register` entry. -/
def writeDetails (register value : UInt16) : String :=
  "\x7b\"register\":" ++ toString register.toNat ++ ",\"value\":" ++ toString value.toNat ++ "\x7d"

@[simp] theorem rows_logAudit (trail : AuditTable) (userId username action : String)
    (deviceId : Option String) (details : String) (ipAddress : Option String) (now : Instant) :
    (logAudit trail userId username action deviceId details ipAddress now).rows =
      trail.rows ++ [auditEntry userId username action deviceId details ipAddress now
        (trail.seq + 1)] := rfl

theorem isDigit_of_mem_toString {n : ℕ} {c : Char} (hmem : c ∈ (toString n).toList) :
    c.isDigit := by
  rw [Nat.toString_eq_repr, Nat.toList_repr] at hmem
  exact Nat.isDigit_of_mem_toDigits (by decide : 0 < 10) (by decide) hmem

/-- Decimal text determines its number. -/
theorem toString_nat_inj {m n : ℕ} (h : toString m = toString n) : m = n := by
  have hread := congrArg (fun text ↦ Nat.ofDigitChars 10 text.toList 0) h
  simpa only [Nat.toString_eq_repr, Nat.toList_repr, Nat.ofDigitChars_ten_toDigits] using hread

theorem toString_toNat_inj {m n : UInt16} (h : toString m.toNat = toString n.toNat) : m = n :=
  UInt16.toNat_inj.mp (toString_nat_inj h)

/-- The details determine the register and the value. -/
theorem writeDetails_inj {register register' value value' : UInt16}
    (h : writeDetails register value = writeDetails register' value') :
    register = register' ∧ value = value' := by
  -- the comma is the first one: no digits and no tail have another
  let tail (v : UInt16) : List Char := "\"value\":".toList ++ (toString v.toNat).toList
  have hdigits (n : ℕ) : ',' ∉ (toString n).toList := fun hmem ↦
    absurd (isDigit_of_mem_toString hmem) (by decide)
  have htail (v : UInt16) : ',' ∉ tail v := by
    simp only [tail, List.mem_append, hdigits, or_false]
    decide
  have hcomma : ",\"value\":".toList = ',' :: "\"value\":".toList := by decide
  unfold writeDetails at h
  rw [String.append_left_inj] at h
  have hlists := congrArg String.toList h
  simp only [String.toList_append, List.append_assoc, List.append_cancel_left_eq, hcomma,
    List.cons_append] at hlists
  obtain ⟨hregister, -, hrest⟩ :=
    (List.append_cons_inj_of_notMem (hdigits register.toNat) (htail value)).mp hlists
  have hvalue := List.append_cancel_left hrest
  exact ⟨toString_toNat_inj (String.toList_inj.mp hregister),
    toString_toNat_inj (String.toList_inj.mp hvalue)⟩

end VyuhHmi
