import VyuhHmi.Foundation.PrefixCode
import VyuhHmi.Server.Routes

/-!
# Details read back

The details of an audit entry are JSON text.  What `serde_json` writes for a character can be read
back, whatever follows it, and none of it is a quotation mark that could end the string.
-/

namespace VyuhHmi

/-- The value of a hexadecimal digit. -/
def hexValue (c : Char) : ℕ := if c.isDigit then c.toNat - 48 else c.toNat - 87

/-- Read the next character of a JSON string. -/
def readJsonChar : List Char → Option (Char × List Char)
  | '\\' :: 'u' :: '0' :: '0' :: high :: low :: rest =>
      some (Char.ofNat (16 * hexValue high + hexValue low), rest)
  | '\\' :: escaped :: rest =>
      match escaped with
      | 'b' => some (Char.ofNat 8, rest)
      | 't' => some (Char.ofNat 9, rest)
      | 'n' => some (Char.ofNat 10, rest)
      | 'f' => some (Char.ofNat 12, rest)
      | 'r' => some (Char.ofNat 13, rest)
      | _ => some (escaped, rest)
  | c :: rest => some (c, rest)
  | [] => none

theorem hexValue_digitChar : ∀ digit < 16, hexValue digit.digitChar = digit := by
  decide

theorem char_eq_ofNat {c : Char} {n : ℕ} (h : c.toNat = n) : c = Char.ofNat n := by
  rw [← h, Char.ofNat_toNat]

theorem readJsonChar_jsonChar (c : Char) (rest : List Char) :
    readJsonChar ((jsonChar c).toList ++ rest) = some (c, rest) := by
  unfold jsonChar
  split
  case h_1 h | h_2 h | h_3 h | h_4 h | h_5 h | h_6 h | h_7 h =>
      rw [char_eq_ofNat h]
      rfl
  case h_8 _ _ hbackslash _ _ _ _ _ =>
      split
      case isTrue hcontrol =>
          have hhigh := hexValue_digitChar (c.toNat / 16) (by omega)
          have hlow := hexValue_digitChar (c.toNat % 16) (by omega)
          rw [String.toList_append, String.toList_ofList, String.toList_ofList]
          calc readJsonChar (['\\', 'u', '0', '0'] ++
                [(c.toNat / 16).digitChar, (c.toNat % 16).digitChar] ++ rest)
            _ = some (Char.ofNat (16 * hexValue (c.toNat / 16).digitChar +
                  hexValue (c.toNat % 16).digitChar), rest) := rfl
            _ = some (c, rest) := by rw [hhigh, hlow, Nat.div_add_mod, Char.ofNat_toNat]
      case isFalse =>
          rw [String.toList_singleton, List.singleton_append]
          unfold readJsonChar
          split
          case h_1 hcons | h_2 hcons =>
              obtain ⟨rfl, -⟩ := List.cons.inj hcons
              exact absurd rfl hbackslash
          case h_3 hcons =>
              obtain ⟨rfl, rfl⟩ := List.cons.inj hcons
              rfl
          case h_4 hcons => cases hcons

theorem readable_jsonChar : PrefixCode.Readable fun c ↦ (jsonChar c).toList :=
  .of_reader readJsonChar_jsonChar

/-- No character is written with a quotation mark at its start. -/
theorem jsonChar_ne_quote (c : Char) (rest rest' : List Char) :
    (jsonChar c).toList ++ rest ≠ '"' :: rest' := by
  intro h
  have hread := readJsonChar_jsonChar c rest
  rw [h] at hread
  have hquote : some ('"', rest') = some (c, rest) := hread
  obtain ⟨rfl, rfl⟩ := Prod.mk.inj (Option.some.inj hquote)
  exact absurd (congrArg List.length h) (by simp [jsonChar])

/-- A JSON string tells where it ends. -/
theorem jsonString_append_inj {text text' rest rest' : String}
    (h : jsonString text ++ rest = jsonString text' ++ rest') : text = text' ∧ rest = rest' := by
  have hlists := congrArg String.toList h
  simp only [jsonString, String.toList_append, String.toList_join, List.flatMap_map,
    List.append_assoc] at hlists
  have htail := List.append_cancel_left hlists
  obtain ⟨htext, hrest⟩ := readable_jsonChar.flatMap_append_inj jsonChar_ne_quote htail
  exact ⟨String.toList_inj.mp htext, String.toList_inj.mp hrest⟩

/-- The details determine the name and the role. -/
theorem createdDetails_inj {username username' role role' : String}
    (h : createdDetails username role = createdDetails username' role') :
    username = username' ∧ role = role' := by
  unfold createdDetails at h
  simp only [String.append_assoc] at h
  have hname := String.append_right_inj _ |>.mp h
  obtain ⟨rfl, hrole⟩ := jsonString_append_inj hname
  have hrole' := String.append_right_inj _ |>.mp hrole
  exact ⟨rfl, (jsonString_append_inj hrole').1⟩

end VyuhHmi
