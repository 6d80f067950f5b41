import AgentConsole.Text.Utf8

/-!
# Texts of octets

Scripts work on octets. Inside the command language an octet is the character with its number, so
that texts are cut, counted and compared octet by octet.
-/

namespace AgentConsole.Shell

open AgentConsole.Text

/-- Octets as characters. -/
def ofOctets (os : List UInt8) : List Char :=
  os.map fun o => Char.ofNat o.toNat

/-- The octets of such characters. -/
def toOctets (cs : List Char) : List UInt8 :=
  cs.map fun c => c.toNat.toUInt8

theorem toNat_ofNat_octet {n : Nat} (h : n < 256) : (Char.ofNat n).toNat = n := by
  have hv : n.isValidChar := .inl (by omega)
  rw [Char.ofNat, dif_pos hv]
  rfl

theorem toOctets_ofOctets (os : List UInt8) : toOctets (ofOctets os) = os := by
  induction os with
  | nil => rfl
  | cons o os ih =>
    have h : (Char.ofNat o.toNat).toNat = o.toNat := toNat_ofNat_octet o.toNat_lt
    simp only [toOctets, ofOctets, List.map_cons, List.map_map, h] at ih ⊢
    rw [ih]
    simp

/-- A text does not come after another, octet by octet. -/
def notAfter : List Char → List Char → Bool
  | [], _ => true
  | _ :: _, [] => false
  | a :: as, b :: bs => a.toNat < b.toNat || (a = b && notAfter as bs)

/-- A text, octet by octet. -/
def spell (s : String) : String :=
  String.ofList (ofOctets (Utf8.encode s))

/-- The text that is spelled by octets. -/
def unspell (s : String) : String :=
  Utf8.decodeLossy (toOctets s.toList)

end AgentConsole.Shell
