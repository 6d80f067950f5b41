import AgentConsole.Shell.Line

/-!
# Encoded files

Three octets are four signs out of 64, of which a missing octet leaves the last ones out; another
sign stands for them (`encode64`). Reading that back stops where something is wrong (`decode64`).
-/

namespace AgentConsole.Shell

open AgentConsole.Text AgentConsole.Files

/-- The signs of numbers below 64, in order. -/
def signs64 : List Char :=
  "ABCDEFGHIJKLMNOPQRSTUVWXYZabcdefghijklmnopqrstuvwxyz0123456789+/".toList

/-- The sign of a number below 64. -/
def sign64 (n : Nat) : Char :=
  (signs64[n % 64]?).getD '='

/-- The number of a sign. -/
def value64? (c : Char) : Option Nat :=
  signs64.findIdx? (· = c)

/-- Octets as signs. -/
def encode64 : List Char → List Char
  | [] => []
  | [a] => [sign64 (a.toNat / 4), sign64 (a.toNat * 16), '=', '=']
  | [a, b] =>
    [sign64 (a.toNat / 4), sign64 (a.toNat * 16 + b.toNat / 16), sign64 (b.toNat * 4), '=']
  | a :: b :: c :: rest =>
    sign64 (a.toNat / 4) :: sign64 (a.toNat * 16 + b.toNat / 16) ::
      sign64 (b.toNat * 4 + c.toNat / 64) :: sign64 c.toNat :: encode64 rest

/-- The octets of up to four signs, and whether they are as they should be. -/
def decodeGroup (signs : List Char) : List Char × Bool :=
  let octet (n : Nat) : Char := Char.ofNat (n % 256)
  match signs.map value64? with
  | [some a, some b, some c, some d] =>
    ([octet (a * 4 + b / 16), octet (b * 16 + c / 4), octet (c * 64 + d)], true)
  | some a :: some b :: some c :: rest =>
    ([octet (a * 4 + b / 16), octet (b * 16 + c / 4)],
      rest.length = 1 && signs.getLast? = some '=')
  | some a :: some b :: rest =>
    ([octet (a * 4 + b / 16)], rest.length = 2 && signs.drop 2 = ['=', '='])
  | _ => ([], false)

/-- The octets of signs up to where something is wrong, and whether nothing is. -/
def decode64 : List Char → List Char × Bool
  | [] => ([], true)
  | a :: b :: c :: d :: rest =>
    let (octets, fits) := decodeGroup [a, b, c, d]
    if !fits then (octets, false)
    else
      let (more, fits) := decode64 rest
      (octets ++ more, fits)
  | signs => decodeGroup signs

/-- Encodes a file, or decodes one. -/
def base64 (s : Start) : Effect :=
  let switches := [flag 'd' "decode", flag 'i' "ignore-garbage", valued 'w' "wrap"]
  s.withOptions switches fun o =>
    let written := (o.value? 'w').getD "76"
    match sized? written.toList, o.names with
    | none, _ => s.fails 1 ["invalid wrap size: " ++ inQuotes written]
    | some _, _ :: extra :: _ => s.refuses ("extra operand " ++ inQuotes extra)
    | some width, names =>
      let name := names.headD "-"
      match contentOf s name with
      | .error .isDirectory => s.fails 1 ["read error: Is a directory"]
      | .error e => s.fails 1 [usualComplaint name e]
      | .ok text =>
        let effect :=
          if o.has 'd' then
            let isSign (c : Char) : Bool := c = '=' || (value64? c).isSome
            let signs := text.filter fun c => if o.has 'i' then isSign c else c ≠ '\n'
            let (octets, fits) := decode64 signs
            if fits then s.prints octets
            else s.writes [.said octets, s.complaint "invalid input"] 1
          else
            let signs := encode64 text
            if width = 0 then s.prints signs
            else s.prints (unlines (inPieces width signs.length signs))
        if name = "-" then effect.reading s else effect

end AgentConsole.Shell
