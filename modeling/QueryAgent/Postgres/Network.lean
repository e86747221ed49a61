import QueryAgent.Text.Address

namespace QueryAgent.Postgres

/-!
# Network types

INET and CIDR: a family, the number of bits that count, and the address.
MACADDR: six or eight bytes.
-/

/-- A network address as it travels. -/
structure NetworkAddress where
  family : UInt8
  bits : UInt8
  isNetwork : Bool
  address : List UInt8
deriving Repr, DecidableEq

namespace NetworkAddress

/-- The parts of a network address, none when its length is not as announced. -/
def ofBytes? : List UInt8 → Option NetworkAddress
  | family :: bits :: isNetwork :: length :: address =>
      if length.toNat = address.length then
        some ⟨family, bits, isNetwork ≠ 0, address⟩
      else
        none
  | _ =>
      none

/-- The text of the address and the bits of a whole one, none for an unknown family. -/
def showAddress?
    (network : NetworkAddress) : Option (String × Nat) :=
  if network.family = 2 ∧ network.address.length = 4 then
    some (String.ofList (Text.showIpv4 network.address), 32)
  else if network.family = 3 ∧ network.address.length = 16 then
    some (String.ofList (Text.showIpv6 network.address), 128)
  else
    none

/-- The address, and the bits unless it is a single host. -/
def show?
    (network : NetworkAddress) : Option String :=
  match network.showAddress? with
  | none =>
      none
  | some (address, fullLength) =>
      if network.isNetwork || network.bits.toNat ≠ fullLength then
        some (address ++ "/" ++ Text.decimal network.bits.toNat)
      else
        some address

end NetworkAddress

/-- The text of an INET or CIDR, none when its bytes do not fit together. -/
def decodeNetwork?
    (bytes : List UInt8) : Option String :=
  (NetworkAddress.ofBytes? bytes).bind NetworkAddress.show?

/-- Six or eight bytes with colons between them, none of any other number. -/
def decodeHardware?
    (bytes : List UInt8) : Option String :=
  if bytes.length = 6 ∨ bytes.length = 8 then
    some (String.ofList ([':'].intercalate (bytes.map Text.hexByte)))
  else
    none

end QueryAgent.Postgres
