import QueryAgent.Postgres.Network
import QueryAgent.Proofs.Text.Address

namespace QueryAgent.Postgres

/-!
# Network addresses as texts

A network address travels as a family, the number of bits that count, a flag for
networks, and the bytes of the address with their number in front.  Nothing else
is decoded, and what is decoded reads back as the family, the bytes and the
bits.  Hardware addresses read back as their bytes.
-/

/-! ## What is sent -/

/-- The families of network addresses. -/
inductive AddressFamily where
  | ipv4
  | ipv6
deriving DecidableEq

namespace AddressFamily

/-- The byte that stands for a family. -/
def code : AddressFamily → UInt8
  | .ipv4 => 2
  | .ipv6 => 3

/-- The number of bytes of an address. -/
def byteCount : AddressFamily → UInt8
  | .ipv4 => 4
  | .ipv6 => 16

/-- The bits of a whole address. -/
def fullLength
    (family : AddressFamily) : Nat :=
  8 * family.byteCount.toNat

/-- The text of an address. -/
def written : AddressFamily → List UInt8 → List Char
  | .ipv4, address =>
      Text.showIpv4 address
  | .ipv6, address =>
      Text.showIpv6 address

end AddressFamily

/-- A network address of a known family, with as many bytes as the family has. -/
structure SentNetwork where
  family : AddressFamily
  bits : UInt8
  flag : UInt8
  address : List UInt8
  sized : address.length = family.byteCount.toNat

namespace SentNetwork

/-- A network address as it travels. -/
def bytes
    (network : SentNetwork) : List UInt8 :=
  network.family.code :: network.bits :: network.flag :: network.family.byteCount
    :: network.address

/-- The bits are given for a network, and where not all of them count. -/
def GivesBits
    (network : SentNetwork) : Prop :=
  network.flag ≠ 0 ∨ network.bits.toNat ≠ network.family.fullLength

instance (network : SentNetwork) : Decidable network.GivesBits :=
  inferInstanceAs (Decidable (_ ∨ _))

/-- The text of a network address. -/
def text
    (network : SentNetwork) : List Char :=
  network.family.written network.address
    ++ if network.GivesBits then '/' :: Text.decimalList network.bits.toNat else []

end SentNetwork

/-- The address of a known family is written, with the bits of a whole one. -/
theorem showAddress?_eq_some_iff
    {network : NetworkAddress}
    {address : String}
    {fullLength : Nat} :
    network.showAddress? = some (address, fullLength) ↔
      ∃ family : AddressFamily,
        network.family = family.code
          ∧ network.address.length = family.byteCount.toNat
          ∧ address = String.ofList (family.written network.address)
          ∧ fullLength = family.fullLength := by
  rw [NetworkAddress.showAddress?]
  constructor
  · intro shown
    split at shown
    next isIpv4 =>
        cases shown
        exact ⟨.ipv4, isIpv4.1, isIpv4.2, rfl, rfl⟩
    next =>
        split at shown
        next isIpv6 =>
            cases shown
            exact ⟨.ipv6, isIpv6.1, isIpv6.2, rfl, rfl⟩
        next =>
            cases shown
  · rintro ⟨family, code, sized, rfl, rfl⟩
    cases family with
    | ipv4 =>
        rw [if_pos ⟨code, sized⟩]
        rfl
    | ipv6 =>
        have other : ¬ (network.family = 2 ∧ network.address.length = 4) := by
          simp [code, AddressFamily.code]
        rw [if_neg other, if_pos ⟨code, sized⟩]
        rfl

/-- What is sent is decoded to its text. -/
theorem decodeNetwork?_bytes
    (network : SentNetwork) :
    decodeNetwork? network.bytes = some (String.ofList network.text) := by
  obtain ⟨family, bits, flag, address, sized⟩ := network
  have shown :
      (NetworkAddress.mk family.code bits (flag ≠ 0) address).showAddress? =
        some (String.ofList (family.written address), family.fullLength) :=
    showAddress?_eq_some_iff.mpr ⟨family, rfl, sized, rfl, rfl⟩
  rw [SentNetwork.bytes, decodeNetwork?, NetworkAddress.ofBytes?, if_pos sized.symm,
    Option.bind_some, NetworkAddress.show?, shown]
  by_cases given : flag ≠ 0 ∨ bits.toNat ≠ family.fullLength
  · simp [SentNetwork.text, SentNetwork.GivesBits, given, Text.decimal, String.append_assoc]
  · simp [SentNetwork.text, SentNetwork.GivesBits, given]

/-- Only what is sent is decoded. -/
theorem exists_of_decodeNetwork?
    {bytes : List UInt8}
    {text : String}
    (decoded : decodeNetwork? bytes = some text) :
    ∃ network : SentNetwork, bytes = network.bytes := by
  obtain ⟨received, taken, shown⟩ := Option.bind_eq_some_iff.mp decoded
  match bytes, taken with
  | code :: bits :: flag :: length :: address, taken =>
      rw [NetworkAddress.ofBytes?] at taken
      split at taken
      next announced =>
          cases taken
          rw [NetworkAddress.show?] at shown
          split at shown
          next =>
              cases shown
          next whole =>
              obtain ⟨family, rfl, sized, _, _⟩ := showAddress?_eq_some_iff.mp whole
              refine ⟨⟨family, bits, flag, address, sized⟩, ?_⟩
              have counted : length = family.byteCount :=
                UInt8.toNat_inj.mp (announced.trans sized)
              rw [counted, SentNetwork.bytes]
      next =>
          cases taken

/-- What is decoded is just what is sent. -/
theorem decodeNetwork?_isSome_iff
    (bytes : List UInt8) :
    (decodeNetwork? bytes).isSome ↔ ∃ network : SentNetwork, bytes = network.bytes := by
  constructor
  · intro decoded
    obtain ⟨text, decoded⟩ := Option.isSome_iff_exists.mp decoded
    exact exists_of_decodeNetwork? decoded
  · rintro ⟨network, rfl⟩
    rw [decodeNetwork?_bytes]
    rfl

/-! ## Addresses read back -/

/-- An address with colons has sixteen bytes, any other has four. -/
def readAddress?
    (content : List Char) : Option (AddressFamily × List UInt8) :=
  if ':' ∈ content then
    (Text.readIpv6? content).map fun groups => (.ipv6, Text.bytesOfGroups groups)
  else
    (Text.readIpv4? content).map fun bytes => (.ipv4, bytes.map UInt8.ofNat)

/-- What the text of a network address says. -/
structure NetworkReading where
  family : AddressFamily
  address : List UInt8
  bits : Nat
deriving DecidableEq

/-- What was sent. -/
def SentNetwork.reading
    (network : SentNetwork) : NetworkReading :=
  ⟨network.family, network.address, network.bits.toNat⟩

/-- An address and the bits behind a slash, all of its bits where no slash stands. -/
def readNetwork?
    (content : List Char) : Option NetworkReading :=
  match Text.splitFirst? '/' content with
  | none =>
      (readAddress? content).map fun read => ⟨read.1, read.2, read.1.fullLength⟩
  | some (front, behind) =>
      (readAddress? front).bind fun read =>
        (Text.readDecimal? behind).map fun bits => ⟨read.1, read.2, bits⟩

/-- A written address reads back. -/
theorem readAddress?_written
    {family : AddressFamily}
    {address : List UInt8}
    (sized : address.length = family.byteCount.toNat) :
    readAddress? (family.written address) = some (family, address) := by
  cases family with
  | ipv4 =>
      obtain ⟨first, second, third, fourth, rfl⟩ := List.length_eq_four.mp sized
      have noColon : ':' ∉ Text.showIpv4 [first, second, third, fourth] :=
        Text.not_mem_showIpv4 rfl (by decide) _
      rw [AddressFamily.written, readAddress?, if_neg noColon, Text.readIpv4?_showIpv4]
      simp
  | ipv6 =>
      have pairs : address.length % 2 = 0 := by
        rw [sized]
        rfl
      rw [AddressFamily.written, readAddress?, if_pos (Text.colon_mem_showIpv6 sized),
        Text.readIpv6?_showIpv6 sized, Option.map_some, Text.bytesOfGroups_groupsOf pairs]

/-- No slash stands in an address. -/
theorem slash_not_mem_written
    (family : AddressFamily)
    (address : List UInt8) :
    '/' ∉ family.written address := by
  cases family with
  | ipv4 =>
      exact Text.not_mem_showIpv4 rfl (by decide) address
  | ipv6 =>
      exact Text.slash_not_mem_showIpv6 address

/-- A slash stands where the bits are given. -/
theorem slash_mem_text
    (network : SentNetwork) :
    '/' ∈ network.text ↔ network.GivesBits := by
  rw [SentNetwork.text, List.mem_append]
  by_cases given : network.GivesBits
  · simp [given]
  · simp [given, slash_not_mem_written]

/-- The text of a network address says what was sent. -/
theorem readNetwork?_text
    (network : SentNetwork) :
    readNetwork? network.text = some network.reading := by
  have noSlash := slash_not_mem_written network.family network.address
  have read := readAddress?_written network.sized
  rw [SentNetwork.text, SentNetwork.reading, readNetwork?]
  by_cases given : network.GivesBits
  · rw [if_pos given, Text.splitFirst?_append_cons noSlash]
    dsimp only
    rw [read, Text.readDecimal?_decimalList]
    rfl
  · have whole : network.bits.toNat = network.family.fullLength := by
      by_contra different
      exact given (.inr different)
    rw [if_neg given, List.append_nil, Text.splitFirst?_of_not_mem noSlash]
    dsimp only
    rw [read, whole]
    rfl

/-! ## Hardware addresses -/

/-- A byte by its two digits. -/
def readHexByte? : List Char → Option UInt8
  | [high, low] =>
      (Text.readHexadecimal? [high, low]).map UInt8.ofNat
  | _ =>
      none

/-- The bytes between colons. -/
def readHardware?
    (content : List Char) : Option (List UInt8) :=
  (Text.splitAll (· == ':') content).mapM readHexByte?

theorem readHexByte?_hexByte
    (byte : UInt8) :
    readHexByte? (Text.hexByte byte) = some byte := by
  have read := Text.readHexadecimal?_hexByte byte
  rw [Text.hexByte] at read ⊢
  rw [readHexByte?, read, Option.map_some, UInt8.ofNat_toNat]

theorem mapM_readHexByte?
    (bytes : List UInt8) :
    (bytes.map Text.hexByte).mapM readHexByte? = some bytes := by
  induction bytes with
  | nil =>
      rfl
  | cons byte rest inductionHypothesis =>
      simp [readHexByte?_hexByte, inductionHypothesis]

/-- Bytes with colons between them read back, if there are any. -/
theorem readHardware?_intercalate
    {bytes : List UInt8}
    (nonempty : bytes ≠ []) :
    readHardware? ([':'].intercalate (bytes.map Text.hexByte)) = some bytes := by
  have noColon : ∀ part ∈ bytes.map Text.hexByte, ':' ∉ part :=
    List.forall_mem_map.mpr fun byte _ => Text.not_mem_hexByte rfl byte
  rw [readHardware?, Text.splitAll_intercalate noColon (by simpa using nonempty),
    mapM_readHexByte?]

/-- Six or eight bytes have a text, and it reads back. -/
theorem exists_decodeHardware?
    {bytes : List UInt8}
    (sized : bytes.length = 6 ∨ bytes.length = 8) :
    ∃ text, decodeHardware? bytes = some text ∧ readHardware? text.toList = some bytes := by
  have nonempty : bytes ≠ [] := by
    rintro rfl
    simp at sized
  refine ⟨_, if_pos sized, ?_⟩
  rw [String.toList_ofList, readHardware?_intercalate nonempty]

/-! ## Nothing is lost -/

/--
Whatever is decoded as a network address is one that was sent, and its text reads
back as the family, the bytes and the bits that were sent; a slash stands in the
text of a network, and where not all of the bits count.  Every network address
that can be sent is decoded.  Six and eight bytes are decoded as a hardware address
that reads back as the bytes, and any other number of them is refused.
-/
theorem network_addresses_read_back :
    (∀ bytes text,
      decodeNetwork? bytes = some text →
        ∃ network : SentNetwork,
          bytes = network.bytes
            ∧ readNetwork? text.toList = some network.reading
            ∧ ('/' ∈ text.toList ↔
              network.flag ≠ 0 ∨ network.bits.toNat ≠ network.family.fullLength))
      ∧ (∀ network : SentNetwork, ∃ text, decodeNetwork? network.bytes = some text)
      ∧ (∀ bytes,
        bytes.length = 6 ∨ bytes.length = 8 →
          ∃ text, decodeHardware? bytes = some text ∧ readHardware? text.toList = some bytes)
      ∧ ∀ bytes,
        ¬ (bytes.length = 6 ∨ bytes.length = 8) → decodeHardware? bytes = none := by
  refine ⟨fun bytes text decoded => ?_, fun network => ?_, fun bytes => exists_decodeHardware?,
    fun bytes notSized => if_neg notSized⟩
  · obtain ⟨network, rfl⟩ := exists_of_decodeNetwork? decoded
    rw [decodeNetwork?_bytes] at decoded
    cases decoded
    rw [String.toList_ofList]
    exact ⟨network, rfl, readNetwork?_text network, slash_mem_text network⟩
  · exact ⟨_, decodeNetwork?_bytes network⟩

/-- A network of half an address with a run of zeros, and a hardware address, read back. -/
theorem network_addresses_read_back_zeros :
    decodeNetwork? [3, 64, 0, 16, 0x20, 0x01, 0x0d, 0xb8, 0, 0, 0, 0, 0, 0, 0, 0, 0, 0, 0, 0] =
        some "2001:db8::/64"
      ∧ readNetwork? "2001:db8::/64".toList =
        some
          ⟨.ipv6, [0x20, 0x01, 0x0d, 0xb8, 0, 0, 0, 0, 0, 0, 0, 0, 0, 0, 0, 0], 64⟩
      ∧ (∃ text,
        decodeHardware? [8, 0, 0x2b, 1, 2, 3] = some text
          ∧ readHardware? text.toList = some [8, 0, 0x2b, 1, 2, 3])
      ∧ decodeHardware? [8, 0, 0x2b, 1, 2] = none := by
  obtain ⟨readsBack, _, hardware, refused⟩ := network_addresses_read_back
  have decoded :
      decodeNetwork? [3, 64, 0, 16, 0x20, 0x01, 0x0d, 0xb8, 0, 0, 0, 0, 0, 0, 0, 0, 0, 0, 0, 0] =
        some "2001:db8::/64" := by
    decide +kernel
  refine ⟨decoded, ?_, hardware _ (by decide), refused _ (by decide)⟩
  obtain ⟨⟨family, bits, flag, address, sized⟩, sent, read, _⟩ := readsBack _ _ decoded
  cases family with
  | ipv4 =>
      simp [SentNetwork.bytes, AddressFamily.code] at sent
  | ipv6 =>
      cases sent
      exact read

end QueryAgent.Postgres
