import QueryAgent.Postgres.Decode
import QueryAgent.Proofs.Postgres.Networks

namespace QueryAgent.Postgres

/-!
# Malformed numbers and addresses

A NUMERIC is read as far as its groups are counted, and only one with too few
bytes is refused: bytes behind the last group, a sign that stands for nothing and
groups above four digits go unnoticed.  A network address is refused unless its
family, its length and the bytes fit together, but the bits that count may be
more than it has.
-/

/-! ## Words -/

/-- The number of the two bytes at an offset. -/
def wordAt
    (bytes : List UInt8)
    (offset : Nat) : Nat :=
  unsignedOf ((bytes.drop offset).take 2)

/-- The groups that a NUMERIC counts, each where it stands. -/
def countedGroups
    (bytes : List UInt8) : List Nat :=
  (List.range (wordAt bytes 0)).map fun position => wordAt bytes (8 + 2 * position)

/-- A header is made of the first four words. -/
theorem numericHeader?_eq
    (bytes : List UInt8) :
    numericHeader? bytes =
      if 8 ≤ bytes.length then
        some
          (⟨wordAt bytes 0, signedOf ((bytes.drop 2).take 2), wordAt bytes 4, wordAt bytes 6⟩,
            bytes.drop 8)
      else
        none := by
  split
  next enough =>
      match bytes, enough with
      | _ :: _ :: _ :: _ :: _ :: _ :: _ :: _ :: _, _ =>
          rfl
  next short =>
      rw [numericHeader?]
      rintro _ _ _ _ _ _ _ _ _ rfl
      simp at short

/-- Words are read one after another. -/
theorem take_wordsOf
    {bytes : List UInt8}
    {count : Nat}
    (enough : 2 * count ≤ bytes.length) :
    (wordsOf bytes).take count =
      (List.range count).map fun position => wordAt bytes (2 * position) := by
  induction count generalizing bytes with
  | zero =>
      rfl
  | succ count inductionHypothesis =>
      match bytes, enough with
      | high :: low :: rest, enough =>
          have further : 2 * count ≤ rest.length := by
            simp only [List.length_cons] at enough
            omega
          rw [wordsOf, List.take_succ_cons, inductionHypothesis further, List.range_succ_eq_map,
            List.map_cons, List.map_map]
          rfl

/-- What a NUMERIC is decoded to, by its words. -/
theorem decodeNumeric?_eq
    {bytes : List UInt8}
    (enough : 8 + 2 * wordAt bytes 0 ≤ bytes.length) :
    decodeNumeric? bytes =
      if wordAt bytes 4 = 0xc000 then
        some "NaN"
      else if wordAt bytes 4 = 0xd000 then
        some "Infinity"
      else if wordAt bytes 4 = 0xf000 then
        some "-Infinity"
      else
        some
          (finiteNumeric
            ⟨wordAt bytes 0, signedOf ((bytes.drop 2).take 2), wordAt bytes 4, wordAt bytes 6⟩
            (countedGroups bytes)) := by
  have header : 8 ≤ bytes.length := by
    omega
  have groups : 2 * wordAt bytes 0 ≤ (bytes.drop 8).length := by
    rw [List.length_drop]
    omega
  have counted :
      (wordsOf (bytes.drop 8)).take (wordAt bytes 0) = countedGroups bytes := by
    rw [take_wordsOf groups, countedGroups]
    simp only [wordAt, List.drop_drop]
  rw [decodeNumeric?, numericHeader?_eq, if_pos header]
  dsimp only
  rw [if_neg (Nat.not_lt.mpr groups), counted]

/-- A NUMERIC with fewer bytes than it counts is refused. -/
theorem decodeNumeric?_of_short
    {bytes : List UInt8}
    (short : bytes.length < 8 + 2 * wordAt bytes 0) :
    decodeNumeric? bytes = none := by
  rw [decodeNumeric?, numericHeader?_eq]
  by_cases header : 8 ≤ bytes.length
  · have fewGroups : (bytes.drop 8).length < 2 * wordAt bytes 0 := by
      rw [List.length_drop]
      omega
    rw [if_pos header]
    dsimp only
    rw [if_pos fewGroups]
  · rw [if_neg header]

/-- Only a NUMERIC with too few bytes is refused. -/
theorem decodeNumeric?_isSome_iff
    (bytes : List UInt8) :
    (decodeNumeric? bytes).isSome ↔ 8 + 2 * wordAt bytes 0 ≤ bytes.length := by
  constructor
  · intro decoded
    by_contra short
    rw [decodeNumeric?_of_short (Nat.lt_of_not_le short)] at decoded
    cases decoded
  · intro enough
    rw [decodeNumeric?_eq enough]
    split_ifs <;> rfl

/-! ## Well-formed numbers -/

/-- The signs of a finite NUMERIC: plus and minus. -/
def finiteSigns : List Nat :=
  [0, 0x4000]

/-- The signs of a NUMERIC, those of no number and of the infinities too. -/
def numericSigns : List Nat :=
  finiteSigns ++ [0xc000, 0xd000, 0xf000]

/--
A NUMERIC as it should be: a header, the groups it counts and nothing else, one of
the signs, and no group above four digits in a finite number.
-/
structure IsNumeric (bytes : List UInt8) : Prop where
  exactLength : bytes.length = 8 + 2 * wordAt bytes 0
  knownSign : wordAt bytes 4 ∈ numericSigns
  smallGroups : wordAt bytes 4 ∈ finiteSigns → ∀ group ∈ countedGroups bytes, group < 10000

/-- What can be wrong with a NUMERIC of which no byte is missing. -/
inductive NumericFault (bytes : List UInt8) : Prop where
  | leftover
      (longer : 8 + 2 * wordAt bytes 0 < bytes.length)
  | unknownSign
      (unknown : wordAt bytes 4 ∉ numericSigns)
  | largeGroup
      (group : Nat)
      (finite : wordAt bytes 4 ∈ finiteSigns)
      (counted : group ∈ countedGroups bytes)
      (large : 10000 ≤ group)

/-- A NUMERIC is as it should be when no byte is missing and nothing is wrong with it. -/
theorem isNumeric_iff
    (bytes : List UInt8) :
    IsNumeric bytes ↔ 8 + 2 * wordAt bytes 0 ≤ bytes.length ∧ ¬ NumericFault bytes := by
  constructor
  · rintro ⟨exactLength, knownSign, smallGroups⟩
    refine ⟨exactLength.ge, ?_⟩
    rintro (longer | unknown | ⟨group, finite, counted, large⟩)
    · omega
    · exact unknown knownSign
    · exact absurd (smallGroups finite group counted) (Nat.not_lt.mpr large)
  · rintro ⟨enough, sound⟩
    refine ⟨?_, ?_, fun finite group counted => ?_⟩
    · by_contra different
      exact sound (.leftover (by omega))
    · by_contra unknown
      exact sound (.unknownSign unknown)
    · by_contra large
      exact sound (.largeGroup group finite counted (Nat.not_lt.mp large))

/-! ## What goes unnoticed -/

theorem take_drop_append
    {bytes : List UInt8}
    {offset count : Nat}
    (inside : offset + count ≤ bytes.length)
    (extra : List UInt8) :
    ((bytes ++ extra).drop offset).take count = (bytes.drop offset).take count := by
  have behind : count ≤ (bytes.drop offset).length := by
    rw [List.length_drop]
    omega
  rw [List.drop_append_of_le_length (by omega), List.take_append_of_le_length behind]

/-- Bytes behind the groups that are counted change nothing. -/
theorem decodeNumeric?_append
    {bytes : List UInt8}
    (enough : 8 + 2 * wordAt bytes 0 ≤ bytes.length)
    (extra : List UInt8) :
    decodeNumeric? (bytes ++ extra) = decodeNumeric? bytes := by
  have word (offset : Nat) (inside : offset + 2 ≤ bytes.length) :
      wordAt (bytes ++ extra) offset = wordAt bytes offset :=
    congrArg unsignedOf (take_drop_append inside extra)
  have count := word 0 (by omega)
  have groups : countedGroups (bytes ++ extra) = countedGroups bytes := by
    rw [countedGroups, count]
    refine List.map_congr_left fun position member => word _ ?_
    have := List.mem_range.mp member
    omega
  have longer : 8 + 2 * wordAt (bytes ++ extra) 0 ≤ (bytes ++ extra).length := by
    rw [count, List.length_append]
    omega
  rw [decodeNumeric?_eq longer, decodeNumeric?_eq enough, groups, count, word 4 (by omega),
    word 6 (by omega), take_drop_append (by omega)]

/-- A sign that stands for nothing is read as a plus. -/
theorem decodeNumeric?_of_unknown_sign
    {front sign : List UInt8}
    (header : front.length = 4)
    (word : sign.length = 2)
    (unknown : unsignedOf sign ∉ numericSigns)
    (rest : List UInt8) :
    decodeNumeric? (front ++ (sign ++ rest)) = decodeNumeric? (front ++ ([0, 0] ++ rest)) := by
  obtain ⟨_, _, _, _, rfl⟩ := List.length_eq_four.mp header
  obtain ⟨high, low, rfl⟩ := List.length_eq_two.mp word
  match rest with
  | [] =>
      rfl
  | [_] =>
      rfl
  | _ :: _ :: groups =>
      -- The sign is compared with each known one and with nothing else.
      simp only [numericSigns, finiteSigns, List.mem_append, List.mem_cons, List.not_mem_nil,
        not_or] at unknown
      obtain ⟨⟨_, notMinus, _⟩, notNumber, notInfinity, notNegative, _⟩ := unknown
      have zero : unsignedOf [0, 0] = 0 := by
        decide
      simp only [List.cons_append, List.nil_append, decodeNumeric?, numericHeader?, finiteNumeric,
        zero, notMinus, notNumber, notInfinity, notNegative, if_false]
      rfl

/-! ## Well-formed addresses -/

/-- What is sent tells what it was sent for. -/
theorem SentNetwork.bytes_injective
    {network other : SentNetwork}
    (same : network.bytes = other.bytes) :
    network = other := by
  obtain ⟨family, bits, flag, address, _⟩ := network
  obtain ⟨otherFamily, otherBits, otherFlag, otherAddress, _⟩ := other
  simp only [SentNetwork.bytes, List.cons.injEq] at same
  obtain ⟨sameCode, rfl, rfl, _, rfl⟩ := same
  have sameFamily : family = otherFamily := by
    cases family <;> cases otherFamily <;> first | rfl | cases sameCode
  subst sameFamily
  rfl

/-- A network address as it should be: no more bits count than it has. -/
def IsNetwork
    (bytes : List UInt8) : Prop :=
  ∃ network : SentNetwork,
    bytes = network.bytes ∧ network.bits.toNat ≤ network.family.fullLength

/-- A network address is as it should be when it was sent with bits that it has. -/
theorem isNetwork_iff
    (bytes : List UInt8) :
    IsNetwork bytes ↔
      (∃ network : SentNetwork, bytes = network.bytes)
        ∧ ∀ network : SentNetwork,
          bytes = network.bytes → network.bits.toNat ≤ network.family.fullLength := by
  constructor
  · rintro ⟨network, rfl, possible⟩
    refine ⟨⟨network, rfl⟩, fun other same => ?_⟩
    rw [← SentNetwork.bytes_injective same]
    exact possible
  · rintro ⟨⟨network, rfl⟩, possible⟩
    exact ⟨network, rfl, possible network rfl⟩

/-! ## Columns -/

/-- A column shows bytes as a text. -/
def DecodesToText
    (column : ColumnType)
    (bytes : List UInt8) : Prop :=
  ∃ text, decodeColumn column bytes = .ok (.text text)

/-- A column shows the bytes that fit as a text, and finds all others malformed. -/
def RefusesUnless
    (column : ColumnType)
    (what : String)
    (Fits : List UInt8 → Prop) : Prop :=
  ∀ bytes,
    (DecodesToText column bytes ↔ Fits bytes)
      ∧ (decodeColumn column bytes = .error (.malformed what) ↔ ¬ Fits bytes)

theorem refusesUnless_of_orMalformed
    {column : ColumnType}
    {what : String}
    {read : List UInt8 → Option String}
    {Fits : List UInt8 → Prop}
    (decodes : ∀ bytes, decodeColumn column bytes = orMalformed what (read bytes))
    (fits : ∀ bytes, (read bytes).isSome ↔ Fits bytes) :
    RefusesUnless column what Fits := by
  intro bytes
  rw [DecodesToText, decodes, ← fits]
  cases read bytes <;>
    simp [orMalformed]

section
variable (name : String) (builtIn : Bool)

theorem decodeColumn_numeric
    (bytes : List UInt8) :
    decodeColumn (.plain name 1700 builtIn) bytes =
      orMalformed "numeric value" (decodeNumeric? bytes) := by
  rw [decodeColumn, decodePlain]

theorem decodeColumn_network
    {oid : Nat}
    (forNetworks : oid = 869 ∨ oid = 650)
    (bytes : List UInt8) :
    decodeColumn (.plain name oid builtIn) bytes =
      orMalformed "network address" (decodeNetwork? bytes) := by
  rcases forNetworks with rfl | rfl <;>
    rw [decodeColumn, decodePlain]

/-- A NUMERIC is refused where bytes are missing. -/
theorem numeric_refusesUnless :
    RefusesUnless (.plain name 1700 builtIn) "numeric value" fun bytes =>
      8 + 2 * wordAt bytes 0 ≤ bytes.length :=
  refusesUnless_of_orMalformed (decodeColumn_numeric name builtIn) decodeNumeric?_isSome_iff

/-- A network address is refused where its parts do not fit together. -/
theorem network_refusesUnless
    {oid : Nat}
    (forNetworks : oid = 869 ∨ oid = 650) :
    RefusesUnless (.plain name oid builtIn) "network address" fun bytes =>
      ∃ network : SentNetwork, bytes = network.bytes :=
  refusesUnless_of_orMalformed (decodeColumn_network name builtIn forNetworks)
    decodeNetwork?_isSome_iff

/--
A NUMERIC is refused where bytes are missing and only there, so it is as it should
be when it is shown and nothing is wrong with it.  But what is wrong with it goes
unnoticed: bytes behind the groups change nothing, and a sign that stands for
nothing is a plus.  A network address is refused where family, length and bytes
do not fit together and only there, so it is as it should be when it is shown and
no more bits count than it has.
-/
theorem malformed_values_refused_iff :
    (RefusesUnless (.plain name 1700 builtIn) "numeric value" fun bytes =>
        8 + 2 * wordAt bytes 0 ≤ bytes.length)
      ∧ (∀ bytes,
        IsNumeric bytes ↔
          DecodesToText (.plain name 1700 builtIn) bytes ∧ ¬ NumericFault bytes)
      ∧ (∀ bytes extra,
        DecodesToText (.plain name 1700 builtIn) bytes →
          decodeColumn (.plain name 1700 builtIn) (bytes ++ extra) =
            decodeColumn (.plain name 1700 builtIn) bytes)
      ∧ (∀ front sign rest : List UInt8,
        front.length = 4 → sign.length = 2 → unsignedOf sign ∉ numericSigns →
          decodeColumn (.plain name 1700 builtIn) (front ++ (sign ++ rest)) =
            decodeColumn (.plain name 1700 builtIn) (front ++ ([0, 0] ++ rest)))
      ∧ ∀ oid,
        oid = 869 ∨ oid = 650 →
          (RefusesUnless (.plain name oid builtIn) "network address" fun bytes =>
              ∃ network : SentNetwork, bytes = network.bytes)
            ∧ ∀ bytes,
              IsNetwork bytes ↔
                DecodesToText (.plain name oid builtIn) bytes
                  ∧ ∀ network : SentNetwork,
                    bytes = network.bytes →
                      network.bits.toNat ≤ network.family.fullLength := by
  have refuses := numeric_refusesUnless name builtIn
  have numeric := decodeColumn_numeric name builtIn
  refine ⟨refuses, fun bytes => ?_, fun bytes extra decoded => ?_,
    fun front sign rest header word unknown => ?_, fun oid forNetworks => ?_⟩
  · rw [(refuses bytes).1, isNumeric_iff]
  · rw [numeric, numeric, decodeNumeric?_append ((refuses bytes).1.mp decoded)]
  · rw [numeric, numeric, decodeNumeric?_of_unknown_sign header word unknown]
  · have refusesNetworks := network_refusesUnless name builtIn forNetworks
    refine ⟨refusesNetworks, fun bytes => ?_⟩
    rw [(refusesNetworks bytes).1, isNetwork_iff]

end

/-- A byte too many goes unnoticed, a sign of nothing is a plus, and a truncated host is refused. -/
theorem malformed_values_refused_iff_zero :
    decodeColumn (.plain "numeric" 1700 true) [0, 0, 0, 0, 0, 0, 0, 0, 0xff] =
        decodeColumn (.plain "numeric" 1700 true) [0, 0, 0, 0, 0, 0, 0, 0]
      ∧ decodeColumn (.plain "numeric" 1700 true) [0, 1, 0, 0, 0x12, 0x34, 0, 0, 0, 5] =
        decodeColumn (.plain "numeric" 1700 true) [0, 1, 0, 0, 0, 0, 0, 0, 0, 5]
      ∧ decodeColumn (.plain "numeric" 1700 true) [0, 2, 0, 0, 0, 0, 0, 0, 0, 5] =
        .error (.malformed "numeric value")
      ∧ DecodesToText (.plain "inet" 869 true) [2, 32, 0, 4, 10, 0, 0, 1]
      ∧ DecodesToText (.plain "cidr" 650 true) [2, 8, 1, 4, 10, 0, 0, 0] := by
  obtain ⟨refuses, _, unnoticed, plus, _⟩ := malformed_values_refused_iff "numeric" true
  obtain ⟨_, _, _, _, hosts⟩ := malformed_values_refused_iff "inet" true
  obtain ⟨_, _, _, _, networks⟩ := malformed_values_refused_iff "cidr" true
  have enough : DecodesToText (.plain "numeric" 1700 true) [0, 0, 0, 0, 0, 0, 0, 0] :=
    (refuses _).1.mpr (by decide)
  have longer := unnoticed _ [0xff] enough
  have unsigned := plus [0, 1, 0, 0] [0x12, 0x34] [0, 0, 0, 5] rfl rfl (by decide)
  refine ⟨longer, unsigned, (refuses _).2.mpr (by decide), ?_, ?_⟩
  · exact ((hosts 869 (.inl rfl)).1 _).1.mpr ⟨⟨.ipv4, 32, 0, [10, 0, 0, 1], rfl⟩, rfl⟩
  · exact ((networks 650 (.inr rfl)).1 _).1.mpr ⟨⟨.ipv4, 8, 1, [10, 0, 0, 0], rfl⟩, rfl⟩

/--
A NUMERIC with a byte too many, one with a sign that stands for nothing, one with a
group of five digits, and an address of which more bits count than it has are
none of them as they should be, but all of them are shown.
-/
theorem malformed_values_shown :
    (decodeColumn (.plain "numeric" 1700 true) [0, 0, 0, 0, 0, 0, 0, 0, 0xff] =
        .ok (.text "0")
      ∧ ¬ IsNumeric [0, 0, 0, 0, 0, 0, 0, 0, 0xff])
      ∧ (decodeColumn (.plain "numeric" 1700 true) [0, 1, 0, 0, 0x12, 0x34, 0, 0, 0, 5] =
          .ok (.text "5")
        ∧ ¬ IsNumeric [0, 1, 0, 0, 0x12, 0x34, 0, 0, 0, 5])
      ∧ (decodeColumn (.plain "numeric" 1700 true) [0, 1, 0, 0, 0, 0, 0, 0, 0xff, 0xff] =
          .ok (.text "65535")
        ∧ ¬ IsNumeric [0, 1, 0, 0, 0, 0, 0, 0, 0xff, 0xff])
      ∧ decodeColumn (.plain "inet" 869 true) [2, 0xff, 0, 4, 10, 0, 0, 1] =
          .ok (.text "10.0.0.1/255")
        ∧ ¬ IsNetwork [2, 0xff, 0, 4, 10, 0, 0, 1] := by
  have shown
      {bytes : List UInt8}
      {text : String}
      (decoded : decodeNumeric? bytes = some text) :
      decodeColumn (.plain "numeric" 1700 true) bytes = .ok (.text text) := by
    rw [decodeColumn_numeric, decoded]
    rfl
  have shownAddress :
      decodeColumn (.plain "inet" 869 true) [2, 0xff, 0, 4, 10, 0, 0, 1] =
        .ok (.text "10.0.0.1/255") := by
    have decoded : decodeNetwork? [2, 0xff, 0, 4, 10, 0, 0, 1] = some "10.0.0.1/255" := by
      decide +kernel
    rw [decodeColumn_network _ _ (.inl rfl), decoded]
    rfl
  refine ⟨⟨shown (by decide +kernel), ?_⟩, ⟨shown (by decide +kernel), ?_⟩,
    ⟨shown (by decide +kernel), ?_⟩, shownAddress, ?_⟩
  · exact fun isNumeric => absurd isNumeric.exactLength (by decide)
  · exact fun isNumeric => absurd isNumeric.knownSign (by decide)
  · exact fun isNumeric => absurd (isNumeric.smallGroups (by decide) 65535) (by decide)
  · intro isNetwork
    have possible :=
      ((isNetwork_iff _).mp isNetwork).2 ⟨.ipv4, 0xff, 0, [10, 0, 0, 1], rfl⟩ rfl
    exact absurd possible (by decide)

end QueryAgent.Postgres
