import QueryAgent.Postgres.Decode
import QueryAgent.Proofs.Json.Records
import QueryAgent.Proofs.Postgres.BigEndian

namespace QueryAgent.Postgres

/-!
# Arrays element by element

The bytes of an array are a header, the dimensions and the elements, each with
its length in front.  An array of one dimension is read as the list of its
elements, each as a column of the member type and an absent one as null, or it
fails as the first element that fails.  One of more dimensions is not read.
-/

/-! ## Arrays as they travel -/

/-- How long an array is in one dimension, and the index of its first element there. -/
structure Dimension where
  length : Nat
  lowerBound : Int32
deriving DecidableEq

/-- A dimension, its length first. -/
def Dimension.bytes
    (dimension : Dimension) : List UInt8 :=
  signedBytes 4 dimension.length ++ signedBytes 4 dimension.lowerBound.toInt

/-- An element behind its length; an absent one has a length below zero and nothing else. -/
def elementBytes : Option (List UInt8) → List UInt8
  | none =>
      signedBytes 4 (-1)
  | some content =>
      signedBytes 4 content.length ++ content

/--
The bytes of an array: how many dimensions, whether an element is absent, the
number of the member type, the dimensions, and the elements one after another.
-/
def arrayBytes
    (memberOid : UInt32)
    (dimensions : List Dimension)
    (elements : List (Option (List UInt8))) : List UInt8 :=
  signedBytes 4 dimensions.length
    ++ (signedBytes 4 (if elements.any Option.isNone then 1 else 0)
    ++ (unsignedBytes 4 memberOid.toNat
    ++ (dimensions.flatMap Dimension.bytes
    ++ elements.flatMap elementBytes)))

/-- A count that the four bytes of a length can hold. -/
abbrev FitsLength
    (count : Nat) : Prop :=
  count < 2 ^ 31

/-- The elements fit their lengths, and their count fits the length of a dimension. -/
structure FitsArray
    (elements : List (Option (List UInt8))) : Prop where
  count : FitsLength elements.length
  contents : ∀ content, some content ∈ elements → FitsLength content.length

/-- A length that fits reads back. -/
theorem signedOf_length
    {count : Nat}
    (fits : FitsLength count) :
    signedOf (signedBytes 4 count) = .ofNat count := by
  apply signedOf_signedBytes <;> norm_num <;> omega

theorem signedOf_absent :
    signedOf (signedBytes 4 (-1)) = .negSucc 0 := by
  apply signedOf_signedBytes <;> norm_num

/-! ## Splitting an array -/

/-- An absent element takes nothing but its length. -/
theorem arrayElements_absent
    (remaining : Nat)
    (rest : List UInt8) :
    arrayElements (remaining + 1) (elementBytes none ++ rest) =
      (arrayElements remaining rest).map (none :: ·) := by
  rw [arrayElements, elementBytes, takeBytes_append (length_signedBytes 4 _)]
  dsimp only [bind, Except.bind]
  rw [signedOf_absent]
  cases arrayElements remaining rest <;> rfl

/-- An element is as many bytes as its length says. -/
theorem arrayElements_present
    {content : List UInt8}
    (fits : FitsLength content.length)
    (remaining : Nat)
    (rest : List UInt8) :
    arrayElements (remaining + 1) (elementBytes (some content) ++ rest) =
      (arrayElements remaining rest).map (some content :: ·) := by
  have enough : ¬ (content ++ rest).length < content.length := by
    simp
  rw [arrayElements, elementBytes, List.append_assoc, takeBytes_append (length_signedBytes 4 _)]
  dsimp only [bind, Except.bind]
  rw [signedOf_length fits]
  dsimp only
  rw [if_neg enough, List.take_left, List.drop_left]
  cases arrayElements remaining rest <;> rfl

/-- The elements of an array are split off as they were sent. -/
theorem arrayElements_elementBytes
    {elements : List (Option (List UInt8))}
    (fits : ∀ content, some content ∈ elements → FitsLength content.length) :
    arrayElements elements.length (elements.flatMap elementBytes) = .ok elements := by
  induction elements with
  | nil =>
      rfl
  | cons element rest inductionHypothesis =>
      have further :
          arrayElements rest.length (rest.flatMap elementBytes) = .ok rest :=
        inductionHypothesis fun content member => fits content (by simp [member])
      rw [List.flatMap_cons, List.length_cons]
      cases element with
      | none =>
          rw [arrayElements_absent, further]
          rfl
      | some content =>
          rw [arrayElements_present (fits content (by simp)), further]
          rfl

/-- An array is split once its dimensions are read. -/
theorem splitArray_arrayBytes
    {memberOid : UInt32}
    {dimensions : List Dimension}
    {elements : List (Option (List UInt8))}
    (few : FitsLength dimensions.length) :
    splitArray (arrayBytes memberOid dimensions elements) =
      (arrayLengths dimensions.length 1
          (dimensions.flatMap Dimension.bytes ++ elements.flatMap elementBytes)).bind
        fun (count, bytes) =>
          if 1 < dimensions.length then
            .error .tooManyDimensions
          else
            arrayElements (if dimensions.length = 0 then 0 else count) bytes := by
  rw [splitArray, arrayBytes, takeBytes_append (length_signedBytes 4 _)]
  dsimp only [bind, Except.bind]
  rw [signedOf_length few]
  dsimp only
  rw [takeBytes_append (length_signedBytes 4 _)]
  dsimp only
  rw [takeBytes_append (length_unsignedBytes 4 _)]

/-- The bytes of a list of one dimension are split into its elements. -/
theorem splitArray_oneDimension
    {elements : List (Option (List UInt8))}
    (fits : FitsArray elements)
    (memberOid : UInt32)
    (lowerBound : Int32) :
    splitArray (arrayBytes memberOid [⟨elements.length, lowerBound⟩] elements) =
      .ok elements := by
  have notTooMany : ¬ Nat.pow 2 31 ≤ 1 * elements.length := by
    have := fits.count
    rw [Nat.pow_eq]
    omega
  have lengths :
      arrayLengths 1 1
          ([⟨elements.length, lowerBound⟩].flatMap Dimension.bytes
            ++ elements.flatMap elementBytes) =
        .ok (1 * elements.length, elements.flatMap elementBytes) := by
    rw [List.flatMap_singleton, Dimension.bytes, List.append_assoc, arrayLengths,
      takeBytes_append (length_signedBytes 4 _)]
    dsimp only [bind, Except.bind]
    rw [signedOf_length fits.count]
    dsimp only
    rw [takeBytes_append (length_signedBytes 4 _)]
    dsimp only
    rw [if_neg notTooMany, arrayLengths]
  rw [splitArray_arrayBytes (by norm_num), List.length_singleton, lengths]
  dsimp only [Except.bind]
  rw [if_neg (by norm_num), if_neg one_ne_zero, one_mul]
  exact arrayElements_elementBytes fits.contents

/-- An array without a dimension has no elements. -/
theorem splitArray_noDimension
    (memberOid : UInt32) :
    splitArray (arrayBytes memberOid [] []) = .ok [] := by
  rw [splitArray_arrayBytes (by norm_num)]
  rfl

/-- An array of two dimensions or more is not split, whatever follows their count. -/
theorem splitArray_ne_ok
    {dimensions : List Dimension}
    (several : 2 ≤ dimensions.length)
    (few : FitsLength dimensions.length)
    (memberOid : UInt32)
    (elements others : List (Option (List UInt8))) :
    splitArray (arrayBytes memberOid dimensions elements) ≠ .ok others := by
  intro splits
  rw [splitArray_arrayBytes few] at splits
  obtain ⟨⟨count, bytes⟩, _, further⟩ := Json.bind_eq_ok.mp splits
  dsimp only at further
  rw [if_pos (by omega)] at further
  cases further

/-! ## Decoding the elements -/

/-- What an element is read as: an absent one as null, any other as its value. -/
def ElementRead
    (decode : List UInt8 → Except WireError Value) : Option (List UInt8) → Json → Prop
  | none, item =>
      item = .null
  | some content, item =>
      ∃ value, decode content = .ok value ∧ item = value.toJson

/-- An element cannot be decoded, and all before it can. -/
def FailsFirst
    (decode : List UInt8 → Except WireError Value)
    (elements : List (Option (List UInt8)))
    (cause : WireError) : Prop :=
  ∃ before content after,
    elements = before ++ some content :: after
      ∧ (∀ earlier, some earlier ∈ before → ∃ value, decode earlier = .ok value)
      ∧ decode content = .error cause

section
variable {decode : List UInt8 → Except WireError Value} {elements : List (Option (List UInt8))}

/-- Elements that are read are decoded as what they are read as. -/
theorem decodeElements_of_read
    {items : List Json}
    (read : List.Forall₂ (ElementRead decode) elements items) :
    decodeElements decode elements = .ok items := by
  induction read with
  | nil =>
      rfl
  | @cons element item _ _ first _ inductionHypothesis =>
      cases element with
      | none =>
          obtain rfl : item = .null := first
          rw [decodeElements, inductionHypothesis]
          rfl
      | some content =>
          obtain ⟨value, decoded, rfl⟩ := first
          rw [decodeElements, decoded, inductionHypothesis]
          rfl

/-- The first element that fails is the one whose error comes out. -/
theorem decodeElements_of_failsFirst
    {cause : WireError}
    (fails : FailsFirst decode elements cause) :
    decodeElements decode elements = .error cause := by
  obtain ⟨before, content, after, rfl, earlierRead, failed⟩ := fails
  induction before with
  | nil =>
      rw [List.nil_append, decodeElements, failed]
      rfl
  | cons element rest inductionHypothesis =>
      have further :
          decodeElements decode (rest ++ some content :: after) = .error cause :=
        inductionHypothesis fun earlier member => earlierRead earlier (by simp [member])
      cases element with
      | none =>
          rw [List.cons_append, decodeElements, further]
          rfl
      | some first =>
          obtain ⟨value, decoded⟩ := earlierRead first (by simp)
          rw [List.cons_append, decodeElements, decoded, further]
          rfl

/-- All elements are read, or there is a first one that fails. -/
theorem read_or_failsFirst
    (decode : List UInt8 → Except WireError Value)
    (elements : List (Option (List UInt8))) :
    (∃ items, List.Forall₂ (ElementRead decode) elements items)
      ∨ ∃ cause, FailsFirst decode elements cause := by
  induction elements with
  | nil =>
      exact .inl ⟨[], .nil⟩
  | cons element rest inductionHypothesis =>
      cases element with
      | none =>
          rcases inductionHypothesis with
            ⟨items, read⟩ | ⟨cause, before, content, after, rfl, fails⟩
          · exact .inl ⟨_, .cons rfl read⟩
          · refine .inr ⟨cause, none :: before, content, after, rfl, ?_, fails.2⟩
            simpa using fails.1
      | some first =>
          cases decoded : decode first with
          | error cause =>
              exact .inr ⟨cause, [], first, rest, rfl, by simp, decoded⟩
          | ok value =>
              rcases inductionHypothesis with
                ⟨items, read⟩ | ⟨cause, before, content, after, rfl, fails⟩
              · exact .inl ⟨_, .cons ⟨value, decoded, rfl⟩ read⟩
              · refine .inr ⟨cause, some first :: before, content, after, rfl, ?_, fails.2⟩
                simpa [decoded] using fails.1

end

/-! ## Columns -/

/--
A result that goes element by element: the list of what the elements are read
as, or the error of the first that fails, and one of the two is the case.
-/
structure Elementwise
    (decode : List UInt8 → Except WireError Value)
    (elements : List (Option (List UInt8)))
    (result : Except WireError Value) : Prop where
  reads :
    ∀ items,
      List.Forall₂ (ElementRead decode) elements items → result = .ok (.json (.list items))
  fails :
    ∀ cause, FailsFirst decode elements cause → result = .error cause
  settled :
    (∃ items, List.Forall₂ (ElementRead decode) elements items)
      ∨ ∃ cause, FailsFirst decode elements cause

/-- Bytes that are split into elements are decoded element by element. -/
theorem elementwise_of_splitArray
    {bytes : List UInt8}
    {elements : List (Option (List UInt8))}
    (splits : splitArray bytes = .ok elements)
    (name : String)
    (member : ColumnType) :
    Elementwise (decodeColumn member) elements (decodeColumn (.array name member) bytes) where
  reads items read := by
    rw [decodeColumn, splits]
    dsimp only [bind, Except.bind]
    rw [decodeElements_of_read read]
  fails cause failsFirst := by
    rw [decodeColumn, splits]
    dsimp only [bind, Except.bind]
    rw [decodeElements_of_failsFirst failsFirst]
  settled := read_or_failsFirst _ _

/-- Bytes that are not split into elements are an error. -/
theorem decodeColumn_array_of_unsplit
    {bytes : List UInt8}
    (unsplit : ∀ elements, splitArray bytes ≠ .ok elements)
    (name : String)
    (member : ColumnType) :
    ∃ cause, decodeColumn (.array name member) bytes = .error cause := by
  cases splits : splitArray bytes with
  | ok elements =>
      exact absurd splits (unsplit elements)
  | error cause =>
      refine ⟨cause, ?_⟩
      rw [decodeColumn, splits]
      rfl

/-- Types with constraints are decoded as the type under all of them. -/
theorem decodeColumn_domains
    (names : List String)
    (base : ColumnType)
    (bytes : List UInt8) :
    decodeColumn (names.foldr .domain base) bytes = decodeColumn base bytes := by
  induction names with
  | nil =>
      rfl
  | cons name rest inductionHypothesis =>
      rw [List.foldr_cons, decodeColumn, inductionHypothesis]

/--
A column of lists of one dimension is read element by element, whatever the
member type: nulls where an element is absent, and the error of the first
element that cannot be read.  A list without dimensions is empty, one of two or
more is an error, and constraints on a type change nothing.
-/
theorem array_column_elementwise
    (name : String)
    (member : ColumnType)
    (memberOid : UInt32)
    {elements : List (Option (List UInt8))}
    (fits : FitsArray elements)
    (lowerBound : Int32) :
    Elementwise (decodeColumn member) elements
        (decodeColumn (.array name member)
          (arrayBytes memberOid [⟨elements.length, lowerBound⟩] elements))
      ∧ decodeColumn (.array name member) (arrayBytes memberOid [] []) = .ok (.json (.list []))
      ∧ (∀ (dimensions : List Dimension) (others : List (Option (List UInt8))),
        2 ≤ dimensions.length →
          FitsLength dimensions.length →
            ∃ cause,
              decodeColumn (.array name member) (arrayBytes memberOid dimensions others) =
                .error cause)
      ∧ ∀ (constraints : List String) (bytes : List UInt8),
        decodeColumn (constraints.foldr .domain member) bytes = decodeColumn member bytes := by
  have empty := elementwise_of_splitArray (splitArray_noDimension memberOid) name member
  refine
    ⟨elementwise_of_splitArray (splitArray_oneDimension fits memberOid lowerBound) name member,
      empty.reads [] .nil, fun dimensions others several few => ?_,
      fun constraints bytes => decodeColumn_domains constraints member bytes⟩
  exact decodeColumn_array_of_unsplit (splitArray_ne_ok several few memberOid others) name member

/-- Truth values under two constraints. -/
def consent : ColumnType :=
  .domain "consent" (.domain "answered" (.plain "bool" 16 true))

/-- A list counted from minus three is read with an absent element in it, or fails in it. -/
theorem array_column_elementwise_consents :
    FitsArray [some [1], none, some [0]]
      ∧ decodeColumn (.array "_consent" consent)
          (arrayBytes 90001 [⟨3, -3⟩] [some [1], none, some [0]]) =
        .ok (.json (.list [.boolean true, .null, .boolean false]))
      ∧ decodeColumn (.array "_consent" consent)
          (arrayBytes 90001 [⟨4, -3⟩] [none, some [1], some [1, 1], some []]) =
        .error .tooLong := by
  have fits : FitsArray [some [1], none, some [0]] :=
    ⟨by norm_num, by simp⟩
  have fitsFailing : FitsArray [none, some [1], some [1, 1], some []] :=
    ⟨by norm_num, by simp⟩
  refine
    ⟨fits, (array_column_elementwise "_consent" consent 90001 fits (-3)).1.reads _ ?_,
      (array_column_elementwise "_consent" consent 90001 fitsFailing (-3)).1.fails _ ?_⟩
  · exact .cons ⟨_, rfl, rfl⟩ (.cons rfl (.cons ⟨_, rfl, rfl⟩ .nil))
  · exact ⟨[none, some [1]], [1, 1], [some []], rfl, by simp [decodeColumn, consent, decodePlain,
      decodeBoolean], rfl⟩

end QueryAgent.Postgres
