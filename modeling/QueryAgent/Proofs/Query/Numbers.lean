import QueryAgent.Proofs.Json.Values
import QueryAgent.Proofs.Query.Documents
import QueryAgent.Proofs.Sql.Written

namespace QueryAgent

/-!
# Whole numbers in descriptions

A whole number that a condition compares with is bound as itself when it fits
64 bits with sign.  Every other one is bound as a double: the nearest one as long
as its digits fit 64 bits, so that it stays what it was only when a double can be
that number.  Of a longer one the leading digits that do fit and the power of ten
for the others are rounded on their own, and so is their product.  The description
is accepted all the same.
-/

/-- The whole number that is written in front of the point. -/
def Json.NumberLiteral.integer
    (literal : Json.NumberLiteral) : Int :=
  if literal.negative then
    -(Text.foldDigits 0 literal.whole : Nat)
  else
    (Text.foldDigits 0 literal.whole : Nat)

/-- A whole number of 64 bits with sign. -/
def FitsInt64
    (number : Int) : Prop :=
  -2 ^ 63 ≤ number ∧ number < 2 ^ 63

/-- A double that is a given whole number. -/
def Number.Binary64.Is
    (double : Number.Binary64)
    (number : Int) : Prop :=
  double.isFinite = true ∧ double.value = number

/-- A parameter that denotes a given whole number exactly. -/
def Param.Is
    (param : Param)
    (number : Int) : Prop :=
  match param with
  | .integer value =>
      value.toInt = number
  | .float double =>
      double.Is number
  | _ =>
      False

/--
A double for a whole number past 64 bits: nearest to the product of two doubles,
of which one is nearest to the leading digits, as many as fit 64 bits, and the
other to the power of ten that the digits behind them stand for.
-/
def Json.NumberLiteral.ScaledTo
    (literal : Json.NumberLiteral)
    (double : Number.Binary64) : Prop :=
  ∃ (leading : List Char) (next : Char) (rest : List Char) (head ten : Number.Binary64),
    literal.whole = leading ++ next :: rest ∧
      Text.foldDigits 0 leading < 2 ^ 64 ∧
      2 ^ 64 ≤ Text.foldDigits 0 (leading ++ [next]) ∧
      head.IsNearest (Text.foldDigits 0 leading : Nat) ∧
      ten.IsNearest (10 ^ (next :: rest).length) ∧
      double.IsNearest (Number.Binary64.signed literal.negative (head.value * ten.value))

/-- What a written whole number is bound as. -/
structure BoundFor
    (literal : Json.NumberLiteral)
    (param : Param) : Prop where
  kept : FitsInt64 literal.integer → param.Is literal.integer
  rounded :
    ¬ FitsInt64 literal.integer →
      literal.integer.natAbs < 2 ^ 64 →
        ∃ double, param = .float double ∧ double.IsNearest literal.integer
  is_iff :
    literal.integer.natAbs < 2 ^ 64 →
      (param.Is literal.integer ↔
        FitsInt64 literal.integer ∨ ∃ double : Number.Binary64, double.Is literal.integer)
  scaled :
    2 ^ 64 ≤ literal.integer.natAbs →
      ∃ double, param = .float double ∧ literal.ScaledTo double

namespace BoundFor

section
variable {literal : Json.NumberLiteral}

/-- An integer of 64 bits is bound for the number that it is. -/
theorem of_integer
    {value : Int64}
    (same : value.toInt = literal.integer) :
    BoundFor literal (.integer value) := by
  have least : -2 ^ 63 ≤ value.toInt := value.le_toInt
  have greatest : value.toInt < 2 ^ 63 := value.toInt_lt
  have fits : FitsInt64 literal.integer := by
    rw [← same]
    exact ⟨least, greatest⟩
  refine ⟨fun _ => same, fun beyond => absurd fits beyond, fun _ => ?_, fun great => ?_⟩
  · exact ⟨fun _ => .inl fits, fun _ => same⟩
  · omega

/-- The nearest double is bound for a number that no integer of 64 bits is, or for zero. -/
theorem of_isNearest
    {double : Number.Binary64}
    (beyond : FitsInt64 literal.integer → literal.integer = 0)
    (small : literal.integer.natAbs < 2 ^ 64)
    (nearest : double.IsNearest literal.integer) :
    BoundFor literal (.float double) := by
  have is_of_is :
      ∀ other : Number.Binary64, other.Is literal.integer → double.Is literal.integer := by
    rintro other ⟨_, same⟩
    rw [← same] at nearest
    exact ⟨nearest.finite, nearest.value_eq.trans same⟩
  have zero : (Number.Binary64.ofCode false 0).Is 0 := by
    refine ⟨by decide, ?_⟩
    rw [Number.Binary64.value, Number.Binary64.magnitude_ofCode_zero]
    simp [Number.Binary64.signed]
  have kept : FitsInt64 literal.integer → double.Is literal.integer := by
    intro fits
    rw [beyond fits] at is_of_is ⊢
    exact is_of_is _ zero
  refine ⟨kept, fun _ _ => ⟨double, rfl, nearest⟩, fun _ => ⟨?_, ?_⟩, fun great => ?_⟩
  · exact fun same => .inr ⟨double, same⟩
  · rintro (fits | ⟨other, same⟩)
    · exact kept fits
    · exact is_of_is other same
  · omega

/-- A scaled double is bound for a number past 64 bits. -/
theorem of_scaledTo
    {double : Number.Binary64}
    (great : 2 ^ 64 ≤ literal.integer.natAbs)
    (scaled : literal.ScaledTo double) :
    BoundFor literal (.float double) := by
  have beyond : ¬ FitsInt64 literal.integer := by
    unfold FitsInt64
    omega
  exact
    ⟨fun fits => absurd fits beyond, fun _ small => by omega, fun small => by omega,
      fun _ => ⟨double, rfl, scaled⟩⟩

/-- Nothing is never bound for a number. -/
theorem not_isNull
    {param : Param}
    (bound : BoundFor literal param) :
    param.isNull = false := by
  by_cases fits : FitsInt64 literal.integer
  · cases param with
    | null =>
        exact (bound.kept fits).elim
    | _ =>
        rfl
  · rcases Nat.lt_or_ge literal.integer.natAbs (2 ^ 64) with small | great
    · obtain ⟨double, rfl, _⟩ := bound.rounded fits small
      rfl
    · obtain ⟨double, rfl, _⟩ := bound.scaled great
      rfl

end

end BoundFor

/-! ## Written numbers -/

namespace Json.NumberLiteral

section
variable {literal : NumberLiteral}

/-- The sign of a written whole number stands before its digits. -/
theorem cast_integer
    (literal : NumberLiteral) :
    (literal.integer : ℚ) =
      Number.Binary64.signed literal.negative (Text.foldDigits 0 literal.whole : Nat) := by
  unfold integer Number.Binary64.signed
  split <;> simp

theorem natAbs_integer
    (literal : NumberLiteral) :
    literal.integer.natAbs = Text.foldDigits 0 literal.whole := by
  unfold integer
  split <;> omega

/-- A written whole number is read from the digits before its point alone. -/
theorem toBinary64?_of_isWhole
    (whole : literal.isWhole = true) :
    literal.toBinary64? =
      (Number.Binary64.ofScaled? (takeDigits 0 literal.whole).1
          (takeDigits 0 literal.whole).2.length).map
        (Number.Binary64.withSign literal.negative) := by
  obtain ⟨negative, digits, fraction, exponent⟩ := literal
  simp only [isWhole, Bool.and_eq_true, List.isEmpty_iff, Option.isNone_iff_eq_none] at whole
  obtain ⟨rfl, rfl⟩ := whole
  simp [toBinary64?, leading, takeDigits]

variable {double : Number.Binary64} (whole : literal.isWhole = true)
  (read : literal.toBinary64? = some double)
include whole read

/-- The double for a whole number whose digits fit 64 bits is the nearest one. -/
theorem isNearest_of_toBinary64?
    (fits : Text.foldDigits 0 literal.whole ≤ greatestInteger) :
    double.IsNearest literal.integer := by
  have greatest : greatestInteger = 2 ^ 64 - 1 := rfl
  rw [toBinary64?_of_isWhole whole, takeDigits_of_le fits, Option.map_eq_some_iff] at read
  obtain ⟨magnitude, scaled, rfl⟩ := read
  rw [cast_integer]
  exact
    (Number.Binary64.isNearest_of_ofScaled?_zero (by omega) scaled).withSign
      (Nat.cast_nonneg _) literal.negative

/-- The double for a longer whole number is scaled from the digits that fit 64 bits. -/
theorem scaledTo_of_toBinary64?
    (great : greatestInteger < Text.foldDigits 0 literal.whole) :
    literal.ScaledTo double := by
  have greatest : greatestInteger = 2 ^ 64 - 1 := rfl
  obtain ⟨leading, next, rest, digits, most, beyond, taken⟩ :=
    takeDigits_of_lt (Nat.zero_le _) great
  have positive : 0 < Text.foldDigits 0 leading := by
    have longer :
        Text.foldDigits 0 (leading ++ [next]) =
          Text.foldDigits 0 leading * 10 + (next.toNat - 48) := by
      rw [Text.foldDigits_append]
      rfl
    have character : next.toNat < 2 ^ 32 := next.val.toNat_lt
    omega
  rw [toBinary64?_of_isWhole whole, taken, Option.map_eq_some_iff] at read
  obtain ⟨magnitude, scaled, rfl⟩ := read
  obtain ⟨head, ten, nearestHead, nearestTen, product, nonnegative⟩ :=
    Number.Binary64.exists_isNearest_of_ofScaled? positive (by omega) scaled
  exact
    ⟨leading, next, rest, head, ten, digits, by omega, by omega, nearestHead, nearestTen,
      product.withSign nonnegative literal.negative⟩

end

-- Two to the power of 98 is a double, but the one below it is read.
example :
    toBinary64? ⟨false, "316912650057057350374175801344".toList, [], none⟩ =
      some ⟨0x460FFFFFFFFFFFFF⟩ := by
  decide +kernel

end Json.NumberLiteral

namespace Param

/-- An integer that is read as one is bound as itself when it fits 64 bits with sign. -/
theorem boundFor_of_integer
    {literal : Json.NumberLiteral}
    (least : -2 ^ 63 ≤ literal.integer)
    (greatest : literal.integer < 2 ^ 64)
    {param : Param}
    (denotes : ofJson? (.integer literal.integer) = some param) :
    BoundFor literal param := by
  rw [ofJson?] at denotes
  split at denotes
  next fits =>
      cases denotes
      exact .of_integer (Int64.toInt_ofInt_of_le least (Int.lt_add_one_of_le fits))
  next great =>
      cases denotes
      have beyond : ¬ FitsInt64 literal.integer := fun fits =>
        great (Int.le_of_lt_add_one fits.2)
      have small : literal.integer.natAbs < 2 ^ 64 := by
        omega
      have nearest : (Number.Binary64.ofInt literal.integer).IsNearest literal.integer := by
        obtain ⟨magnitude, same⟩ : ∃ magnitude : Nat, literal.integer = magnitude :=
          ⟨literal.integer.toNat, by unfold FitsInt64 at beyond; omega⟩
        rw [same] at small ⊢
        exact Number.Binary64.isNearest_ofInt (Number.Binary64.isFinite_ofInt small)
      exact .of_isNearest (fun fits => absurd fits beyond) small nearest

/-- A parameter is decoded by way of the JSON value that denotes it. -/
theorem decode_eq_ok_iff
    {depth : Nat}
    {node : Json.Node}
    {param : Param} :
    decode depth node = .ok param ↔
      ∃ json, node.any depth = .ok json ∧ ofJson? json = some param := by
  rw [decode, Json.bind_eq_ok]
  refine exists_congr fun json => and_congr_right fun _ => ?_
  cases ofJson? json <;>
    simp

/-- A written whole number is bound for the number that it is. -/
theorem boundFor_of_decode
    {literal : Json.NumberLiteral}
    (whole : literal.isWhole = true)
    {depth : Nat}
    {param : Param}
    (decoded : decode depth (.number literal) = .ok param) :
    BoundFor literal param := by
  have greatest : Json.greatestInteger = 2 ^ 64 - 1 := rfl
  have least : Json.leastMagnitude = 2 ^ 63 := rfl
  have magnitude := literal.natAbs_integer
  obtain ⟨json, read, denotes⟩ := decode_eq_ok_iff.mp decoded
  replace read : literal.value = .ok json := Json.NumberLiteral.read_eq_ok.mp read
  rw [Json.NumberLiteral.value] at read
  simp only [whole, Bool.true_and, Bool.and_eq_true, Bool.not_eq_true', decide_eq_true_eq] at read
  split at read
  next small =>
      obtain ⟨positive, fits⟩ := small
      cases read
      have same : (Text.foldDigits 0 literal.whole : Nat) = literal.integer := by
        rw [Json.NumberLiteral.integer, positive]
        rfl
      rw [same] at denotes
      exact boundFor_of_integer (by omega) (by omega) denotes
  next notSmall =>
      split at read
      next small =>
          obtain ⟨⟨negative, _⟩, fits⟩ := small
          cases read
          have same : -(Text.foldDigits 0 literal.whole : Nat) = literal.integer := by
            rw [Json.NumberLiteral.integer, if_pos negative]
          rw [same] at denotes
          exact boundFor_of_integer (by omega) (by omega) denotes
      next notSmallNegative =>
          split at read
          next double scaled =>
              cases read
              cases denotes
              rcases Nat.lt_or_ge Json.greatestInteger (Text.foldDigits 0 literal.whole) with
                great | fits
              · exact .of_scaledTo (by omega) (literal.scaledTo_of_toBinary64? whole scaled great)
              · have beyond : FitsInt64 literal.integer → literal.integer = 0 := by
                  unfold FitsInt64 Json.NumberLiteral.integer
                  cases negative : literal.negative <;>
                    simp only [negative, Bool.false_eq_true, if_false, if_true, true_and,
                      false_and] at notSmall notSmallNegative ⊢
                  · omega
                  · omega
                exact
                  .of_isNearest beyond (by omega)
                    (literal.isNearest_of_toBinary64? whole scaled fits)
          next =>
              cases read

theorem forall₂_of_ofItems?
    {depth : Nat}
    {items : List Json.Node}
    {values : List Json}
    (decoded : List.Forall₂ (fun item value => Json.Node.any depth item = .ok value) items values)
    {params : List Param}
    (denotes : ofItems? values = some params) :
    List.Forall₂ (fun item param => decode depth item = .ok param) items params := by
  induction decoded generalizing params with
  | nil =>
      cases denotes
      exact .nil
  | @cons item value items values first others inductionHypothesis =>
      rw [ofItems?] at denotes
      split at denotes
      next param params denotesFirst denotesOthers =>
          cases denotes
          exact
            .cons (decode_eq_ok_iff.mpr ⟨value, first, denotesFirst⟩)
              (inductionHypothesis denotesOthers)
      next =>
          cases denotes

/-- The items of a parameter are decoded from the items of the list it stands in for. -/
theorem forall₂_of_decode
    {items : List Json.Node}
    {ending : Option Json.Fault}
    {depth : Nat}
    {param : Param}
    (decoded : decode depth (.list items ending) = .ok param) :
    ∃ params inner,
      param = .list params ∧
        List.Forall₂ (fun item param => decode inner item = .ok param) items params := by
  obtain ⟨json, found, denotes⟩ := decode_eq_ok_iff.mp decoded
  obtain ⟨inner, _, decodedItems⟩ := Json.bind_eq_ok.mp found
  obtain ⟨values, parts, finishing⟩ := Json.bind_eq_ok.mp decodedItems
  obtain ⟨_, _, same⟩ := Json.bind_eq_ok.mp finishing
  cases same
  rw [ofJson?, Option.map_eq_some_iff] at denotes
  obtain ⟨params, denotesItems, rfl⟩ := denotes
  rw [Json.anyItems_eq_decodeItems] at parts
  exact
    ⟨params, inner, rfl,
      forall₂_of_ofItems? (Json.forall₂_of_decodeItems parts) denotesItems⟩

end Param

/-! ## Accepted descriptions -/

/-- The whole numbers that an item gives are bound by its condition, one or in a list. -/
structure BindsNumbers
    (node : Json.Node)
    (condition : Condition) : Prop where
  value :
    ∀ literal,
      PayloadCondition.valueNode? node = some (.number literal) → literal.isWhole = true →
        ∃ param, condition.value = some param ∧ BoundFor literal param
  items :
    ∀ items ending,
      PayloadCondition.valueNode? node = some (.list items ending) →
        ∃ params,
          condition.value = some (.list params) ∧
            List.Forall₂
              (fun item param =>
                ∀ literal, item = .number literal → literal.isWhole = true →
                  BoundFor literal param)
              items params

theorem bindsNumbers_of_valueFrom
    {node : Json.Node}
    {condition : Condition}
    (valueFrom : ValueFrom node condition) :
    BindsNumbers node condition := by
  obtain ⟨depth, given, source, value⟩ := valueFrom
  constructor
  · intro literal written whole
    rw [written] at source
    cases source with
    | present decodes =>
        rcases Json.decode_of_decodeOptional decodes with ⟨impossible, _⟩ | ⟨param, rfl, decoded⟩
        · cases impossible
        · have bound := Param.boundFor_of_decode whole decoded
          refine ⟨param, ?_, bound⟩
          rw [value]
          simp [bound.not_isNull]
  · intro items ending written
    rw [written] at source
    cases source with
    | present decodes =>
        rcases Json.decode_of_decodeOptional decodes with ⟨impossible, _⟩ | ⟨param, rfl, decoded⟩
        · cases impossible
        · obtain ⟨params, inner, rfl, decodedItems⟩ := Param.forall₂_of_decode decoded
          refine ⟨params, value, decodedItems.imp ?_⟩
          rintro item param decodedItem literal rfl whole
          exact Param.boundFor_of_decode whole decodedItem

/--
Each whole number that an accepted description compares with is bound for the
number that it is: exactly when it fits 64 bits with sign, otherwise as the
nearest double as long as its digits fit 64 bits, and then exactly when a double
can be it, and past these as a double scaled from its leading digits.  A compiled
statement carries these values.
-/
theorem parse_binds_whole_numbers
    {text : String}
    {query : Query}
    (parsed : Query.parse text = .ok query) :
    (∀ clause : Clause,
      List.Forall₂ BindsNumbers
        (clause.nodes (Json.read text).root) (clause.conditions query)) ∧
    ∀ (dialect : Sql.Dialect) (statement : Sql.Statement),
      dialect.compile query = .ok statement →
        statement.parameters =
          (query.conditions ++ query.having).flatMap (Sql.valuesBoundBy dialect.listPolicy)
            ++ Sql.limitValues query :=
  ⟨fun clause =>
      (forall₂_valueFrom_of_parse parsed clause).imp fun _ _ => bindsNumbers_of_valueFrom,
    fun _ _ => Sql.parameters_of_compile⟩

/-- A description that asks for a key past 64 bits with sign. -/
def greatKeyPayload : String :=
  "\x7b\"table\":\"t\",\"conditions\":[\x7b\"column\":\"id\",\"type\":\"equal\","
    ++ "\"value\":9223372036854775809\x7d]\x7d"

/-- The column and the double of a query whose only condition compares them. -/
def soleDouble? : Query → Option (String × Number.Binary64)
  | ⟨_, _, _, [⟨column, .equal, some (.float double)⟩], _, _, _⟩ =>
      some (column, double)
  | _ =>
      none

theorem conditions_of_soleDouble?
    {query : Query}
    {column : String}
    {double : Number.Binary64}
    (found : soleDouble? query = some (column, double)) :
    query.conditions = [⟨column, .equal, some (.float double)⟩] := by
  unfold soleDouble? at found
  split at found
  · cases found
    rfl
  · cases found

/-- A number as it is written in a document. -/
def Json.Node.number? : Json.Node → Option Json.NumberLiteral
  | .number literal =>
      some literal
  | _ =>
      none

theorem Json.Node.eq_of_number?
    {node : Json.Node}
    {literal : Json.NumberLiteral}
    (found : node.number? = some literal) :
    node = .number literal := by
  cases node <;> cases found
  rfl

/-- The one condition of the description, as it was written and as it is bound. -/
theorem greatKeyPayload_read :
    ∃ query node,
      Query.parse greatKeyPayload = .ok query ∧
        query.conditions = [⟨"id", .equal, some (.float ⟨0x43E0000000000000⟩)⟩] ∧
        Clause.condition.nodes (Json.read greatKeyPayload).root = [node] ∧
        PayloadCondition.valueNode? node =
          some (.number ⟨false, "9223372036854775809".toList, [], none⟩) := by
  have accepted :
      (Query.parse greatKeyPayload).toOption.bind soleDouble? =
        some ("id", ⟨0x43E0000000000000⟩) := by
    decide +kernel
  have written :
      (Clause.condition.nodes (Json.read greatKeyPayload).root).map
          (fun node => (PayloadCondition.valueNode? node).bind Json.Node.number?) =
        [some ⟨false, "9223372036854775809".toList, [], none⟩] := by
    decide +kernel
  cases parsed : Query.parse greatKeyPayload with
  | error cause =>
      rw [parsed] at accepted
      cases accepted
  | ok query =>
      rw [parsed] at accepted
      obtain ⟨node, single, number⟩ := List.map_eq_singleton_iff.mp written
      obtain ⟨value, found, isNumber⟩ := Option.bind_eq_some_iff.mp number
      exact
        ⟨query, node, rfl, conditions_of_soleDouble? accepted, single,
          found.trans (congrArg some (Json.Node.eq_of_number? isNumber))⟩

/-- The condition on the key binds its one number. -/
theorem parse_binds_whole_numbers_great_key :
    ∃ query,
      Query.parse greatKeyPayload = .ok query ∧
        List.Forall₂ BindsNumbers
          (Clause.condition.nodes (Json.read greatKeyPayload).root) query.conditions := by
  obtain ⟨query, _, parsed, _⟩ := greatKeyPayload_read
  exact ⟨query, parsed, (parse_binds_whole_numbers parsed).1 .condition⟩

/-- A key past 64 bits with sign is accepted and bound as its neighbour. -/
theorem parse_rounds_great_key :
    ∃ query node literal condition param,
      Query.parse greatKeyPayload = .ok query ∧
        Clause.condition.nodes (Json.read greatKeyPayload).root = [node] ∧
        PayloadCondition.valueNode? node = some (.number literal) ∧
        literal.isWhole = true ∧
        query.conditions = [condition] ∧
        condition.value = some param ∧
        ¬ param.Is literal.integer := by
  obtain ⟨query, node, parsed, conditions, single, value⟩ := greatKeyPayload_read
  refine ⟨query, node, _, _, _, parsed, single, value, rfl, conditions, rfl, ?_⟩
  rintro ⟨_, same⟩
  have neighbour : (⟨0x43E0000000000000⟩ : Number.Binary64).value = 9223372036854775808 := by
    have positive : (⟨0x43E0000000000000⟩ : Number.Binary64).isNegative = false := by
      decide
    have significand : (⟨0x43E0000000000000⟩ : Number.Binary64).significand = 2 ^ 52 := by
      decide
    have scale : (⟨0x43E0000000000000⟩ : Number.Binary64).scale = 11 := by
      decide
    rw [Number.Binary64.value, Number.Binary64.magnitude, positive, significand, scale]
    norm_num [Number.Binary64.signed]
  have written :
      Json.NumberLiteral.integer ⟨false, "9223372036854775809".toList, [], none⟩ =
        9223372036854775809 := by
    decide
  rw [neighbour, written] at same
  norm_num at same

end QueryAgent
