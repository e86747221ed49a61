import QueryAgent.Cli.Program
import QueryAgent.Proofs.Json.Values

namespace QueryAgent

/-!
# Parameters read back

The text of a parameter is decoded to the parameter, of the same kind at every
level of every list, as long as its doubles are numbers that come back from their
own texts and its lists nest less deep than the decoder goes.  The parameters of a
statement that is shown as JSON come back as well, from two levels further down.
-/

namespace Param

/-- A parameter without a double that is no number. -/
inductive Finite : Param → Prop where
  | null :
      Finite .null
  | boolean
      (value : Bool) :
      Finite (.boolean value)
  | integer
      (value : Int64) :
      Finite (.integer value)
  | float
      {value : Number.Binary64}
      (finite : value.isFinite = true) :
      Finite (.float value)
  | text
      (value : String) :
      Finite (.text value)
  | list
      {items : List Param}
      (parts : ∀ item ∈ items, Finite item) :
      Finite (.list items)

theorem toItems_eq_map
    (params : List Param) :
    toItems params = params.map toJson := by
  induction params with
  | nil =>
      rfl
  | cons param rest inductionHypothesis =>
      rw [toItems, inductionHypothesis, List.map_cons]

/-- A parameter whose doubles are numbers can be written. -/
theorem Finite.representable
    {param : Param}
    (finite : param.Finite) :
    param.toJson.Representable := by
  induction finite with
  | null =>
      exact .null
  | boolean value =>
      exact .boolean value
  | integer value =>
      exact Json.representable_toInt value
  | float finite =>
      exact .float finite
  | text value =>
      exact .text value
  | list parts inductionHypothesis =>
      rw [toJson, toItems_eq_map]
      refine .list fun item member => ?_
      obtain ⟨param, inItems, rfl⟩ := List.mem_map.mp member
      exact inductionHypothesis param inItems

mutual

/-- A parameter is the one that its JSON value denotes. -/
theorem ofJson?_toJson :
    ∀ param : Param, ofJson? param.toJson = some param
  | .null =>
      rfl
  | .boolean value =>
      rfl
  | .integer value => by
      have fits : value.toInt ≤ Int64.maxValue.toInt :=
        Int.le_of_lt_add_one value.toInt_lt
      rw [toJson, ofJson?, if_pos fits, Int64.ofInt_toInt]
  | .float value =>
      rfl
  | .text value =>
      rfl
  | .list items => by
      rw [toJson, ofJson?, ofItems?_toItems items]
      rfl

/-- Parameters are those that their JSON values denote. -/
theorem ofItems?_toItems :
    ∀ params : List Param, ofItems? (toItems params) = some params
  | [] =>
      rfl
  | param :: rest => by
      rw [toItems, ofItems?, ofJson?_toJson param, ofItems?_toItems rest]

end

/-- A parameter is decoded from its own tree unchanged. -/
theorem decode_node
    {param : Param}
    (finite : param.Finite)
    (legible : param.toJson.Legible)
    {depth : Nat}
    (shallow : param.toJson.nesting < depth) :
    decode depth param.toJson.node = .ok param := by
  rw [decode, Json.any_node finite.representable legible shallow]
  simp only [bind, Except.bind, ofJson?_toJson]

/-- A parameter is decoded from any text that its tree is written as. -/
theorem decodeString_of_writtenAs
    {param : Param}
    (finite : param.Finite)
    (legible : param.toJson.Legible)
    (shallow : param.toJson.nesting < Json.nestingLimit)
    {source : String}
    (written : param.toJson.node.WrittenAs source.toList) :
    Json.decodeString decode source = .ok param := by
  rw [Json.decodeString_of_writtenAs written, decode_node finite legible shallow]

end Param

/-! ## Statements -/

namespace Cli

/-- What is shown of a statement as JSON. -/
def shownStatement
    (dialect : Sql.Dialect)
    (statement : Sql.Statement) : Json :=
  .object
    [("dialect", .text dialect.name),
      ("parameters", .list (Param.toItems statement.parameters)),
      ("text", .text statement.text)]

section
variable {dialect : Sql.Dialect} {statement : Sql.Statement}

theorem representable_shownStatement
    (finite : ∀ param ∈ statement.parameters, param.Finite) :
    (shownStatement dialect statement).Representable := by
  refine .object ?ordered ?parts
  case ordered =>
    simp only [EntriesOrdered, List.pairwise_cons, List.mem_cons, List.not_mem_nil, or_false,
      forall_eq_or_imp, forall_eq]
    exact ⟨⟨by decide, by decide⟩, by decide, fun _ => False.elim, .nil⟩
  case parts =>
    simp only [List.mem_cons, List.not_mem_nil, or_false, forall_eq_or_imp, forall_eq]
    exact ⟨.text _, (Param.Finite.list finite).representable, .text _⟩

theorem legible_shownStatement
    (legible : ∀ param ∈ statement.parameters, param.toJson.Legible) :
    (shownStatement dialect statement).Legible := by
  rw [shownStatement, Json.legible_object_iff]
  simp only [List.mem_cons, List.not_mem_nil, or_false, forall_eq_or_imp, forall_eq]
  refine ⟨nofun, Json.legible_list_iff.mpr ?_, nofun⟩
  rw [Param.toItems_eq_map]
  exact List.forall_mem_map.mpr legible

/-- The parameters of a statement stand in a list in an object. -/
theorem nesting_shownStatement
    (dialect : Sql.Dialect)
    (statement : Sql.Statement) :
    (shownStatement dialect statement).nesting =
      Json.nestingOfItems (Param.toItems statement.parameters) + 2 := by
  simp [shownStatement, Json.nesting, Json.nestingOfMembers]

/-- A statement that is shown as JSON is written, with the line break behind it. -/
theorem writtenAs_ofStatement
    (colored : Bool) :
    (shownStatement dialect statement).node.WrittenAs
      (Report.ofStatement colored .json dialect statement).output.toList := by
  have lineBreak : Json.Blanks "\n".toList := by
    simp [Json.Blanks, Json.isSpace]
  have shown :
      (Report.ofStatement colored .json dialect statement).output =
        Json.pretty (shownStatement dialect statement) ++ "\n" :=
    rfl
  have written :=
    Json.Node.WrittenAs.spaced .nil (Json.writtenAs_pretty (shownStatement dialect statement))
      lineBreak
  rwa [List.nil_append, ← String.toList_append, ← shown] at written

/-- A statement within the limit of nesting is decoded from what is shown. -/
theorem decodeString_ofStatement
    (finite : ∀ param ∈ statement.parameters, param.Finite)
    (legible : ∀ param ∈ statement.parameters, param.toJson.Legible)
    (shallow : ∀ param ∈ statement.parameters, param.toJson.nesting + 2 < Json.nestingLimit)
    (colored : Bool) :
    Json.decodeString Json.decodeAny (Report.ofStatement colored .json dialect statement).output =
      .ok (shownStatement dialect statement) := by
  have fits : Json.nestingOfItems (Param.toItems statement.parameters) < Json.nestingLimit - 2 := by
    rw [Param.toItems_eq_map]
    refine Json.nestingOfItems_lt (by decide) (List.forall_mem_map.mpr fun param member => ?_)
    have below := shallow param member
    omega
  have nests := nesting_shownStatement dialect statement
  rw [Json.decodeString_of_writtenAs (writtenAs_ofStatement colored), Json.decodeAny]
  exact
    Json.any_node (representable_shownStatement finite) (legible_shownStatement legible) (by omega)

/-- A statement with a parameter that nests too deep two levels further down is not decoded. -/
theorem decodeString_ofStatement_of_deep
    (finite : ∀ param ∈ statement.parameters, param.Finite)
    (legible : ∀ param ∈ statement.parameters, param.toJson.Legible)
    {deep : Param}
    (bound : deep ∈ statement.parameters)
    (tooDeep : Json.nestingLimit ≤ deep.toJson.nesting + 2)
    (colored : Bool) :
    Json.decodeString Json.decodeAny (Report.ofStatement colored .json dialect statement).output =
      .error (.fault .nestingTooDeep) := by
  have deepest :
      deep.toJson.nesting ≤ Json.nestingOfItems (Param.toItems statement.parameters) := by
    rw [Param.toItems_eq_map]
    exact Json.nesting_le_nestingOfItems (List.mem_map_of_mem bound)
  have nests := nesting_shownStatement dialect statement
  rw [Json.decodeString_of_writtenAs (writtenAs_ofStatement colored), Json.decodeAny]
  exact
    Json.any_node_of_deep (representable_shownStatement finite) (legible_shownStatement legible)
      (by omega) (by omega)

end

end Cli

/--
The text of a parameter whose doubles are numbers that come back from their own
texts is decoded to the parameter, in either form, within the limit of nesting.
What is shown as JSON of a statement with such parameters is decoded to an object
with the text of the statement and with its parameters, if these are within the
limit where they stand, in a list in an object.
-/
theorem param_texts_read_back :
    (∀ param : Param,
      param.Finite →
        param.toJson.Legible →
          param.toJson.nesting < Json.nestingLimit →
            Json.decodeString Param.decode (Json.compact param.toJson) = .ok param ∧
              Json.decodeString Param.decode (Json.pretty param.toJson) = .ok param) ∧
    ∀ (colored : Bool) (dialect : Sql.Dialect) (statement : Sql.Statement),
      (∀ param ∈ statement.parameters,
        param.Finite ∧ param.toJson.Legible ∧
          param.toJson.nesting + 2 < Json.nestingLimit) →
        ∃ members items,
          Json.decodeString Json.decodeAny
              (Cli.Report.ofStatement colored .json dialect statement).output =
            .ok (.object members) ∧
          findNamed? "text" members = some (.text statement.text) ∧
          findNamed? "parameters" members = some (.list items) ∧
          Param.ofItems? items = some statement.parameters := by
  constructor
  · intro param finite legible shallow
    exact
      ⟨param.decodeString_of_writtenAs finite legible shallow (Json.writtenAs_compact _),
        param.decodeString_of_writtenAs finite legible shallow (Json.writtenAs_pretty _)⟩
  · intro colored dialect statement within
    exact
      ⟨_, _,
        Cli.decodeString_ofStatement (fun param bound => (within param bound).1)
          (fun param bound => (within param bound).2.1)
          (fun param bound => (within param bound).2.2) colored,
        rfl, rfl, Param.ofItems?_toItems statement.parameters⟩

/-- A statement with a text that needs escapes, a whole double and lists in a list. -/
def searchStatement : Sql.Statement where
  text := "SELECT \"name\" FROM \"t\""
  parameters :=
    [.integer 7, .float ⟨0x401C000000000000⟩,
      .list [.null, .list [.text "a\"\n", .boolean true], .list []]]

/-- The double comes back as one, though it is whole, and the lists as they were nested. -/
theorem param_texts_read_back_search :
    (∀ param ∈ searchStatement.parameters,
      Json.decodeString Param.decode (Json.compact param.toJson) = .ok param) ∧
      ∃ members items,
        Json.decodeString Json.decodeAny
            (Cli.Report.ofStatement true .json .mysql searchStatement).output =
          .ok (.object members) ∧
        findNamed? "parameters" members = some (.list items) ∧
        Param.ofItems? items = some searchStatement.parameters := by
  have nested :
      Param.Finite (.list [.null, .list [.text "a\"\n", .boolean true], .list []]) := by
    refine .list ?_
    simp only [List.mem_cons, List.not_mem_nil, or_false, forall_eq_or_imp, forall_eq]
    refine ⟨.null, .list ?_, .list nofun⟩
    simp only [List.mem_cons, List.not_mem_nil, or_false, forall_eq_or_imp, forall_eq]
    exact ⟨.text _, .boolean _⟩
  have legible : ∀ param ∈ searchStatement.parameters, param.toJson.Legible := by
    have doubles :
        searchStatement.parameters.flatMap (fun param => param.toJson.doubles) =
          [⟨0x401C000000000000⟩] := by
      decide +kernel
    intro param bound double placed finite
    have member : double ∈ searchStatement.parameters.flatMap (fun param => param.toJson.doubles) :=
      List.mem_flatMap.mpr ⟨param, bound, placed⟩
    rw [doubles, List.mem_singleton] at member
    subst member
    exact
      Json.readsBack_of_short finite ⟨by decide +kernel, by decide +kernel, by decide +kernel⟩
  have finite :
      ∀ param ∈ searchStatement.parameters,
        param.Finite ∧ param.toJson.nesting + 2 < Json.nestingLimit := by
    simp only [searchStatement, List.mem_cons, List.not_mem_nil, or_false, forall_eq_or_imp,
      forall_eq]
    exact
      ⟨⟨.integer 7, by decide⟩, ⟨.float (by decide), by decide⟩, nested, by decide⟩
  obtain ⟨params, statements⟩ := param_texts_read_back
  constructor
  · intro param bound
    obtain ⟨finite, shallow⟩ := finite param bound
    exact (params param finite (legible param bound) (Nat.lt_of_add_right_lt shallow)).1
  · obtain ⟨members, items, decodes, _, placed, denotes⟩ :=
      statements true .mysql searchStatement fun param bound =>
        ⟨(finite param bound).1, legible param bound, (finite param bound).2⟩
    exact ⟨members, items, decodes, placed, denotes⟩

namespace Param

/-- Nothing in so many lists. -/
def nested : Nat → Param
  | 0 =>
      .null
  | levels + 1 =>
      .list [nested levels]

theorem finite_nested
    (levels : Nat) :
    (nested levels).Finite := by
  induction levels with
  | zero =>
      exact .null
  | succ levels inductionHypothesis =>
      exact .list (List.forall_mem_singleton.mpr inductionHypothesis)

theorem legible_nested
    (levels : Nat) :
    (nested levels).toJson.Legible := by
  induction levels with
  | zero =>
      nofun
  | succ levels inductionHypothesis =>
      exact Json.legible_list_iff.mpr (List.forall_mem_singleton.mpr inductionHypothesis)

theorem nesting_nested
    (levels : Nat) :
    (nested levels).toJson.nesting = levels := by
  induction levels with
  | zero =>
      rfl
  | succ levels inductionHypothesis =>
      rw [nested, toJson, Json.nesting, toItems, toItems, Json.nestingOfItems,
        Json.nestingOfItems, inductionHypothesis, Nat.max_zero]

end Param

/-- A parameter in 126 lists comes back from its own text, but not from that of a statement. -/
theorem shown_param_too_deep :
    let deep := Param.nested 126
    let shown := (Cli.Report.ofStatement false .json .postgres ⟨"SELECT 1", [deep]⟩).output
    deep.Finite ∧
      deep.toJson.Legible ∧
      deep.toJson.nesting < Json.nestingLimit ∧
      Json.decodeString Param.decode (Json.compact deep.toJson) = .ok deep ∧
      Json.decodeString Json.decodeAny shown = .error (.fault .nestingTooDeep) := by
  intro deep shown
  have finite : deep.Finite := Param.finite_nested 126
  have legible : deep.toJson.Legible := Param.legible_nested 126
  have nests : deep.toJson.nesting = 126 := Param.nesting_nested 126
  have shallow : deep.toJson.nesting < Json.nestingLimit := by
    rw [nests]
    decide
  refine ⟨finite, legible, shallow, ?_, ?_⟩
  · exact deep.decodeString_of_writtenAs finite legible shallow (Json.writtenAs_compact _)
  · have legibleEach : ∀ param ∈ [deep], param.toJson.Legible :=
      List.forall_mem_singleton.mpr legible
    refine
      Cli.decodeString_ofStatement_of_deep (List.forall_mem_singleton.mpr finite) legibleEach
        (List.mem_singleton.mpr rfl) ?_ false
    rw [nests]
    decide

end QueryAgent
