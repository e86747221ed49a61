import QueryAgent.Proofs.Json.Doubles

namespace QueryAgent.Json

/-!
# Written values decoded

A value that a program can hold is decoded from its own tree unchanged, as long
as its doubles come back from their texts and its lists and objects nest less
deep than the decoder goes.  Lists and objects are decoded part by part, whatever
their parts are decoded to.
-/

/-- A value that a program can hold: 64 bits, no infinities, members in order. -/
inductive Representable : Json → Prop where
  | null :
      Representable .null
  | boolean
      (value : Bool) :
      Representable (.boolean value)
  | integer
      {value : Int}
      (least : -(leastMagnitude : Int) ≤ value)
      (greatest : value ≤ greatestInteger) :
      Representable (.integer value)
  | float
      {value : Number.Binary64}
      (finite : value.isFinite = true) :
      Representable (.float value)
  | text
      (value : String) :
      Representable (.text value)
  | list
      {items : List Json}
      (parts : ∀ item ∈ items, Representable item) :
      Representable (.list items)
  | object
      {members : List (String × Json)}
      (ordered : EntriesOrdered members)
      (parts : ∀ member ∈ members, Representable member.2) :
      Representable (.object members)

/-- An integer of 64 bits is within the bounds of a JSON integer. -/
theorem representable_toInt
    (value : Int64) :
    (integer value.toInt).Representable := by
  have least : -2 ^ 63 ≤ value.toInt := value.le_toInt
  have greatest : value.toInt < 2 ^ 63 := value.toInt_lt
  have bound : (greatestInteger : Int) = 2 ^ 64 - 1 := by
    decide
  exact .integer least (by omega)

mutual

/-- How many lists and objects lie around the innermost value. -/
def nesting : Json → Nat
  | .list items =>
      nestingOfItems items + 1
  | .object members =>
      nestingOfMembers members + 1
  | _ =>
      0

/-- The nesting of the item that nests deepest. -/
def nestingOfItems : List Json → Nat
  | [] =>
      0
  | item :: rest =>
      max item.nesting (nestingOfItems rest)

/-- The nesting of the member that nests deepest. -/
def nestingOfMembers : List (String × Json) → Nat
  | [] =>
      0
  | (_, value) :: rest =>
      max value.nesting (nestingOfMembers rest)

end

theorem nesting_le_nestingOfItems
    {item : Json}
    {items : List Json}
    (member : item ∈ items) :
    item.nesting ≤ nestingOfItems items := by
  induction items with
  | nil =>
      cases member
  | cons head rest inductionHypothesis =>
      rw [nestingOfItems]
      rcases List.mem_cons.mp member with rfl | further
      · exact Nat.le_max_left ..
      · exact (inductionHypothesis further).trans (Nat.le_max_right ..)

/-- Members nest as deep as their values do. -/
theorem nestingOfMembers_eq
    (members : List (String × Json)) :
    nestingOfMembers members = nestingOfItems (members.map (·.2)) := by
  induction members with
  | nil =>
      rfl
  | cons member rest inductionHypothesis =>
      obtain ⟨name, value⟩ := member
      rw [nestingOfMembers, inductionHypothesis, List.map_cons, nestingOfItems]

theorem nesting_le_nestingOfMembers
    {entry : String × Json}
    {members : List (String × Json)}
    (member : entry ∈ members) :
    entry.2.nesting ≤ nestingOfMembers members := by
  rw [nestingOfMembers_eq]
  exact nesting_le_nestingOfItems (List.mem_map_of_mem member)

theorem nestingOfItems_lt
    {items : List Json}
    {bound : Nat}
    (positive : 0 < bound)
    (each : ∀ item ∈ items, item.nesting < bound) :
    nestingOfItems items < bound := by
  induction items with
  | nil =>
      exact positive
  | cons item rest inductionHypothesis =>
      have behind : nestingOfItems rest < bound :=
        inductionHypothesis fun other member => each other (by simp [member])
      exact Nat.max_lt.mpr ⟨each item (by simp), behind⟩

/-- Some item nests as deep as all of them do. -/
theorem exists_nesting_eq_nestingOfItems
    {items : List Json}
    (nested : 0 < nestingOfItems items) :
    ∃ item ∈ items, item.nesting = nestingOfItems items := by
  induction items with
  | nil =>
      cases nested
  | cons item rest inductionHypothesis =>
      rw [nestingOfItems] at nested ⊢
      rcases Nat.le_total (nestingOfItems rest) item.nesting with deep | shallow
      · exact ⟨item, by simp, (Nat.max_eq_left deep).symm⟩
      · rw [Nat.max_eq_right shallow] at nested ⊢
        obtain ⟨other, member, deepest⟩ := inductionHypothesis nested
        exact ⟨other, by simp [member], deepest⟩

/-! ## Parts -/

theorem anyItems_eq_decodeItems
    (depth : Nat)
    (items : List Node) :
    anyItems depth items = decodeItems decodeAny depth items := by
  induction items with
  | nil =>
      rfl
  | cons item rest inductionHypothesis =>
      rw [anyItems, decodeItems, inductionHypothesis]
      rfl

theorem anyMembers_eq_decodeEntries
    (depth : Nat)
    (members : List (TextLiteral × Node)) :
    anyMembers depth members = decodeEntries decodeAny depth members := by
  induction members with
  | nil =>
      rfl
  | cons member rest inductionHypothesis =>
      obtain ⟨name, value⟩ := member
      rw [anyMembers, decodeEntries, inductionHypothesis]
      rfl

section
variable {decode : Decoder α} {depth : Nat}

/-- Items are decoded one by one. -/
theorem decodeItems_map
    {nodeOf : β → Node}
    {decoded : β → α}
    {items : List β}
    (decodes : ∀ item ∈ items, decode depth (nodeOf item) = .ok (decoded item)) :
    decodeItems decode depth (items.map nodeOf) = .ok (items.map decoded) := by
  induction items with
  | nil =>
      rfl
  | cons item rest inductionHypothesis =>
      have further := inductionHypothesis fun item member => decodes item (by simp [member])
      rw [List.map_cons, decodeItems, decodes item (by simp), further]
      rfl

/-- Members are decoded one by one and keep their names. -/
theorem decodeEntries_memberNodes
    {decoded : Json → α}
    {members : List (String × Json)}
    (decodes : ∀ member ∈ members, decode depth member.2.node = .ok (decoded member.2)) :
    decodeEntries decode depth (memberNodes members) =
      .ok (members.map (fun member => (member.1, decoded member.2))) := by
  rw [memberNodes_eq_map]
  induction members with
  | nil =>
      rfl
  | cons member rest inductionHypothesis =>
      have further := inductionHypothesis fun member inRest => decodes member (by simp [inRest])
      rw [List.map_cons, decodeEntries, decodes member (by simp), further]
      rfl

/-- Items of which some fail with one error, and none with another, fail with it. -/
theorem decodeItems_eq_error
    {items : List Node}
    {cause : DecodeError}
    (each :
      ∀ item ∈ items,
        (∃ value, decode depth item = .ok value) ∨ decode depth item = .error cause)
    (fails : ∃ item ∈ items, decode depth item = .error cause) :
    decodeItems decode depth items = .error cause := by
  induction items with
  | nil =>
      obtain ⟨_, member, _⟩ := fails
      cases member
  | cons item rest inductionHypothesis =>
      rcases each item (by simp) with ⟨value, decodes⟩ | failsFirst
      · obtain ⟨other, member, failsOther⟩ := fails
        have inRest : other ∈ rest := by
          rcases List.mem_cons.mp member with rfl | inRest
          · rw [decodes] at failsOther
            cases failsOther
          · exact inRest
        have further :=
          inductionHypothesis (fun another placed => each another (by simp [placed]))
            ⟨other, inRest, failsOther⟩
        rw [decodeItems, decodes, further]
        rfl
      · rw [decodeItems, failsFirst]
        rfl

/-- The values of members are decoded as items are, and put under the names. -/
theorem decodeEntries_eq_zip
    (members : List (String × Json)) :
    decodeEntries decode depth (memberNodes members) =
      (decodeItems decode depth ((members.map (·.2)).map node)).map
        ((members.map (·.1)).zip ·) := by
  induction members with
  | nil =>
      rfl
  | cons member rest inductionHypothesis =>
      obtain ⟨name, value⟩ := member
      simp only [memberNodes, decodeEntries, inductionHypothesis, List.map_cons, decodeItems]
      cases decode depth value.node with
      | error cause =>
          rfl
      | ok value =>
          cases decodeItems decode depth ((rest.map (·.2)).map node) <;>
            rfl

/-- A list within the limit of nesting is decoded from its items. -/
theorem decodeList_map
    {nodeOf : β → Node}
    {decoded : β → α}
    {items : List β}
    (decodes : ∀ item ∈ items, decode (depth + 1) (nodeOf item) = .ok (decoded item)) :
    decodeList decode (depth + 2) (.list (items.map nodeOf) none) = .ok (items.map decoded) := by
  simp [decodeList, enter, decodeItems_map decodes, endsWell, bind, Except.bind]

end

/-- An object within the limit of nesting is decoded from its members. -/
theorem decodeMap_memberNodes
    {decode : Decoder α}
    {depth : Nat}
    {decoded : Json → α}
    {members : List (String × Json)}
    (ordered : EntriesOrdered members)
    (decodes : ∀ member ∈ members, decode (depth + 1) member.2.node = .ok (decoded member.2)) :
    decodeMap decode (depth + 2) (.object (memberNodes members) none) =
      .ok (members.map (fun member => (member.1, decoded member.2))) := by
  simp only [decodeMap, enter, decodeEntries_memberNodes decodes, endsWell, bind, Except.bind,
    sortEntries_of_ordered (ordered.map decoded)]

/-! ## Values -/

theorem TextLiteral.read_of
    (value : String) :
    (TextLiteral.of value).read = .ok value :=
  rfl

/-- A value is decoded from its tree unchanged. -/
theorem any_node
    {value : Json}
    (representable : value.Representable)
    (legible : value.Legible)
    {depth : Nat}
    (shallow : value.nesting < depth) :
    value.node.any depth = .ok value := by
  induction representable generalizing depth with
  | null =>
      rfl
  | boolean value =>
      rfl
  | integer least greatest =>
      rw [node, Node.any, NumberLiteral.read, NumberLiteral.value_ofInteger least greatest]
  | @float value finite =>
      have reads : ReadsBack value :=
        legible value (List.mem_singleton.mpr rfl) finite
      rw [node, if_pos finite, Node.any, NumberLiteral.read, (readsBack_iff finite).mp reads]
  | text value =>
      rw [node, Node.any, TextLiteral.read_of]
      rfl
  | @list items parts inductionHypothesis =>
      rw [nesting] at shallow
      obtain ⟨depth, rfl⟩ : ∃ inner, depth = inner + 2 :=
        ⟨depth - 2, by omega⟩
      have decodes : ∀ item ∈ items, decodeAny (depth + 1) item.node = .ok item :=
        fun item member =>
          inductionHypothesis item member (legible_list_iff.mp legible item member)
            (by have := nesting_le_nestingOfItems member; omega)
      have decoded : decodeItems decodeAny (depth + 1) (items.map node) = .ok (items.map id) :=
        decodeItems_map decodes
      simp [node, Node.any, enter, itemNodes_eq_map, anyItems_eq_decodeItems, decoded, endsWell,
        bind, Except.bind]
  | @object members ordered parts inductionHypothesis =>
      rw [nesting] at shallow
      obtain ⟨depth, rfl⟩ : ∃ inner, depth = inner + 2 :=
        ⟨depth - 2, by omega⟩
      have decodes :
          ∀ member ∈ members, decodeAny (depth + 1) member.2.node = .ok member.2 :=
        fun member inMembers =>
          inductionHypothesis member inMembers (legible_object_iff.mp legible member inMembers)
            (by have := nesting_le_nestingOfMembers inMembers; omega)
      have decoded :
          decodeEntries decodeAny (depth + 1) (memberNodes members) =
            .ok (members.map fun member => (member.1, id member.2)) :=
        decodeEntries_memberNodes decodes
      simp [node, Node.any, enter, anyMembers_eq_decodeEntries, decoded, endsWell,
        bind, Except.bind, ofMembers, sortEntries_of_ordered ordered]

/-- Values of which one nests too deep are refused as such when each that does is. -/
theorem decodeItems_of_deep
    {values : List Json}
    {depth : Nat}
    (positive : 0 < depth)
    (representable : ∀ value ∈ values, value.Representable)
    (legible : ∀ value ∈ values, value.Legible)
    (refuses :
      ∀ value ∈ values, 0 < value.nesting → depth ≤ value.nesting →
        value.node.any depth = .error (.fault .nestingTooDeep))
    (deep : depth ≤ nestingOfItems values) :
    decodeItems decodeAny depth (values.map node) = .error (.fault .nestingTooDeep) := by
  obtain ⟨deepest, placed, nesting⟩ :=
    exists_nesting_eq_nestingOfItems (Nat.lt_of_lt_of_le positive deep)
  refine decodeItems_eq_error ?each ⟨deepest.node, List.mem_map_of_mem placed, ?fails⟩
  case each =>
    intro item member
    obtain ⟨value, inValues, rfl⟩ := List.mem_map.mp member
    rcases Nat.lt_or_ge value.nesting depth with shallow | tooDeep
    · exact
        .inl ⟨value, any_node (representable value inValues) (legible value inValues) shallow⟩
    · exact .inr (refuses value inValues (Nat.lt_of_lt_of_le positive tooDeep) tooDeep)
  case fails =>
    exact refuses deepest placed (by omega) (by omega)

/-- A list or an object is too deep to be entered, or has a level left inside. -/
theorem enter_or_fails
    (depth : Nat) :
    enter depth = .error (.fault .nestingTooDeep) ∨
      ∃ inner, 0 < inner ∧ depth = inner + 1 ∧ enter depth = .ok inner := by
  cases depth with
  | zero =>
      exact .inl rfl
  | succ inner =>
      cases inner with
      | zero =>
          exact .inl rfl
      | succ below =>
          exact .inr ⟨below + 1, below.succ_pos, rfl, rfl⟩

/-- A value that nests too deep is refused as such, whatever else it holds. -/
theorem any_node_of_deep
    {value : Json}
    (representable : value.Representable)
    (legible : value.Legible)
    {depth : Nat}
    (nested : 0 < value.nesting)
    (deep : depth ≤ value.nesting) :
    value.node.any depth = .error (.fault .nestingTooDeep) := by
  induction representable generalizing depth with
  | null | boolean | integer | float | text =>
      cases nested
  | @list items parts inductionHypothesis =>
      rcases enter_or_fails depth with tooDeep | ⟨inner, positive, rfl, enters⟩
      · simp only [node, Node.any, tooDeep, bind, Except.bind]
      · rw [nesting] at deep
        have legibleItems := legible_list_iff.mp legible
        have refused :=
          decodeItems_of_deep positive parts legibleItems
            (fun item member => inductionHypothesis item member (legibleItems item member))
            (Nat.le_of_succ_le_succ deep)
        simp only [node, Node.any, enters, itemNodes_eq_map, anyItems_eq_decodeItems, refused,
          bind, Except.bind]
  | @object members ordered parts inductionHypothesis =>
      rcases enter_or_fails depth with tooDeep | ⟨inner, positive, rfl, enters⟩
      · simp only [node, Node.any, tooDeep, bind, Except.bind]
      · rw [nesting, nestingOfMembers_eq] at deep
        have legibleMembers := legible_object_iff.mp legible
        have representable : ∀ value ∈ members.map (·.2), value.Representable :=
          List.forall_mem_map.mpr parts
        have refused :=
          decodeItems_of_deep positive representable (List.forall_mem_map.mpr legibleMembers)
            (List.forall_mem_map.mpr fun member inMembers =>
              inductionHypothesis member inMembers (legibleMembers member inMembers))
            (Nat.le_of_succ_le_succ deep)
        simp only [node, Node.any, enters, anyMembers_eq_decodeEntries, decodeEntries_eq_zip,
          refused, bind, Except.bind, Except.map]

/-- A member that names a field not yet given fills the field in. -/
theorem Record.fillMembers_of_named
    {record : Record σ}
    {name : String}
    {field : Field σ}
    (named : record.fields.find? (fun field => field.accepted.contains name) = some field)
    {depth : Nat}
    {value : Node}
    {before after : σ}
    (fresh : field.isGiven before = false)
    (fills : field.fill depth value before = .ok after)
    (rest : List (TextLiteral × Node)) :
    record.fillMembers depth ((.of name, value) :: rest) before =
      record.fillMembers depth rest after := by
  rw [Record.fillMembers]
  simp only [TextLiteral.read_of, bind, Except.bind, named, fresh, Bool.false_eq_true, if_false,
    fills]

/-- A natural number within its bound is decoded from its tree unchanged. -/
theorem decodeNatural_node
    (expected : String)
    (depth : Nat)
    {bits value : Nat}
    (narrow : bits ≤ 64)
    (fits : value < 2 ^ bits) :
    decodeNatural expected bits depth (node (.integer value)) = .ok value := by
  have below : 2 ^ bits ≤ 2 ^ 64 :=
    Nat.pow_le_pow_right (by decide) narrow
  have greatest : (value : Int) ≤ greatestInteger := by
    rw [greatestInteger, Int.ofNat_le]
    exact Nat.le_sub_one_of_lt (Nat.lt_of_lt_of_le fits below)
  have least : -(leastMagnitude : Int) ≤ value := by
    omega
  have inBounds : (0 : Int) ≤ value ∧ (value : Int) ≤ (Nat.pow 2 bits - 1 : Nat) :=
    ⟨Int.natCast_nonneg value, Int.ofNat_le.mpr (Nat.le_sub_one_of_lt fits)⟩
  simp only [node, decodeNatural, decodeInteger, NumberLiteral.value_ofInteger least greatest,
    if_pos inBounds, Except.map, Int.toNat_natCast]

end QueryAgent.Json
