import QueryAgent.Postgres.Decode
import QueryAgent.Proofs.Json.Records

namespace QueryAgent.Postgres

/-!
# Types without a mapping

A column whose innermost type has no mapping is never shown as data.  The type
is met only where a value of it is, so lists in which there is none, at any
depth, are read as lists of nothing, and all else is an error.
-/

/-! ## Mapped types -/

/-- The types with a representation of their own from which a value is decoded. -/
def mappedOids : List Nat :=
  [16, 17, 18, 19, 20, 21, 23, 25, 26, 114, 650, 700, 701, 705, 774, 790, 829, 869, 1042, 1043,
    1082, 1083, 1114, 1184, 1186, 1700, 2950, 3802]

/-- A type without a mapping is named in the error. -/
theorem decodePlain_of_unmapped
    {oid : Nat}
    (unmapped : oid ∉ mappedOids)
    (name : String)
    (builtIn : Bool)
    (bytes : List UInt8) :
    decodePlain name oid builtIn bytes = .error (.unsupportedType name) := by
  unfold decodePlain
  split
  case h_29 =>
    rfl
  all_goals exact absurd (by decide) unmapped

/-- The error says that the type has no mapping. -/
def WireError.blamesType : WireError → Bool
  | .unsupportedType _ =>
      true
  | _ =>
      false

/-- A result that is not the error for a type without a mapping. -/
def TypeAccepted
    (result : Except WireError α) : Prop :=
  ∀ cause, result = .error cause → cause.blamesType = false

namespace TypeAccepted

theorem ok
    (value : α) :
    TypeAccepted (.ok value) :=
  nofun

theorem error
    {cause : WireError}
    (accepted : cause.blamesType = false) :
    TypeAccepted (.error cause : Except WireError α) := by
  rintro _ ⟨⟩
  exact accepted

theorem bind
    {first : Except WireError α}
    {second : α → Except WireError β}
    (accepted : TypeAccepted first)
    (further : ∀ value, TypeAccepted (second value)) :
    TypeAccepted (first >>= second) := by
  intro cause same
  rcases Json.bind_eq_error.mp same with fails | ⟨value, _, fails⟩
  · exact accepted cause fails
  · exact further value cause fails

theorem map
    {result : Except WireError α}
    (accepted : TypeAccepted result)
    (change : α → β) :
    TypeAccepted (result.map change) := by
  cases result with
  | error cause =>
      exact error (accepted cause rfl)
  | ok value =>
      exact ok _

theorem exactly
    {whenLonger : WireError}
    (accepted : whenLonger.blamesType = false)
    (count : Nat)
    (bytes : List UInt8) :
    TypeAccepted (exactly count whenLonger bytes) := by
  refine bind ?_ fun (taken, rest) => ?_
  · unfold takeBytes
    split
    · exact error rfl
    · exact ok _
  · dsimp only
    split
    · exact ok _
    · exact error accepted

theorem decodeBoolean
    (bytes : List UInt8) :
    TypeAccepted (decodeBoolean bytes) := by
  unfold Postgres.decodeBoolean
  split
  · exact ok _
  · exact error rfl

theorem decodeText
    (name : String)
    (bytes : List UInt8) :
    TypeAccepted (decodeText name bytes) := by
  have text : ∀ content, TypeAccepted (textOf content) := by
    intro content
    unfold textOf
    split
    · exact ok _
    · exact error rfl
  unfold Postgres.decodeText
  split
  · split
    · exact text _
    · exact error rfl
  · exact text _

theorem decodeDocument
    (bytes : List UInt8) :
    TypeAccepted (decodeDocument bytes) := by
  unfold Postgres.decodeDocument
  split
  · exact ok _
  · exact error rfl

theorem decodeVersioned
    (bytes : List UInt8) :
    TypeAccepted (decodeVersioned bytes) := by
  unfold Postgres.decodeVersioned
  split
  · exact error rfl
  · split
    · exact decodeDocument _
    · exact error rfl

theorem orMalformed
    (what : String)
    (content : Option String) :
    TypeAccepted (orMalformed what content) := by
  cases content with
  | none =>
      exact error rfl
  | some text =>
      exact ok _

theorem decodeDate
    (bytes : List UInt8) :
    TypeAccepted (decodeDate bytes) := by
  refine bind (exactly rfl 4 bytes) fun taken => ?_
  split
  · exact ok _
  · exact error rfl

theorem decodeTime
    (bytes : List UInt8) :
    TypeAccepted (decodeTime bytes) :=
  bind (exactly rfl 8 bytes) fun _ => ok _

theorem decodeTimestamp
    (suffix : String)
    (bytes : List UInt8) :
    TypeAccepted (decodeTimestamp suffix bytes) := by
  refine bind (exactly rfl 8 bytes) fun taken => ?_
  split
  · exact ok _
  · exact error rfl

theorem decodeUuid
    (bytes : List UInt8) :
    TypeAccepted (decodeUuid bytes) := by
  unfold Postgres.decodeUuid
  split
  · exact ok _
  · exact error rfl

end TypeAccepted

/-- A type with a mapping is never blamed. -/
theorem decodePlain_of_mapped
    {oid : Nat}
    (mapped : oid ∈ mappedOids)
    (name : String)
    (builtIn : Bool)
    (bytes : List UInt8) :
    TypeAccepted (decodePlain name oid builtIn bytes) := by
  have number :
      ∀ count, TypeAccepted (signedValue count bytes) ∧ TypeAccepted (unsignedValue count bytes) :=
    fun count =>
      ⟨(TypeAccepted.exactly rfl count bytes).map _, (TypeAccepted.exactly rfl count bytes).map _⟩
  unfold decodePlain
  split
  case h_29 =>
    exact absurd mapped (by simp_all [mappedOids])
  case h_28 =>
    split
    · exact TypeAccepted.decodeVersioned _
    · exact TypeAccepted.decodeDocument _
  case h_1 => exact TypeAccepted.decodeBoolean _
  case h_2 => exact TypeAccepted.ok _
  case h_3 | h_12 | h_13 => exact (number _).2.map _
  case h_9 => exact ((number 4).2.bind fun _ => TypeAccepted.ok _).map _
  case h_5 | h_6 | h_7 => exact (number _).1.map _
  case h_4 | h_8 | h_14 | h_19 | h_20 => exact (TypeAccepted.decodeText _ _).map _
  case h_10 => exact TypeAccepted.decodeDocument _
  case h_21 => exact TypeAccepted.decodeDate _
  case h_22 => exact TypeAccepted.decodeTime _
  case h_23 | h_24 => exact TypeAccepted.decodeTimestamp _ _
  case h_27 => exact TypeAccepted.decodeUuid _
  all_goals exact TypeAccepted.orMalformed _ _

/-- The type at the bottom of lists and of types with constraints. -/
def ColumnType.innermost : ColumnType → ColumnType
  | .array _ member =>
      member.innermost
  | .domain _ base =>
      base.innermost
  | type =>
      type

/-- The bytes of a column are lists, and no value of the innermost type is in them. -/
def ColumnType.HoldsNothing : ColumnType → List UInt8 → Prop
  | .array _ member, bytes =>
      ∃ elements,
        splitArray bytes = .ok elements ∧
          ∀ content, some content ∈ elements → member.HoldsNothing content
  | .domain _ base, bytes =>
      base.HoldsNothing bytes
  | .enumeration _, _ =>
      False
  | .plain _ _ _, _ =>
      False

/-- A document of nulls and lists only. -/
inductive Hollow : Json → Prop where
  | null :
      Hollow .null
  | list
      {items : List Json}
      (hollow : ∀ item ∈ items, Hollow item) :
      Hollow (.list items)

/-! ## Elements -/

section
variable {decode : List UInt8 → Except WireError Value}
  {elements : List (Option (List UInt8))}

/-- Elements are decoded when all that are present are. -/
theorem decodeElements_isOk_iff :
    (∃ items, decodeElements decode elements = .ok items) ↔
      ∀ content, some content ∈ elements → ∃ value, decode content = .ok value := by
  induction elements with
  | nil =>
      exact ⟨fun _ => nofun, fun _ => ⟨[], rfl⟩⟩
  | cons element rest inductionHypothesis =>
      cases element with
      | none =>
          simp only [decodeElements, Json.bind_eq_ok, List.mem_cons, reduceCtorEq, false_or,
            ← inductionHypothesis]
          exact
            ⟨fun ⟨_, items, decodes, _⟩ => ⟨items, decodes⟩,
              fun ⟨items, decodes⟩ => ⟨_, items, decodes, rfl⟩⟩
      | some bytes =>
          simp only [decodeElements, Json.bind_eq_ok, List.mem_cons, Option.some.injEq,
            forall_eq_or_imp, ← inductionHypothesis]
          exact
            ⟨fun ⟨_, value, first, items, decodes, _⟩ => ⟨⟨value, first⟩, items, decodes⟩,
              fun ⟨⟨value, first⟩, items, decodes⟩ => ⟨_, value, first, items, decodes, rfl⟩⟩

/-- What holds of null and of each decoded element holds of all items. -/
theorem forall_of_decodeElements
    {holds : Json → Prop}
    (ofNull : holds .null)
    (ofValue : ∀ content value, decode content = .ok value → holds value.toJson)
    {items : List Json}
    (decoded : decodeElements decode elements = .ok items) :
    ∀ item ∈ items, holds item := by
  induction elements generalizing items with
  | nil =>
      cases decoded
      exact nofun
  | cons element rest inductionHypothesis =>
      cases element with
      | none =>
          obtain ⟨others, decodes, same⟩ := Json.bind_eq_ok.mp decoded
          cases same
          exact List.forall_mem_cons.mpr ⟨ofNull, inductionHypothesis decodes⟩
      | some bytes =>
          obtain ⟨value, first, further⟩ := Json.bind_eq_ok.mp decoded
          obtain ⟨others, decodes, same⟩ := Json.bind_eq_ok.mp further
          cases same
          exact
            List.forall_mem_cons.mpr ⟨ofValue bytes value first, inductionHypothesis decodes⟩

/-- An error of elements is that of one of them. -/
theorem exists_of_decodeElements_error
    {cause : WireError}
    (failed : decodeElements decode elements = .error cause) :
    ∃ content, decode content = .error cause := by
  induction elements with
  | nil =>
      cases failed
  | cons element rest inductionHypothesis =>
      cases element with
      | none =>
          rcases Json.bind_eq_error.mp failed with fails | ⟨_, _, impossible⟩
          · exact inductionHypothesis fails
          · cases impossible
      | some bytes =>
          rcases Json.bind_eq_error.mp failed with fails | ⟨_, _, further⟩
          · exact ⟨bytes, fails⟩
          · rcases Json.bind_eq_error.mp further with fails | ⟨_, _, impossible⟩
            · exact inductionHypothesis fails
            · cases impossible

end

/-! ## Columns -/

section
variable {name : String} {oid : Nat} {builtIn : Bool} (unmapped : oid ∉ mappedOids)
include unmapped

/-- A column without a mapping is read exactly when no value is in it. -/
theorem decodeColumn_isOk_iff
    {type : ColumnType}
    (innermost : type.innermost = .plain name oid builtIn)
    (bytes : List UInt8) :
    (∃ value, decodeColumn type bytes = .ok value) ↔ type.HoldsNothing bytes := by
  induction type generalizing bytes with
  | plain ownName ownOid ownBuiltIn =>
      cases innermost
      simp [decodeColumn, decodePlain_of_unmapped unmapped, ColumnType.HoldsNothing]
  | enumeration ownName =>
      cases innermost
  | domain ownName base inductionHypothesis =>
      exact inductionHypothesis innermost bytes
  | array ownName member inductionHypothesis =>
      have present := inductionHypothesis innermost
      simp only [decodeColumn, ColumnType.HoldsNothing, Json.bind_eq_ok, ← present]
      constructor
      · rintro ⟨value, elements, splits, items, decodes, _⟩
        exact ⟨elements, splits, decodeElements_isOk_iff.mp ⟨items, decodes⟩⟩
      · rintro ⟨elements, splits, decode⟩
        obtain ⟨items, decodes⟩ := decodeElements_isOk_iff.mpr decode
        exact ⟨_, elements, splits, items, decodes, rfl⟩

/-- Nothing but lists and nulls is read from a column without a mapping. -/
theorem hollow_of_decodeColumn
    {type : ColumnType}
    (innermost : type.innermost = .plain name oid builtIn)
    {bytes : List UInt8}
    {value : Value}
    (decoded : decodeColumn type bytes = .ok value) :
    ∃ items, value = .json (.list items) ∧ ∀ item ∈ items, Hollow item := by
  induction type generalizing bytes value with
  | plain ownName ownOid ownBuiltIn =>
      cases innermost
      rw [decodeColumn, decodePlain_of_unmapped unmapped] at decoded
      cases decoded
  | enumeration ownName =>
      cases innermost
  | domain ownName base inductionHypothesis =>
      exact inductionHypothesis innermost decoded
  | array ownName member inductionHypothesis =>
      obtain ⟨elements, _, filling⟩ := Json.bind_eq_ok.mp decoded
      obtain ⟨items, decodes, same⟩ := Json.bind_eq_ok.mp filling
      cases same
      refine ⟨items, rfl, forall_of_decodeElements .null (fun content value read => ?_) decodes⟩
      obtain ⟨parts, rfl, hollow⟩ := inductionHypothesis innermost read
      exact .list hollow

/-- A column without a mapping fails for its innermost type, or for the layout of a list. -/
theorem error_of_decodeColumn
    {type : ColumnType}
    (innermost : type.innermost = .plain name oid builtIn)
    {bytes : List UInt8}
    {cause : WireError}
    (failed : decodeColumn type bytes = .error cause) :
    cause = .unsupportedType name ∨ ∃ content, splitArray content = .error cause := by
  induction type generalizing bytes with
  | plain ownName ownOid ownBuiltIn =>
      cases innermost
      rw [decodeColumn, decodePlain_of_unmapped unmapped] at failed
      cases failed
      exact .inl rfl
  | enumeration ownName =>
      cases innermost
  | domain ownName base inductionHypothesis =>
      exact inductionHypothesis innermost failed
  | array ownName member inductionHypothesis =>
      rcases Json.bind_eq_error.mp failed with splits | ⟨elements, _, filling⟩
      · exact .inr ⟨bytes, splits⟩
      · rcases Json.bind_eq_error.mp filling with decodes | ⟨_, _, impossible⟩
        · obtain ⟨content, fails⟩ := exists_of_decodeElements_error decodes
          exact inductionHypothesis innermost fails
        · cases impossible

end

/--
A column whose innermost type has no mapping is an error unless its bytes are
lists without a value of this type, and then it is read as lists of nothing but
nulls and lists.  The error names the type, or tells what is wrong with a list.
-/
theorem unmapped_column_read
    {type : ColumnType}
    {name : String}
    {oid : Nat}
    {builtIn : Bool}
    (innermost : type.innermost = .plain name oid builtIn)
    (unmapped : oid ∉ mappedOids)
    (bytes : List UInt8) :
    ((∃ value, decodeColumn type bytes = .ok value) ↔ type.HoldsNothing bytes)
      ∧ (∀ value,
        decodeColumn type bytes = .ok value →
          ∃ items, value = .json (.list items) ∧ ∀ item ∈ items, Hollow item)
      ∧ ∀ cause,
        decodeColumn type bytes = .error cause →
          cause = .unsupportedType name ∨ ∃ content, splitArray content = .error cause :=
  ⟨decodeColumn_isOk_iff unmapped innermost bytes,
    fun _ decoded => hollow_of_decodeColumn unmapped innermost decoded,
    fun _ failed => error_of_decodeColumn unmapped innermost failed⟩

/-- The bytes of a list of one point, which is cut short. -/
def onePoint : List UInt8 :=
  [0, 0, 0, 1, 0, 0, 0, 0, 0, 0, 2, 0x58, 0, 0, 0, 1, 0, 0, 0, 1, 0, 0, 0, 2, 0, 0]

/-- A list with a point in it is not read, also where the list has a constraint. -/
theorem unmapped_column_read_places :
    (ColumnType.domain "places" (.ofOid 1017)).innermost = .plain "point" 600 true
      ∧ 600 ∉ mappedOids
      ∧ ¬ ∃ value, decodeColumn (.domain "places" (.ofOid 1017)) onePoint = .ok value := by
  have holdsPoint : splitArray onePoint = .ok [some [0, 0]] :=
    Json.eq_ok_of_toOption (by decide +kernel)
  have isPoint :
      (ColumnType.domain "places" (.ofOid 1017)).innermost = .plain "point" 600 true :=
    rfl
  refine ⟨isPoint, by decide, fun read => ?_⟩
  obtain ⟨elements, splits, absent⟩ :=
    (unmapped_column_read isPoint (by decide) _).1.mp read
  rw [holdsPoint] at splits
  cases splits
  exact absent [0, 0] (by simp)

/-- The bytes of a list of no points. -/
def noPoints : List UInt8 :=
  [0, 0, 0, 0, 0, 0, 0, 0, 0, 0, 2, 0x58]

/-- The bytes of a list of one point that is absent. -/
def absentPoint : List UInt8 :=
  [0, 0, 0, 1, 0, 0, 0, 1, 0, 0, 2, 0x58, 0, 0, 0, 1, 0, 0, 0, 1, 0xff, 0xff, 0xff, 0xff]

/-- Lists of points are read where no point is in them, though points have no mapping. -/
theorem pointless_lists_read :
    (ColumnType.ofOid 1017).innermost = .plain "point" 600 true
      ∧ 600 ∉ mappedOids
      ∧ decodeColumn (.ofOid 1017) noPoints = .ok (.json (.list []))
      ∧ decodeColumn (.ofOid 1017) absentPoint = .ok (.json (.list [.null])) := by
  have isArray : ColumnType.ofOid 1017 = .array "_point" (.plain "point" 600 true) :=
    rfl
  have empty : splitArray noPoints = .ok [] :=
    Json.eq_ok_of_toOption (by decide +kernel)
  have absent : splitArray absentPoint = .ok [none] :=
    Json.eq_ok_of_toOption (by decide +kernel)
  rw [isArray]
  refine ⟨rfl, by decide, ?_, ?_⟩
  · simp only [decodeColumn, empty, decodeElements, bind, Except.bind]
  · simp only [decodeColumn, absent, decodeElements, bind, Except.bind]

end QueryAgent.Postgres
