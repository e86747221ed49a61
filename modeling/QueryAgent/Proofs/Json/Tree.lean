import QueryAgent.Proofs.Json.Grammar

namespace QueryAgent.Json

/-!
# Written documents read back

The compact text of a value is read as the tree of the value, and so is the
pretty one: the same items and members in the same order, nothing missing and
nothing at fault.  Both are ways in which the tree can be written.
-/

mutual

/-- The tree that the text of a value is read as. -/
def node : Json → Node
  | .null =>
      .null
  | .boolean value =>
      .boolean value
  | .integer value =>
      .number (.ofInteger value)
  | .float value =>
      if value.isFinite then .number (.ofFloat value) else .null
  | .text value =>
      .text (.of value)
  | .list items =>
      .list (itemNodes items) none
  | .object members =>
      .object (memberNodes members) none

/-- The trees of items. -/
def itemNodes : List Json → List Node
  | [] =>
      []
  | item :: rest =>
      item.node :: itemNodes rest

/-- The trees of members. -/
def memberNodes : List (String × Json) → List (TextLiteral × Node)
  | [] =>
      []
  | (name, value) :: rest =>
      (.of name, value.node) :: memberNodes rest

end

theorem itemNodes_eq_map
    (items : List Json) :
    itemNodes items = items.map node := by
  induction items with
  | nil =>
      rfl
  | cons item rest inductionHypothesis =>
      rw [itemNodes, inductionHypothesis, List.map_cons]

theorem memberNodes_eq_map
    (members : List (String × Json)) :
    memberNodes members =
      members.map (fun member => (.of member.1, member.2.node)) := by
  induction members with
  | nil =>
      rfl
  | cons member rest inductionHypothesis =>
      obtain ⟨name, value⟩ := member
      rw [memberNodes, inductionHypothesis, List.map_cons]

/-- What holds of every value by what holds of its parts. -/
@[elab_as_elim]
theorem partsInduction
    {motive : Json → Prop}
    (null : motive .null)
    (boolean : ∀ value, motive (.boolean value))
    (integer : ∀ value, motive (.integer value))
    (float : ∀ value, motive (.float value))
    (text : ∀ value, motive (.text value))
    (list : ∀ items, (∀ item ∈ items, motive item) → motive (.list items))
    (object : ∀ members, (∀ member ∈ members, motive member.2) → motive (.object members)) :
    ∀ value, motive value
  | .null =>
      null
  | .boolean value =>
      boolean value
  | .integer value =>
      integer value
  | .float value =>
      float value
  | .text value =>
      text value
  | .list items =>
      list items fun item _ =>
        partsInduction null boolean integer float text list object item
  | .object members =>
      object members fun member _ =>
        partsInduction null boolean integer float text list object member.2
termination_by value => sizeOf value
decreasing_by
  · have smaller := List.sizeOf_lt_of_mem ‹_›
    simp
    omega
  · have smaller := List.sizeOf_lt_of_mem ‹_›
    obtain ⟨name, value⟩ := member
    simp at smaller ⊢
    omega

/-! ## Values without parts -/

theorem toList_writeFloat
    {value : Number.Binary64}
    (finite : value.isFinite = true) :
    (writeFloat value).toList = (NumberLiteral.ofFloat value).text := by
  rw [writeFloat, if_pos finite, NumberLiteral.text_ofFloat]

theorem writtenAs_integer
    (value : Int) :
    (node (.integer value)).WrittenAs (writeAtom (.integer value)) := by
  rw [node, writeAtom, NumberLiteral.text_ofInteger]
  exact .number (NumberLiteral.writtenAs_text (NumberLiteral.wellFormed_ofInteger value))

theorem writtenAs_float
    (value : Number.Binary64) :
    (node (.float value)).WrittenAs (writeAtom (.float value)) := by
  rw [node, writeAtom]
  split
  next finite =>
      rw [toList_writeFloat finite]
      exact .number (NumberLiteral.writtenAs_text (NumberLiteral.wellFormed_ofFloat value))
  next infinite =>
      rw [writeFloat, if_neg infinite]
      exact .null

theorem writtenAs_boolean
    (value : Bool) :
    (node (.boolean value)).WrittenAs (writeAtom (.boolean value)) := by
  cases value
  · exact .boolean false
  · exact .boolean true

theorem writtenAs_text
    (value : String) :
    (node (.text value)).WrittenAs (writeAtom (.text value)) :=
  .text (TextLiteral.writtenAs_of value)

/-! ## The compact form -/

theorem writeItems_eq_map
    (items : List Json) :
    writeItems items = items.map writeCompact := by
  induction items with
  | nil =>
      rfl
  | cons item rest inductionHypothesis =>
      rw [writeItems, inductionHypothesis, List.map_cons]

/-- A member as the agent writes it: blanks in front and the text of its value. -/
def writtenMember
    (before : List Char)
    (write : Json → List Char)
    (member : String × Json) : WrittenMember where
  before := before
  name := .of member.1
  nameText := member.1.toList.flatMap writeChar
  behind := []
  value := member.2.node
  valueText := write member.2

theorem wellNamed_writtenMember
    {before : List Char}
    (blanks : Blanks before)
    (write : Json → List Char)
    (member : String × Json) :
    (writtenMember before write member).WellNamed :=
  ⟨blanks, TextLiteral.writtenAs_of member.1, .nil⟩

theorem writeMembers_eq_map
    (members : List (String × Json)) :
    writeMembers members =
      members.map (fun member => (writtenMember [] writeCompact member).text) := by
  induction members with
  | nil =>
      rfl
  | cons member rest inductionHypothesis =>
      obtain ⟨name, value⟩ := member
      rw [writeMembers, inductionHypothesis, List.map_cons]
      simp [writtenMember, WrittenMember.text, writeText]

/-- A list is written when its items are. -/
theorem writtenAs_list
    {items : List Json}
    {write : Json → List Char}
    {behind : List Char}
    (blanks : Blanks behind)
    (parts : ∀ item ∈ items, item.node.WrittenAs (write item)) :
    (node (.list items)).WrittenAs
      ('[' :: (separated [','] (items.map write) ++ (behind ++ [']']))) := by
  have placed :
      ∀ item ∈ items.map (fun item => (item.node, write item)), item.1.WrittenAs item.2 :=
    List.forall_mem_map.mpr parts
  have written := Node.WrittenAs.list blanks placed
  rw [node, itemNodes_eq_map]
  simpa [Function.comp_def] using written

/-- An object is written when the values of its members are. -/
theorem writtenAs_object
    {members : List (String × Json)}
    {write : Json → List Char}
    {before behind : List Char}
    (blanks : Blanks before)
    (blanksBehind : Blanks behind)
    (parts : ∀ member ∈ members, member.2.node.WrittenAs (write member.2)) :
    (node (.object members)).WrittenAs
      ('\x7b'
        :: (separated [','] (members.map fun member => (writtenMember before write member).text)
          ++ (behind ++ ['\x7d']))) := by
  have names :
      ∀ member ∈ members.map (writtenMember before write), member.WellNamed := by
    intro member placed
    obtain ⟨source, _, rfl⟩ := List.mem_map.mp placed
    exact wellNamed_writtenMember blanks write source
  have values :
      ∀ member ∈ members.map (writtenMember before write),
        member.value.WrittenAs member.valueText := by
    intro member placed
    obtain ⟨source, inMembers, rfl⟩ := List.mem_map.mp placed
    exact parts source inMembers
  have written := Node.WrittenAs.object blanksBehind names values
  rw [node, memberNodes_eq_map]
  simpa [Function.comp_def, writtenMember, WrittenMember.member] using written

/-- The compact text of a value is one way in which its tree is written. -/
theorem writtenAs_writeCompact
    (value : Json) :
    value.node.WrittenAs (writeCompact value) := by
  induction value using partsInduction with
  | null =>
      exact .null
  | boolean value =>
      exact writtenAs_boolean value
  | integer value =>
      exact writtenAs_integer value
  | float value =>
      exact writtenAs_float value
  | text value =>
      exact writtenAs_text value
  | list items inductionHypothesis =>
      rw [writeCompact, writeItems_eq_map]
      have written := writtenAs_list .nil inductionHypothesis
      exact written
  | object members inductionHypothesis =>
      rw [writeCompact, writeMembers_eq_map]
      have written := writtenAs_object .nil .nil inductionHypothesis
      exact written

theorem writtenAs_compact
    (value : Json) :
    value.node.WrittenAs (compact value).toList := by
  rw [compact, String.toList_ofList]
  exact writtenAs_writeCompact value

/-- The compact text of a value is read as the document of its tree. -/
theorem read_compact
    (value : Json) :
    read (compact value) = ⟨value.node, none⟩ :=
  read_of_writtenAs (writtenAs_compact value)

/-! ## The pretty form -/

theorem writePrettyItems_eq_map
    (level : Nat)
    (items : List Json) :
    writePrettyItems level items = items.map (writePretty level) := by
  induction items with
  | nil =>
      rfl
  | cons item rest inductionHypothesis =>
      rw [writePrettyItems, inductionHypothesis, List.map_cons]

/-- The pretty text of a member's value, behind a blank. -/
def writeValue
    (level : Nat)
    (value : Json) : List Char :=
  ' ' :: writePretty level value

theorem writePrettyMembers_eq_map
    (level : Nat)
    (members : List (String × Json)) :
    writePrettyMembers level members =
      members.map (fun member => (writtenMember [] (writeValue level) member).text) := by
  induction members with
  | nil =>
      rfl
  | cons member rest inductionHypothesis =>
      obtain ⟨name, value⟩ := member
      rw [writePrettyMembers, inductionHypothesis, List.map_cons]
      simp [writtenMember, WrittenMember.text, writeText, writeValue]

theorem blanks_lineBreak
    (level : Nat) :
    Blanks (lineBreak level) := by
  intro character member
  rcases List.mem_cons.mp member with rfl | blank
  · rfl
  · rw [List.eq_of_mem_replicate blank]
    rfl

/-- Blanks behind the separators may as well stand in front of the parts. -/
theorem append_separated
    (blanks part : List Char)
    (rest : List (List Char)) :
    blanks ++ separated (',' :: blanks) (part :: rest) =
      separated [','] ((part :: rest).map (blanks ++ ·)) := by
  induction rest generalizing part with
  | nil =>
      rfl
  | cons next further inductionHypothesis =>
      have others := inductionHypothesis next
      simp only [List.map_cons, separated] at others ⊢
      rw [← others]
      simp

/-- Parts on lines of their own are parts with blanks in front. -/
theorem bracketed_eq
    (opening closing : Char)
    (level : Nat)
    (parts : List (List Char)) :
    ∃ behind,
      Blanks behind ∧
        bracketed opening closing level parts =
          opening
            :: (separated [','] (parts.map (lineBreak (level + 1) ++ ·))
              ++ (behind ++ [closing])) := by
  cases parts with
  | nil =>
      exact ⟨[], .nil, rfl⟩
  | cons part rest =>
      refine ⟨lineBreak level, blanks_lineBreak level, ?_⟩
      rw [bracketed, append_separated]
      · simp
      · exact nofun

/-- The pretty text of a value, from whatever level, is one way in which its tree is written. -/
theorem writtenAs_writePretty
    (level : Nat)
    (value : Json) :
    value.node.WrittenAs (writePretty level value) := by
  induction value using partsInduction generalizing level with
  | null =>
      exact .null
  | boolean value =>
      exact writtenAs_boolean value
  | integer value =>
      exact writtenAs_integer value
  | float value =>
      exact writtenAs_float value
  | text value =>
      exact writtenAs_text value
  | list items inductionHypothesis =>
      obtain ⟨behind, blanks, shape⟩ :=
        bracketed_eq '[' ']' level (writePrettyItems (level + 1) items)
      rw [writePretty, shape, writePrettyItems_eq_map, List.map_map]
      refine writtenAs_list blanks fun item member => ?_
      have written :=
        (inductionHypothesis item member (level + 1)).spaced (blanks_lineBreak (level + 1)) .nil
      simpa using written
  | object members inductionHypothesis =>
      obtain ⟨behind, blanks, shape⟩ :=
        bracketed_eq '\x7b' '\x7d' level (writePrettyMembers (level + 1) members)
      rw [writePretty, shape, writePrettyMembers_eq_map, List.map_map]
      have values :
          ∀ member ∈ members, member.2.node.WrittenAs (writeValue (level + 1) member.2) := by
        intro member inMembers
        have blank : Blanks [' '] := by
          simp [Blanks, isSpace]
        have written := (inductionHypothesis member inMembers (level + 1)).spaced blank .nil
        simpa [writeValue] using written
      have written := writtenAs_object (blanks_lineBreak (level + 1)) blanks values
      exact written

theorem writtenAs_pretty
    (value : Json) :
    value.node.WrittenAs (pretty value).toList := by
  rw [pretty, String.toList_ofList]
  exact writtenAs_writePretty 0 value

end QueryAgent.Json
