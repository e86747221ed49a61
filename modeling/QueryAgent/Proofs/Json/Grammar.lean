import QueryAgent.Json.Decode
import QueryAgent.Proofs.Json.Literals
import QueryAgent.Proofs.Json.Texts

namespace QueryAgent.Json

/-!
# Well-formed JSON

How a value is written: each token in any of its forms, with any blanks between
the tokens.  A text that is well-formed is read as the value that it is written
for, whatever its layout, and such a value can be passed over.
-/

/-! ## Blanks -/

/-- Nothing but blanks. -/
def Blanks
    (text : List Char) : Prop :=
  ∀ character ∈ text, isSpace character = true

theorem Blanks.nil :
    Blanks [] :=
  nofun

theorem Blanks.append
    {before after : List Char}
    (blanks : Blanks before)
    (further : Blanks after) :
    Blanks (before ++ after) := by
  intro character member
  rcases List.mem_append.mp member with first | second
  · exact blanks character first
  · exact further character second

/-- Blanks in front are skipped. -/
theorem skipSpaces_blanks
    {blanks : List Char}
    (areBlank : Blanks blanks)
    (source : List Char) :
    skipSpaces (blanks ++ source) = skipSpaces source := by
  induction blanks with
  | nil =>
      rfl
  | cons character rest inductionHypothesis =>
      have isBlank := areBlank character (by simp)
      have further := inductionHypothesis fun other member => areBlank other (by simp [member])
      simpa [skipSpaces, isBlank] using further

/-- Nothing is skipped in front of what is no blank. -/
theorem skipSpaces_cons
    {character : Char}
    (notSpace : isSpace character = false)
    (rest : List Char) :
    skipSpaces (character :: rest) = character :: rest := by
  simp [skipSpaces, notSpace]

/-- A character that goes on with no number. -/
theorem endsNumber_cons
    {character : Char}
    (stops : continuesNumber character = false)
    (rest : List Char) :
    EndsNumber (character :: rest) := by
  intro first same
  cases same
  exact stops

theorem comma_endsNumber
    (rest : List Char) :
    EndsNumber (',' :: rest) :=
  endsNumber_cons rfl rest

theorem bracket_endsNumber
    (rest : List Char) :
    EndsNumber (']' :: rest) :=
  endsNumber_cons rfl rest

theorem brace_endsNumber
    (rest : List Char) :
    EndsNumber ('\x7d' :: rest) :=
  endsNumber_cons rfl rest

/-- A number ends before blanks. -/
theorem endsNumber_blanks
    {blanks after : List Char}
    (areBlank : Blanks blanks)
    (ends : EndsNumber after) :
    EndsNumber (blanks ++ after) := by
  cases blanks with
  | nil =>
      exact ends
  | cons character rest =>
      refine endsNumber_cons ?_ _
      have isBlank := areBlank character (by simp)
      simp only [isSpace, Bool.or_eq_true, decide_eq_true_eq] at isBlank
      rcases isBlank with ((rfl | rfl) | rfl) | rfl <;> rfl

/-! ## The grammar -/

/-- A member as it is written: its name between quotes, with blanks around, and its value. -/
structure WrittenMember where
  before : List Char
  name : TextLiteral
  nameText : List Char
  behind : List Char
  value : Node
  valueText : List Char

namespace WrittenMember

/-- The member of an object that a written one stands for. -/
def member
    (written : WrittenMember) : TextLiteral × Node :=
  (written.name, written.value)

/-- The whole text of a member. -/
def text
    (written : WrittenMember) : List Char :=
  written.before
    ++ '"' :: (written.nameText ++ '"' :: (written.behind ++ ':' :: written.valueText))

/-- A member whose name is written as it should be. -/
structure WellNamed
    (written : WrittenMember) : Prop where
  before : Blanks written.before
  name : written.name.WrittenAs written.nameText
  behind : Blanks written.behind

end WrittenMember

/-- How a value is written: in any form of its tokens and with any blanks between them. -/
inductive Node.WrittenAs : Node → List Char → Prop where
  | null :
      WrittenAs .null "null".toList
  | boolean
      (value : Bool) :
      WrittenAs (.boolean value) (if value then "true" else "false").toList
  | number
      {literal : NumberLiteral}
      {text : List Char}
      (written : literal.WrittenAs text) :
      WrittenAs (.number literal) text
  | text
      {literal : TextLiteral}
      {content : List Char}
      (written : literal.WrittenAs content) :
      WrittenAs (.text literal) ('"' :: (content ++ ['"']))
  | list
      {items : List (Node × List Char)}
      {behind : List Char}
      (blanks : Blanks behind)
      (parts : ∀ item ∈ items, WrittenAs item.1 item.2) :
      WrittenAs (.list (items.map (·.1)) none)
        ('[' :: (separated [','] (items.map (·.2)) ++ (behind ++ [']'])))
  | object
      {members : List WrittenMember}
      {behind : List Char}
      (blanks : Blanks behind)
      (names : ∀ member ∈ members, member.WellNamed)
      (parts : ∀ member ∈ members, WrittenAs member.value member.valueText) :
      WrittenAs (.object (members.map WrittenMember.member) none)
        ('\x7b' :: (separated [','] (members.map WrittenMember.text) ++ (behind ++ ['\x7d'])))
  | spaced
      {node : Node}
      {before text behind : List Char}
      (blanks : Blanks before)
      (written : WrittenAs node text)
      (blanksBehind : Blanks behind) :
      WrittenAs node (before ++ (text ++ behind))

/-! ## First characters -/

/-- A character that opens a value: no blank, and no bracket that closes a list. -/
structure OpensValue
    (character : Char) : Prop where
  notSpace : isSpace character = false
  notBracket : character ≠ ']'

/-- A text that opens a value behind its blanks. -/
inductive Opens : List Char → Prop where
  | behind
      {before rest : List Char}
      {first : Char}
      (blanks : Blanks before)
      (opens : OpensValue first) :
      Opens (before ++ first :: rest)

/-- What follows a text that opens a value is not seen first. -/
theorem Opens.skipSpaces_append
    {text : List Char}
    (opens : Opens text)
    (after : List Char) :
    ∃ first rest, skipSpaces (text ++ after) = first :: rest ∧ OpensValue first := by
  cases opens with
  | @behind before rest first blanks opens =>
      refine ⟨first, rest ++ after, ?_, opens⟩
      rw [List.append_assoc, skipSpaces_blanks blanks, List.cons_append,
        skipSpaces_cons opens.notSpace]

theorem Opens.append
    {text : List Char}
    (opens : Opens text)
    (after : List Char) :
    Opens (text ++ after) := by
  cases opens with
  | behind blanks opens =>
      rw [List.append_assoc, List.cons_append]
      exact .behind blanks opens

/-- Parts begin with the first one. -/
theorem exists_separated_cons
    (separator part : List Char)
    (rest : List (List Char)) :
    ∃ further, separated separator (part :: rest) = part ++ further := by
  cases rest with
  | nil =>
      exact ⟨[], (List.append_nil part).symm⟩
  | cons next others =>
      exact ⟨_, List.append_assoc ..⟩

theorem Opens.separated
    {part : List Char}
    (opens : Opens part)
    (separator : List Char)
    (rest : List (List Char)) :
    Opens (separated separator (part :: rest)) := by
  obtain ⟨further, shape⟩ := exists_separated_cons separator part rest
  exact shape ▸ opens.append further

/-- A text without blanks in front opens with its first character. -/
theorem Opens.of_cons
    {first : Char}
    {text rest : List Char}
    (shape : text = first :: rest)
    (opens : OpensValue first) :
    Opens text := by
  have opensHere : Opens ([] ++ first :: rest) :=
    .behind .nil opens
  exact shape ▸ opensHere

/-- A sign or a digit. -/
def opensNumber
    (character : Char) : Bool :=
  character = '-' || character.isDigit

/-- Signs and digits open numbers alone. -/
theorem OpensValue.of_opensNumber
    {character : Char}
    (opens : opensNumber character = true) :
    OpensValue character := by
  constructor
  · by_contra space
    simp only [Bool.not_eq_false, isSpace, Bool.or_eq_true, decide_eq_true_eq] at space
    rcases space with ((rfl | rfl) | rfl) | rfl <;> cases opens
  · rintro rfl
    cases opens

/-- A number opens with its sign or its first digit. -/
theorem NumberLiteral.WrittenAs.opens
    {literal : NumberLiteral}
    {text : List Char}
    (written : literal.WrittenAs text) :
    ∃ first rest, text = first :: rest ∧ opensNumber first = true := by
  cases written with
  | @parts negative whole _ _ _ wholeDigits _ _ =>
      cases negative with
      | true =>
          exact ⟨'-', _, rfl, rfl⟩
      | false =>
          cases whole with
          | nil =>
              exact absurd rfl wholeDigits.nonempty
          | cons digit digits =>
              have isDigit := wholeDigits.digitsOnly digit (by simp)
              exact ⟨digit, _, rfl, by simp [opensNumber, isDigit]⟩

/-- A value opens with a character that opens a value. -/
theorem Node.WrittenAs.opens
    {node : Node}
    {text : List Char}
    (written : node.WrittenAs text) :
    Opens text := by
  induction written with
  | null =>
      exact .of_cons rfl ⟨rfl, by decide⟩
  | boolean value =>
      cases value
      · exact .of_cons (show _ = 'f' :: "alse".toList from rfl) ⟨rfl, by decide⟩
      · exact .of_cons (show _ = 't' :: "rue".toList from rfl) ⟨rfl, by decide⟩
  | number written =>
      obtain ⟨first, rest, shape, opens⟩ := written.opens
      exact .of_cons shape (.of_opensNumber opens)
  | text | list | object =>
      exact .of_cons rfl ⟨rfl, by decide⟩
  | spaced blanks written _ inductionHypothesis =>
      cases inductionHypothesis with
      | behind further opens =>
          rw [List.append_assoc, ← List.append_assoc]
          exact .behind (blanks.append further) opens

/-! ## Values without parts -/

/-- A text that is read as a value, up to blanks, with whatever ends a number behind it. -/
def ReadAs
    (node : Node)
    (text : List Char) : Prop :=
  ∀ fuel after,
    3 * text.length ≤ fuel →
      EndsNumber after →
        ∃ left,
          Blanks left ∧ readNode none fuel (text ++ after) = (node, some (left ++ after))

/-- A value is read alike behind any blanks. -/
theorem readNode_of_skipSpaces_eq
    {source other : List Char}
    (same : skipSpaces source = skipSpaces other)
    (fuel : Nat) :
    readNode none fuel source = readNode none fuel other := by
  cases fuel with
  | zero =>
      rw [readNode, readNode]
  | succ fuel =>
      simp only [readNode, same]

theorem readAs_null :
    ReadAs .null "null".toList := by
  intro fuel after enough _
  obtain ⟨fuel, rfl⟩ : ∃ less, fuel = less + 1 :=
    ⟨fuel - 1, by simp at enough; omega⟩
  exact ⟨[], .nil, by simp [readNode, skipSpaces, isSpace, readWord, nodeOfWord]⟩

theorem readAs_boolean
    (value : Bool) :
    ReadAs (.boolean value) (if value then "true" else "false").toList := by
  intro fuel after enough _
  obtain ⟨fuel, rfl⟩ : ∃ less, fuel = less + 1 :=
    ⟨fuel - 1, by cases value <;> simp at enough <;> omega⟩
  refine ⟨[], .nil, ?_⟩
  cases value <;>
    simp [readNode, skipSpaces, isSpace, readWord, nodeOfWord]

theorem readAs_text
    {literal : TextLiteral}
    {content : List Char}
    (written : literal.WrittenAs content) :
    ReadAs (.text literal) ('"' :: (content ++ ['"'])) := by
  intro fuel after enough _
  obtain ⟨fuel, rfl⟩ : ∃ less, fuel = less + 1 :=
    ⟨fuel - 1, by simp at enough; omega⟩
  exact ⟨[], .nil, by simp [readNode, skipSpaces_cons, isSpace, readText_written written]⟩

/-- A written number is read as its parts. -/
theorem readAs_number
    {literal : NumberLiteral}
    {text : List Char}
    (written : literal.WrittenAs text) :
    ReadAs (.number literal) text := by
  intro fuel after enough ends
  obtain ⟨first, rest, rfl, opens⟩ := written.opens
  obtain ⟨fuel, rfl⟩ : ∃ less, fuel = less + 1 :=
    ⟨fuel - 1, by simp at enough; omega⟩
  have reads := NumberLiteral.readNumber_written written ends
  rw [List.cons_append] at reads ⊢
  have different : ∀ {other : Char}, opensNumber other = false → first ≠ other := by
    rintro other closed rfl
    rw [opens] at closed
    cases closed
  have sign : (first = '-' || first.isDigit) = true := opens
  refine ⟨[], .nil, ?_⟩
  rw [readNode, skipSpaces_cons (OpensValue.of_opensNumber opens).notSpace]
  split
  next same =>
      cases same
  iterate 6
    next same =>
        exact absurd (List.cons.inj same).1 (different rfl)
  next same =>
      obtain ⟨rfl, rfl⟩ := List.cons.inj same
      rw [if_pos sign, reads]
      rfl

theorem ReadAs.spaced
    {node : Node}
    {before text behind : List Char}
    (blanks : Blanks before)
    (reads : ReadAs node text)
    (blanksBehind : Blanks behind) :
    ReadAs node (before ++ (text ++ behind)) := by
  intro fuel after enough ends
  simp only [List.length_append] at enough
  obtain ⟨left, areBlank, found⟩ :=
    reads fuel (behind ++ after) (by omega) (endsNumber_blanks blanksBehind ends)
  refine ⟨left ++ behind, areBlank.append blanksBehind, ?_⟩
  rw [List.append_assoc, List.append_assoc, List.append_assoc, ← found]
  exact readNode_of_skipSpaces_eq (skipSpaces_blanks blanks _) fuel

/-! ## Lists -/

section
variable {fuel : Nat} {source after : List Char}

/-- The first item stands behind the bracket. -/
theorem readItems_first
    {first : Char}
    {rest : List Char}
    (shape : skipSpaces source = first :: rest)
    (opens : OpensValue first) :
    readItems none (fuel + 1) true source = readItem none fuel (first :: rest) := by
  simp [readItems, shape, opens.notBracket]

/-- Behind a comma items are read as those behind the bracket are. -/
theorem readItems_further
    {left : List Char}
    (blanks : Blanks left)
    {first : Char}
    {rest : List Char}
    (shape : skipSpaces source = first :: rest)
    (opens : OpensValue first) :
    readItems none (fuel + 1) false (left ++ ',' :: source) =
      readItems none (fuel + 1) true source := by
  have comma : skipSpaces (left ++ ',' :: source) = ',' :: source := by
    rw [skipSpaces_blanks blanks, skipSpaces_cons rfl]
  rw [readItems_first shape opens]
  simp [readItems, comma, shape, opens.notBracket]

/-- The bracket ends the list. -/
theorem readItems_last
    {left : List Char}
    (blanks : Blanks left)
    (first : Bool) :
    readItems none (fuel + 1) first (left ++ ']' :: after) = ([], none, some after) := by
  have bracket : skipSpaces (left ++ ']' :: after) = ']' :: after := by
    rw [skipSpaces_blanks blanks, skipSpaces_cons rfl]
  simp [readItems, bracket]

/-- An item is read, and then what is behind its blanks. -/
theorem readItem_readAs
    {item : Node}
    {text : List Char}
    (reads : ReadAs item text)
    (opens : Opens text)
    (fuel : Nat)
    (enough : 3 * text.length ≤ fuel)
    (ends : EndsNumber after) :
    ∃ first rest left,
      skipSpaces (text ++ after) = first :: rest ∧ OpensValue first ∧ Blanks left ∧
        readItem none (fuel + 1) (first :: rest) =
          let (items, ending, rest) := readItems none fuel false (left ++ after)
          (item :: items, ending, rest) := by
  obtain ⟨first, rest, shape, opensValue⟩ := opens.skipSpaces_append after
  obtain ⟨left, areBlank, found⟩ := reads fuel after enough ends
  refine ⟨first, rest, left, shape, opensValue, areBlank, ?_⟩
  have alike : readNode none fuel (first :: rest) = readNode none fuel (text ++ after) :=
    readNode_of_skipSpaces_eq (by rw [shape, skipSpaces_cons opensValue.notSpace]) fuel
  rw [readItem, alike, found]

/-- Items between commas are read up to the bracket that closes the list. -/
theorem readItems_separated
    {items : List (Node × List Char)}
    (opens : ∀ item ∈ items, Opens item.2)
    (reads : ∀ item ∈ items, ReadAs item.1 item.2)
    {behind : List Char}
    (blanks : Blanks behind)
    (after : List Char)
    (fuel : Nat)
    (enough : 3 * (separated [','] (items.map (·.2))).length + 3 ≤ fuel) :
    readItems none fuel true
        (separated [','] (items.map (·.2)) ++ (behind ++ ']' :: after)) =
      (items.map (·.1), none, some after) := by
  induction items generalizing fuel with
  | nil =>
      obtain ⟨fuel, rfl⟩ : ∃ less, fuel = less + 1 :=
        ⟨fuel - 1, by omega⟩
      exact readItems_last blanks true
  | cons item rest inductionHypothesis =>
      obtain ⟨fuel, rfl⟩ : ∃ less, fuel = less + 3 :=
        ⟨fuel - 3, by omega⟩
      have opensItem := opens item (by simp)
      have readsItem := reads item (by simp)
      cases rest with
      | nil =>
          simp only [List.map_cons, List.map_nil, separated] at enough ⊢
          obtain ⟨first, others, left, shape, opensValue, areBlank, found⟩ :=
            readItem_readAs readsItem opensItem (fuel + 1) (by omega)
              (endsNumber_blanks blanks (bracket_endsNumber after))
          rw [readItems_first shape opensValue, found, ← List.append_assoc,
            readItems_last (areBlank.append blanks)]
      | cons next further =>
          simp only [List.map_cons, separated, List.length_append, List.length_cons,
            List.length_nil] at enough
          have furtherReads :=
            inductionHypothesis
              (fun other member => opens other (by simp [member]))
              (fun other member => reads other (by simp [member]))
              (fuel + 1) (by simp only [List.map_cons]; omega)
          obtain ⟨nextFirst, nextRest, nextShape, opensNext⟩ :=
            ((opens next (by simp)).separated _ _).skipSpaces_append (behind ++ ']' :: after)
          obtain ⟨first, others, left, shape, opensValue, areBlank, found⟩ :=
            readItem_readAs readsItem opensItem (fuel + 1) (by omega) (comma_endsNumber _)
          rw [List.map_cons, List.map_cons, separated, List.append_assoc, List.append_assoc,
            List.singleton_append, readItems_first shape opensValue, found,
            readItems_further areBlank nextShape opensNext]
          rw [List.map_cons] at furtherReads
          rw [furtherReads]
          rfl

theorem readAs_list
    {items : List (Node × List Char)}
    {behind : List Char}
    (blanks : Blanks behind)
    (opens : ∀ item ∈ items, Opens item.2)
    (reads : ∀ item ∈ items, ReadAs item.1 item.2) :
    ReadAs (.list (items.map (·.1)) none)
      ('[' :: (separated [','] (items.map (·.2)) ++ (behind ++ [']']))) := by
  intro fuel after enough _
  simp only [List.length_cons, List.length_append] at enough
  obtain ⟨fuel, rfl⟩ : ∃ less, fuel = less + 1 :=
    ⟨fuel - 1, by omega⟩
  have found := readItems_separated opens reads blanks after fuel (by omega)
  refine ⟨[], .nil, ?_⟩
  simp [readNode, skipSpaces_cons, isSpace, found]

end

/-! ## Objects -/

section
variable {fuel : Nat} {source after : List Char}

/-- A member begins with the quote in front of its name. -/
theorem WrittenMember.skipSpaces_text
    {member : WrittenMember}
    (named : member.WellNamed)
    (after : List Char) :
    skipSpaces (member.text ++ after) =
      '"' :: (member.nameText
        ++ '"' :: (member.behind ++ ':' :: (member.valueText ++ after))) := by
  rw [WrittenMember.text, List.append_assoc, skipSpaces_blanks named.before, List.cons_append,
    skipSpaces_cons rfl]
  simp

/-- The first member stands behind the brace. -/
theorem readMembers_first
    {rest : List Char}
    (shape : skipSpaces source = '"' :: rest) :
    readMembers none (fuel + 1) true source = readMember none fuel rest := by
  simp [readMembers, shape]

/-- Behind a comma members are read as those behind the brace are. -/
theorem readMembers_further
    {left : List Char}
    (blanks : Blanks left)
    {rest : List Char}
    (shape : skipSpaces source = '"' :: rest) :
    readMembers none (fuel + 1) false (left ++ ',' :: source) =
      readMembers none (fuel + 1) true source := by
  have comma : skipSpaces (left ++ ',' :: source) = ',' :: source := by
    rw [skipSpaces_blanks blanks, skipSpaces_cons rfl]
  rw [readMembers_first shape]
  simp [readMembers, comma, shape]

/-- The brace ends the object. -/
theorem readMembers_last
    {left : List Char}
    (blanks : Blanks left)
    (first : Bool) :
    readMembers none (fuel + 1) first (left ++ '\x7d' :: after) = ([], none, some after) := by
  have brace : skipSpaces (left ++ '\x7d' :: after) = '\x7d' :: after := by
    rw [skipSpaces_blanks blanks, skipSpaces_cons rfl]
  simp [readMembers, brace]

/-- A member is read, and then what is behind its blanks. -/
theorem readMember_readAs
    {member : WrittenMember}
    (named : member.WellNamed)
    (reads : ReadAs member.value member.valueText)
    (fuel : Nat)
    (enough : 3 * member.text.length ≤ fuel)
    (ends : EndsNumber after) :
    ∃ left,
      Blanks left ∧
        readMember none (fuel + 1)
            (member.nameText
              ++ '"' :: (member.behind ++ ':' :: (member.valueText ++ after))) =
          let (members, ending, rest) := readMembers none fuel false (left ++ after)
          (member.member :: members, ending, rest) := by
  simp only [WrittenMember.text, List.length_append, List.length_cons] at enough
  obtain ⟨left, areBlank, found⟩ := reads fuel after (by omega) ends
  have colon :
      skipSpaces (member.behind ++ ':' :: (member.valueText ++ after)) =
        ':' :: (member.valueText ++ after) := by
    rw [skipSpaces_blanks named.behind, skipSpaces_cons rfl]
  refine ⟨left, areBlank, ?_⟩
  simp [readMember, readText_written named.name, colon, found, WrittenMember.member]

/-- Members between commas are read up to the brace that closes the object. -/
theorem readMembers_separated
    {members : List WrittenMember}
    (names : ∀ member ∈ members, member.WellNamed)
    (reads : ∀ member ∈ members, ReadAs member.value member.valueText)
    {behind : List Char}
    (blanks : Blanks behind)
    (after : List Char)
    (fuel : Nat)
    (enough : 3 * (separated [','] (members.map WrittenMember.text)).length + 3 ≤ fuel) :
    readMembers none fuel true
        (separated [','] (members.map WrittenMember.text) ++ (behind ++ '\x7d' :: after)) =
      (members.map WrittenMember.member, none, some after) := by
  induction members generalizing fuel with
  | nil =>
      obtain ⟨fuel, rfl⟩ : ∃ less, fuel = less + 1 :=
        ⟨fuel - 1, by omega⟩
      exact readMembers_last blanks true
  | cons member rest inductionHypothesis =>
      obtain ⟨fuel, rfl⟩ : ∃ less, fuel = less + 3 :=
        ⟨fuel - 3, by omega⟩
      have named := names member (by simp)
      have readsValue := reads member (by simp)
      cases rest with
      | nil =>
          simp only [List.map_cons, List.map_nil, separated] at enough ⊢
          obtain ⟨left, areBlank, found⟩ :=
            readMember_readAs named readsValue (fuel + 1) (by omega)
              (endsNumber_blanks blanks (brace_endsNumber after))
          rw [readMembers_first (member.skipSpaces_text named _), found, ← List.append_assoc,
            readMembers_last (areBlank.append blanks)]
      | cons next further =>
          simp only [List.map_cons, separated, List.length_append, List.length_cons,
            List.length_nil] at enough
          have furtherReads :=
            inductionHypothesis
              (fun other inRest => names other (by simp [inRest]))
              (fun other inRest => reads other (by simp [inRest]))
              (fuel + 1) (by simp only [List.map_cons]; omega)
          obtain ⟨others, shape⟩ :=
            exists_separated_cons [','] next.text (further.map WrittenMember.text)
          have nextShape :=
            next.skipSpaces_text (names next (by simp)) (others ++ (behind ++ '\x7d' :: after))
          rw [← List.append_assoc, ← shape] at nextShape
          obtain ⟨left, areBlank, found⟩ :=
            readMember_readAs named readsValue (fuel + 1) (by omega) (comma_endsNumber _)
          rw [List.map_cons, List.map_cons, separated, List.append_assoc, List.append_assoc,
            List.singleton_append, readMembers_first (member.skipSpaces_text named _), found,
            readMembers_further areBlank nextShape]
          rw [List.map_cons] at furtherReads
          rw [furtherReads]
          rfl

/-- Behind the brace stands a quote or the other brace. -/
theorem skipSpaces_members
    {members : List WrittenMember}
    (names : ∀ member ∈ members, member.WellNamed)
    {behind : List Char}
    (blanks : Blanks behind)
    (after : List Char) :
    ∃ next rest,
      skipSpaces
          (separated [','] (members.map WrittenMember.text) ++ (behind ++ '\x7d' :: after)) =
        next :: rest ∧
      (next = '"' ∨ next = '\x7d') := by
  cases members with
  | nil =>
      exact ⟨_, _, (skipSpaces_blanks blanks _).trans (skipSpaces_cons rfl _), .inr rfl⟩
  | cons member rest =>
      obtain ⟨others, shape⟩ :=
        exists_separated_cons [','] member.text (rest.map WrittenMember.text)
      rw [List.map_cons, shape, List.append_assoc]
      exact ⟨'"', _, member.skipSpaces_text (names member (by simp)) _, .inl rfl⟩

theorem readAs_object
    {members : List WrittenMember}
    {behind : List Char}
    (blanks : Blanks behind)
    (names : ∀ member ∈ members, member.WellNamed)
    (reads : ∀ member ∈ members, ReadAs member.value member.valueText) :
    ReadAs (.object (members.map WrittenMember.member) none)
      ('\x7b' :: (separated [','] (members.map WrittenMember.text) ++ (behind ++ ['\x7d']))) := by
  intro fuel after enough _
  simp only [List.length_cons, List.length_append] at enough
  obtain ⟨fuel, rfl⟩ : ∃ less, fuel = less + 1 :=
    ⟨fuel - 1, by omega⟩
  have found := readMembers_separated names reads blanks after fuel (by omega)
  obtain ⟨next, rest, shape, quoteOrBrace⟩ := skipSpaces_members names blanks after
  refine ⟨[], .nil, ?_⟩
  simp [readNode, skipSpaces_cons, isSpace, shape, quoteOrBrace, found]

end

/-! ## Documents -/

/-- A value is read from every text that it is written as. -/
theorem Node.WrittenAs.readAs
    {node : Node}
    {text : List Char}
    (written : node.WrittenAs text) :
    ReadAs node text := by
  induction written with
  | null =>
      exact readAs_null
  | boolean value =>
      exact readAs_boolean value
  | number written =>
      exact readAs_number written
  | text written =>
      exact readAs_text written
  | list blanks parts inductionHypothesis =>
      exact readAs_list blanks (fun item member => (parts item member).opens) inductionHypothesis
  | object blanks names parts inductionHypothesis =>
      exact readAs_object blanks names inductionHypothesis
  | spaced blanks _ blanksBehind inductionHypothesis =>
      exact inductionHypothesis.spaced blanks blanksBehind

/-- A well-formed text is read as the document of the value that it is written for. -/
theorem read_of_writtenAs
    {node : Node}
    {source : String}
    (written : node.WrittenAs source.toList) :
    read source = ⟨node, none⟩ := by
  obtain ⟨left, areBlank, reads⟩ :=
    written.readAs (readingFuel source.toList) [] (by unfold readingFuel; omega)
      (by simp [Text.EndsRun])
  rw [List.append_nil, List.append_nil] at reads
  have nothingLeft : skipSpaces left = [] := by
    simpa [skipSpaces] using skipSpaces_blanks areBlank []
  simp [read, readMarked, reads, nothingLeft]

/-- A well-formed text is decoded as the value that it is written for. -/
theorem decodeString_of_writtenAs
    {node : Node}
    {source : String}
    (written : node.WrittenAs source.toList)
    (decode : Decoder α) :
    decodeString decode source = decode nestingLimit node := by
  rw [decodeString, read_of_writtenAs written, Document.decode]
  cases decode nestingLimit node <;>
    rfl

/-! ## Passing over -/

theorem skipItems_of_skip
    {items : List Node}
    (skips : ∀ item ∈ items, item.skip = .ok ()) :
    skipItems items = .ok () := by
  induction items with
  | nil =>
      rfl
  | cons item rest inductionHypothesis =>
      rw [skipItems, skips item (by simp),
        inductionHypothesis fun other member => skips other (by simp [member])]
      rfl

theorem skipMembers_of_skip
    {members : List (TextLiteral × Node)}
    (names : ∀ member ∈ members, member.1.skip = .ok ())
    (skips : ∀ member ∈ members, member.2.skip = .ok ()) :
    skipMembers members = .ok () := by
  induction members with
  | nil =>
      rfl
  | cons member rest inductionHypothesis =>
      obtain ⟨literal, part⟩ := member
      have skipsName : literal.skip = .ok () := names _ List.mem_cons_self
      have skipsPart : part.skip = .ok () := skips _ List.mem_cons_self
      rw [skipMembers, skipsName, skipsPart,
        inductionHypothesis (fun other member => names other (by simp [member]))
          fun other member => skips other (by simp [member])]
      rfl

theorem TextLiteral.WrittenAs.skip
    {literal : TextLiteral}
    {written : List Char}
    (writtenAs : literal.WrittenAs written) :
    literal.skip = .ok () := by
  cases writtenAs
  rfl

/-- What is well-formed can be passed over. -/
theorem Node.WrittenAs.skip
    {node : Node}
    {text : List Char}
    (written : node.WrittenAs text) :
    node.skip = .ok () := by
  induction written with
  | null | boolean | number =>
      rfl
  | text written =>
      exact written.skip
  | list blanks parts inductionHypothesis =>
      rw [Node.skip, skipItems_of_skip]
      · rfl
      · intro item member
        obtain ⟨part, inItems, rfl⟩ := List.mem_map.mp member
        exact inductionHypothesis part inItems
  | object blanks names parts inductionHypothesis =>
      rw [Node.skip, skipMembers_of_skip]
      · rfl
      · intro member inMembers
        obtain ⟨part, inParts, rfl⟩ := List.mem_map.mp inMembers
        exact (names part inParts).name.skip
      · intro member inMembers
        obtain ⟨part, inParts, rfl⟩ := List.mem_map.mp inMembers
        exact inductionHypothesis part inParts
  | spaced _ _ _ inductionHypothesis =>
      exact inductionHypothesis

end QueryAgent.Json
