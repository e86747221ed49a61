namespace QueryAgent

/-!
# Entries in the order of their names

Lists of named entries with strictly increasing names, compared by code point.
Giving a name a second time replaces what it named before.
-/

/-- Adds an entry at its place, in place of an entry of the same name. -/
def insertEntry
    (name : String)
    (value : α) : List (String × α) → List (String × α)
  | [] =>
      [(name, value)]
  | (other, kept) :: rest =>
      if name < other then
        (name, value) :: (other, kept) :: rest
      else if name = other then
        (name, value) :: rest
      else
        (other, kept) :: insertEntry name value rest

/-- Sorts entries by name; of entries with one name the last one stays. -/
def sortEntries
    (entries : List (String × α)) : List (String × α) :=
  entries.foldl (fun sorted entry => insertEntry entry.1 entry.2 sorted) []

/-- The value of a name, none when there is no such entry. -/
def findNamed?
    (name : String) : List (String × α) → Option α
  | [] =>
      none
  | (other, value) :: rest =>
      if name = other then
        some value
      else
        findNamed? name rest

/-- Every name is less than the names that follow it. -/
def EntriesOrdered
    (entries : List (String × α)) : Prop :=
  entries.Pairwise (fun earlier later => earlier.1 < later.1)

/-- Names in order stay in order under other values. -/
theorem EntriesOrdered.map
    {entries : List (String × β)}
    (ordered : EntriesOrdered entries)
    (convert : β → γ) :
    EntriesOrdered (entries.map (fun entry => (entry.1, convert entry.2))) :=
  List.pairwise_map.mpr ordered

private theorem insertEntry_above
    {bound name : String}
    {value : α}
    {entries : List (String × α)}
    (above : ∀ entry ∈ entries, bound < entry.1)
    (nameAbove : bound < name) :
    ∀ entry ∈ insertEntry name value entries, bound < entry.1 := by
  induction entries with
  | nil =>
      simpa [insertEntry] using nameAbove
  | cons head rest inductionHypothesis =>
      obtain ⟨other, kept⟩ := head
      have headAbove : bound < other := above (other, kept) (by simp)
      have restAbove : ∀ entry ∈ rest, bound < entry.1 :=
        fun entry member => above entry (by simp [member])
      simp only [insertEntry]
      split
      · intro entry member
        rcases List.mem_cons.mp member with rfl | member
        · exact nameAbove
        · exact above entry member
      · split
        · intro entry member
          rcases List.mem_cons.mp member with rfl | member
          · exact nameAbove
          · exact restAbove entry member
        · intro entry member
          rcases List.mem_cons.mp member with rfl | member
          · exact headAbove
          · exact inductionHypothesis restAbove entry member

/-- Adding an entry keeps the names in order. -/
theorem insertEntry_ordered
    {name : String}
    {value : α}
    {entries : List (String × α)}
    (ordered : EntriesOrdered entries) :
    EntriesOrdered (insertEntry name value entries) := by
  induction entries with
  | nil =>
      simp [insertEntry, EntriesOrdered]
  | cons head rest inductionHypothesis =>
      obtain ⟨other, kept⟩ := head
      obtain ⟨headBelow, restOrdered⟩ := List.pairwise_cons.mp ordered
      simp only [insertEntry]
      split
      next nameFirst =>
          refine List.pairwise_cons.mpr ⟨?_, ordered⟩
          intro entry member
          rcases List.mem_cons.mp member with rfl | member
          · exact nameFirst
          · exact String.lt_trans nameFirst (headBelow entry member)
      next notFirst =>
          split
          next same =>
              subst same
              exact List.pairwise_cons.mpr ⟨headBelow, restOrdered⟩
          next different =>
              have otherFirst : other < name := by
                apply Decidable.byContradiction
                intro notBelow
                exact different
                  (String.le_antisymm
                    (String.not_lt.mp notBelow) (String.not_lt.mp notFirst))
              refine List.pairwise_cons.mpr
                ⟨?_, inductionHypothesis restOrdered⟩
              exact insertEntry_above headBelow otherFirst

/-- Sorted entries are in order. -/
theorem sortEntries_ordered
    (entries : List (String × α)) :
    EntriesOrdered (sortEntries entries) := by
  suffices general :
      ∀ (sorted : List (String × α)),
        EntriesOrdered sorted →
          EntriesOrdered
            (entries.foldl
              (fun sorted entry => insertEntry entry.1 entry.2 sorted) sorted) by
    exact general [] List.Pairwise.nil
  induction entries with
  | nil =>
      exact fun sorted ordered => ordered
  | cons head rest inductionHypothesis =>
      exact fun sorted ordered =>
        inductionHypothesis _ (insertEntry_ordered ordered)

/-- An entry whose name is greater than all others goes to the end. -/
theorem insertEntry_of_greatest
    {name : String}
    {entries : List (String × α)}
    (greatest : ∀ entry ∈ entries, entry.1 < name)
    (value : α) :
    insertEntry name value entries = entries ++ [(name, value)] := by
  induction entries with
  | nil =>
      rfl
  | cons head rest inductionHypothesis =>
      obtain ⟨other, kept⟩ := head
      have below : other < name := greatest (other, kept) (by simp)
      have notFirst : ¬ name < other :=
        fun reversed => String.lt_irrefl name (String.lt_trans reversed below)
      have different : name ≠ other := by
        rintro rfl
        exact notFirst below
      rw [insertEntry, if_neg notFirst, if_neg different,
        inductionHypothesis fun entry member => greatest entry (by simp [member])]
      rfl

/-- Entries in order are sorted already. -/
theorem sortEntries_of_ordered
    {entries : List (String × α)}
    (ordered : EntriesOrdered entries) :
    sortEntries entries = entries := by
  suffices general :
      ∀ sorted : List (String × α),
        EntriesOrdered (sorted ++ entries) →
          entries.foldl
              (fun sorted entry => insertEntry entry.1 entry.2 sorted) sorted =
            sorted ++ entries by
    exact general [] ordered
  clear ordered
  induction entries with
  | nil =>
      simp
  | cons head rest inductionHypothesis =>
      intro sorted ordered
      have greatest : ∀ entry ∈ sorted, entry.1 < head.1 := fun entry member =>
        (List.pairwise_append.mp ordered).2.2 entry member head (by simp)
      rw [List.append_cons] at ordered ⊢
      rw [List.foldl_cons, insertEntry_of_greatest greatest]
      exact inductionHypothesis _ ordered

/-! ## Looking names up -/

/-- Of two lists the first one with the name counts. -/
theorem findNamed?_append
    (name : String)
    (first second : List (String × α)) :
    findNamed? name (first ++ second) =
      (findNamed? name first).or (findNamed? name second) := by
  induction first with
  | nil =>
      rfl
  | cons head rest inductionHypothesis =>
      obtain ⟨other, value⟩ := head
      simp only [List.cons_append, findNamed?]
      split
      · rfl
      · exact inductionHypothesis

/-- A name has a value exactly when an entry has the name. -/
theorem isSome_findNamed?
    {name : String}
    {entries : List (String × α)} :
    (findNamed? name entries).isSome = true ↔ name ∈ entries.map (·.1) := by
  induction entries with
  | nil =>
      simp [findNamed?]
  | cons head rest inductionHypothesis =>
      obtain ⟨other, value⟩ := head
      simp only [findNamed?, List.map_cons, List.mem_cons]
      split
      next same =>
          simp [same]
      next different =>
          simp [inductionHypothesis, different]

/-- An added entry is found under its name, and every other one as before. -/
theorem findNamed?_insertEntry
    (wanted name : String)
    (value : α)
    (entries : List (String × α)) :
    findNamed? wanted (insertEntry name value entries) =
      if wanted = name then some value else findNamed? wanted entries := by
  induction entries with
  | nil =>
      rfl
  | cons head rest inductionHypothesis =>
      obtain ⟨other, kept⟩ := head
      simp only [insertEntry]
      split
      · rfl
      · split
        next same =>
            subst same
            simp only [findNamed?]
            split <;> rfl
        next different =>
            simp only [findNamed?, inductionHypothesis]
            split
            next found =>
                rw [if_neg (found ▸ Ne.symm different)]
            next =>
                rfl

/-- In sorted entries a name has the value of the last entry with the name. -/
theorem findNamed?_sortEntries
    (name : String)
    (entries : List (String × α)) :
    findNamed? name (sortEntries entries) = findNamed? name entries.reverse := by
  suffices general :
      ∀ sorted : List (String × α),
        findNamed? name
            (entries.foldl
              (fun sorted entry => insertEntry entry.1 entry.2 sorted) sorted) =
          (findNamed? name entries.reverse).or (findNamed? name sorted) by
    simpa [sortEntries, findNamed?] using general []
  induction entries with
  | nil =>
      exact fun sorted => rfl
  | cons head rest inductionHypothesis =>
      intro sorted
      rw [List.foldl_cons, inductionHypothesis, findNamed?_insertEntry,
        List.reverse_cons, findNamed?_append, Option.or_assoc]
      congr 1
      simp only [findNamed?]
      split <;> rfl

end QueryAgent
