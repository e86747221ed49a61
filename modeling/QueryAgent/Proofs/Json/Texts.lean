import QueryAgent.Json.Reader
import QueryAgent.Json.Writer

namespace QueryAgent.Json

/-!
# Written texts read back

A text between quotes is written piece by piece: a character as itself or by a
letter behind a backslash, a code unit by its number.  Each of these forms reads
back as the piece, and what the agent writes stands for the text.
-/

/-- How a piece of a text is written inside the quotes. -/
inductive TextPiece.WrittenAs : TextPiece → List Char → Prop where
  | letter
      {letter character : Char}
      (escapes : escaped? letter = some character) :
      WrittenAs (.character character) ['\\', letter]
  | unit
      {first second third fourth : Char}
      {number : Nat}
      (digits : Text.readHexadecimal? [first, second, third, fourth] = some number) :
      WrittenAs (.unit number) ['\\', 'u', first, second, third, fourth]
  | plain
      {character : Char}
      (notQuote : character ≠ '"')
      (notBackslash : character ≠ '\\')
      (notControl : ¬ character.toNat < 32) :
      WrittenAs (.character character) [character]

/-- How pieces are written, one behind the other. -/
inductive PiecesWrittenAs : List TextPiece → List Char → Prop where
  | nil :
      PiecesWrittenAs [] []
  | cons
      {piece : TextPiece}
      {pieces : List TextPiece}
      {written rest : List Char}
      (first : piece.WrittenAs written)
      (further : PiecesWrittenAs pieces rest) :
      PiecesWrittenAs (piece :: pieces) (written ++ rest)

/-- What is written between two quotes. -/
inductive TextLiteral.WrittenAs : TextLiteral → List Char → Prop where
  | pieces
      {pieces : List TextPiece}
      {written : List Char}
      (spelled : PiecesWrittenAs pieces written) :
      WrittenAs ⟨(joinPieces none pieces).bind (refuseMarked none), none⟩ written

/-! ## Reading -/

/-- A written piece is read as this piece. -/
theorem readPieces_piece
    (marker : Option Char)
    {piece : TextPiece}
    {written : List Char}
    (writtenAs : piece.WrittenAs written)
    (after : List Char) :
    readPieces marker (written ++ after) =
      (piece :: (readPieces marker after).1, (readPieces marker after).2) := by
  cases writtenAs with
  | @letter letter character escapes =>
      have notUnit : letter ≠ 'u' := by
        rintro rfl
        cases escapes
      simp only [List.cons_append, List.nil_append]
      rw [readPieces]
      · simp only [escapes]
      all_goals simp [notUnit]
  | unit digits =>
      simp only [List.cons_append, List.nil_append, readPieces, digits]
  | plain notQuote notBackslash notControl =>
      rw [List.singleton_append, readPieces]
      · simp only [if_neg notControl]
      all_goals simp [notQuote, notBackslash]

/-- Written pieces are read up to the quote behind them. -/
theorem readPieces_written
    (marker : Option Char)
    {pieces : List TextPiece}
    {written : List Char}
    (spelled : PiecesWrittenAs pieces written)
    (after : List Char) :
    readPieces marker (written ++ '"' :: after) = (pieces, .ok after) := by
  induction spelled with
  | nil =>
      simp [readPieces]
  | cons first further inductionHypothesis =>
      rw [List.append_assoc, readPieces_piece marker first, inductionHypothesis]

/-- A written text is read up to the quote that closes it. -/
theorem readText_written
    {literal : TextLiteral}
    {written : List Char}
    (writtenAs : literal.WrittenAs written)
    (after : List Char) :
    readText none (written ++ '"' :: after) = (literal, some after) := by
  cases writtenAs with
  | pieces spelled =>
      unfold readText
      rw [readPieces_written none spelled]

/-! ## Texts that the agent writes -/

/-- The character of a code. -/
theorem eq_ofNat_of_toNat
    {character : Char}
    {code : Nat}
    (coded : character.toNat = code) :
    character = Char.ofNat code := by
  rw [← coded, Char.ofNat_toNat]

/-- The digits that stand for a control spell its number. -/
theorem readHexadecimal?_control :
    ∀ number < 32,
      Text.readHexadecimal? ('0' :: '0' :: Text.hexByte (UInt8.ofNat number)) =
        some number := by
  decide

/-- A code unit below the halves of pairs stands for its character alone. -/
theorem joinPieces_unit
    (ending : Option Fault)
    {number : Nat}
    (control : number < 32)
    (rest : List TextPiece) :
    joinPieces ending (.unit number :: rest) =
      (joinPieces ending rest).map (Char.ofNat number :: ·) := by
  have notTrailing : isTrailingUnit number = false := by
    simp only [isTrailingUnit, Bool.and_eq_false_iff, decide_eq_false_iff_not]
    omega
  have notLeading : isLeadingUnit number = false := by
    simp only [isLeadingUnit, Bool.and_eq_false_iff, decide_eq_false_iff_not]
    omega
  cases rest with
  | nil =>
      cases ending <;> simp [joinPieces, notTrailing, notLeading, bind, Except.bind, Except.map]
  | cons next others =>
      cases next with
      | character value =>
          simp only [joinPieces, notTrailing, notLeading]
          rfl
      | unit value =>
          simp only [joinPieces, notTrailing, notLeading]
          rfl

/-- Every character is written as one piece, which stands for the character. -/
theorem exists_writtenAs_writeChar
    (character : Char) :
    ∃ piece : TextPiece,
      piece.WrittenAs (writeChar character) ∧
        ∀ rest,
          joinPieces none (piece :: rest) = (joinPieces none rest).map (character :: ·) := by
  have letters :
      ∀ {letter : Char}, escaped? letter = some character →
        ∃ piece : TextPiece,
          piece.WrittenAs ['\\', letter] ∧
            ∀ rest,
              joinPieces none (piece :: rest) =
                (joinPieces none rest).map (character :: ·) :=
    fun escapes => ⟨_, .letter escapes, fun _ => rfl⟩
  unfold writeChar
  split
  next special =>
      rw [Bool.or_eq_true, decide_eq_true_eq, decide_eq_true_eq] at special
      rcases special with rfl | rfl <;> exact letters rfl
  next ordinary =>
      rw [Bool.or_eq_true, decide_eq_true_eq, decide_eq_true_eq, not_or] at ordinary
      split
      next newline =>
          exact letters (newline ▸ rfl)
      split
      next tab =>
          exact letters (tab ▸ rfl)
      split
      next carriageReturn =>
          exact letters (carriageReturn ▸ rfl)
      split
      next backspace =>
          exact letters (eq_ofNat_of_toNat backspace ▸ rfl)
      split
      next formFeed =>
          exact letters (eq_ofNat_of_toNat formFeed ▸ rfl)
      split
      next control =>
          refine ⟨_, .unit (readHexadecimal?_control _ control), fun rest => ?_⟩
          rw [joinPieces_unit none control, Char.ofNat_toNat]
      next notControl =>
          exact ⟨_, .plain ordinary.1 ordinary.2 notControl, fun _ => rfl⟩

/-- Characters are written as pieces that stand for them. -/
theorem exists_piecesWrittenAs
    (characters : List Char) :
    ∃ pieces,
      PiecesWrittenAs pieces (characters.flatMap writeChar) ∧
        joinPieces none pieces = .ok characters := by
  induction characters with
  | nil =>
      exact ⟨[], .nil, rfl⟩
  | cons character rest inductionHypothesis =>
      obtain ⟨pieces, further, joinedRest⟩ := inductionHypothesis
      obtain ⟨piece, first, joinedFirst⟩ := exists_writtenAs_writeChar character
      refine ⟨piece :: pieces, .cons first further, ?_⟩
      rw [joinedFirst, joinedRest]
      rfl

/-- A text that was written without a fault. -/
def TextLiteral.of
    (content : String) : TextLiteral :=
  ⟨.ok content, none⟩

/-- A text is written as what spells it. -/
theorem TextLiteral.writtenAs_of
    (text : String) :
    (TextLiteral.of text).WrittenAs (text.toList.flatMap writeChar) := by
  obtain ⟨pieces, spelled, joins⟩ := exists_piecesWrittenAs text.toList
  have written := TextLiteral.WrittenAs.pieces spelled
  rw [joins] at written
  simpa [Except.bind, refuseMarked, TextLiteral.of] using written

end QueryAgent.Json
