import Conduit.Json.Printer
import Conduit.Json.Reader

/-! # Strings read back

The spelling of a string, with its escapes, is read back as the string, whatever
characters it has and whatever text follows its closing quote.
-/

namespace Conduit.Json

/-- The piece that the spelling of a character is read as. -/
def pieceOf (c : Char) : Reader.Piece :=
  match c with
  | '\x08' | '\t' | '\n' | '\x0c' | '\r' => .char c
  | c => if c.toNat < 0x20 then .unit c.toNat else .char c

theorem unit_hexDigits : ∀ n < 0x20,
    Reader.unit? '0' '0' (hexDigit (n / 16)) (hexDigit (n % 16)) = some n := by
  decide

theorem pieces_shortEscape {e c : Char} (short : Reader.shortEscape? e = some c)
    (tail : List Char) :
    Reader.pieces? ('\\' :: e :: tail) =
      (Reader.pieces? tail).map fun (ps, after) => (.char c :: ps, after) := by
  have other : e ≠ 'u' := by
    rintro rfl
    cases short
  rw [Reader.pieces?.eq_4 _ _ (fun _ _ _ _ _ same => absurd same other), short]
  cases Reader.pieces? tail <;> rfl

/-- The spelling of a character is read as its piece. -/
theorem pieces_escaped (c : Char) (tail : List Char) :
    Reader.pieces? (escaped c ++ tail) =
      (Reader.pieces? tail).map fun (ps, after) => (pieceOf c :: ps, after) := by
  unfold escaped
  split
  iterate 7 exact pieces_shortEscape rfl tail
  next quote backslash b t n f r =>
    have piece : pieceOf c = if c.toNat < 0x20 then .unit c.toNat else .char c := by
      unfold pieceOf
      split <;> simp_all
    rw [piece]
    split
    next control =>
      simp only [List.cons_append, List.nil_append, Reader.pieces?, unit_hexDigits _ control]
      cases Reader.pieces? tail <;> rfl
    next plain =>
      rw [List.singleton_append,
        Reader.pieces?.eq_5 _ _ quote (fun _ _ _ _ _ same => absurd same backslash)
          (fun _ _ same => absurd same backslash), if_neg plain]
      cases Reader.pieces? tail <;> rfl

/-- The spellings of characters up to a quote are read as their pieces. -/
theorem pieces_spelling (cs tail : List Char) :
    Reader.pieces? (cs.flatMap escaped ++ '"' :: tail) = some (cs.map pieceOf, tail) := by
  induction cs with
  | nil => rfl
  | cons c cs ih =>
      rw [List.flatMap_cons, List.append_assoc, pieces_escaped, ih]
      rfl

theorem join_pieceOf_cons (c : Char) (ps : List Reader.Piece) :
    Reader.join? (pieceOf c :: ps) = (Reader.join? ps).map (c :: ·) := by
  unfold pieceOf
  split
  iterate 5 rw [Reader.join?]
  split
  next control =>
    rw [Reader.join?.eq_def]
    dsimp only
    rw [if_neg (by omega), if_neg (by omega), Char.ofNat_toNat]
  next => rw [Reader.join?]

/-- The pieces of characters are joined to these characters. -/
theorem join_pieceOf (cs : List Char) : Reader.join? (cs.map pieceOf) = some cs := by
  induction cs with
  | nil => rfl
  | cons c cs ih =>
      rw [List.map_cons, join_pieceOf_cons, ih]
      rfl

/-- **A string reads back** from its spelling, after the opening quote. -/
theorem stringBody_spelling (s : String) (tail : List Char) :
    Reader.stringBody (s.toList.flatMap escaped ++ '"' :: tail) = .ok (s, tail) := by
  rw [Reader.stringBody, pieces_spelling]
  dsimp only
  rw [join_pieceOf]
  dsimp only
  rw [String.ofList_toList]

end Conduit.Json
