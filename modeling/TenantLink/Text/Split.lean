/-!
# Cutting text at separators

`splitAt` gives the pieces between all separators and `cutAt?` what lies on either side of the
first one. `splitAt_cons` says how the pieces of a longer text come from those of a shorter one.
-/

namespace TenantLink.Text

/-- `splitAt` behind the finished pieces `pieces`, last first, and the start `piece` of the next
one, backwards. -/
def splitLoop (sep : Char) (pieces : List (List Char)) (piece : List Char) :
    List Char → List (List Char)
  | [] => (piece.reverse :: pieces).reverse
  | c :: rest =>
    if c = sep then splitLoop sep (piece.reverse :: pieces) [] rest
    else splitLoop sep pieces (c :: piece) rest

/-- The pieces of `chars` between the separators. There is always at least one. -/
def splitAt (sep : Char) (chars : List Char) : List (List Char) := splitLoop sep [] [] chars

/-- What comes before the first separator and what comes after it. -/
def cutAt? (sep : Char) (chars : List Char) : Option (List Char × List Char) :=
  match chars.dropWhile (· ≠ sep) with
  | [] => none
  | _ :: after => some (chars.takeWhile (· ≠ sep), after)

theorem splitLoop_eq_append (sep : Char) (pieces : List (List Char)) (piece chars : List Char) :
    splitLoop sep pieces piece chars = pieces.reverse ++ splitLoop sep [] piece chars := by
  induction chars generalizing pieces piece with
  | nil => simp [splitLoop]
  | cons c rest ih =>
    simp only [splitLoop]
    split
    · rw [ih, ih [piece.reverse]]
      simp
    · exact ih _ _

theorem splitLoop_ne_nil (sep : Char) (pieces : List (List Char)) (piece chars : List Char) :
    splitLoop sep pieces piece chars ≠ [] := by
  induction chars generalizing pieces piece with
  | nil => simp [splitLoop]
  | cons c rest ih =>
    simp only [splitLoop]
    split <;> apply ih

/-- A start that was read before is put in front of the first piece. -/
theorem splitLoop_eq_modifyHead (sep : Char) (piece chars : List Char) :
    splitLoop sep [] piece chars = (splitAt sep chars).modifyHead (piece.reverse ++ ·) := by
  induction chars generalizing piece with
  | nil => simp [splitLoop, splitAt]
  | cons c rest ih =>
    simp only [splitLoop, splitAt]
    split
    · rw [splitLoop_eq_append, splitLoop_eq_append sep [[].reverse]]
      simp
    · rw [ih, ih [c]]
      cases h : splitAt sep rest with
      | nil => simp
      | cons a as => simp

@[simp]
theorem splitAt_nil (sep : Char) : splitAt sep [] = [[]] := rfl

theorem splitAt_cons (sep c : Char) (rest : List Char) :
    splitAt sep (c :: rest) =
      if c = sep then [] :: splitAt sep rest else (splitAt sep rest).modifyHead (c :: ·) := by
  simp only [splitAt, splitLoop]
  split
  · rw [splitLoop_eq_append]
    simp
  · rw [splitLoop_eq_modifyHead]
    simp [splitAt]

theorem splitAt_ne_nil (sep : Char) (chars : List Char) : splitAt sep chars ≠ [] :=
  splitLoop_ne_nil sep [] [] chars

end TenantLink.Text
