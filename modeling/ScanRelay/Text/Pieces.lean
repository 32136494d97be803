/-!
# Pieces of text

Text cut at every occurrence of one character, and put together again.
-/

namespace ScanRelay

/-- The pieces between the characters `sep`, one more than there are such characters. -/
def splitAt (sep : Char) : List Char → List (List Char)
  | [] => [[]]
  | c :: cs =>
    if c = sep then [] :: splitAt sep cs
    else
      match splitAt sep cs with
      | [] => [[c]]
      | piece :: rest => (c :: piece) :: rest

def joinWith (sep : Char) : List (List Char) → List Char
  | [] => []
  | [piece] => piece
  | piece :: rest => piece ++ sep :: joinWith sep rest

theorem splitAt_ne_nil (sep : Char) (cs : List Char) : splitAt sep cs ≠ [] := by
  cases cs with
  | nil => simp [splitAt]
  | cons c cs =>
    unfold splitAt
    split
    · simp
    · split <;> simp

/-- Nothing is lost by cutting. -/
theorem joinWith_splitAt (sep : Char) (cs : List Char) : joinWith sep (splitAt sep cs) = cs := by
  induction cs with
  | nil => rfl
  | cons c cs ih =>
    unfold splitAt
    split
    · next h =>
      cases hs : splitAt sep cs with
      | nil => exact absurd hs (splitAt_ne_nil sep cs)
      | cons piece rest => simp [joinWith, ← hs, ih, h]
    · split
      · next hs => exact absurd hs (splitAt_ne_nil sep cs)
      · next piece rest hs =>
        rw [hs] at ih
        cases rest with
        | nil => simpa [joinWith] using ih
        | cons q rest => simpa [joinWith] using ih

end ScanRelay
