import OpticalLink.Text.Width

/-!
# Lines that are too wide

A line that is wider than the place it has goes on in further lines. It is broken
at blanks, and inside a word only if the word has no line of its own that would
hold it. A mark stays with the character that it stands on.
-/

namespace OpticalLink.Text

/-- The number of columns at the end of a line that are not worth filling. -/
def smallestGap : Nat := 2

/-- Characters, each together with the marks behind it. -/
def clusters (characters : List Char) : List (List Char) :=
  characters.foldr (fun character behind =>
    match behind with
    | (next :: cluster) :: rest =>
      if characterWidth next = 0 then (character :: next :: cluster) :: rest
      else [character] :: (next :: cluster) :: rest
    | rest => [character] :: rest) []

/-- How many characters of some clusters fit into some columns, beyond a number of
characters that fit already. -/
def fittingFrom (size columns : Nat) : List (List Char) → Nat
  | [] => size
  | cluster :: rest =>
    let needed := (measured cluster).1.toNat
    if needed ≤ columns then fittingFrom (size + cluster.length) (columns - needed) rest
    else size

/-- How many characters of a word fit into some columns. -/
def fitting (columns : Nat) (word : List Char) : Nat := fittingFrom 0 columns (clusters word)

/-- Lines that are complete and one that is being filled. -/
structure Wrapping where
  complete : List String
  current : String
  /-- The columns of the current line. -/
  used : Nat
deriving DecidableEq, Repr

namespace Wrapping

/-- Completes the current line if too little of it is left. -/
def settle (columns : Nat) (wrapping : Wrapping) : Wrapping :=
  if columns - smallestGap < wrapping.used then
    ⟨wrapping.complete ++ [wrapping.current], "", 0⟩
  else wrapping

/-- Puts a word behind complete lines, over as many lines as it needs. -/
def spread (columns : Nat) (complete : List String) (word : List Char) : Wrapping :=
  match word with
  | [] => ⟨complete, "", 0⟩
  | first :: others =>
    let line := String.ofList (first :: others)
    if width line ≤ columns then settle columns ⟨complete, line, width line⟩
    else
      let size := fitting columns (first :: others) - 1
      spread columns (complete ++ [String.ofList (first :: others.take size)]) (others.drop size)
termination_by word.length
decreasing_by simp only [List.length_drop, List.length_cons]; omega

/-- Puts the next word behind what has been placed. -/
def place (columns : Nat) (wrapping : Wrapping) (word : String) : Wrapping :=
  if wrapping.current = "" then spread columns wrapping.complete word.toList
  else
    let needed := width word
    let left := columns - wrapping.used - 1
    if wrapping.used + 1 + needed ≤ columns then
      settle columns ⟨wrapping.complete, wrapping.current ++ " " ++ word, wrapping.used + 1 + needed⟩
    else if left ≤ smallestGap ∨ needed ≤ columns then
      spread columns (wrapping.complete ++ [wrapping.current]) word.toList
    else
      let size := fitting left word.toList
      let line := wrapping.current ++ " " ++ String.ofList (word.toList.take size)
      spread columns (wrapping.complete ++ [line]) (word.toList.drop size)

/-- All lines, without an empty last one. -/
def lines (wrapping : Wrapping) : List String :=
  if wrapping.current = "" then wrapping.complete else wrapping.complete ++ [wrapping.current]

end Wrapping

/-- The lines into which a line is broken so that none is wider than some columns. -/
def wrapped (columns : Nat) (line : String) : List String :=
  if width line ≤ columns then [line]
  else ((line.splitOn " ").foldl (Wrapping.place columns) ⟨[], "", 0⟩).lines

end OpticalLink.Text
