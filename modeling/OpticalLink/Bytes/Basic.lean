/-!
# Byte strings

The one carrier for everything that crosses a wire: payloads, frames and the
bytes waiting in a channel.
-/

namespace OpticalLink

/-- A finite byte string, first byte first. -/
abbrev Bytes := List UInt8

/-- Splits off exactly `count` bytes, or nothing when fewer are there. -/
def splitExactly? (count : Nat) (bytes : Bytes) : Option (Bytes × Bytes) :=
  let front := bytes.take count
  if front.length = count then some (front, bytes.drop count) else none

/-- A split loses nothing and its front has the length that was asked for. -/
theorem splitExactly?_eq_some {count : Nat} {bytes front rest : Bytes}
    (split : splitExactly? count bytes = some (front, rest)) :
    bytes = front ++ rest ∧ front.length = count := by
  simp only [splitExactly?] at split
  split at split
  next enough =>
    simp only [Option.some.injEq, Prod.mk.injEq] at split
    obtain ⟨rfl, rfl⟩ := split
    exact ⟨(List.take_append_drop count bytes).symm, enough⟩
  next => simp at split

/-- Splitting at the end of a known front gives that front back. -/
@[simp] theorem splitExactly?_append (front rest : Bytes) :
    splitExactly? front.length (front ++ rest) = some (front, rest) := by
  simp [splitExactly?]

end OpticalLink
