/-!
# Tails

What is left of a text once something has been read from its start. A tail is never longer than
its text, which is why reading a text token by token comes to an end.
-/

namespace CalendarSync.Text
set_option autoImplicit false

/-- Characters that are left of a text. -/
structure Tail (cs : List Char) where
  chars : List Char
  length_le : chars.length ≤ cs.length

theorem length_dropWhile_le (p : Char → Bool) (cs : List Char) :
    (cs.dropWhile p).length ≤ cs.length := by
  induction cs with
  | nil => simp
  | cons c rest ih =>
    simp only [List.dropWhile]
    split
    · exact Nat.le_succ_of_le ih
    · exact Nat.le_refl _

/-- A run of characters that pass a test is cut off where one follows that does not. -/
theorem span_append {p : Char → Bool} {cs rest : List Char} (inside : ∀ c ∈ cs, p c = true)
    (outside : ∀ c, rest.head? = some c → p c = false) :
    (cs ++ rest).takeWhile p = cs ∧ (cs ++ rest).dropWhile p = rest := by
  rw [List.takeWhile_append_of_pos inside, List.dropWhile_append_of_pos inside]
  cases rest with
  | nil => simp
  | cons c rest => simp [outside c rfl]

theorem span_self {p : Char → Bool} {cs : List Char} (inside : ∀ c ∈ cs, p c = true) :
    cs.takeWhile p = cs ∧ cs.dropWhile p = [] := by
  have ends : ∀ c, ([] : List Char).head? = some c → p c = false := fun _ follows => by
    cases follows
  simpa using span_append inside ends

namespace Tail

/-- The whole text, of which nothing has been read. -/
def whole (cs : List Char) : Tail cs :=
  ⟨cs, Nat.le_refl _⟩

/-- A tail of what follows a character. -/
def later {cs : List Char} (c : Char) (t : Tail cs) : Tail (c :: cs) :=
  ⟨t.chars, Nat.le_succ_of_le t.length_le⟩

/-- A tail of a tail. -/
def trans {cs : List Char} (t : Tail cs) (u : Tail t.chars) : Tail cs :=
  ⟨u.chars, Nat.le_trans u.length_le t.length_le⟩

/-- The tail after a number of characters. -/
def drop (n : Nat) (cs : List Char) : Tail cs :=
  ⟨cs.drop n, List.length_drop ▸ Nat.sub_le ..⟩

/-- The tail after the characters at the start that pass a test. -/
def dropWhile (p : Char → Bool) (cs : List Char) : Tail cs :=
  ⟨cs.dropWhile p, length_dropWhile_le p cs⟩

end Tail
end CalendarSync.Text
