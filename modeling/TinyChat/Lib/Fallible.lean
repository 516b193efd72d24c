/-!
# Computations that may fail

A sequence of two computations succeeds exactly if the first one does and
the second one succeeds with its value.
-/

namespace Fallible

theorem bind_ok {ε α β : Type} {first : Except ε α} {rest : α → Except ε β}
    {result : β} :
    first >>= rest = .ok result ↔
      ∃ value, first = .ok value ∧ rest value = .ok result := by
  cases first with
  | error failure =>
      constructor
      · intro absurdly
        cases absurdly
      · rintro ⟨value, absurdly, -⟩
        cases absurdly
  | ok value =>
      constructor
      · exact fun result => ⟨value, rfl, result⟩
      · rintro ⟨other, same, result⟩
        cases same
        exact result

end Fallible
