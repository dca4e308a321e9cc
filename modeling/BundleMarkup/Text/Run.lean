/-!
# Runs of characters

Readers take the characters at the front of a text that they accept and go on with the first one
that they do not.
-/

namespace BundleMarkup
namespace Text

variable {accepts : Char → Bool} {run : List Char} (stop : Char)

theorem takeWhile_run (inside : ∀ char ∈ run, accepts char = true)
    (outside : accepts stop = false) (rest : List Char) :
    (run ++ stop :: rest).takeWhile accepts = run := by
  rw [List.takeWhile_append_of_pos inside, List.takeWhile_cons_of_neg (by simp [outside]),
    List.append_nil]

theorem dropWhile_run (inside : ∀ char ∈ run, accepts char = true)
    (outside : accepts stop = false) (rest : List Char) :
    (run ++ stop :: rest).dropWhile accepts = stop :: rest := by
  rw [List.dropWhile_append_of_pos inside, List.dropWhile_cons_of_neg (by simp [outside])]

/-- The character that a run stops at is not accepted. -/
theorem not_accepts_of_dropWhile {stop : Char} {input rest : List Char}
    (found : input.dropWhile accepts = stop :: rest) : accepts stop = false := by
  have stops := List.head?_dropWhile_not accepts input
  rw [found] at stops
  simpa using stops

/-- A run that goes on up to a mark takes all characters that are not the mark. -/
theorem unlike_of_not_mem {stop : Char} (uncut : stop ∉ run) :
    ∀ char ∈ run, decide (char ≠ stop) = true := by
  intro char among
  exact decide_eq_true fun same => uncut (same ▸ among)

end Text
end BundleMarkup
