/-!
# Wrapping sums

Counters and offsets of a report are 64-bit two's complement words. Reports that come from a scan
never reach the ends of that range, but a report can also be put together by hand, and a context
radius may be as large as the range allows. Sums and differences of such numbers wrap around.
-/

namespace Nesting.Word

/-- The number of words, `2^64`. -/
def count : Nat := 0x10000000000000000

/-- The word that stands for an integer: the integer itself within `[-2^63, 2^63)`, and outside of
it the one that differs by a multiple of `2^64`. -/
def wrap (n : Int) : Int :=
  n.bmod count

/-- The least word, `-2^63`. -/
def least : Int := -0x8000000000000000

/-- The greatest word, `2^63 - 1`. -/
def greatest : Int := 0x7fffffffffffffff

/-- A word is its own representative. -/
theorem wrap_of_mem {n : Int} (h : least ≤ n) (h' : n ≤ greatest) : wrap n = n := by
  unfold wrap count least greatest at *
  rw [Int.bmod_eq_of_le] <;> omega

end Nesting.Word
