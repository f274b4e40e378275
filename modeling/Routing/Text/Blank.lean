/-!
# White space and trimming

The blanks are the characters with the Unicode property `White_Space`. Trimming removes them from
both ends of a text. The main statement is that a text from whose end such characters have been
dropped does not end in one.
-/

namespace Routing.Text

/-- The Unicode property `White_Space`. -/
def isBlank (c : Char) : Bool :=
  let n := c.toNat
  (9 ≤ n && n ≤ 13) || n = 0x20 || n = 0x85 || n = 0xA0 || n = 0x1680 ||
    (0x2000 ≤ n && n ≤ 0x200A) || n = 0x2028 || n = 0x2029 || n = 0x202F || n = 0x205F || n = 0x3000

/-- Drops the longest run of characters satisfying `p` from the end. -/
def dropEndWhile (p : Char → Bool) (cs : List Char) : List Char :=
  (cs.reverse.dropWhile p).reverse

/-- Drops the longest runs of characters satisfying `p` from both ends. -/
def stripWhile (p : Char → Bool) (cs : List Char) : List Char :=
  dropEndWhile p (cs.dropWhile p)

/-- The text without the blanks at its two ends. -/
def trim (s : String) : String :=
  String.ofList (stripWhile isBlank s.toList)

@[simp] theorem toList_trim (s : String) : (trim s).toList = stripWhile isBlank s.toList := by
  simp [trim]

/-- What remains does not end in a character satisfying `p`. -/
theorem getLast?_dropEndWhile (p : Char → Bool) (cs : List Char) (c : Char)
    (h : (dropEndWhile p cs).getLast? = some c) : p c = false := by
  rw [dropEndWhile, List.getLast?_reverse] at h
  have := List.head?_dropWhile_not p cs.reverse
  rw [h] at this
  simpa using this

end Routing.Text
