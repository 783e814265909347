/-!
# Blank characters

The characters with the Unicode `White_Space` property, and trimming them from both ends of a
text. Integer arguments of commands are trimmed this way before they are read, so
`" 7　"` reads as `7`.
-/

namespace CounterCache.Text

/-- The Unicode `White_Space` property: tab to carriage return, space, next line, no-break space,
ogham space mark, the spaces from en quad to hair space, line and paragraph separators, narrow
no-break space, medium mathematical space and ideographic space. -/
def isBlank (c : Char) : Bool :=
  let n := c.toNat
  (0x09 ≤ n && n ≤ 0x0D) || n == 0x20 || n == 0x85 || n == 0xA0 || n == 0x1680 ||
    (0x2000 ≤ n && n ≤ 0x200A) || n == 0x2028 || n == 0x2029 || n == 0x202F ||
    n == 0x205F || n == 0x3000

/-- Drops blank characters from both ends of a text. -/
def trimBlank (s : String) : String :=
  String.ofList ((s.toList.dropWhile isBlank).reverse.dropWhile isBlank).reverse

/-- Every ASCII whitespace character that core knows is blank. -/
theorem isBlank_of_isWhitespace (c : Char) (h : c.isWhitespace = true) : isBlank c = true := by
  simp only [Char.isWhitespace, Bool.or_eq_true, decide_eq_true_eq] at h
  simp only [isBlank]
  rcases h with ((h | h) | h) | h <;> subst h <;> decide

end CounterCache.Text
