/-
Blank characters and character classes.

A class is a list of the codes at which membership changes, in ascending order: the characters before the first are out,
those up to the second are in, and so on. Blanks are the characters with the property White_Space.
-/
namespace ToolSchema.Text

/-- A character is in a class if an odd number of changes lie at or below it. -/
def inClass (changes : List Nat) (c : Char) : Bool :=
  (changes.takeWhile (· ≤ c.toNat)).length % 2 == 1

/-- the property White_Space -/
def blankChanges : List Nat := [
  0x9, 0xE, 0x20, 0x21, 0x85, 0x86, 0xA0, 0xA1, 0x1680, 0x1681, 0x2000, 0x200B, 0x2028, 0x202A, 0x202F, 0x2030,
  0x205F, 0x2060, 0x3000, 0x3001]

def isBlank (c : Char) : Bool :=
  inClass blankChanges c

example : " \t\n\r\x0b\x0c\u0085\u00a0\u2003\u3000".toList.all isBlank = true := by decide

example : "a\u200b\u180e\ufeff".toList.any isBlank = false := by decide

end ToolSchema.Text
