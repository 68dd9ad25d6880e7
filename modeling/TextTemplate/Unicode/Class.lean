import TextTemplate.Unicode.Letters
import TextTemplate.Unicode.Marks

/-!
# Character classes

The classes of characters that the template language and its helpers tell apart. Points below 128
are decided without a table, since nearly all text is made of them.
-/

namespace TextTemplate.Unicode

/-- The property White_Space: what trimming removes and what may stand between words. -/
def isBlank (c : Char) : Bool :=
  if c.toNat < 128 then c.toNat == 32 || (9 ≤ c.toNat && c.toNat ≤ 13)
  else inRuns whiteSpaceRuns c.toNat

/-- The property Alphabetic. -/
def isAlphabetic (c : Char) : Bool :=
  if c.toNat < 128 then c.isAlpha else inRuns alphabeticRuns c.toNat

/-- The general categories of numbers. -/
def isNumeric (c : Char) : Bool :=
  if c.toNat < 128 then c.isDigit else inRuns numericRuns c.toNat

/-- Letters and numbers. -/
def isAlphanumeric (c : Char) : Bool :=
  isAlphabetic c || isNumeric c

/-- Characters of a loop variable's name: letters, digits, marks, connectors and join controls, as
version 16 of the standard has them. -/
def isWord (c : Char) : Bool :=
  if c.toNat < 128 then c.isAlphanum || c == '_'
  else (inRuns alphabeticRuns c.toNat || inRuns wordMarkRuns c.toNat) &&
    !inRuns recentWordRuns c.toNat

/-- The property Lowercase. -/
def isLowercase (c : Char) : Bool :=
  if c.toNat < 128 then c.isLower else inRuns lowercaseRuns c.toNat

/-- The property Uppercase. -/
def isUppercase (c : Char) : Bool :=
  if c.toNat < 128 then c.isUpper else inRuns uppercaseRuns c.toNat

/-- The property Cased: capital, small and title case letters. -/
def isCased (c : Char) : Bool :=
  isLowercase c || isUppercase c || inRuns titlecaseRuns c.toNat

/-- The property Case_Ignorable: characters that do not end a word for case mapping. -/
def isCaseIgnorable (c : Char) : Bool :=
  inRuns caseIgnorableRuns c.toNat

end TextTemplate.Unicode
