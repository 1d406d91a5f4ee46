/-
This file quotes texts for messages. Characters that would not be seen by
themselves, such as controls and combining marks, are written as code points.
-/

import ConsumerContract.Character.Property

namespace ConsumerContract.Character

/-- Characters that show nothing by themselves. -/
def unseen : Ranges :=
  .unions [Category.unassigned, graphemeExtend, Category.rangesOfAny
    [.spaceSeparator, .lineSeparator, .paragraphSeparator, .control, .format, .privateUse]]

/-- Whether a character is seen as itself. -/
def isSeen (char : Char) : Bool :=
  char = ' ' || !unseen.contains char

/-- A character in quotes. -/
def quotedChar (char : Char) : List Char :=
  if char = '\x00' then ['\\', '0']
  else if char = '\t' then ['\\', 't']
  else if char = '\n' then ['\\', 'n']
  else if char = '\r' then ['\\', 'r']
  else if char = '"' then ['\\', '"']
  else if char = '\\' then ['\\', '\\']
  else if isSeen char then [char]
  else ['\\', 'u', '\x7b'] ++ Nat.toDigits 16 char.toNat ++ ['\x7d']

/-- A text in quotes. -/
def quoted (text : String) : String :=
  "\"" ++ String.ofList (text.toList.flatMap quotedChar) ++ "\""

end ConsumerContract.Character
