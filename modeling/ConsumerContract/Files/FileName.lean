/-
This file holds the texts that name files. Such a text is cut at slashes; empty
parts and single points name nothing of their own. Everything here is about the
texts alone and does not look at any file.
-/

import ConsumerContract.Number.Digits

namespace ConsumerContract.FileName

/-- The parts between slashes. -/
def parts : List Char → List (List Char)
  | [] => [[]]
  | char :: rest =>
    match parts rest with
    | [] => [[char]]
    | part :: others => if char = '/' then [] :: part :: others else (char :: part) :: others

/-- Parts with slashes between them. -/
def joined (parts : List (List Char)) : String :=
  "/".intercalate (parts.map String.ofList)

/-- Whether a name starts at the root. -/
def isAbsolute (name : String) : Bool :=
  name.toList.head? = some '/'

/-- The names to go through, from the outermost on. A slash at the end asks for a directory,
which a single point says as well. -/
def components (name : String) : List String :=
  let chars := name.toList
  let named := ((parts chars).filter (· ≠ [])).map String.ofList
  if chars.getLast? = some '/' then named ++ ["."] else named

/-- A name inside a directory; one that starts at the root stands for itself. -/
def join (directory name : String) : String :=
  if isAbsolute name ∨ directory = "" then name
  else if directory.toList.getLast? = some '/' then directory ++ name
  else directory ++ "/" ++ name

/-- Whether a part names nothing of its own. -/
def isSilent (part : List Char) : Bool :=
  part = [] || part = ['.']

/-- Parts up to the last one that names something; a first point is kept. -/
def trimmed : List (List Char) → List (List Char)
  | [] => []
  | first :: rest => first :: (rest.reverse.dropWhile isSilent).reverse

/-- The directory of a name, if it has any part to leave out. -/
def parent? (name : String) : Option String :=
  match trimmed (parts name.toList) with
  | [] | [[]] => none
  | [_] => some ""
  | parts =>
    match trimmed parts.dropLast with
    | [[]] => some "/"
    | outer => some (joined outer)

/-- At most `count` names: the name itself, its directory and so on. -/
def outwards : Nat → String → List String
  | 0, _ => []
  | count + 1, name =>
    match parent? name with
    | none => [name]
    | some parent => name :: outwards count parent

/-- The name and all directories it lies in, from the innermost on. -/
def lineage (name : String) : List String :=
  outwards (name.length + 1) name

/-- The last part, unless it leads to a directory further out. -/
def last? (name : String) : Option String :=
  match ((parts name.toList).filter fun part => !isSilent part).getLast? with
  | none | some ['.', '.'] => none
  | some part => some (String.ofList part)

/-- What follows the last point of the last part; a point in front does not count. -/
def extension? (name : String) : Option String :=
  (last? name).bind fun last =>
    let chars := last.toList
    let behind := (chars.reverse.takeWhile (· ≠ '.')).reverse
    if chars.length ≤ behind.length + 1 then none else some (String.ofList behind)

end ConsumerContract.FileName
