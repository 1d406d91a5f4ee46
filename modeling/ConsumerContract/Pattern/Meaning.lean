/-
This file gives written expressions their meaning. Flags are applied from left
to right: a setting inside a group ends with the group, and one in a branch
lasts into the branches behind it. Where case is ignored, a class is extended
by the other cases of its members before it is negated. Texts consist of whole
characters, so a class that was written without Unicode must stay within ASCII.
-/

import ConsumerContract.Character.CaseFolding
import ConsumerContract.Character.PropertyName
import ConsumerContract.Pattern.Regex
import ConsumerContract.Pattern.Tree

namespace ConsumerContract.Pattern

/-- The flags in effect. -/
structure Flags where
  caseInsensitive : Bool := false
  multiLine : Bool := false
  dotMatchesNewline : Bool := false
  swapGreed : Bool := false
  carriageReturn : Bool := false
  unicode : Bool := true

/-- Switches one flag. Layout was dealt with when the expression was read. -/
def Flags.set (flags : Flags) (flag : Flag) (on : Bool) : Flags :=
  match flag with
  | .caseInsensitive => { flags with caseInsensitive := on }
  | .multiLine => { flags with multiLine := on }
  | .dotMatchesNewline => { flags with dotMatchesNewline := on }
  | .swapGreed => { flags with swapGreed := on }
  | .carriageReturn => { flags with carriageReturn := on }
  | .unicode => { flags with unicode := on }
  | .verbose => flags

/-- Switches flags from left to right. -/
def Flags.apply (flags : Flags) (setting : FlagSetting) : Flags :=
  setting.foldl (fun flags (flag, on) => flags.set flag on) flags

/-- A fault of a part. -/
def failSpan {α : Type} (fault : Fault) (span : Span) : Except SyntaxFault α :=
  .error { fault, span }

/-! ### Classes -/

/-- The members of an ASCII class, written as ranges. -/
def AsciiClass.table : AsciiClass → String
  | alnum => "30-39 41-5A 61-7A"
  | alpha => "41-5A 61-7A"
  | ascii => "0-7F"
  | blank => "9 20"
  | cntrl => "0-1F 7F"
  | digit => "30-39"
  | graph => "21-7E"
  | lower => "61-7A"
  | print => "20-7E"
  | punct => "21-2F 3A-40 5B-60 7B-7E"
  | space => "9-D 20"
  | upper => "41-5A"
  | word => "30-39 41-5A 5F 61-7A"
  | xdigit => "30-39 41-46 61-66"

/-- The members of an ASCII class. -/
def AsciiClass.members (kind : AsciiClass) : Ranges :=
  .ofText kind.table

/-- The members of a one-letter class, in all scripts or in ASCII alone. -/
def Shorthand.members (unicode : Bool) : Shorthand → Ranges
  | digit => if unicode then Character.digits else AsciiClass.digit.members
  | blank => if unicode then Character.blanks else AsciiClass.space.members
  | word => if unicode then Character.wordChars else AsciiClass.word.members

/-- The set of a property, or what is wrong with its name. -/
def Property.members (asked : Property) : Except Fault Ranges :=
  let found :=
    match asked with
    | .named name => Character.rangesNamed name
    | .valued name value => Character.rangesValued name value
  match found with
  | .ok set => .ok set
  | .error .unknownProperty => .error .propertyUnknown
  | .error .unknownValue => .error .propertyValueUnknown

namespace Flags

/-- The set with other cases where case is ignored. -/
def withCases (flags : Flags) (set : Ranges) : Ranges :=
  if !flags.caseInsensitive then set
  else if flags.unicode then CaseFolding.closure set
  else CaseFolding.asciiClosure set

/-- The set, or the characters outside it. Without Unicode these would be single bytes. -/
def negatedIf (flags : Flags) (negated : Bool) (set : Ranges) (span : Span) :
    Except SyntaxFault Ranges :=
  if !negated then .ok set
  else if flags.unicode then .ok set.complement
  else failSpan .invalidText span

/-- The character of a literal inside a class. Without Unicode it has to be ASCII. -/
def classChar (flags : Flags) (written : Literal) : Except SyntaxFault Char :=
  if flags.unicode ∨ written.char.toNat < 0x80 then .ok written.char
  else if written.isByte then failSpan .invalidText written.span
  else failSpan .unicodeNeeded written.span

/-- The result of an operation on two sets. -/
def operate (flags : Flags) (kind : SetOperation) (left right : Ranges) : Ranges :=
  let left := flags.withCases left
  let right := flags.withCases right
  match kind with
  | .intersection => left.intersection right
  | .difference => left.difference right
  | .symmetricDifference => left.symmetricDifference right

end Flags

mutual

/-- The members of a class. -/
def CharClass.members (flags : Flags) : CharClass → Except SyntaxFault Ranges
  | .literal written => do
    let char ← flags.classChar written
    .ok (.single char)
  | .range first last => do
    let start ← flags.classChar first
    let stop ← flags.classChar last
    .ok (.span start.toNat stop.toNat)
  | .shorthand kind negated span => flags.negatedIf negated (kind.members flags.unicode) span
  | .ascii kind negated span => flags.negatedIf negated (flags.withCases kind.members) span
  | .property asked negated span =>
    if !flags.unicode then failSpan .unicodeNeeded span
    else
      match asked.members with
      | .error fault => failSpan fault span
      | .ok set => flags.negatedIf negated (flags.withCases set) span
  | .union items _ => do
    let sets ← CharClass.membersOfAll flags items
    .ok (.unions sets)
  | .bracketed negated content span => do
    let set ← content.members flags
    flags.negatedIf negated (flags.withCases set) span
  | .operation kind left right _ => do
    let left ← left.members flags
    let right ← right.members flags
    .ok (flags.operate kind left right)

/-- The members of each class. -/
def CharClass.membersOfAll (flags : Flags) : List CharClass → Except SyntaxFault (List Ranges)
  | [] => .ok []
  | item :: rest => do
    let set ← item.members flags
    let sets ← CharClass.membersOfAll flags rest
    .ok (set :: sets)

end

/-! ### Expressions -/

namespace Flags

/-- The characters that a point stands for. -/
def anyChar (flags : Flags) : Ranges :=
  if flags.dotMatchesNewline then .all
  else if flags.carriageReturn then (Ranges.ofText "A D").complement
  else (Ranges.single '\n').complement

/-- A literal outside of classes. Where case is ignored it stands for its other cases as well. -/
def literal (flags : Flags) (written : Literal) : Except SyntaxFault Regex :=
  if !flags.unicode && written.isByte && 0x80 ≤ written.char.toNat then
    failSpan .invalidText written.span
  else
    let single := Ranges.single written.char
    let set := flags.withCases single
    .ok (if set = single then .text [written.char] else .oneOf ⟨flags.unicode, set⟩)

/-- The condition that a written assertion stands for. -/
def condition (flags : Flags) : Assertion → Condition
  | .textStart => .textStart
  | .textEnd => .textEnd
  | .lineStart =>
    if !flags.multiLine then .textStart
    else if flags.carriageReturn then .lineStartOrReturn else .lineStart
  | .lineEnd =>
    if !flags.multiLine then .textEnd
    else if flags.carriageReturn then .lineEndOrReturn else .lineEnd
  | .wordBoundary => .word .boundary flags.unicode
  | .notWordBoundary => .word .noBoundary flags.unicode
  | .wordStart => .word .start flags.unicode
  | .wordEnd => .word .stop flags.unicode
  | .wordStartHalf => .word .startHalf flags.unicode
  | .wordEndHalf => .word .stopHalf flags.unicode

end Flags

mutual

/-- The meaning of an expression, with the flags in effect behind it. -/
def Tree.meaning (flags : Flags) : Tree → Except SyntaxFault (Regex × Flags)
  | .empty _ => .ok (.empty, flags)
  | .literal written => do
    let regex ← flags.literal written
    .ok (regex, flags)
  | .anyChar span =>
    if flags.unicode then .ok (.oneOf ⟨true, flags.anyChar⟩, flags)
    else failSpan .invalidText span
  | .assertion kind _ => .ok (.condition (flags.condition kind), flags)
  | .charClass content => do
    let set ← content.members flags
    .ok (.oneOf ⟨flags.unicode, set⟩, flags)
  | .flags setting _ => .ok (.empty, flags.apply setting)
  | .group number setting content _ => do
    let (regex, _) ← content.meaning (flags.apply setting)
    match number with
    | some number => .ok (.group number regex, flags)
    | none => .ok (regex, flags)
  | .concatenation parts _ => do
    let (parts, flags) ← Tree.meaningOfAll flags parts
    .ok (.concatenation parts, flags)
  | .alternation branches _ => do
    let (branches, flags) ← Tree.meaningOfAll flags branches
    .ok (.alternation branches, flags)
  | .repetition content min max greedy _ => do
    let (regex, flags) ← content.meaning flags
    .ok (.repetition regex min max (greedy != flags.swapGreed), flags)

/-- The meaning of expressions from left to right. -/
def Tree.meaningOfAll (flags : Flags) : List Tree → Except SyntaxFault (List Regex × Flags)
  | [] => .ok ([], flags)
  | tree :: rest => do
    let (first, flags) ← tree.meaning flags
    let (others, flags) ← Tree.meaningOfAll flags rest
    .ok (first :: others, flags)

end

end ConsumerContract.Pattern
