/-
This file holds the form of regular expressions as they are written: literals,
classes, groups, repetitions and flag settings, before any flag is applied.
Every piece knows the part of the text it was read from.
-/

import ConsumerContract.Pattern.Fault

namespace ConsumerContract.Pattern

/-- A character as it is written. An escape with two hexadecimal digits may stand for a byte. -/
structure Literal where
  char : Char
  isByte : Bool
  span : Span
  deriving Repr, Inhabited

/-- The classes with a one-letter escape: digits, blanks and word characters. -/
inductive Shorthand where
  | digit
  | blank
  | word
  deriving DecidableEq, Repr

/-- The named classes of ASCII characters. -/
inductive AsciiClass where
  | alnum | alpha | ascii | blank | cntrl | digit | graph | lower | print | punct | space
  | upper | word | xdigit
  deriving DecidableEq, Repr

/-- How a Unicode property is asked for. -/
inductive Property where
  | named (name : String)
  | valued (name value : String)
  deriving DecidableEq, Repr

/-- The operations between the parts of a bracket class. -/
inductive SetOperation where
  | intersection
  | difference
  | symmetricDifference
  deriving DecidableEq, Repr

/-- A class of characters as it is written. -/
inductive CharClass where
  | literal (written : Literal)
  | range (first last : Literal)
  | shorthand (kind : Shorthand) (negated : Bool) (span : Span)
  | ascii (kind : AsciiClass) (negated : Bool) (span : Span)
  | property (property : Property) (negated : Bool) (span : Span)
  | union (items : List CharClass) (span : Span)
  | bracketed (negated : Bool) (content : CharClass) (span : Span)
  | operation (kind : SetOperation) (left right : CharClass) (span : Span)
  deriving Repr, Inhabited

/-- The part of the text that a class was read from. -/
def CharClass.span : CharClass → Span
  | literal written => written.span
  | range first last => first.span.to last.span
  | shorthand _ _ span | ascii _ _ span | property _ _ span => span
  | union _ span | bracketed _ _ span | operation _ _ _ span => span

/-- Conditions on a place in the text. -/
inductive Assertion where
  | lineStart
  | lineEnd
  | textStart
  | textEnd
  | wordBoundary
  | notWordBoundary
  | wordStart
  | wordEnd
  | wordStartHalf
  | wordEndHalf
  deriving DecidableEq, Repr

/-- What can be switched inside an expression. -/
inductive Flag where
  | caseInsensitive
  | multiLine
  | dotMatchesNewline
  | swapGreed
  | unicode
  | carriageReturn
  | verbose
  deriving DecidableEq, Repr

/-- Flags that are switched on or off. -/
abbrev FlagSetting := List (Flag × Bool)

/-- A regular expression as it is written. Groups that capture are numbered from one on. -/
inductive Tree where
  | empty (span : Span)
  | literal (written : Literal)
  | anyChar (span : Span)
  | assertion (kind : Assertion) (span : Span)
  | charClass (content : CharClass)
  | flags (setting : FlagSetting) (span : Span)
  | group (number : Option Nat) (setting : FlagSetting) (content : Tree) (span : Span)
  | concatenation (parts : List Tree) (span : Span)
  | alternation (branches : List Tree) (span : Span)
  | repetition (content : Tree) (min : Nat) (max : Option Nat) (greedy : Bool) (span : Span)
  deriving Repr, Inhabited

/-- The part of the text that an expression was read from. -/
def Tree.span : Tree → Span
  | literal written => written.span
  | charClass content => content.span
  | empty span | anyChar span | assertion _ span | flags _ span => span
  | group _ _ _ span | concatenation _ span | alternation _ span => span
  | repetition _ _ _ _ span => span

/-! ### Nesting -/

/-- The fault of a part that is nested too deep. -/
def tooDeep (span : Span) : Except SyntaxFault Unit :=
  .error { fault := .nestingTooDeep, span }

mutual

/-- Refuses a class in which something is nested deeper than `room` levels. -/
def CharClass.checkNesting (room : Nat) : CharClass → Except SyntaxFault Unit
  | literal _ | range _ _ | shorthand .. | ascii .. | property .. => .ok ()
  | union items span =>
    match room with
    | 0 => tooDeep span
    | room + 1 => CharClass.checkAllNesting room items
  | bracketed _ content span =>
    match room with
    | 0 => tooDeep span
    | room + 1 => content.checkNesting room
  | operation _ left right span =>
    match room with
    | 0 => tooDeep span
    | room + 1 => do
      left.checkNesting room
      right.checkNesting room

/-- Refuses classes in which something is nested deeper than `room` levels. -/
def CharClass.checkAllNesting (room : Nat) : List CharClass → Except SyntaxFault Unit
  | [] => .ok ()
  | item :: rest => do
    item.checkNesting room
    CharClass.checkAllNesting room rest

end

mutual

/-- Refuses an expression in which something is nested deeper than `room` levels. -/
def Tree.checkNesting (room : Nat) : Tree → Except SyntaxFault Unit
  | empty _ | literal _ | anyChar _ | assertion .. | flags .. => .ok ()
  | charClass content => content.checkNesting room
  | group _ _ content span =>
    match room with
    | 0 => tooDeep span
    | room + 1 => content.checkNesting room
  | repetition content _ _ _ span =>
    match room with
    | 0 => tooDeep span
    | room + 1 => content.checkNesting room
  | concatenation parts span =>
    match room with
    | 0 => tooDeep span
    | room + 1 => Tree.checkAllNesting room parts
  | alternation branches span =>
    match room with
    | 0 => tooDeep span
    | room + 1 => Tree.checkAllNesting room branches

/-- Refuses expressions in which something is nested deeper than `room` levels. -/
def Tree.checkAllNesting (room : Nat) : List Tree → Except SyntaxFault Unit
  | [] => .ok ()
  | tree :: rest => do
    tree.checkNesting room
    Tree.checkAllNesting room rest

end

end ConsumerContract.Pattern
