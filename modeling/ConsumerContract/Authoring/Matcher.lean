/-
This file holds the constructors of matcher nodes. A matcher says how an actual
value is compared, and carries the example that stands for it in the contract.
Parameters that describe no rule give an invalid node, which is reported with
its path when the tree is compiled; whether an example fits its pattern is
checked then as well.
-/

import ConsumerContract.Authoring.Generated
import ConsumerContract.Pattern.Basic

namespace ConsumerContract.Matcher

/-! ### Patterns -/

/-- A count of repetitions in a pattern. -/
def times (bounds : String) : String :=
  "\x7b" ++ bounds ++ "\x7d"

/-- A part of an IPv4 address. -/
def addressPart : String :=
  "(?:25[0-5]|2[0-4][0-9]|[01]?[0-9][0-9]?)"

def ip4Pattern : String :=
  "^(?:" ++ addressPart ++ "\\.)" ++ times "3" ++ addressPart ++ "$"

/-- A group of an IPv6 address. -/
def addressGroup : String :=
  "[0-9a-fA-F]" ++ times "1,4"

/-- Groups that are followed by a colon. -/
def groupsBefore (bounds : String) : String :=
  "(" ++ addressGroup ++ ":)" ++ times bounds

/-- Groups that follow a colon. -/
def groupsAfter (bounds : String) : String :=
  "(:" ++ addressGroup ++ ")" ++ times bounds

/-- A part of an IPv4 address at the end of an IPv6 address. -/
def embeddedPart : String :=
  "(25[0-5]|(2[0-4]|1" ++ times "0,1" ++ "[0-9])" ++ times "0,1" ++ "[0-9])"

/-- An IPv4 address at the end of an IPv6 address. -/
def embeddedAddress : String :=
  "(" ++ embeddedPart ++ "\\.)" ++ times "3,3" ++ embeddedPart

def ip6Pattern : String :=
  "^(" ++ "|".intercalate
    [groupsBefore "7,7" ++ addressGroup, groupsBefore "1,7" ++ ":",
      groupsBefore "1,6" ++ ":" ++ addressGroup, groupsBefore "1,5" ++ groupsAfter "1,2",
      groupsBefore "1,4" ++ groupsAfter "1,3", groupsBefore "1,3" ++ groupsAfter "1,4",
      groupsBefore "1,2" ++ groupsAfter "1,5", addressGroup ++ ":(" ++ groupsAfter "1,6" ++ ")",
      ":(" ++ groupsAfter "1,7" ++ "|:)",
      "fe80:(:[0-9a-fA-F]" ++ times "0,4" ++ ")" ++ times "0,4" ++ "%[0-9a-zA-Z]" ++ times "1,",
      "::(ffff(:0" ++ times "1,4" ++ ")" ++ times "0,1" ++ ":)" ++ times "0,1" ++ embeddedAddress,
      groupsBefore "1,4" ++ ":" ++ embeddedAddress] ++ ")$"

def hexadecimalPattern : String :=
  "^(?:0x)?[0-9a-fA-F]+$"

def base64Pattern : String :=
  "^(?:[A-Za-z0-9+/]" ++ times "4" ++ ")*(?:[A-Za-z0-9+/]" ++ times "2" ++ "==|[A-Za-z0-9+/]" ++
    times "3" ++ "=)?$"

def uuidPattern : String :=
  "^[0-9a-fA-F]" ++ times "8" ++ "(-[0-9a-fA-F]" ++ times "4" ++ ")" ++ times "3" ++
    "-[0-9a-fA-F]" ++ times "12" ++ "$"

/-! ### Types and values -/

/-- One rule around a sample. -/
def single (rule : Rule) (sample : Node) : Node :=
  .matcher [rule] none sample

/-- A value of the same type. -/
def like (sample : Node) : Node :=
  single .sameType sample

/-- The same value. -/
def equalTo (sample : Node) : Node :=
  single .equality sample

def integer (value : Int64) : Node :=
  single .integer (.integer value)

/-- A number with a fraction. -/
def decimal (sample : Node) : Node :=
  single .decimal sample

def number (sample : Node) : Node :=
  single .number sample

def null : Node :=
  single .null .null

def boolean (value : Bool) : Node :=
  single .boolean (.bool value)

/-- A value of the same type that is not empty. -/
def notEmpty (sample : Node) : Node :=
  single .notEmpty sample

def semver (value : String) : Node :=
  single .semver (.string value)

/-! ### Texts -/

/-- A text that matches a pattern, as the sample has to. -/
def regex (pattern sample : String) : Node :=
  single (.regex pattern) (.string sample)

/-- A pattern that exactly some texts match. -/
def oneOfPattern (values : List String) : String :=
  "^(" ++ "|".intercalate (values.map Pattern.escaped) ++ ")$"

/-- One of some texts, the first of which is the sample. -/
def oneOf (values : List String) : Node :=
  match values with
  | [] => .invalidParameter "oneOf()" "at least one value is required"
  | first :: _ => regex (oneOfPattern values) first

def ip4Address : Node :=
  regex ip4Pattern "127.0.0.13"

def ip6Address : Node :=
  regex ip6Pattern "::ffff:192.0.2.128"

def hexadecimal : Node :=
  regex hexadecimalPattern "3F"

def base64 : Node :=
  regex base64Pattern "ZXhhbXBsZQo="

def uuid (sample : String) : Node :=
  regex uuidPattern sample

/-- A text that contains all of some texts, or any of them. -/
def includesWithSample (values : List String) (combine : Combination) (sample : String) : Node :=
  match values with
  | [] => .invalidParameter "includes()" "at least one value is required"
  | _ => .matcher (values.map .includes) (some combine) (.string sample)

/-- The same with a sample that contains all of the texts. -/
def includes (values : List String) (combine : Combination) : Node :=
  includesWithSample values combine (" ".intercalate values)

/-! ### Dates and times -/

/-- A text with a quoted sample, as a description of a declaration. -/
def quotedCall (kind sample : String) : String :=
  kind ++ "(\"" ++ sample ++ "\")"

/-- A node that needs a format, or what is wrong with that format. -/
def withFormat (kind value format : String) (node : Node) : Node :=
  match DatePattern.ofText format with
  | .ok _ => node
  | .error fault => .invalidParameter (quotedCall kind value) (fault.message format)

def datetime (value format : String) : Node :=
  withFormat "datetime" value format (single (.timestamp format) (.string value))

def date (value format : String) : Node :=
  withFormat "date" value format (single (.date format) (.string value))

def time (value format : String) : Node :=
  withFormat "time" value format (single (.time format) (.string value))

/-! ### Statuses -/

/-- A status in a class, or one of some codes. -/
def statusCode (status : StatusRange) : Node :=
  let matching (code : UInt16) := single (.statusCode status) (.integer (Int64.ofNat code.toNat))
  match status with
  | .statusClass name => matching name.sampleCode
  | .codes (first :: _) => matching first
  | .codes [] => .invalidParameter "statusCode([])" "at least one code is required"

/-! ### Collections -/

/-- A sequence or a mapping as it is, and any other sample as the only item of a sequence. -/
def asCollection : Node → Node
  | .sequence items => .sequence items
  | .mapping members => .mapping members
  | other => .sequence [other]

/-- Elements that are like the sample, as many as the bounds allow. -/
def eachLikeWithin (sample : Node) (min max : Option UInt64) : Node :=
  match min, max with
  | some lower, some upper =>
    if upper < lower then
      .invalidParameter ("eachLike(" ++ sample.describe ++ ")")
        (boundsProblem (decimalText lower.toNat) (decimalText upper.toNat))
    else .repetition (asCollection sample) min max
  | _, _ => .repetition (asCollection sample) min max

/-- One or more elements that are like the sample. -/
def eachLike (sample : Node) : Node :=
  eachLikeWithin sample (some 1) none

/-- Members that are like those of the sample. -/
def eachKeyLike (sample : Node) : Node :=
  like sample

/-- An array with one element for each variant at least. -/
def arrayContains (variants : List Node) : Node :=
  match variants with
  | [] => .invalidParameter "arrayContains()" "at least one variant is required"
  | _ => .arrayContains variants

end ConsumerContract.Matcher
