/-
# Json.Decode -- records, variants and tagged values in documents

A record is an object whose known keys occur at most once and whose other keys are
passed over, or an array of its fields in their order.  A variant without fields
is its name, or an object that holds only its name.  A tagged value has its tag
and its content under two keys, in either order, or stands as an array of the two.

Content that stands before its tag cannot be read at once.  It is copied first,
and a copy admits less than a text that is passed over: its numbers must be within
range, its strings texts, and no more than `deepest` containers may be open around
any value.  In a copy, an empty object also stands for "no fields", and the tag that
begins an array may be the number of its variant, counted from zero.
-/
import SensorMonitor.Json.Numeral

namespace SensorMonitor.Json

set_option autoImplicit false

/-- The containers that may be open around a copied value. -/
def deepest : Nat := 127

/-- Where a value is read from: the text, with the number of containers open around
the value, or a copy. -/
inductive Source where
  | text (depth : Nat)
  | copy
  deriving DecidableEq

/-- The source of what stands in a container. -/
def Source.inner : Source → Source
  | .text depth => .text (depth + 1)
  | .copy => .copy

/-! ## Copies -/

mutual

/-- The value can be copied when it may be nested `room` deep. -/
def copyable (room : Nat) (j : Json) : Bool :=
  match j with
  | .null => true
  | .bool _ => true
  | .number n => n.toFloat?.isSome
  | .string s => s.isSome
  | .array items => 0 < room && copyableItems (room - 1) items
  | .object members => 0 < room && copyableMembers (room - 1) members

def copyableItems (room : Nat) : List Json → Bool
  | [] => true
  | item :: rest => copyable room item && copyableItems room rest

def copyableMembers (room : Nat) : List (Option String × Json) → Bool
  | [] => true
  | (key, value) :: rest => key.isSome && copyable room value && copyableMembers room rest

end

/-- The source that reads a value after copying it, if it can be copied. -/
def Source.copied? (source : Source) (value : Json) : Option Source :=
  match source with
  | .copy => some .copy
  | .text depth => if copyable (deepest - depth) value then some .copy else none

/-! ## Simple values -/

def bool? : Json → Option Bool
  | .bool b => some b
  | _ => none

def text? : Json → Option String
  | .string s => s
  | _ => none

def float? : Json → Option Float
  | .number n => n.toFloat?
  | _ => none

/-- A natural number up to `largest`. -/
def natUpTo? (largest : Nat) (j : Json) : Option Nat :=
  match j with
  | .number n => n.toNat?.filter (· ≤ largest)
  | _ => none

def items? : Json → Option (List Json)
  | .array items => some items
  | _ => none

/-- The members of an object, all of whose keys must be texts. -/
def members? : Json → Option (List (String × Json))
  | .object members => members.mapM fun member => member.1.map (·, member.2)
  | _ => none

/-- The name of a variant without fields. -/
def variant? (source : Source) (j : Json) : Option String :=
  match j with
  | .string s => s
  | .object [(some name, .null)] => some name
  | .object [(some name, .object [])] => if source = .copy then some name else none
  | _ => none

/-! ## Records -/

/-- The known fields of a record, in the order of an array or under keys. -/
structure Fields where
  ordered : Bool
  entries : List (String × Json)

namespace Fields

/-- The fields of an object: each known key once, other keys passed over. -/
def ofMembers? (names : List String) (members : List (String × Json)) : Option Fields :=
  let known := members.filter fun member => names.contains member.1
  if (known.map Prod.fst).Nodup then some ⟨false, known⟩ else none

/-- The fields of a record that must be an object. -/
def ofObject? (names : List String) (j : Json) : Option Fields :=
  (members? j).bind (ofMembers? names)

/-- The fields of a record, an object or an array. -/
def of? (names : List String) (j : Json) : Option Fields :=
  match j with
  | .array items => if items.length ≤ names.length then some ⟨true, names.zip items⟩ else none
  | _ => ofObject? names j

variable {α : Type}

/-- A field that must be there. -/
def required (fields : Fields) (name : String) (decode : Json → Option α) : Option α :=
  (fields.entries.lookup name).bind decode

/-- A field that has a default. -/
def defaulted (fields : Fields) (name : String) (default : α) (decode : Json → Option α) :
    Option α :=
  match fields.entries.lookup name with
  | some value => decode value
  | none => some default

/-- A value, or `null` for none. -/
def orNull (decode : Json → Option α) : Json → Option (Option α)
  | .null => some none
  | value => (decode value).map some

/-- A field that may be missing or `null`. -/
def optional (fields : Fields) (name : String) (decode : Json → Option α) : Option (Option α) :=
  fields.defaulted name none (orNull decode)

/-- A field that may be `null`, and missing only where fields stand under keys. -/
def nullable (fields : Fields) (name : String) (decode : Json → Option α) : Option (Option α) :=
  if fields.ordered then fields.required name (orNull decode) else fields.optional name decode

end Fields

/-! ## Tagged values -/

/-- How a type of tagged values is written: the keys of the tag and the content, and the
tags in their order. -/
structure Tagging where
  tagKey : String
  contentKey : String
  tags : List String

/-- A tag, the content that belongs to it, and where the content is read from. -/
structure Tagged where
  tag : String
  content : Json
  source : Source

namespace Tagging

/-- The tag at the start of an array. -/
def leadingTag? (tagging : Tagging) (source : Source) (j : Json) : Option String :=
  match j with
  | .string s => s
  | .number n => if source = .copy then n.toNat?.bind fun k => tagging.tags[k]? else none
  | _ => none

/-- The tagged value in an array of its tag and its content. -/
def ofItems? (tagging : Tagging) (source : Source) (items : List Json) : Option Tagged :=
  match items with
  | [a, b] => (tagging.leadingTag? source a).map fun tag => ⟨tag, b, source.inner⟩
  | _ => none

/-- The tagged value among the members of an object, whose others are passed over. -/
def ofMembers? (tagging : Tagging) (source : Source) (members : List (String × Json)) :
    Option Tagged :=
  match members.filter fun member => member.1 = tagging.tagKey ∨ member.1 = tagging.contentKey with
  | [(first, a), (second, b)] =>
      if first = tagging.tagKey ∧ second = tagging.contentKey then
        (variant? source a).map fun tag => ⟨tag, b, source.inner⟩
      else if first = tagging.contentKey ∧ second = tagging.tagKey then do
        let tag ← variant? source b
        let copied ← source.inner.copied? a
        some ⟨tag, a, copied⟩
      else none
  | _ => none

/-- The tagged value that a document writes. -/
def read? (tagging : Tagging) (source : Source) (j : Json) : Option Tagged :=
  match j with
  | .array items => tagging.ofItems? source items
  | _ => (members? j).bind (tagging.ofMembers? source)

end Tagging

end SensorMonitor.Json
