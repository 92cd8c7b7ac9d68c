import Telemetry.OrderedMap
import Telemetry.Tag.Basic

/-!
# Tag maps

The tags of one recording or of one context: at most one value for each key. The five ways to change a
map differ only in what they do about a key that is, or is not, present. A tag map is a plain value, so
a change to one copy is never seen through another.
-/

namespace Telemetry

/-- Tags with distinct keys. -/
abbrev TagMap := OrderedMap TagKey TagValue

namespace TagMap

/-- Binds `key` unless it is already bound; says whether it was added. -/
def add (tags : TagMap) (key : TagKey) (value : TagValue) : Bool × TagMap :=
  if tags.contains key then (false, tags) else (true, tags.insert key value)

/-- Replaces the value of `key` if it is bound; says whether it was replaced. -/
def update (tags : TagMap) (key : TagKey) (value : TagValue) : Bool × TagMap :=
  if tags.contains key then (true, tags.insert key value) else (false, tags)

/-- Binds `key` in either case; gives the value it had. -/
def upsert (tags : TagMap) (key : TagKey) (value : TagValue) : Option TagValue × TagMap :=
  (tags.get? key, tags.insert key value)

/-- The value of the key with the given text. -/
def find? (tags : TagMap) (key : String) : Option TagValue :=
  (TagKey.ofString? key).bind tags.get?

/-- Whether a key with the given text is bound. -/
def hasKey (tags : TagMap) (key : String) : Bool := (tags.find? key).isSome

/-- Unbinds the key with the given text; gives the value it had. -/
def delete (tags : TagMap) (key : String) : Option TagValue × TagMap :=
  match TagKey.ofString? key with
  | some k => (tags.get? k, tags.erase k)
  | none => (none, tags)

/-- Reads texts as tags, one pair after the other and the key of a pair before its value. A later pair
replaces an earlier one with the same key. -/
def ofPairs (pairs : List (String × String)) : Except TagError TagMap :=
  pairs.foldlM
    (fun tags pair => do
      let key ← TagKey.ofString pair.1
      let value ← TagValue.ofString pair.2
      return tags.insert key value)
    OrderedMap.empty

/-- The texts of the tags, in the order of their keys. -/
def toPairs (tags : TagMap) : List (String × String) :=
  tags.entries.map fun tag => (tag.1.text, tag.2.text)

/-- The texts of the tags, quoted and in braces, as a log shows them. -/
def describe (tags : TagMap) : String :=
  let shown := tags.toPairs.map fun pair => Text.quoted pair.1 ++ ": " ++ Text.quoted pair.2
  "\x7b" ++ ", ".intercalate shown ++ "\x7d"

end TagMap

end Telemetry
