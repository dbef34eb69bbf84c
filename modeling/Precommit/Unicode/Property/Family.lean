import Precommit.Unicode.Property.Age
import Precommit.Unicode.Property.Binary
import Precommit.Unicode.Property.Category
import Precommit.Unicode.Property.Script
import Precommit.Unicode.Property.ScriptExtension
import Precommit.Unicode.Property.Segment

/-!
# Families of property values

All tables of property values, by the property they belong to. A value is known by its
family and its position in the table of the family.
-/

namespace Precommit

namespace Unicode

/-- The properties with tables; those a character has or has not are taken together. -/
inductive PropertyFamily
  | binary
  | category
  | script
  | scriptExtension
  | age
  | graphemeBreak
  | wordBreak
  | sentenceBreak
deriving DecidableEq, Repr

namespace PropertyFamily

/-- The values of a family. -/
def values : PropertyFamily → Array PropertyValue
  | .binary => binaryProperties
  | .category => categories
  | .script => scripts
  | .scriptExtension => scriptExtensions
  | .age => ages
  | .graphemeBreak => graphemeBreaks
  | .wordBreak => wordBreaks
  | .sentenceBreak => sentenceBreaks

/-- The position of the value with a name. -/
def position? (family : PropertyFamily) (name : String) : Option Nat :=
  family.values.findIdx? fun value => value.names.contains name

/-- The code points that have the value at a position. -/
def table (family : PropertyFamily) (position : Nat) : RangeTable :=
  match family.values[position]? with
  | some value => value.table
  | none => ⟨#[]⟩

end PropertyFamily

end Unicode

end Precommit
