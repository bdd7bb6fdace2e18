import RuleLexer.Unicode.Segmentation
import RuleLexer.Unicode.Version

/-! Properties of characters that a pattern can ask for, and the names they go by. -/

namespace RuleLexer.Unicode

inductive Property
  | any
  | ascii
  | assigned
  | general (categories : List Category)
  | script (s : Script)
  | extensions (s : Script)
  | age (v : Version)
  | graphemeBreak (b : GraphemeBreak)
  | wordBreak (b : WordBreak)
  | sentenceBreak (b : SentenceBreak)
  | binary (b : BinaryProperty)
  deriving DecidableEq

namespace Property

/-- The characters that have the property. -/
def set : Property → CharSet
  | any => .any
  | ascii => .range '\x00' '\x7f'
  | assigned => assignedSet
  | general categories => categoriesSet categories
  | script s => s.set
  | extensions s => s.extensionSet
  | age v => v.set
  | graphemeBreak b => b.set
  | wordBreak b => b.set
  | sentenceBreak b => b.set
  | binary b => b.set

/-! ### Names -/

/-- A name as it is looked up: small letters, without spaces, hyphens, underscores, characters
beyond ASCII and a leading `is`. Only `isc` keeps its `is`, so that it is not taken for `c`. -/
def normalize (name : String) : String :=
  let (hasIs, rest) := match name.toList with
    | a :: b :: r => if (a == 'i' || a == 'I') && (b == 's' || b == 'S') then (true, r)
        else (false, a :: b :: r)
    | r => (false, r)
  let kept := (rest.filter fun c => c != ' ' && c != '_' && c != '-' && decide (c.toNat < 0x80)).map
    Char.toLower
  if hasIs && kept == ['c'] then "isc" else String.ofList kept

/-- The first value that goes by a name. -/
def value? {α : Type} (values : List (α × List String)) (name : String) : Option α :=
  (values.find? fun entry => entry.2.contains name).map Prod.fst

def category? (name : String) : Option Property :=
  if name == "any" then some any
  else if name == "assigned" then some assigned
  else if name == "ascii" then some ascii
  else (Category.named? name).map general

/-- The property a name without a value stands for: a binary property, else a category, else a
script. -/
def named? (name : String) : Option Property :=
  let name := normalize name
  ((value? BinaryProperty.names name).map binary).or
    ((category? name).or ((value? Script.names name).map script))

/-- The property that asks for one value of a property that has values. -/
def valued? (name value : String) : Option Property :=
  let name := normalize name
  let value := normalize value
  if ["gc", "generalcategory"].contains name then category? value
  else if ["sc", "script"].contains name then (value? Script.names value).map script
  else if ["scx", "scriptextensions"].contains name then (value? Script.names value).map extensions
  else if name == "age" then (Version.named? value).map age
  else if ["gcb", "graphemeclusterbreak"].contains name then
    (value? GraphemeBreak.names value).map graphemeBreak
  else if ["wb", "wordbreak"].contains name then (value? WordBreak.names value).map wordBreak
  else if ["sb", "sentencebreak"].contains name then
    (value? SentenceBreak.names value).map sentenceBreak
  else none

end Property

end RuleLexer.Unicode
