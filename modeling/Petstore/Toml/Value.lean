/-!
# TOML values

The values of a configuration text. Of floats and dates only their presence matters here, so their
contents are not kept.
-/

namespace Petstore.Toml

/-- A TOML value. -/
inductive Value where
  | string (text : String)
  | integer (n : Int)
  | float
  | boolean (b : Bool)
  | datetime
  | array (items : List Value)
  | table (entries : List (String × Value))
  deriving Inhabited

end Petstore.Toml
