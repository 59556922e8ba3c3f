/-!
# JSON values

A value is a scalar, an array or an object. Objects keep the order of their members, and members
with equal keys.
-/

namespace GlyphCanvas

/-- A JSON value. -/
inductive Json where
  | null
  | boolean (value : Bool)
  | number (value : Float)
  | string (value : String)
  | array (items : List Json)
  | object (members : List (String × Json))

end GlyphCanvas
