import DomainSchema.Decimal

namespace DomainSchema.Toml

inductive Value where
  | string (s : String)
  | integer (i : Int)
  | float (x : Decimal.Double)
  | boolean (b : Bool)
  -- A date, a time or both, in its usual form.
  | datetime (text : String)
  | array (items : List Value)
  | table (entries : List (String × Value))

end DomainSchema.Toml
