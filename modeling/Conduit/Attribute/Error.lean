/-!
# Refused declarations

The two reasons for which a registry refuses to declare an attribute.
-/

namespace Conduit

/-- Why a declaration was refused. -/
inductive AttributeError where
  /-- The name is declared with another value type. -/
  | typeMismatch (name declared requested : String)
  /-- The registry has no slot left for a new name. -/
  | slotsExhausted (name : String) (limit : Nat)
  deriving DecidableEq, Repr

namespace AttributeError

/-- The message of a refused declaration. -/
def message : AttributeError → String
  | typeMismatch name declared requested =>
    "attribute `" ++ name ++ "` was declared as `" ++ declared ++ "` but requested as `" ++
      requested ++ "`"
  | slotsExhausted name limit =>
    "attribute registry exhausted its " ++ toString limit ++ " slots while declaring `" ++ name ++
      "`"

end AttributeError

end Conduit
