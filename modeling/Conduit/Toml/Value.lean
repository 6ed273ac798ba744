/-!
# TOML values

The values of a TOML document. Tables remember how they were written, because that decides whether
a later line of the document may add to them.
-/

namespace Conduit.Toml

/-- How a table came into being. -/
inductive TableKind where
  /-- Written between braces; complete when it ends. -/
  | inline
  /-- Named by a header, or the document itself. -/
  | header
  /-- Named only as the parent in a longer header. -/
  | implicit
  /-- Named only as the parent in a dotted key. -/
  | dotted
  deriving DecidableEq, Repr

/-- A value. Numbers with a fraction or an exponent and dates keep their text. -/
inductive Value where
  | string (text : String)
  | integer (n : Int)
  | float (text : String)
  | boolean (b : Bool)
  | datetime (text : String)
  /-- A list of values, or of the tables that were added under double-bracket headers. -/
  | array (ofTables : Bool) (items : List Value)
  | table (kind : TableKind) (entries : List (String × Value))
  deriving Repr, Inhabited

/-- The keys of a table with their values, in the order of the document. -/
abbrev Entries := List (String × Value)

namespace Entries

/-- Replaces the value of a key. -/
def replace (entries : Entries) (key : String) (value : Value) : Entries :=
  entries.map fun e ↦ if e.1 = key then (key, value) else e

/-- The entries without those of a key. -/
def without (entries : Entries) (key : String) : Entries :=
  entries.filter fun e ↦ e.1 ≠ key

end Entries

end Conduit.Toml
