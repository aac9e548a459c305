import ShaderAssembly.Decimal.Binary64

/-!
# Values of a TOML document

A document is a table of values. A table or an array remembers by which syntax it came into being,
since that decides what later lines of the document may add to it.
-/

namespace ShaderAssembly.Toml

/-- How a table came into being. -/
inductive TableForm where
  /-- In braces; nothing can be added. -/
  | inline
  /-- By a header of its own, or as the document. -/
  | header
  /-- As the parent of a table with a header. -/
  | implied
  /-- By a key with dots. -/
  | dotted
  deriving DecidableEq, Repr

/-- How an array came into being. -/
inductive ArrayForm where
  /-- In brackets; nothing can be added. -/
  | inline
  /-- By headers, one for each table in it. -/
  | headers
  deriving DecidableEq, Repr

/-- A value. Dates and times are recognised, but nobody asks which one. -/
inductive Value where
  | string (text : String)
  | integer (value : Int)
  | float (value : Decimal.Binary64)
  | boolean (value : Bool)
  | datetime
  | array (form : ArrayForm) (items : List Value)
  | table (form : TableForm) (entries : List (String × Value))

end ShaderAssembly.Toml
