/-
# Values of a settings file

A settings file is a table of tables.  Its numbers are whole or doubles, and a
date keeps its normalized text.
-/
namespace NodeKeeper.Toml

inductive Value where
  | text (s : String)
  | integer (n : Int)
  | float (x : Float)
  | bool (b : Bool)
  /-- a date, a time of day or both -/
  | date (normalized : String)
  | array (items : List Value)
  | table (entries : List (String × Value))

instance : Inhabited Value := ⟨.table []⟩

end NodeKeeper.Toml
