/-! Values of TOML documents. A table remembers how it came about, since that decides what
may be added to it later. -/
namespace CredRelay.Toml

/-- How a table came about: by its own header or as the document, by a header for
something inside it, by a dotted key, or written in place. -/
inductive Origin where
  | header
  | parent
  | dotted
  | inPlace
  deriving DecidableEq, Repr

/-- A value of a document. Of numbers with a fraction and of dates only the presence
matters. -/
inductive Value where
  | text (s : String)
  | integer (n : Int)
  | fraction
  | boolean (b : Bool)
  | moment
  | array (items : List Value)
  | table (origin : Origin) (entries : List (String × Value))
  | tables (items : List (List (String × Value)))
  deriving Inhabited

end CredRelay.Toml
