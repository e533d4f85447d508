/-!
# Configuration errors

What can be wrong with a configuration, and how it is told.
-/

namespace MediaShelves

/-- What is wrong with a configuration. -/
inductive ConfigError where
  /-- A plan needs a box that the table does not have. -/
  | missingBox (key : String)
  /-- A text is no pattern. -/
  | invalidPattern (pattern : String)
  /-- The document is no configuration. -/
  | malformed
  /-- The file is missing or no text. -/
  | unreadable
deriving DecidableEq, Repr

/-- The text of an error. -/
def ConfigError.message : ConfigError → String
  | .missingBox key => "Box '" ++ key ++ "' is not defined in the box layout"
  | .invalidPattern pattern => "Invalid pattern '" ++ pattern ++ "'"
  | .malformed => "Failed to parse layout configuration"
  | .unreadable => "Failed to read layout configuration"

end MediaShelves
