import RecordMapping.Text.Quoted

namespace RecordMapping.Text

/-- A structure with its fields already in their debugging forms; one that is not `whole` ends in
dots for the parts it does not show. -/
def shown (name : String) (fields : List (String × String)) (whole : Bool) : String :=
  let parts := fields.map fun field => field.1 ++ ": " ++ field.2
  let parts := if whole then parts else parts ++ [".."]
  if parts.isEmpty then name
  else name ++ " \x7b " ++ ", ".intercalate parts ++ " \x7d"

def shownList (items : List String) : String := "[" ++ ", ".intercalate items ++ "]"

def shownBool (flag : Bool) : String := if flag then "true" else "false"

end RecordMapping.Text
