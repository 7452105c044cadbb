/-!
# Dimensions of a sheet
-/

namespace IconPress

/-- What the header of a sheet declares about its icons. -/
inductive Dimension where
  | width
  | height
  | count
deriving DecidableEq, Repr

/-- The word for a dimension at the end of a declared name. -/
def Dimension.name : Dimension → String
  | width => "WIDTH"
  | height => "HEIGHT"
  | count => "COUNT"

end IconPress
