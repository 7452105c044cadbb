import IconPress.Failure
import IconPress.Files.Instant

/-!
# Archive names

An earlier output is kept beside the new one, under a name that carries the time of its removal.
-/

namespace IconPress

/-- The name under which a file is kept: a stamp and a mark stand between stem and suffix. -/
def stampedName (name : String) (instant : Instant) : String :=
  Path.stem name ++ "_" ++ instant.stamp ++ ".old" ++ Path.suffix name

/-- The name under which the file of a path is kept; the path has to have one itself. -/
def Path.archiveName (path : Path) (instant : Instant) : Except Failure String :=
  match path.name? with
  | some name => .ok (stampedName name instant)
  | none => .error (.noName path)

/-- The path under which the file of a path is kept, in the same directory. -/
def Path.archivedAt (path : Path) (instant : Instant) : Except Failure Path :=
  (path.archiveName instant).map path.withName

end IconPress
