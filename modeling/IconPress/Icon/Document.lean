import IconPress.Files.Path
import IconPress.Icon.Preview

/-!
# Documents

The text that a sheet is compiled to: a declaration of an icon set, in which every icon has a
constant, a method, a drawing and its bytes.

The size is part of the text, of the name of the type and of the path.  These functions are meant
for sizes that are not too large to be written, and `compile` makes a document for no other size.

Main definitions:

- `Icon` and `Icon.text`: one icon of a set.
- `documentText`: the text of a whole set.
- `outputPath`: where the text goes.
-/

namespace IconPress

/-- An icon of a set: its two names, its drawing and its bytes. -/
structure Icon where
  constName : String
  methodName : String
  comment : List String
  packed : List String
deriving DecidableEq, Repr

/-- A compiled set with the path that it is meant for. -/
structure Document where
  path : Path
  structName : String
  text : String
  icons : List Icon
deriving DecidableEq, Repr

/-- The text of an icon. -/
def Icon.text (icon : Icon) : String :=
  let bytes := ",\n".intercalate (icon.packed.map (indent 3 ++ ·))
  "\n".intercalate icon.comment ++ "\n" ++ indent iconLevel ++ icon.constName ++ ": " ++
    icon.methodName ++ " = &[\n" ++ bytes ++ "\n" ++ indent iconLevel ++ "]"

/-- The name of the type for a set of icons of a size. -/
def structName (size : Int) : String :=
  s!"Icons{size}"

/-- The text of a set of icons. -/
def documentText (settings : Settings) (size : Int) (icons : List Icon) : String :=
  let body := ",\n\n".intercalate (icons.map Icon.text)
  s!"use {settings.macroImport};\n\n" ++ "make_icon_set! \x7b\n" ++
    indent 1 ++ s!"pub {structName size}: {size} " ++ "\x7b\n" ++ body ++ "\n" ++
    indent 1 ++ "\x7d\n\x7d"

/-- Where the set of icons of a size is written. -/
def outputPath (settings : Settings) (size : Int) : Path :=
  (Path.parse settings.outputDir).child s!"icons{size}.rs"

end IconPress
