import IconPress.Journal

/-!
# Settings

What a user can choose.

Main definitions:

- `Settings`: the choices, in their final form.
- `Settings.Field`: the names of the choices and their defaults.
- `Settings.standard`: the choices of a user who chooses nothing.
-/

namespace IconPress

/-- The choices of a user. -/
structure Settings where
  /-- The path of the sheet. -/
  inputPath : String
  /-- The path of the directory for the output. -/
  outputDir : String
  /-- How an inked pixel is written in the sheet. -/
  opaquePixel : String
  /-- How an empty pixel is written in the sheet. -/
  clearPixel : String
  /-- How an inked pixel is drawn. -/
  markerChar : Char
  /-- How an empty pixel is drawn. -/
  blankChar : Char
  /-- What frames are drawn with. -/
  borderChar : Char
  /-- What the output imports. -/
  macroImport : String
  /-- From which level on records are shown. -/
  logLevel : Level
deriving DecidableEq, Repr

namespace Settings

/-- The names of the choices. -/
inductive Field where
  | inputPath
  | outputDir
  | opaquePixel
  | clearPixel
  | markerChar
  | blankChar
  | borderChar
  | macroImport
  | logLevel
deriving DecidableEq, Repr

namespace Field

/-- The name of a choice. -/
def name : Field → String
  | inputPath => "INPUT_PATH"
  | outputDir => "OUTPUT_DIR"
  | opaquePixel => "OPAQUE_PIXEL"
  | clearPixel => "TRANSPARENT_PIXEL"
  | markerChar => "MARKER_CHAR"
  | blankChar => "BLANK_CHAR"
  | borderChar => "BORDER_CHAR"
  | macroImport => "MACRO_IMPORT"
  | logLevel => "LOG_LEVEL"

/-- The value that counts when none is given. -/
def standard : Field → String
  | inputPath => "icons-input.c"
  | outputDir => "src/icons"
  | opaquePixel => "0xff000000"
  | clearPixel => "0x00000000"
  | markerChar => "#"
  | blankChar => " "
  | borderChar => "*"
  | macroImport => "crate::make_icon_set"
  | logLevel => "INFO"

/-- The name of a choice in the environment. -/
def environmentName (field : Field) : String :=
  "GLYPHPACK_" ++ field.name

end Field

/-- The choices of a user who chooses nothing. -/
def standard : Settings where
  inputPath := Field.standard .inputPath
  outputDir := Field.standard .outputDir
  opaquePixel := Field.standard .opaquePixel
  clearPixel := Field.standard .clearPixel
  markerChar := '#'
  blankChar := ' '
  borderChar := '*'
  macroImport := Field.standard .macroImport
  logLevel := .info

end Settings
end IconPress
