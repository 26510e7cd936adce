import CpuUsage.Settings.Load

/-! Where the settings file is. The end of its name tells the format; a name without that end may be given. Nothing is
wrong with a file that is missing or has another end: there are no settings in it then. -/
namespace CpuUsage

/-- The ends of file names that tell a format, by the readers of the formats that are not followed here. -/
def fileFormats (yaml ini ron json5 : String → Option Layer) : List (String × FileFormat) :=
  [("toml", .toml), ("json", .json), ("yaml", .foreign yaml), ("yml", .foreign yaml), ("ini", .foreign ini),
    ("ron", .foreign ron), ("json5", .foreign json5)]

/-- The format that a file name ends with; a name that is nothing but the end has none. -/
def FileFormat.ofPath? (formats : List (String × FileFormat)) (path : String) : Option FileFormat :=
  let (_, name) := splitLast '/' path.toList
  match splitLast '.' name with
  | (some (_ :: _), ending) => formats.lookup (String.ofList ending)
  | _ => none

def defaultSettingsPath : String :=
  ".config/cpu-entitlement/config.toml"

def withEnding (path ending : String) : String :=
  path ++ "." ++ ending

/-- The paths that a path may stand for: itself, and with an end added. -/
def candidatePaths (formats : List (String × FileFormat)) (path : String) : List String :=
  path :: formats.map fun f => withEnding path f.1

/-- Contents and format of the file at a path that ends in a name, or else at the first of the paths with an end added
where there is one. -/
def findSettings (formats : List (String × FileFormat)) (files : String → Option String) (path : String) :
    Option (FileFormat × String) :=
  match files path with
  | some text => (FileFormat.ofPath? formats path).map fun format => (format, text)
  | none => formats.findSome? fun f => (files (withEnding path f.1)).map fun text => (f.2, text)

end CpuUsage
