import HttpContract.Config.Basic
import HttpContract.FileTree.Basic
import HttpContract.Toml.Parse

/-! Reading a configuration: from a TOML document, or from a file that may be left out. -/
namespace HttpContract
namespace Config

open Shape

def executionFields : List (RecordField ExecutionConfig) :=
  [fieldOf "strategy" (variant (StrategyKind.all.map fun kind => (kind.name, kind)))
      fun strategy config => { config with strategy },
    fieldOf "workers" (natural "usize") fun workers config => { config with workers }]

def protectedHeadsField : RecordField (List Text) :=
  fieldOf "section_headers" (list (text "a string")) fun heads _ => heads

def formatsField : RecordField (List ReportFormat) :=
  fieldOf "formats" (list (variant (ReportFormat.all.map fun format => (format.name, format))))
    fun formats _ => formats

/-- The keys of a document. Each of the last three holds a table of its own, and what that table
leaves out has its default. -/
def fields : List (RecordField Config) :=
  [fieldOf "api_url" (text "a string") fun apiUrl config => { config with apiUrl },
    fieldOf "http_file" (text "path string") fun httpFile config => { config with httpFile },
    fieldOf "output_dir" (text "path string") fun outputDir config => { config with outputDir },
    fieldOf "timeout_ms" (natural "u64") fun timeoutMillis config => { config with timeoutMillis },
    fieldOf "execution" (record "ExecutionConfig" executionFields {})
      fun execution config => { config with execution },
    fieldOf "parser" (record "ParserConfig" [protectedHeadsField] Block.defaultProtected)
      fun protectedHeads config => { config with protectedHeads },
    fieldOf "reports" (record "ReportsConfig" [formatsField] ReportFormat.all)
      fun formats config => { config with formats }]

/-- The configuration of a document, which is validated by itself. -/
def ofText (path : Option Text) (document : Text) : Except ConfigError Config :=
  match Toml.parse? document with
  | none => .error (.malformed path)
  | some given =>
    match entries fields {} given with
    | .error fault => .error (.misshapen path fault)
    | .ok config => do
      config.validate
      return config

/-- The file that is read if none is named, provided that it is there. -/
def defaultFile : Text := "contractman.toml"

def ofFile (tree : FileTree) (path : Text) : Except ConfigError Config :=
  match tree.read path with
  | .error fault => .error (.unreadable path fault)
  | .ok document => ofText (some path) document

/-- The configuration of the named file, or of the default file, or the default configuration. -/
def load (tree : FileTree) (explicit : Option Text) : Except ConfigError Config :=
  match explicit with
  | some path => ofFile tree path
  | none => if tree.hasEntry defaultFile then ofFile tree defaultFile else .ok {}

end Config
end HttpContract
