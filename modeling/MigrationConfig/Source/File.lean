/-
# Settings files

A settings file is a text in an encoding.  Its suffix tells the format: YAML,
JSON, or properties for every other suffix.  A structured file has to hold a
mapping, which is flattened; an empty one holds an empty mapping.

Of a file that does not fit its format only the fault of JSON is described.
-/
import MigrationConfig.Host
import MigrationConfig.Json.Reader
import MigrationConfig.Property.Reader
import MigrationConfig.Text.Case
import MigrationConfig.Yaml.Reader

namespace MigrationConfig.SettingsFile

inductive Format where
  | yaml
  | json
  | properties
  deriving DecidableEq

/-- The format that a path stands for, whatever the case of its suffix. -/
def formatOf (p : Path) : Format :=
  let suffix := Text.lower p.suffix
  if suffix == ".yaml".toList || suffix == ".yml".toList then .yaml
  else if suffix == ".json".toList then .json
  else .properties

/-- The text of a file, with a line feed for every line end.  A fault of the bytes is a
matter of the file, one of the text as a whole is not taken for that. -/
def text (others : Codec.Decoders) (t : FileTree) (p : Path) (encoding : String) :
    Except Error (List Char) :=
  if encoding.toList.contains '\x00' then .error (.value .nullInName)
  else
    match t.read p with
    | .error .nullInPath => .error (.value .nullInPath)
    | .error (.fault f) => .error (.invalid (.fileNotRead p f.message))
    | .ok bytes =>
        match Codec.decode others encoding bytes with
        | .ok cs => .ok (Text.unifyLineEnds cs)
        | .error (.fault .noByteOrderMark) => .error (.value .noByteOrderMark)
        | .error (.fault (.whole reason)) => .error (.value (.notDecoded reason))
        | .error e => .error (.invalid (.fileNotRead p e.message))

/-- A document that counts as nothing: null, falsehood, zero, and an empty text, list,
set or mapping. -/
def isNothing : Document → Bool
  | .scalar .null => true
  | .scalar (.flag b) => !b
  | .scalar (.number n) => n == 0
  | .scalar (.real x) => x == 0.0
  | .scalar (.text s) => s.isEmpty
  | .scalar (.bytes bs) => bs.isEmpty
  | .scalar (.stamp _) => false
  | .scalar (.recurrence _) => false
  | .list items => items.isEmpty
  | .pair _ _ => false
  | .set members => members.isEmpty
  | .mapping entries => entries.isEmpty

/-- The document of a YAML file, where one that counts as nothing is an empty
mapping. -/
def yamlDocument (p : Path) (cs : List Char) : Except Error Document :=
  match Yaml.read cs with
  | .ok d => .ok (if isNothing d then .mapping [] else d)
  | .error .malformed => .error (.invalid (.fileNotParsed p none))
  | .error (.value f) => .error (.value f)

/-- The document of a JSON file, where a blank one is an empty mapping. -/
def jsonDocument (p : Path) (cs : List Char) : Except Error Document :=
  if cs.all Text.isBlank then .ok (.mapping [])
  else
    match Json.readChars cs with
    | .ok d => .ok d
    | .error (.fault f rest) =>
        .error (.invalid (.fileNotParsed p (some (Json.located cs f rest))))
    | .error (.tooManyDigits n) => .error (.value (.tooManyDigits n))

/-- The properties of the entries of a mapping below `parent`, unless there is an
obstacle to writing them. -/
def flatten (entries : List (Scalar × Document)) (parent : String) : Except Error PropertyMap :=
  match Document.entriesObstacle? entries with
  | some (.endless what) => .error (.value (.endless what))
  | some .tooLong => .error (.value .tooLongToWrite)
  | none => .ok (Document.flatten entries parent)

/-- The properties of a document, which has to be a mapping. -/
def ofDocument (p : Path) : Document → Except Error PropertyMap
  | .mapping entries => flatten entries ""
  | _ => .error (.invalid (.fileNotMapping p))

def load (others : Codec.Decoders) (t : FileTree) (p : Path) (encoding : String) :
    Except Error PropertyMap :=
  match text others t p encoding with
  | .error e => .error e
  | .ok cs =>
      match formatOf p with
      | .properties => .ok (PropertiesText.read cs)
      | .yaml => do ofDocument p (← yamlDocument p cs)
      | .json => do ofDocument p (← jsonDocument p cs)

/-- Loads settings files over what has been loaded already; later files override
earlier ones.  A file that is missing or cannot be loaded is an error if files are
required, and is passed over otherwise.  One that cannot even be asked for is an
error in any case. -/
def loadAll (encoding : String) (areRequired : Bool) (loaded : PropertyMap) :
    List Path → HostM PropertyMap
  | [] => return loaded
  | p :: rest => do
      let h ← get
      if let some e := h.files.obstacle? p then throw (.file ⟨e, p⟩)
      else if !h.files.isFile p then
        if areRequired then throw (.invalid (.fileNotFound p))
        else loadAll encoding areRequired loaded rest
      else
        match load h.decoders h.files p encoding with
        | .ok m => do
            HostM.log (.fileRead p)
            loadAll encoding areRequired (loaded.union m) rest
        | .error e =>
            if areRequired || !e.isConfiguration then throw e
            else do
              HostM.log (.filePassedOver p e.message)
              loadAll encoding areRequired loaded rest

end MigrationConfig.SettingsFile
