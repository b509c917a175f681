/-
# Kinds of settings

A kind says what a setting holds (`Value`), what it can be given (`Argument`)
and how the two are related: `read` makes an argument of the text of a property,
`accept` makes a value of an argument or refuses it, `write` makes a text of a
value, and `offer` makes the argument under which a value is copied.
-/
import MigrationConfig.Codec.Name
import MigrationConfig.Coercion
import MigrationConfig.Connection
import MigrationConfig.Extension.Loading
import MigrationConfig.Setting.Argument

namespace MigrationConfig

inductive Kind where
  /-- a truth value -/
  | flag
  /-- an integer that is not negative -/
  | counter
  /-- a text -/
  | text
  /-- a text that is not empty -/
  | requiredText
  /-- a text or none -/
  | optionalText
  /-- a text or none, where the empty text counts as none -/
  | nonEmptyText
  /-- a text or none that a connection is derived from -/
  | connectionText
  /-- the name of an encoding -/
  | encoding
  /-- a version -/
  | version
  /-- a list of texts -/
  | texts
  /-- a list of patterns -/
  | patterns
  /-- a list of rules for errors -/
  | overrides
  /-- a list of extensions that play a role -/
  | instances (role : Interface)
  /-- a property map -/
  | table
  /-- any object -/
  | provider
  /-- the sink of the dry-run output, if any -/
  | output
  deriving DecidableEq

namespace Kind

/-- What a setting of a kind holds. -/
@[reducible] def Value : Kind → Type
  | flag => Bool
  | counter => Int
  | text => String
  | requiredText => String
  | optionalText => Option String
  | nonEmptyText => Option String
  | connectionText => Option String
  | encoding => String
  | version => Version
  | texts => List String
  | patterns => List Pattern
  | overrides => List ErrorOverride
  | instances _ => List Instance
  | table => PropertyMap
  | provider => Provider
  | output => Option Sink

/-- What a setting of a kind can be given. -/
@[reducible] def Argument : Kind → Type
  | flag => Bool
  | counter => Document
  | text => String
  | requiredText => Option String
  | optionalText => Option String
  | nonEmptyText => Option String
  | connectionText => Option String
  | encoding => Option String
  | version => VersionArgument
  | texts => ListArgument String
  | patterns => ListArgument PatternItem
  | overrides => ListArgument OverrideItem
  | instances _ => InstancesArgument
  | table => PropertyMap
  | provider => Provider
  | output => OutputArgument

/-! ## From the text of a property -/

/-- The argument of a list of texts. -/
def textItems (raw : String) : ListArgument String := .items (Text.tokenize raw)

/-- The argument that the text of a property stands for.  There is none when a
list of classes is blank, and none for the kinds that have no text. -/
def read (key raw : String) : (k : Kind) → Except Error (Option k.Argument)
  | flag => (Coercion.flag key raw).map some
  | counter => (Coercion.integer key raw).map fun n => some (Document.number n)
  | text => .ok (some raw)
  | requiredText => .ok (some (some raw))
  | optionalText => .ok (some (some raw))
  | nonEmptyText => .ok (some (some raw))
  | connectionText => .ok (some (some raw))
  | encoding => .ok (some (some raw))
  | version => .ok (some (.text (some raw)))
  | texts => .ok (some (textItems raw))
  | patterns => .ok (some (.items ((Text.tokenize raw).map fun t => PatternItem.text (some t))))
  | overrides => .ok (some (.items ((Text.tokenize raw).map OverrideItem.text)))
  | instances _ =>
      if Text.isBlankText raw then .ok none else .ok (some (.named (textItems raw)))
  | table => .ok none
  | provider => .ok none
  | output => .ok (some (.file (Path.ofString raw)))

/-! ## From an argument to a value -/

/-- The counter that a document holds. -/
def acceptCounter (field : String) : Document → Except Error Int
  | .scalar (.number n) =>
      if 0 ≤ n then .ok n
      else if Scalar.isTooLong (.number n) then .error (.value .tooLongToWrite)
      else .error (.invalid (.negativeCounter field n))
  | d => .error (.invalid (.counterNotInteger field d))

/-- A text that is there and not empty. -/
def acceptRequired (field : String) (s : Option String) : Except Error String :=
  match Descriptor.nonEmpty? s with
  | some t => .ok t
  | none => .error (.invalid (.emptyText field s))

/-- The encoding of a name, under the name that all its names share. -/
def acceptEncoding (name : Option String) : Except Error String :=
  match name with
  | none => .error (.invalid (.unknownEncoding none))
  | some n =>
      if n.toList.contains '\x00' then .error (.value .nullInName)
      else
        match Codec.lookup? n with
        | some e => .ok e.name
        | none => .error (.invalid (.unknownEncoding (some n)))

/-- Opens the file of the dry-run output. -/
def openOutput (p : Path) : HostM Sink := do
  let h ← get
  if let some e := h.files.obstacle? p then throw (.file ⟨e, p⟩)
  if h.files.isDirectory p then throw (.invalid (.outputIsDirectory p))
  let (files, failure) := h.files.create p
  set { h with files }
  match failure with
  | some f => throw (HostM.fileError (fun fault => .invalid (.outputNotOpened p fault)) f)
  | none =>
      HostM.log (.outputOpened p)
      let (h, stream) := (← get).addStream (.opened p)
      set h
      return ⟨stream, some p⟩

/-- The sink of an output argument. -/
def acceptOutput : OutputArgument → HostM (Option Sink)
  | .stream s => return s.map fun id => ⟨id, none⟩
  | .file p => do return some (← openOutput p)

/-- The extensions of an argument. -/
def acceptInstances (field : String) (role : Interface) (loader : ClassLoader) :
    InstancesArgument → HostM (List Instance)
  | .given xs => do
      let candidates ← HostM.ofExcept (xs.resolve field fun s => .other (.text s))
      HostM.ofExcept (resolveAll (Candidate.check field role) candidates)
  | .named names => do
      let names ← HostM.ofExcept (names.resolve field id)
      loader.instantiateAll (some role) names

/-- The value that a setting takes when it is given an argument. -/
def accept (field : String) (loader : ClassLoader) : (k : Kind) → k.Argument → HostM k.Value
  | flag, b => return b
  | counter, d => HostM.ofExcept (acceptCounter field d)
  | text, s => return s
  | requiredText, s => HostM.ofExcept (acceptRequired field s)
  | optionalText, s => return s
  | nonEmptyText, s => return Descriptor.nonEmpty? s
  | connectionText, s => return s
  | encoding, s => HostM.ofExcept (acceptEncoding s)
  | version, v => HostM.ofExcept v.resolve
  | texts, xs => HostM.ofExcept (xs.resolve field id)
  | patterns, xs => do
      let items ← HostM.ofExcept (xs.resolve field fun t => .text (some t))
      HostM.ofExcept (resolveAll PatternItem.resolve items)
  | overrides, xs => do
      let items ← HostM.ofExcept (xs.resolve field OverrideItem.text)
      HostM.ofExcept (resolveAll OverrideItem.resolve items)
  | instances role, xs => acceptInstances field role loader xs
  | table, m => return m
  | provider, p => return p
  | output, o => acceptOutput o

/-! ## From a value -/

/-- The text of a truth value. -/
def flagText (b : Bool) : String := if b then "true" else "false"

/-- The text of a counter, unless it is too long. -/
def counterText (n : Int) : Except Error String :=
  if Scalar.isTooLong (.number n) then .error (.value .tooLongToWrite)
  else .ok (Text.integerText n)

/-- The text of a version; the empty schema has none. -/
def versionText? (v : Version) : Option String :=
  if v.same .empty then none else some v.text

/-- The text of a list of extensions, their full class names; no extensions have
none. -/
def instancesText? (is : List Instance) : Option String :=
  if is.isEmpty then none else some (Text.joinComma (is.map fun i => i.ofClass.fullName))

/-- The text of a value, if it has one. -/
def write : (k : Kind) → k.Value → Except Error (Option String)
  | flag, b => .ok (some (flagText b))
  | counter, n => (counterText n).map some
  | text, s => .ok (some s)
  | requiredText, s => .ok (some s)
  | optionalText, s => .ok s
  | nonEmptyText, s => .ok s
  | connectionText, s => .ok s
  | encoding, s => .ok (some s)
  | version, v => .ok (versionText? v)
  | texts, xs => .ok (some (Text.joinComma xs))
  | instances _, is => .ok (instancesText? is)
  | patterns, ps => .ok (some (Text.joinComma (ps.map Pattern.text)))
  | overrides, os => .ok (some (Text.joinComma (os.map ErrorOverride.text)))
  | table, _ => .ok none
  | provider, _ => .ok none
  | output, _ => .ok none

/-- The argument under which a value is copied.  Of a sink only the stream goes
along: who copies it did not open it. -/
def offer : (k : Kind) → k.Value → k.Argument
  | flag, b => b
  | counter, n => .number n
  | text, s => s
  | requiredText, s => some s
  | optionalText, s => s
  | nonEmptyText, s => s
  | connectionText, s => s
  | encoding, s => some s
  | version, v => .given v
  | texts, xs => .items xs
  | patterns, ps => .items (ps.map PatternItem.given)
  | overrides, os => .items (os.map OverrideItem.given)
  | instances _, is => .given (.items (is.map Candidate.object))
  | table, m => m
  | provider, p => p
  | output, s => .stream (s.map Sink.stream)

end Kind

end MigrationConfig
