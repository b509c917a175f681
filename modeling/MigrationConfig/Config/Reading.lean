/-
# Readings

What can be seen of a configuration: its edition, its descriptor, the path of its
dry-run output, and the values of its settings.  A stream is seen only by whether
it is closed, and a descriptor without its class loader.
-/
import MigrationConfig.Config.Basic
import MigrationConfig.Config.Look

namespace MigrationConfig

/-- What can be asked of a configuration. -/
inductive Accessor where
  | edition
  | descriptor
  | outputPath
  | setting (s : Setting)
  deriving DecidableEq

namespace Accessor

/-- An accessor with those that are listed right in front of it or behind it. -/
def around : Setting → List Accessor
  | .password => [setting .password, descriptor]
  | .dryRunOutput => [setting .dryRunOutput, outputPath]
  | s => [setting s]

/-- All accessors, in the order in which a configuration is shown. -/
def all : List Accessor := edition :: Setting.all.flatMap around

end Accessor

/-- What is seen of a configuration. -/
inductive Reading where
  | edition (e : Edition)
  | flag (b : Bool)
  | number (n : Int)
  | text (s : Option String)
  | texts (xs : List String)
  | version (v : Version)
  | patterns (ps : List Pattern)
  | overrides (os : List ErrorOverride)
  | instances (is : List Instance)
  | table (m : PropertyMap)
  | provider (l : Look)
  /-- a stream, by whether it is closed -/
  | stream (isClosed : Option Bool)
  | path (p : Option Path)
  | descriptor (d : Option Descriptor)

namespace Reading

def same : Reading → Reading → Bool
  | edition a, edition b => a == b
  | flag a, flag b => a == b
  | number a, number b => a == b
  | text a, text b => a == b
  | texts a, texts b => a == b
  | version a, version b => a == b
  | patterns a, patterns b => a == b
  | overrides a, overrides b => a == b
  | instances a, instances b => a == b
  | table a, table b => a == b
  | provider a, provider b => a.same b
  | stream a, stream b => a == b
  | path a, path b => a == b
  | descriptor a, descriptor b => a == b
  | _, _ => false

def ofValue (h : Host) : (k : Kind) → k.Value → Reading
  | .flag, b => flag b
  | .counter, n => number n
  | .text, s => text (some s)
  | .requiredText, s => text (some s)
  | .optionalText, s => text s
  | .nonEmptyText, s => text s
  | .connectionText, s => text s
  | .encoding, s => text (some s)
  | .version, v => version v
  | .texts, xs => texts xs
  | .patterns, ps => patterns ps
  | .overrides, os => overrides os
  | .instances _, is => instances is
  | .table, m => table m
  | .provider, p => provider (.ofProvider h p)
  | .output, o => stream (o.map fun sink => h.isClosed sink.stream)

end Reading

namespace Config

/-- The path of the dry-run output, if the library opened it. -/
def outputPath (c : Config) : Option Path :=
  match c.get .dryRunOutput with
  | some sink => sink.path
  | none => none

/-- Asks a configuration for what an accessor shows. -/
def read (c : Config) (h : Host) : Accessor → Reading
  | .edition => .edition c.edition
  | .descriptor => .descriptor (c.descriptor.map fun d => { d with loader := none })
  | .outputPath => .path c.outputPath
  | .setting s => .ofValue h s.kind (c.get s)

/-- All that is seen of a configuration, in order. -/
def readings (c : Config) (h : Host) : List (Accessor × Reading) :=
  Accessor.all.map fun a => (a, c.read h a)

/-- What is seen of a new configuration. -/
def initialReadings (h : Host) : List (Accessor × Reading) :=
  (Config.new .community ⟨0, none⟩).readings h

end Config

/-- The readings that differ from what was seen before. -/
def differences : (before after : List (Accessor × Reading)) → List (Accessor × Reading)
  | b :: before, a :: after =>
      (if b.2.same a.2 then [] else [a]) ++ differences before after
  | _, after => after

end MigrationConfig
