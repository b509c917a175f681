/-
# Configurations

A configuration has a value for every setting.  It also keeps the descriptor of
its connection, the edition it is meant for, and the loader of its classes.

The values are a function from settings, so that what a change does is said by
two laws: the setting that is put has the new value, every other setting has
the one it had.
-/
import MigrationConfig.Setting.Catalog

namespace MigrationConfig

/-- A value for every setting, with the connection that was derived or handed
in. -/
structure Config where
  edition : Edition
  loader : ClassLoader
  descriptor : Option Descriptor
  values : (s : Setting) → s.Value

namespace Config

/-- A configuration with the initial values. -/
def new (edition : Edition) (loader : ClassLoader) : Config :=
  ⟨edition, loader, none, Setting.initial⟩

def get (c : Config) (s : Setting) : s.Value := c.values s

/-- Gives a setting a value. -/
def put (c : Config) (s : Setting) (v : s.Value) : Config :=
  { c with values := fun t => if h : s = t then h ▸ v else c.values t }

@[simp] theorem get_put_same (c : Config) (s : Setting) (v : s.Value) : (c.put s v).get s = v := by
  simp [put, get]

theorem get_put_of_ne (c : Config) {s t : Setting} (v : s.Value) (h : s ≠ t) :
    (c.put s v).get t = c.get t := by
  simp [put, get, h]

/-- The edition has the feature of a setting, if the setting needs one. -/
def allows (c : Config) (s : Setting) : Bool :=
  match s.feature? with
  | none => true
  | some f => (Gate.standard c.edition).allows f

/-- Refuses a setting whose feature the edition does not have. -/
def require (c : Config) (s : Setting) : Except Error Unit :=
  match s.feature? with
  | none => .ok ()
  | some f => (Gate.standard c.edition).require f

end Config

end MigrationConfig
