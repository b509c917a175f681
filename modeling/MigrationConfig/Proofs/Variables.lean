/-
# The variables of keys

Every key has a variable of its own: the names that keys are spelled as are all
different, and none of them is the second name of the dry-run output.  So the table
of the environment holds its pairs as they are written, and a variable that is
spelled as a key stands for that key.
-/
import MigrationConfig.Environment
import MigrationConfig.Proofs.Maps

namespace MigrationConfig

namespace Environment

/-- The keys that are read from a variable of their own. -/
def spelledKeys : List String := Setting.recognized.filterMap Setting.key? ++ sourceKeys

/-- The second name of the variable of the dry-run output. -/
def secondName : String := "FLYWAY_DRYRUN_OUTPUT"

/-- The characters that a key is spelled as. -/
def spelling (key : String) : List Char :=
  List.intercalate ['_']
    (((Text.splitOn ['.'] key.toList).filter fun s => !s.isEmpty).map fun s =>
      Text.upper (separateWords false s))

/-- No two names of variables are the same, and all of them begin alike.  They are
compared as characters, which are told apart at the first difference. -/
theorem nodup_spellings_and_root : (secondName.toList :: spelledKeys.map spelling).Nodup ∧
    ∀ cs ∈ spelledKeys.map spelling, (Namespace.dropRoot root.toList cs).isSome = true := by
  -- the keys are written out as characters first, which takes the kernel long
  simp only [secondName, spelledKeys, Setting.recognized, sourceKeys, filesKey, fileEncodingKey,
    Setting.key?, spelling, List.filterMap_cons, List.filterMap_nil, List.cons_append,
    List.nil_append, List.map_cons, List.map_nil, String.reduceToList]
  decide +kernel

theorem nodup_variables : (secondName :: spelledKeys.map variableOf).Nodup := by
  have hnames : secondName :: spelledKeys.map variableOf =
      (secondName.toList :: spelledKeys.map spelling).map String.ofList := by
    have hspelled : String.ofList ∘ spelling = variableOf := rfl
    rw [List.map_cons, String.ofList_toList, List.map_map, hspelled]
  rw [hnames]
  exact nodup_spellings_and_root.1.map fun _ _ => String.ofList_injective

/-- The keys by their variables. -/
def spelledTable : List (String × String) := spelledKeys.map fun key => (variableOf key, key)

theorem keys_spelledTable : Entries.keys spelledTable = spelledKeys.map variableOf := by
  have hfst : (Prod.fst ∘ fun key => (variableOf key, key)) = variableOf := rfl
  rw [Entries.keys, spelledTable, List.map_map, hfst]

/-- The table has the keys by their variables, and the second name. -/
theorem table_eq : table = Entries.put secondName "flyway.dryRunOutput" spelledTable := by
  have hnodup := (List.nodup_cons.1 nodup_variables).2
  rw [← keys_spelledTable] at hnodup
  have htable : table = Entries.put secondName "flyway.dryRunOutput"
      (Entries.ofPairs spelledTable) := by
    unfold table spelledTable spelledKeys secondName
    rfl
  rw [htable, Entries.ofPairs_eq_self hnodup]

/-- The table is asked first, and then the two namespaces, of which the first has its
names in lower case. -/
theorem key?_eq (name : String) :
    key? name = (Entries.get? name table).or
      (((Namespace.name? placeholderVariables name).map fun n =>
        placeholderRoot ++ String.ofList (Text.lower n.toList)).or
        ((Namespace.name? driverPropertyVariables name).map (driverPropertyRoot ++ ·))) := by
  -- the definition is opened as a function, so that the table is not evaluated
  obtain ⟨f, hf⟩ : ∃ f, f = key? := ⟨key?, rfl⟩
  rw [← hf]
  delta key? at hf
  rw [hf]
  beta_reduce
  cases Entries.get? name table with
  | some key => rfl
  | none => cases Namespace.name? placeholderVariables name <;> rfl

theorem key?_of_table {name key : String} (hfound : Entries.get? name table = some key) :
    key? name = some key := by
  rw [key?_eq, hfound, Option.some_or]

/-- The variable that a key is spelled as stands for the key. -/
theorem key?_variableOf {key : String} (hkey : key ∈ spelledKeys) :
    key? (variableOf key) = some key := by
  obtain ⟨hsecond, hnodup⟩ := List.nodup_cons.1 nodup_variables
  rw [← keys_spelledTable] at hnodup
  have hmem : (variableOf key, key) ∈ spelledTable :=
    List.mem_map.2 ⟨key, hkey, rfl⟩
  have hne : (secondName == variableOf key) = false := by
    refine beq_eq_false_iff_ne.2 fun he => hsecond ?_
    rw [he]
    exact List.mem_map.2 ⟨key, hkey, rfl⟩
  have hfound : Entries.get? (variableOf key) table = some key := by
    rw [table_eq, Entries.get?_put, hne, if_neg Bool.false_ne_true]
    exact Entries.get?_of_mem hnodup hmem
  exact key?_of_table hfound

/-- A variable that stands for a key contributes an entry. -/
theorem entryOf_of_key? {name key : String} (hroot : Namespace.beginsWith root name = true)
    (hkey : key? name = some key) (value : String) :
    entryOf true (name, value) = some (.inr (key, value)) := by
  unfold entryOf
  rw [hroot, hkey]
  simp

end Environment

end MigrationConfig
