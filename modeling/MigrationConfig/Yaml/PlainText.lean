/-
# Plain scalars

Text without quotes.  It ends where a colon or a comment is set off by a blank,
where a flow collection goes on, and where a line is indented too little.  A line
end becomes a space, empty lines become line feeds.
-/
import MigrationConfig.Yaml.Cursor

namespace MigrationConfig.Yaml.PlainText

/-- The marks of flow collections. -/
def isFlowMark (c : Char) : Bool :=
  c == ',' || c == '[' || c == ']' || c == '\x7b' || c == '\x7d'

/-- The characters that start something else than a plain scalar. -/
def isIndicator (c : Char) : Bool :=
  "-?:,[]\x7b\x7d#&*!|>'\"%@\x60".toList.contains c

/-- A plain scalar starts here: no indicator does, except for a hyphen, or outside
flow collections a question mark or a colon, with something close behind it. -/
def startsAt (inFlow : Bool) (c : Cursor) : Bool :=
  match c.next? with
  | none => false
  | some x =>
      (!isBlank x && !isIndicator x) ||
        (!c.endsAt 1 isBlank && (x == '-' || (!inFlow && (x == '?' || x == ':'))))

/-- The plain scalar ends at the next character. -/
def endsHere (inFlow : Bool) (c : Cursor) : Bool :=
  match c.next? with
  | none => true
  | some x =>
      isBlank x || (x == ':' && c.endsAt 1 fun y => isBlank y || (inFlow && isFlowMark y)) ||
        (inFlow && (isFlowMark x || x == '?'))

/-- The characters up to the next blank or end of the scalar. -/
def word (inFlow : Bool) : Nat → Cursor → List Char × Cursor
  | 0, c => ([], c)
  | steps + 1, c =>
      if endsHere inFlow c then ([], c)
      else
        let (rest, c') := word inFlow steps c.step
        (c.next?.toList ++ rest, c')

/-- The line ends of empty lines between two lines of a scalar, or nothing when a
mark between documents follows. -/
def emptyLines : Nat → Cursor → Option (List Char) × Cursor
  | 0, c => (some [], c)
  | steps + 1, c =>
      let c := c.skipWhile (· == ' ')
      match c.lineEnd? with
      | none => (some [], c)
      | some (e, c) =>
          if c.seesDocumentMark then (none, c)
          else
            let (es, c) := emptyLines steps c
            (es.map (e :: ·), c)

/-- What stands between two words: spaces, or a folded line end; and whether
a line end was passed.  Nothing stands there when the scalar is at its end. -/
def gap (c : Cursor) : List Char × Bool × Cursor :=
  let (spaces, c) := c.span (· == ' ')
  match c.lineEnd? with
  | none => (spaces, false, c)
  | some (e, c) =>
      if c.seesDocumentMark then ([], true, c)
      else
        let (empty, c) := emptyLines (c.rest.length + 1) c
        match empty with
        | none => ([], true, c)
        | some es =>
            ((if e != '\n' then [e] else if es.isEmpty then [' '] else []) ++ es, true, c)

/-- Reads words from here on, `before` standing between them and what was read
already; `allowsKey` tells that a line end was passed since.  A line of a block
has to be indented at least to `indent`. -/
def words (inFlow : Bool) (indent : Int) :
    Nat → List Char → Bool → Cursor → List Char × Bool × Cursor
  | 0, _, allowsKey, c => ([], allowsKey, c)
  | steps + 1, before, allowsKey, c =>
      if c.sees (· == '#') then ([], allowsKey, c)
      else
        let (w, c') := word inFlow (c.rest.length + 1) c
        if w.isEmpty then ([], allowsKey, c)
        else
          let (between, passed, c') := gap c'
          let isOut := !inFlow && Int.ofNat c'.column < indent
          if between.isEmpty || c'.sees (· == '#') || isOut then (before ++ w, passed, c')
          else
            let (rest, allows, c') := words inFlow indent steps between passed c'
            (before ++ w ++ rest, allows, c')

/-- Reads a plain scalar inside a block at the column `parent`; the flag tells that
a line end was passed behind it. -/
def read (inFlow : Bool) (parent : Int) (c : Cursor) : List Char × Bool × Cursor :=
  words inFlow (parent + 1) (c.rest.length + 1) [] false c

end MigrationConfig.Yaml.PlainText
