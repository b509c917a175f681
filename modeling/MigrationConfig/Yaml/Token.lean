/-
# YAML tokens

A YAML text as a row of tokens.  Besides the marks that are written there are
tokens for the start and the end of blocks, which only indentation shows, and
for the keys of mappings: that a scalar was a key is seen at the colon behind
it, so its token is put in front of it then.

The text is read no further than needed to settle what the next token is, so a
fault behind it does not come before what is made of it.  A token is settled
when no key can start at it any more.
-/
import MigrationConfig.Yaml.BlockText
import MigrationConfig.Yaml.PlainText
import MigrationConfig.Yaml.QuotedText

namespace MigrationConfig.Yaml

inductive Token where
  /-- the version of the format -/
  | versionDirective (major : Nat)
  /-- what a handle of tags stands for -/
  | tagDirective (handle meaning : List Char)
  /-- any other directive -/
  | otherDirective
  | documentStart
  | documentEnd
  | textEnd
  | blockSequenceStart
  | blockMappingStart
  | blockEnd
  | flowSequenceStart
  | flowSequenceEnd
  | flowMappingStart
  | flowMappingEnd
  | flowEntry
  | blockEntry
  | key
  | value
  | alias (name : List Char)
  | anchor (name : List Char)
  /-- a tag: its handle, if it has one, and what follows -/
  | tag (handle : Option (List Char)) (suffix : List Char)
  | scalar (text : List Char) (plain : Bool)
  deriving DecidableEq

/-- A place where a key may have started that no colon has confirmed yet. -/
structure PossibleKey where
  /-- the number of tokens in front of it -/
  tokens : Nat
  /-- it stands where only a key can -/
  isRequired : Bool
  index : Nat
  line : Nat
  column : Nat

/-- The state of cutting a text into tokens. -/
structure Lexer where
  cursor : Cursor
  /-- the number of flow collections around the cursor -/
  flow : Nat
  /-- the column of the innermost block, minus one outside all blocks -/
  indent : Int
  /-- the columns of the blocks around it, innermost first -/
  outer : List Int
  /-- a key may start here -/
  allowsKey : Bool
  /-- the possible keys by the number of flow collections around them -/
  keys : List (Nat × PossibleKey)
  /-- the number of tokens that have been taken -/
  taken : Nat
  /-- the tokens that have been read and not taken, last first -/
  tokens : List Token
  /-- the end of the text has been read -/
  isDone : Bool

namespace Lexer

/-- The state at the start of a text. -/
def start (text : List Char) : Lexer :=
  { cursor := .start text, flow := 0, indent := -1, outer := [], allowsKey := true, keys := [],
    taken := 0, tokens := [], isDone := false }

/-- The number of tokens that have been read. -/
def count (l : Lexer) : Nat := l.taken + l.tokens.length

def emit (l : Lexer) (t : Token) : Lexer := { l with tokens := t :: l.tokens }

/-- Adds a token behind the first `n`; no more than these have been taken. -/
def insertAt (l : Lexer) (n : Nat) (t : Token) : Lexer :=
  let (behind, before) := l.tokens.splitAt (l.count - n)
  { l with tokens := behind ++ t :: before }

/-- The next token, if one has been read. -/
def next? (l : Lexer) : Option Token := l.tokens.getLast?

def take (l : Lexer) : Lexer := { l with taken := l.taken + 1, tokens := l.tokens.dropLast }

/-- The cursor stands inside a flow collection. -/
def inFlow (l : Lexer) : Bool := l.flow != 0

def moveTo (l : Lexer) (c : Cursor) : Lexer := { l with cursor := c }

/-! ## Blocks -/

/-- Closes the blocks that are indented more than `column`. -/
def closeBlocks (column : Int) (l : Lexer) : List Int → Lexer
  | [] => l
  | outer :: rest =>
      if l.indent > column then
        closeBlocks column ({ l with indent := outer, outer := rest }.emit .blockEnd) rest
      else l

/-- Closes the blocks that end where the next token stands. -/
def unwind (l : Lexer) (column : Int) : Lexer :=
  if l.inFlow then l else closeBlocks column l l.outer

/-- A block at `column` is deeper than the innermost one. -/
def opensBlock (l : Lexer) (column : Nat) : Bool := l.indent < Int.ofNat column

/-- Opens a block at a column. -/
def openBlock (l : Lexer) (column : Nat) : Lexer :=
  { l with indent := Int.ofNat column, outer := l.indent :: l.outer }

/-! ## Possible keys -/

/-- A possible key is given up when its line is over or it is too long. -/
def isStale (l : Lexer) (k : PossibleKey) : Bool :=
  k.line != l.cursor.line || k.index + 1024 < l.cursor.index

/-- Gives up the possible keys that have become stale; a required one must
not. -/
def dropStale (l : Lexer) : Except Fault Lexer :=
  if l.keys.any fun k => l.isStale k.2 && k.2.isRequired then .error .malformed
  else .ok { l with keys := l.keys.filter fun k => !l.isStale k.2 }

/-- The possible key at this depth of flow collections. -/
def key? (l : Lexer) : Option PossibleKey := Entries.get? l.flow l.keys

/-- The state without the possible key at this depth. -/
def withoutKey (l : Lexer) : Lexer := { l with keys := l.keys.filter fun k => k.1 != l.flow }

/-- Gives up the possible key at this depth; a required one must not. -/
def dropKey (l : Lexer) : Except Fault Lexer :=
  if l.key?.any fun k => k.isRequired then .error .malformed else .ok l.withoutKey

/-- Notes that a key may start here. -/
def noteKey (l : Lexer) : Except Fault Lexer :=
  if !l.allowsKey then .ok l
  else do
    let c := l.cursor
    let isRequired := !l.inFlow && l.indent == Int.ofNat c.column
    let l ← l.dropKey
    let key : PossibleKey := ⟨l.count, isRequired, c.index, c.line, c.column⟩
    return { l with keys := (l.flow, key) :: l.keys }

/-- The state in which a key may start, or none may. -/
def allowing (l : Lexer) (b : Bool) : Lexer := { l with allowsKey := b }

/-! ## Tokens one by one -/

/-- Goes past blanks, comments and line ends; outside flow collections, a key may
start on a new line. -/
def skipToToken : Nat → Lexer → Lexer
  | 0, l => l
  | steps + 1, l =>
      let c := (l.cursor.skipWhile (· == ' ')).skipComment
      match c.lineEnd? with
      | none => l.moveTo c
      | some (_, c) => skipToToken steps ((l.moveTo c).allowing (l.allowsKey || !l.inFlow))

/-- A number of a version directive. -/
def directiveNumber (c : Cursor) : Except Fault (Nat × Cursor) :=
  let (ds, c) := c.span Text.isDigit
  if ds.isEmpty then .error .malformed
  else if Text.digitLimit < ds.length then .error (.value (.tooManyDigits ds.length))
  else .ok (Text.natOfDigits ds, c)

/-- A character that can stand in a tag. -/
def isTagChar (c : Char) : Bool :=
  c.isAlphanum || "-;/?:@&=+$,_.!~*'()[]".toList.contains c

/-- The text of a tag, its escapes resolved to bytes. -/
def tagBytes : Nat → Cursor → Except Fault (List UInt8 × Cursor)
  | 0, c => .ok ([], c)
  | steps + 1, c =>
      match c.next? with
      | none => .ok ([], c)
      | some x =>
          if x == '%' then
            match QuotedText.hexNumber? 2 (c.rest.drop 1) with
            | none => .error .malformed
            | some n => (tagBytes steps (c.skip 3)).map fun (bs, c) => (n.toUInt8 :: bs, c)
          else if isTagChar x then
            (tagBytes steps c.step).map fun (bs, c) => (x.toNat.toUInt8 :: bs, c)
          else .ok ([], c)

/-- The text of a tag, which must not be empty. -/
def tagText (c : Cursor) : Except Fault (List Char × Cursor) := do
  let (bytes, c) ← tagBytes (c.rest.length + 1) c
  if bytes.isEmpty then throw .malformed
  match Codec.Utf8.decode bytes with
  | .ok cs => return (cs, c)
  | .error _ => throw .malformed

/-- A handle of tags: a mark alone, or two with a word between. -/
def tagHandle (c : Cursor) : Except Fault (List Char × Cursor) :=
  if !c.sees (· == '!') then .error .malformed
  else if c.step.sees (· == ' ') then .ok (['!'], c.step)
  else
    let (word, d) := c.step.span isWordChar
    if d.sees (· == '!') then .ok ('!' :: word ++ ['!'], d.step) else .error .malformed

/-- The tag that starts here. -/
def tagToken (c : Cursor) : Except Fault (Token × Cursor) := do
  let (t, c) ←
    if c.step.sees (· == '<') then do
      let (suffix, c) ← tagText (c.skip 2)
      if !c.sees (· == '>') then throw .malformed
      pure (Token.tag none suffix, c.step)
    else if c.endsAt 1 isBlank then pure (Token.tag none ['!'], c.step)
    else if (c.step.rest.takeWhile fun x => !isSpaceOrBreak x).contains '!' then do
      let (handle, c) ← tagHandle c
      let (suffix, c) ← tagText c
      pure (Token.tag (some handle) suffix, c)
    else do
      let (suffix, c) ← tagText c.step
      pure (Token.tag (some ['!']) suffix, c)
  if !c.endsAt 0 isSpaceOrBreak then throw .malformed
  return (t, c)

/-- A directive without its end: its token, and the place behind it. -/
def directiveBody (c : Cursor) : Except Fault (Token × Cursor) := do
  let (name, c) := c.step.span isWordChar
  if name.isEmpty || !c.endsAt 0 isSpaceOrBreak then throw .malformed
  if name == "YAML".toList then
    let (major, c) ← directiveNumber (c.skipWhile (· == ' '))
    if !c.sees (· == '.') then throw .malformed
    let (_, c) ← directiveNumber c.step
    if !c.endsAt 0 isSpaceOrBreak then throw .malformed
    return (.versionDirective major, c)
  else if name == "TAG".toList then
    let (handle, c) ← tagHandle (c.skipWhile (· == ' '))
    if !c.sees (· == ' ') then throw .malformed
    let (meaning, c) ← tagText (c.skipWhile (· == ' '))
    if !c.endsAt 0 isSpaceOrBreak then throw .malformed
    return (.tagDirective handle meaning, c)
  else return (.otherDirective, c.skipWhile fun x => !isBreak x)

/-- The directive that starts here, with the rest of its line. -/
def directive (l : Lexer) : Except Fault Lexer := do
  let l ← (l.unwind (-1)).dropKey
  let (t, c) ← directiveBody l.cursor
  let c := (c.skipWhile (· == ' ')).skipComment
  if !c.endsAt 0 isBreak then throw .malformed
  return ((l.allowing false).moveTo ((c.lineEnd?.map Prod.snd).getD c)).emit t

def documentMark (l : Lexer) (t : Token) : Except Fault Lexer := do
  let l ← (l.unwind (-1)).dropKey
  return ((l.allowing false).moveTo (l.cursor.skip 3)).emit t

def flowStart (l : Lexer) (t : Token) : Except Fault Lexer := do
  let l ← l.noteKey
  return ({ l with flow := l.flow + 1, allowsKey := true }.moveTo l.cursor.step).emit t

def flowEnd (l : Lexer) (t : Token) : Except Fault Lexer := do
  let l ← l.dropKey
  if l.flow == 0 then throw .malformed
  return ({ l with flow := l.flow - 1, allowsKey := false }.moveTo l.cursor.step).emit t

def flowEntry (l : Lexer) : Except Fault Lexer := do
  let l ← l.dropKey
  return ((l.allowing true).moveTo l.cursor.step).emit .flowEntry

/-- The mark `mark` of a block, opening the block with `start` if it is a new
one; only where a key may start. -/
def blockMark (l : Lexer) (start mark : Token) : Except Fault Lexer := do
  let column := l.cursor.column
  if !l.inFlow && !l.allowsKey then throw .malformed
  let l := if !l.inFlow && l.opensBlock column then (l.openBlock column).emit start else l
  return (l.moveTo l.cursor.step).emit mark

/-- The hyphen of an item. -/
def blockEntry (l : Lexer) : Except Fault Lexer := do
  let l ← (← l.blockMark .blockSequenceStart .blockEntry).dropKey
  return l.allowing true

/-- The question mark of a key. -/
def keyMark (l : Lexer) : Except Fault Lexer := do
  let l ← (← l.blockMark .blockMappingStart .key).dropKey
  return l.allowing (!l.inFlow)

/-- The colon of a value.  A possible key in front of it is one; otherwise the
value has no key of its own. -/
def valueMark (l : Lexer) : Except Fault Lexer :=
  match l.key? with
  | some k =>
      let l := l.withoutKey.insertAt k.tokens .key
      let l :=
        if !l.inFlow && l.opensBlock k.column then
          (l.openBlock k.column).insertAt k.tokens .blockMappingStart
        else l
      .ok (((l.allowing false).moveTo l.cursor.step).emit .value)
  | none => do
      let l ← (← l.blockMark .blockMappingStart .value).dropKey
      return l.allowing (!l.inFlow)

/-- The name of an anchor or an alias. -/
def reference (l : Lexer) (make : List Char → Token) : Except Fault Lexer := do
  let l ← l.noteKey
  let (name, c) := l.cursor.step.span isWordChar
  if name.isEmpty then throw .malformed
  if !c.endsAt 0 fun x => isBlank x || "?:,]\x7d%@\x60".toList.contains x then throw .malformed
  return ((l.allowing false).moveTo c).emit (make name)

def tag (l : Lexer) : Except Fault Lexer := do
  let l ← l.noteKey
  let (t, c) ← tagToken l.cursor
  return ((l.allowing false).moveTo c).emit t

def blockScalar (l : Lexer) (folds : Bool) : Except Fault Lexer := do
  let l ← l.dropKey
  let (text, c) ← BlockText.read folds l.indent l.cursor
  return ((l.allowing true).moveTo c).emit (.scalar text false)

def quotedScalar (l : Lexer) (double : Bool) : Except Fault Lexer := do
  let l ← l.noteKey
  let (text, c) ← QuotedText.read double l.cursor
  return ((l.allowing false).moveTo c).emit (.scalar text false)

def plainScalar (l : Lexer) : Except Fault Lexer := do
  let l ← l.noteKey
  let (text, allows, c) := PlainText.read l.inFlow l.indent l.cursor
  return ((l.allowing allows).moveTo c).emit (.scalar text true)

/-- Reads the token that starts with the character `x` at the cursor. -/
def token (l : Lexer) (x : Char) : Except Fault Lexer :=
  let c := l.cursor
  let isApart := c.endsAt 1 isBlank
  if x == '%' && c.column == 0 then l.directive
  else if c.column == 0 && c.seesTriple '-' then l.documentMark .documentStart
  else if c.column == 0 && c.seesTriple '.' then l.documentMark .documentEnd
  else if x == '[' then l.flowStart .flowSequenceStart
  else if x == '\x7b' then l.flowStart .flowMappingStart
  else if x == ']' then l.flowEnd .flowSequenceEnd
  else if x == '\x7d' then l.flowEnd .flowMappingEnd
  else if x == ',' then l.flowEntry
  else if x == '-' && isApart then l.blockEntry
  else if x == '?' && (l.inFlow || isApart) then l.keyMark
  else if x == ':' && (l.inFlow || isApart) then l.valueMark
  else if x == '*' then l.reference .alias
  else if x == '&' then l.reference .anchor
  else if x == '!' then l.tag
  else if x == '|' && !l.inFlow then l.blockScalar false
  else if x == '>' && !l.inFlow then l.blockScalar true
  else if x == '\'' then l.quotedScalar false
  else if x == '"' then l.quotedScalar true
  else if PlainText.startsAt l.inFlow c then l.plainScalar
  else .error .malformed

def finish (l : Lexer) : Except Fault Lexer := do
  let l ← (l.unwind (-1)).dropKey
  return { l.emit .textEnd with keys := [], isDone := true }

/-- Reads the token that follows in the text. -/
def read (l : Lexer) : Except Fault Lexer := do
  let l ← (skipToToken (l.cursor.rest.length + 1) l).dropStale
  let l := l.unwind (Int.ofNat l.cursor.column)
  match l.cursor.next? with
  | none => l.finish
  | some x => l.token x

/-- It is settled what the next token is. -/
def isSettled (l : Lexer) : Bool :=
  l.isDone || (!l.tokens.isEmpty && l.keys.all fun k => k.2.tokens != l.taken)

/-- Reads on until it is settled what the next token is. -/
def settle : Nat → Lexer → Except Fault Lexer
  | 0, _ => .error .malformed
  | steps + 1, l => do
      let l ← l.dropStale
      if l.isSettled then return l else settle steps (← l.read)

/-- The state in which it is settled what the next token is.  Every token takes a
character at least. -/
def ahead (l : Lexer) : Except Fault Lexer :=
  if l.isSettled then .ok l else settle (l.cursor.rest.length + 2) l

end Lexer

/-- A character that may stand in a YAML text. -/
def isPermitted (c : Char) : Bool :=
  let n := c.toNat
  n == 0x09 || n == 0x0A || n == 0x0D || (0x20 ≤ n && n ≤ 0x7E) || n == 0x85 ||
    (0xA0 ≤ n && n ≤ 0xD7FF) || (0xE000 ≤ n && n ≤ 0xFFFD) || 0x10000 ≤ n

/-- The tokens of a text are read from here on; a byte order mark in front of it is
passed, which does not change the place of what follows. -/
def Lexer.ofText (text : List Char) : Except Fault Lexer :=
  if !text.all isPermitted then .error .malformed
  else
    let l := Lexer.start text
    .ok (if l.cursor.sees isMark then l.moveTo l.cursor.step else l)

end MigrationConfig.Yaml
