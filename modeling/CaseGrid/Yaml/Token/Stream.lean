import CaseGrid.Yaml.Feed
import CaseGrid.Yaml.Token.Scalar

/-
  The tokens of a YAML text in order. A key of one line needs no sign of its own: it is known
  only when the colon after it is reached, and then a key token is put before what was read
  since. So tokens wait in a queue as long as the first of them may still turn out to begin a
  key, and are released after that. A possible key is given up at the end of its line or 1024
  characters later; in a place where only a key can stand, that is trouble.
-/

namespace CaseGrid.Yaml

open CaseGrid.Text (quoted)

/-- A place where a key may have begun. -/
structure PossibleKey where
  /-- The number of the token that would follow the key token. -/
  token : Nat
  /-- Whether nothing else than a key can stand there. -/
  required : Bool
  mark : Mark
  deriving Repr

/-- The state between two tokens. -/
structure TokenState where
  cursor : Cursor
  /-- Tokens not yet released. -/
  queue : List Token := []
  /-- The number of tokens released. -/
  taken : Nat := 0
  /-- The number of flow collections open. -/
  flowLevel : Nat := 0
  /-- The column of the innermost block collection, and of those around it. -/
  indent : Int := -1
  outer : List Int := []
  /-- Whether a key may begin here. -/
  keyAllowed : Bool := true
  /-- The possible key of each level of flow collections. -/
  keys : List (Nat × PossibleKey) := []
  finished : Bool := false

namespace TokenState

/-- The beginning of a text: the first token is there already. -/
def start (source : List Char) : TokenState :=
  let c := Cursor.start source
  { cursor := c, queue := [⟨.streamStart, c.mark, c.mark⟩] }

/-- The place that was reached. -/
def mark (s : TokenState) : Mark := s.cursor.mark

/-- Whether brackets are open. -/
def inFlow (s : TokenState) : Bool := s.flowLevel != 0

/-- A token at the end of the queue. -/
def push (s : TokenState) (kind : Token.Kind) (start stop : Mark) : TokenState :=
  { s with queue := s.queue ++ [⟨kind, start, stop⟩] }

/-- The trouble of a key that was required and is not there. -/
def missingColon (s : TokenState) (k : PossibleKey) : Trouble :=
  .during .tokens "while scanning a simple key" k.mark "could not find expected ':'" s.mark

/-- Whether a possible key can no longer become one. -/
def isStale (s : TokenState) (k : PossibleKey) : Bool :=
  k.mark.line != s.mark.line || s.mark.index - k.mark.index > 1024

/-- Gives up possible keys that are too far back. -/
def dropStale (s : TokenState) : Except Trouble TokenState :=
  match s.keys.find? fun k => s.isStale k.2 && k.2.required with
  | some k => .error (s.missingColon k.2)
  | none => .ok { s with keys := s.keys.filter fun k => !s.isStale k.2 }

/-- The possible key of the present level. -/
def currentKey? (s : TokenState) : Option PossibleKey :=
  (s.keys.find? fun k => k.1 == s.flowLevel).map (·.2)

/-- The possible keys without that of the present level. -/
def otherKeys (s : TokenState) : List (Nat × PossibleKey) :=
  s.keys.filter fun k => k.1 != s.flowLevel

/-- Gives up the possible key of the present level. -/
def dropKey (s : TokenState) : Except Trouble TokenState :=
  match s.currentKey? with
  | none => .ok s
  | some k => if k.required then .error (s.missingColon k) else .ok { s with keys := s.otherKeys }

/-- Notes that a key may begin here, where one is allowed. -/
def noteKey (s : TokenState) : Except Trouble TokenState :=
  if s.keyAllowed then do
    let t ← s.dropKey
    let required := !t.inFlow && t.indent == t.mark.column
    return { t with keys := t.keys ++
      [(t.flowLevel, ⟨t.taken + t.queue.length, required, t.mark⟩)] }
  else .ok s

/-- Closes the block collections further to the right than a column. -/
def closeBlocks (column : Int) : List Int → TokenState → TokenState
  | [], s => s
  | around :: rest, s =>
    if s.indent > column then
      closeBlocks column rest
        ({ s with indent := around, outer := rest }.push .blockEnd s.mark s.mark)
    else s

/-- Closes the block collections further to the right than a column; none inside a flow
collection. -/
def unwind (s : TokenState) (column : Int) : TokenState :=
  if s.inFlow then s else closeBlocks column s.outer s

/-- Opens a block collection at a column, if that is further to the right; tells whether. -/
def openBlock (s : TokenState) (column : Nat) : TokenState × Bool :=
  if s.indent < column then
    ({ s with indent := column, outer := s.indent :: s.outer }, true)
  else (s, false)

/-- Reads a token of some characters. -/
def sign (s : TokenState) (kind : Token.Kind) (length : Nat) : TokenState :=
  let after := s.cursor.skip length
  { s with cursor := after }.push kind s.mark after.mark

/-- Reads a token. -/
def read (s : TokenState) (r : Reader Token) : Except Trouble TokenState := do
  let (token, c) ← r.run s.cursor
  return { s with cursor := c, queue := s.queue ++ [token] }

/-- Trouble at a place where an indicator is not allowed. -/
def notAllowed (s : TokenState) (what : String) : Trouble :=
  .bare .tokens (what ++ " are not allowed here") s.mark

/-- Passes spaces, comments and line ends; in a block, a key may begin on a new line. -/
def toNextToken : Nat → TokenState → TokenState
  | 0, s => s
  | fuel + 1, s =>
    let c := (s.cursor.skipRun (· == ' ')).skipComment
    let (br, after) := c.lineBreak
    if br.isEmpty then { s with cursor := c }
    else toNextToken fuel { s with cursor := after, keyAllowed := s.keyAllowed || !s.inFlow }

/-- The end of the text. -/
def fetchEnd (s : TokenState) : Except Trouble TokenState := do
  let t ← (s.unwind (-1)).dropKey
  return { t with keyAllowed := false, keys := [], finished := true }.push .streamEnd t.mark t.mark

/-- A directive. -/
def fetchDirective (s : TokenState) : Except Trouble TokenState := do
  let t ← (s.unwind (-1)).dropKey
  { t with keyAllowed := false }.read Reader.directive

/-- The sign for the start or the end of a document. -/
def fetchDocument (s : TokenState) (kind : Token.Kind) : Except Trouble TokenState := do
  let t ← (s.unwind (-1)).dropKey
  return { t with keyAllowed := false }.sign kind 3

/-- The opening mark of a flow collection. -/
def fetchFlowStart (s : TokenState) (kind : Token.Kind) : Except Trouble TokenState := do
  let t ← s.noteKey
  return { t with flowLevel := t.flowLevel + 1, keyAllowed := true }.sign kind 1

/-- The closing mark of a flow collection. -/
def fetchFlowEnd (s : TokenState) (kind : Token.Kind) : Except Trouble TokenState := do
  let t ← s.dropKey
  return { t with flowLevel := t.flowLevel - 1, keyAllowed := false }.sign kind 1

/-- The comma of a flow collection. -/
def fetchFlowEntry (s : TokenState) : Except Trouble TokenState := do
  let t ← { s with keyAllowed := true }.dropKey
  return t.sign .flowEntry 1

/-- Opens a block collection at the cursor, if that is further to the right; outside a block
nothing is to be opened. -/
def beginBlock (s : TokenState) (what : String) (kind : Token.Kind) :
    Except Trouble TokenState :=
  if s.inFlow then .ok s
  else if !s.keyAllowed then .error (s.notAllowed what)
  else
    let (t, opened) := s.openBlock s.mark.column
    .ok (if opened then t.push kind s.mark s.mark else t)

/-- The dash of a block sequence. -/
def fetchBlockEntry (s : TokenState) : Except Trouble TokenState := do
  let t ← s.beginBlock "sequence entries" .blockSequenceStart
  let u ← { t with keyAllowed := true }.dropKey
  return u.sign .blockEntry 1

/-- The sign of a key. -/
def fetchKey (s : TokenState) : Except Trouble TokenState := do
  let t ← s.beginBlock "mapping keys" .blockMappingStart
  let u ← { t with keyAllowed := !t.inFlow }.dropKey
  return u.sign .key 1

/-- A token put at a place of the queue. -/
def insertAt (s : TokenState) (place : Nat) (kind : Token.Kind) (m : Mark) : TokenState :=
  { s with queue := s.queue.take place ++ ⟨kind, m, m⟩ :: s.queue.drop place }

/-- The colon after a key of one line, which becomes known as one. -/
def fetchValueOf (s : TokenState) (k : PossibleKey) : TokenState :=
  let place := k.token - s.taken
  let t := { s with keys := s.otherKeys, keyAllowed := false }.insertAt place .key k.mark
  if t.inFlow then t.sign .value 1
  else
    let (u, opened) := t.openBlock k.mark.column
    (if opened then u.insertAt place .blockMappingStart k.mark else u).sign .value 1

/-- A colon. -/
def fetchValue (s : TokenState) : Except Trouble TokenState :=
  match s.currentKey? with
  | some k => .ok (s.fetchValueOf k)
  | none => do
    let t ← s.beginBlock "mapping values" .blockMappingStart
    let u ← { t with keyAllowed := !t.inFlow }.dropKey
    return u.sign .value 1

/-- An alias, an anchor, a tag or a quoted scalar, any of which may begin a key. -/
def fetchWord (s : TokenState) (r : Reader Token) : Except Trouble TokenState := do
  let t ← s.noteKey
  { t with keyAllowed := false }.read r

/-- A block scalar. -/
def fetchBlockScalar (s : TokenState) : Except Trouble TokenState := do
  let t ← { s with keyAllowed := true }.dropKey
  t.read (Reader.blockScalar t.indent)

/-- A plain scalar. -/
def fetchPlain (s : TokenState) : Except Trouble TokenState := do
  let t ← s.noteKey
  let ((token, lineEnded), c) ← (Reader.plainScalar t.inFlow t.indent).run t.cursor
  return { t with cursor := c, queue := t.queue ++ [token], keyAllowed := lineEnded }

/-- Whether a plain scalar can begin with a character, given the one after it. -/
def beginsPlain (inFlow : Bool) (ch next : Char) : Bool :=
  !(isBlankOrEnd ch || "-?:,[]\x7b\x7d#&*!|>'\"%@`".toList.contains ch) ||
    (!isBlankOrEnd next && (ch == '-' || (!inFlow && (ch == '?' || ch == ':'))))

/-- The next token by its first character. -/
def dispatch (s : TokenState) : Except Trouble TokenState :=
  let c := s.cursor
  let ch := c.head
  let atStart := c.mark.column == 0
  let blankNext := isBlankOrEnd (c.peek 1)
  if ch == endOfText then s.fetchEnd
  else if ch == '%' && atStart then s.fetchDirective
  else if ch == '-' && atStart && c.atMarks '-' then s.fetchDocument .documentStart
  else if ch == '.' && atStart && c.atMarks '.' then s.fetchDocument .documentEnd
  else if ch == '[' then s.fetchFlowStart .flowSequenceStart
  else if ch == '\x7b' then s.fetchFlowStart .flowMappingStart
  else if ch == ']' then s.fetchFlowEnd .flowSequenceEnd
  else if ch == '\x7d' then s.fetchFlowEnd .flowMappingEnd
  else if ch == ',' then s.fetchFlowEntry
  else if ch == '-' && blankNext then s.fetchBlockEntry
  else if ch == '?' && (s.inFlow || blankNext) then s.fetchKey
  else if ch == ':' && (s.inFlow || blankNext) then s.fetchValue
  else if ch == '*' || ch == '&' then s.fetchWord Reader.anchor
  else if ch == '!' then s.fetchWord Reader.tag
  else if (ch == '|' || ch == '>') && !s.inFlow then s.fetchBlockScalar
  else if ch == '\'' || ch == '"' then s.fetchWord Reader.quotedScalar
  else if beginsPlain s.inFlow ch (c.peek 1) then s.fetchPlain
  else
    .error (.found .tokens (some "while scanning for the next token") none
      ("found character " ++ quoted (String.singleton ch) ++ " that cannot start any token")
      s.mark)

/-- Passes a byte order mark at the very beginning. -/
def skipOrderMark (s : TokenState) : TokenState :=
  if s.mark.index == 0 && s.cursor.head == '\ufeff' then { s with cursor := s.cursor.advance }
  else s

/-- Reads on to the next token and puts it into the queue. -/
def fetch (s : TokenState) : Except Trouble TokenState := do
  let t := s.skipOrderMark
  let u ← (toNextToken (t.cursor.rest.length + 1) t).dropStale
  (u.unwind u.mark.column).dispatch

/-- Whether the token of a number may still turn out to begin a key. -/
def awaits (s : TokenState) (number : Nat) : Bool :=
  match (s.keys.map fun k => k.2.token).min? with
  | some least => least == number
  | none => false

/-- The number of tokens at the head of the queue that can be released. -/
def ready (s : TokenState) : Nat → List Token → Nat
  | _, [] => 0
  | number, _ :: rest => if s.awaits number then 0 else ready s (number + 1) rest + 1

/-- The tokens that can be released, and the state after that. -/
def release (s : TokenState) : List Token × TokenState :=
  let n := s.ready s.taken s.queue
  (s.queue.take n, { s with queue := s.queue.drop n, taken := s.taken + n })

/-- The tokens from a state on. Each round reads at least one token. -/
def tokens : Nat → TokenState → Feed Token
  | 0, _ => .done
  | fuel + 1, s =>
    if s.finished then Feed.prepend s.queue .done
    else
      match s.dropStale with
      | .error e => .broken e
      | .ok t =>
        let (out, u) := t.release
        Feed.prepend out
          (match u.fetch with
            | .error e => .broken e
            | .ok v => tokens fuel v)

end TokenState

/-- The tokens of a text. -/
def Token.ofText (source : List Char) : Feed Token :=
  (TokenState.start source).tokens (source.length + 3)

end CaseGrid.Yaml
