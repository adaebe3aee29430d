import CaseGrid.Yaml.Event.Basic
import CaseGrid.Yaml.Feed
import CaseGrid.Yaml.Token.Basic

/-
  The grammar of YAML: which events a sequence of tokens spells. What is expected next is kept
  as a goal, with a stack of the goals to be taken up again after the node at hand. Every step
  gives one event. Nodes that are left out give empty plain scalars.
-/

namespace CaseGrid.Yaml

open CaseGrid.Text (quoted)

/-- What is expected next. -/
inductive Goal where
  | streamStart
  | firstDocument
  | document
  | documentContent
  | documentEnd
  | blockNode
  | blockSequenceFirst
  | blockSequenceEntry
  | bareSequenceEntry
  | blockMappingFirst
  | blockMappingKey
  | blockMappingValue
  | flowSequenceFirst
  | flowSequenceEntry
  | flowPairKey
  | flowPairValue
  | flowPairEnd
  | flowMappingFirst
  | flowMappingKey
  | flowMappingValue
  | flowMappingNoValue
  | nothing
  deriving DecidableEq, Repr

/-- The state between two events. -/
structure EventState where
  tokens : Feed Token
  goal : Goal := .streamStart
  /-- The goals to be taken up again, innermost first. -/
  pending : List Goal := []
  /-- Where the open collections begin, innermost first. -/
  opened : List Mark := []
  /-- What the handles of tags stand for. -/
  handles : List (String × String) := []

/-- A reader of events. -/
abbrev EventReader (α : Type) := StateT EventState (Except Trouble) α

/-- The handles that every document has. -/
def standardHandles : List (String × String) :=
  [("!", "!"), ("!!", "tag:yaml.org,2002:")]

namespace EventReader

/-- The token that stands in past the end. -/
def lastToken : Token := ⟨.streamEnd, ⟨0, 0, 0⟩, ⟨0, 0, 0⟩⟩

/-- The next token, left in place. -/
def peek : EventReader Token := do
  let (t, _) ← StateT.lift ((← get).tokens.next lastToken)
  return t

/-- The kind of the next token. -/
def kind : EventReader Token.Kind := do
  return (← peek).kind

/-- Passes the next token. -/
def take : EventReader Token := do
  let s ← get
  let (t, rest) ← StateT.lift (s.tokens.next lastToken)
  set { s with tokens := rest }
  return t

/-- Sets the goal. -/
def expect (g : Goal) : EventReader Unit := modify fun s => { s with goal := g }

/-- Puts off a goal until after the node at hand. -/
def putOff (g : Goal) : EventReader Unit := modify fun s => { s with pending := g :: s.pending }

/-- Takes up the goal put off last. -/
def resume : EventReader Unit :=
  modify fun s =>
    { s with goal := s.pending.head?.getD .nothing, pending := s.pending.tail }

/-- Notes that a collection begins. -/
def openAt (m : Mark) : EventReader Unit := modify fun s => { s with opened := m :: s.opened }

/-- Notes that the innermost collection ends. -/
def close : EventReader Unit := do
  resume
  modify fun s => { s with opened := s.opened.tail }

/-- Where the innermost collection begins. -/
def innermost : EventReader Mark := do
  return (← get).opened.head?.getD ⟨0, 0, 0⟩

/-- Trouble at a token that cannot stand there. -/
def unexpected {α : Type} (context : String) (start : Mark) (problem : String) (t : Token) :
    EventReader α :=
  throw (.during .events context start (problem ++ quoted t.kind.name) t.start)

/-- The empty scalar of a node that is left out. -/
def emptyScalar (m : Mark) : Event :=
  ⟨.scalar none none ⟨true, false⟩ [], m⟩

/-- The anchor and the tag before a node, in either order, and where each begins. -/
structure Properties where
  anchor : Option String := none
  tag : Option (Option String × String) := none
  start : Option Mark := none
  tagStart : Option Mark := none

/-- Reads the anchor and the tag before a node. -/
def properties : EventReader Properties := do
  let t ← peek
  match t.kind with
  | .anchor name =>
    let _ ← take
    let u ← peek
    match u.kind with
    | .tag handle suffix =>
      let _ ← take
      return ⟨some name, some (handle, suffix), some t.start, some u.start⟩
    | _ => return ⟨some name, none, some t.start, none⟩
  | .tag handle suffix =>
    let _ ← take
    let u ← peek
    match u.kind with
    | .anchor name =>
      let _ ← take
      return ⟨some name, some (handle, suffix), some t.start, some t.start⟩
    | _ => return ⟨none, some (handle, suffix), some t.start, some t.start⟩
  | _ => return {}

/-- The full tag of a handle and a suffix. -/
def fullTag (p : Properties) : EventReader (Option String) := do
  match p.tag with
  | none => return none
  | some (none, suffix) => return some suffix
  | some (some handle, suffix) =>
    match (← get).handles.find? fun h => h.1 == handle with
    | some h => return some (h.2 ++ suffix)
    | none =>
      throw (.during .events "while parsing a node" (p.start.getD ⟨0, 0, 0⟩)
        ("found undefined tag handle " ++ quoted handle) (p.tagStart.getD ⟨0, 0, 0⟩))

/-- How the tag of a scalar is to be found. -/
def scalarImplicit (plain : Bool) (tag : Option String) : Implicit :=
  match tag with
  | none => if plain then ⟨true, false⟩ else ⟨false, true⟩
  | some t => if t = "!" then ⟨true, false⟩ else ⟨false, false⟩

/-- A node. Block collections are admitted if `block` says so, and entries of a sequence without
an indentation of their own if `bare` says so. -/
def node (block bare : Bool) : EventReader Event := do
  let first ← peek
  match first.kind with
  | .reference name =>
    let _ ← take
    resume
    return ⟨.reference name, first.start⟩
  | _ =>
    let p ← properties
    let tag ← fullTag p
    let t ← peek
    let start := p.start.getD t.start
    match t.kind, block, bare with
    | .blockEntry, _, true =>
      expect .bareSequenceEntry
      return ⟨.sequenceStart p.anchor tag, start⟩
    | .scalar text plain, _, _ =>
      let _ ← take
      resume
      return ⟨.scalar p.anchor tag (scalarImplicit plain tag) text, start⟩
    | .flowSequenceStart, _, _ =>
      expect .flowSequenceFirst
      return ⟨.sequenceStart p.anchor tag, start⟩
    | .flowMappingStart, _, _ =>
      expect .flowMappingFirst
      return ⟨.mappingStart p.anchor tag, start⟩
    | .blockSequenceStart, true, _ =>
      expect .blockSequenceFirst
      return ⟨.sequenceStart p.anchor tag, start⟩
    | .blockMappingStart, true, _ =>
      expect .blockMappingFirst
      return ⟨.mappingStart p.anchor tag, start⟩
    | _, _, _ =>
      if p.anchor.isSome || tag.isSome then
        resume
        let implicit := tag.isNone || tag == some "!"
        return ⟨.scalar p.anchor tag ⟨implicit, false⟩ [], start⟩
      else
        unexpected ("while parsing a " ++ (if block then "block" else "flow") ++ " node") start
          "expected the node content, but found " t

/-- The node after an indicator, or an empty scalar where a token of some kinds follows; the goal
is taken up after it. -/
def nodeUnless (stops : Token.Kind → Bool) (next : Goal) (whole : EventReader Event)
    (empty : Mark) : EventReader Event := do
  if stops (← kind) then
    expect next
    return emptyScalar empty
  else
    putOff next
    whole

/-- The directives before a document. -/
def directives : Nat → Bool → List (String × String) → EventReader (List (String × String))
  | 0, _, handles => return handles
  | fuel + 1, versionSeen, handles => do
    let t ← peek
    match t.kind with
    | .directive d =>
      let _ ← take
      match d with
      | .version major _ =>
        if versionSeen then
          throw (.bare .events "found duplicate YAML directive" t.start)
        if major ≠ 1 then
          throw (.bare .events "found incompatible YAML document (version 1.* is required)"
            t.start)
        directives fuel true handles
      | .tag handle text =>
        if handles.any fun h => h.1 == handle then
          throw (.bare .events ("duplicate tag handle " ++ quoted handle) t.start)
        directives fuel versionSeen (handles ++ [(handle, text)])
      | .other => directives fuel versionSeen handles
    | _ => return handles

/-- Passes the signs for the end of a document. -/
def skipDocumentEnds : Nat → EventReader Unit
  | 0 => return ()
  | fuel + 1 => do
    if (← kind) = .documentEnd then
      let _ ← take
      skipDocumentEnds fuel

/-- A document with a sign for its start, or the end of the stream. -/
def document : EventReader Event := do
  skipDocumentEnds ((← get).tokens.length + 1)
  let t ← peek
  if t.kind = .streamEnd then
    let _ ← take
    expect .nothing
    return ⟨.streamEnd, t.start⟩
  else
    let declared ← directives ((← get).tokens.length + 1) false []
    let added := standardHandles.filter fun h => !declared.any fun d => d.1 == h.1
    modify fun s => { s with handles := declared ++ added }
    let u ← peek
    if u.kind ≠ .documentStart then
      throw (.bare .events ("expected '<document start>', but found " ++ quoted u.kind.name)
        u.start)
    let _ ← take
    putOff .documentEnd
    expect .documentContent
    return ⟨.documentStart, t.start⟩

/-- The first document, which needs no sign for its start. -/
def firstDocument : EventReader Event := do
  let t ← peek
  match t.kind with
  | .directive _ | .documentStart | .streamEnd => document
  | _ =>
    modify fun s => { s with handles := standardHandles }
    putOff .documentEnd
    expect .blockNode
    return ⟨.documentStart, t.start⟩

/-- An entry of a block sequence, or its end. -/
def blockSequenceEntry : EventReader Event := do
  let t ← peek
  match t.kind with
  | .blockEntry =>
    let _ ← take
    nodeUnless (fun k => k = .blockEntry || k = .blockEnd) .blockSequenceEntry (node true false)
      t.stop
  | .blockEnd =>
    let _ ← take
    close
    return ⟨.sequenceEnd, t.start⟩
  | _ =>
    unexpected "while parsing a block collection" (← innermost)
      "expected <block end>, but found " t

/-- An entry of a sequence without an indentation of its own, or its end. -/
def bareSequenceEntry : EventReader Event := do
  let t ← peek
  match t.kind with
  | .blockEntry =>
    let _ ← take
    nodeUnless (fun k => k = .blockEntry || k = .key || k = .value || k = .blockEnd)
      .bareSequenceEntry (node true false) t.stop
  | _ =>
    resume
    return ⟨.sequenceEnd, t.start⟩

/-- Whether a token tells that a key or a value of a block mapping is left out. -/
def endsBlockNode (k : Token.Kind) : Bool :=
  k = .key || k = .value || k = .blockEnd

/-- A key of a block mapping, or its end. -/
def blockMappingKey : EventReader Event := do
  let t ← peek
  match t.kind with
  | .key =>
    let _ ← take
    nodeUnless endsBlockNode .blockMappingValue (node true true) t.stop
  | .blockEnd =>
    let _ ← take
    close
    return ⟨.mappingEnd, t.start⟩
  | _ =>
    unexpected "while parsing a block mapping" (← innermost) "expected <block end>, but found " t

/-- A value of a block mapping. -/
def blockMappingValue : EventReader Event := do
  let t ← peek
  match t.kind with
  | .value =>
    let _ ← take
    nodeUnless endsBlockNode .blockMappingKey (node true true) t.stop
  | _ =>
    expect .blockMappingKey
    return emptyScalar t.start

/-- The end of a flow collection. -/
def flowEnd (k : Event.Kind) : EventReader Event := do
  let t ← take
  close
  return ⟨k, t.start⟩

/-- An entry of a flow sequence, or its end. All but the first follow a comma. -/
def flowSequenceEntry (first : Bool) : EventReader Event := do
  if (← kind) = .flowSequenceEnd then flowEnd .sequenceEnd
  else
    if !first then
      let t ← peek
      if t.kind = .flowEntry then
        let _ ← take
      else
        unexpected "while parsing a flow sequence" (← innermost)
          "expected ',' or ']', but got " t
    let t ← peek
    match t.kind with
    | .key =>
      expect .flowPairKey
      return ⟨.mappingStart none none, t.start⟩
    | .flowSequenceEnd => flowEnd .sequenceEnd
    | _ =>
      putOff .flowSequenceEntry
      node false false

/-- The key of a pair in a flow sequence. -/
def flowPairKey : EventReader Event := do
  let t ← take
  nodeUnless (fun k => k = .value || k = .flowEntry || k = .flowSequenceEnd) .flowPairValue
    (node false false) t.stop

/-- A value in a flow collection that ends with a token of some kind. -/
def flowValue (ending : Token.Kind) (next : Goal) : EventReader Event := do
  let t ← peek
  match t.kind with
  | .value =>
    let _ ← take
    nodeUnless (fun k => k = .flowEntry || k = ending) next (node false false) t.stop
  | _ =>
    expect next
    return emptyScalar t.start

/-- A key of a flow mapping, or its end. All but the first follow a comma. -/
def flowMappingKey (first : Bool) : EventReader Event := do
  if (← kind) = .flowMappingEnd then flowEnd .mappingEnd
  else
    if !first then
      let t ← peek
      if t.kind = .flowEntry then
        let _ ← take
      else
        unexpected "while parsing a flow mapping" (← innermost)
          "expected ',' or '\x7d', but got " t
    let t ← peek
    match t.kind with
    | .key =>
      let _ ← take
      nodeUnless (fun k => k = .value || k = .flowEntry || k = .flowMappingEnd) .flowMappingValue
        (node false false) t.stop
    | .flowMappingEnd => flowEnd .mappingEnd
    | _ =>
      putOff .flowMappingNoValue
      node false false

/-- One event, by the goal. -/
def event : EventReader Event := do
  match (← get).goal with
  | .streamStart =>
    let t ← take
    expect .firstDocument
    return ⟨.streamStart, t.start⟩
  | .firstDocument => firstDocument
  | .document => document
  | .documentContent =>
    let t ← peek
    match t.kind with
    | .directive _ | .documentStart | .documentEnd | .streamEnd =>
      resume
      return emptyScalar t.start
    | _ => node true false
  | .documentEnd =>
    let t ← peek
    if t.kind = .documentEnd then
      let _ ← take
    expect .document
    return ⟨.documentEnd, t.start⟩
  | .blockNode => node true false
  | .blockSequenceFirst =>
    let t ← take
    openAt t.start
    blockSequenceEntry
  | .blockSequenceEntry => blockSequenceEntry
  | .bareSequenceEntry => bareSequenceEntry
  | .blockMappingFirst =>
    let t ← take
    openAt t.start
    blockMappingKey
  | .blockMappingKey => blockMappingKey
  | .blockMappingValue => blockMappingValue
  | .flowSequenceFirst =>
    let t ← take
    openAt t.start
    flowSequenceEntry true
  | .flowSequenceEntry => flowSequenceEntry false
  | .flowPairKey => flowPairKey
  | .flowPairValue => flowValue .flowSequenceEnd .flowPairEnd
  | .flowPairEnd =>
    let t ← peek
    expect .flowSequenceEntry
    return ⟨.mappingEnd, t.start⟩
  | .flowMappingFirst =>
    let t ← take
    openAt t.start
    flowMappingKey true
  | .flowMappingKey => flowMappingKey false
  | .flowMappingValue => flowValue .flowMappingEnd .flowMappingKey
  | .flowMappingNoValue =>
    let t ← peek
    expect .flowMappingKey
    return emptyScalar t.start
  | .nothing => return ⟨.streamEnd, ⟨0, 0, 0⟩⟩

/-- The events from a state on. -/
def events : Nat → EventState → Feed Event
  | 0, _ => .done
  | fuel + 1, s =>
    if s.goal = .nothing then .done
    else
      match event.run s with
      | .error e => .broken e
      | .ok (e, t) => .item e (events fuel t)

end EventReader

/-- The events that a sequence of tokens spells. A token gives at most three of them. -/
def Event.ofTokens (tokens : Feed Token) : Feed Event :=
  EventReader.events (4 * tokens.length + 8) { tokens := tokens }

end CaseGrid.Yaml
