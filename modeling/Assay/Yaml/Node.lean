import Assay.Yaml.Token

/-! # Nodes of YAML

The tree that the tokens of a document spell: scalars, sequences and mappings, each with the tag
that it was given, if any. What stands under an anchor is put in wherever its name is used.
-/

namespace Assay.Yaml

inductive Node
  /-- A scalar by its code points; `plain` when it stands without quotes. -/
  | scalar (tag : Option String) (codes : List Nat) (plain : Bool)
  | sequence (tag : Option String) (items : List Node)
  | mapping (tag : Option String) (entries : List (Node × Node))

namespace Node

/-- What is left to read and the fault behind it, the meaning of tag handles, and the nodes under
anchors, which are missing where a node is not yet complete. -/
structure Reading where
  rest : List Token
  fault : Option Fault
  handles : List (String × String)
  anchors : List (String × Option Node)

abbrev Reader := StateT Reading (Except Fault)

namespace Reader

def bad {α : Type} : Reader α := throw .malformedMarkup

/-- The token that comes next. Nothing shows what is wrong behind it before it is asked for. -/
def peek : Reader Token := do
  match (← get).rest, (← get).fault with
  | t :: _, _ => pure t
  | [], some f => throw f
  | [], none => pure .streamEnd

def skip : Reader Unit := modify fun r => { r with rest := r.rest.drop 1 }

def accept (t : Token) : Reader Bool := do
  if (← peek) == t then
    skip
    pure true
  else pure false

def nothing : Node := .scalar none [] true

/-- What a collection is inside itself: one without items. -/
def unfinished : Node := .sequence none []

def takeAnchor : Reader (Option String) := do
  match ← peek with
  | .anchor name =>
    skip
    pure (some name)
  | _ => pure none

/-- A tag by its handle, if it has one, and the rest of it. -/
def takeTag : Reader (Option (Option String × String)) := do
  match ← peek with
  | .tag handle suffix =>
    skip
    pure (some (handle, suffix))
  | _ => pure none

def wholeTag (tag : Option String × String) : Reader String := do
  match tag with
  | (none, suffix) => pure suffix
  | (some handle, suffix) =>
    match (← get).handles.lookup handle with
    | some start => pure (start ++ suffix)
    | none => bad

/-- The anchor and the tag in front of a node, in either order. -/
def properties : Reader (Option String × Option String) := do
  let anchor ← takeAnchor
  let tag ← takeTag
  let anchor ← if anchor.isNone && tag.isSome then takeAnchor else pure anchor
  pure (anchor, ← tag.mapM wholeTag)

/-- The tag `!` asks for none. -/
def givenTag (tag : Option String) : Option String := if tag == some "!" then none else tag

def setAnchor (anchor : Option String) (n : Option Node) : Reader Unit :=
  modify fun r => { r with anchors := (anchor.map (·, n)).toList ++ r.anchors }

/-- Begin the node of an anchor, which must be a new one. -/
def openAnchor (anchor : Option String) : Reader Unit := do
  let _ ← peek
  let anchors := (← get).anchors
  if anchor.any fun a => (anchors.lookup a).isSome then bad
  setAnchor anchor none

/-- Whether the entry of a block mapping or of an inner sequence has no node here. -/
def endsEntry : Token → Bool
  | .key | .value | .blockEnd => true
  | _ => false

mutual

/-- A node. In block style, collections may be indented, and where `indentless` is set a sequence
need not be. -/
def node (fuel : Nat) (block indentless : Bool) : Reader Node :=
  match fuel with
  | 0 => bad
  | fuel + 1 => do
    match ← peek with
    | .alias name =>
      skip
      match (← get).anchors.lookup name with
      | some (some n) => pure n
      | some none => pure unfinished
      | none => bad
    | _ =>
      let (anchor, tag) ← properties
      openAnchor anchor
      let n ← content fuel block indentless (anchor.isSome || tag.isSome) tag
      setAnchor anchor (some n)
      pure n

def content (fuel : Nat) (block indentless given : Bool) (tag : Option String) : Reader Node :=
  match fuel with
  | 0 => bad
  | fuel + 1 => do
    match ← peek with
    | .scalar codes plain =>
      skip
      pure (.scalar (givenTag tag) codes (plain || tag == some "!"))
    | .flowSequenceStart =>
      skip
      pure (.sequence (givenTag tag) (← flowItems fuel true))
    | .flowMappingStart =>
      skip
      pure (.mapping (givenTag tag) (← flowEntries fuel true))
    | .blockEntry =>
      if indentless then pure (.sequence (givenTag tag) (← indentlessItems fuel))
      else if given then pure (.scalar (givenTag tag) [] true)
      else bad
    | .blockSequenceStart =>
      if block then
        skip
        pure (.sequence (givenTag tag) (← blockItems fuel))
      else if given then pure (.scalar (givenTag tag) [] true)
      else bad
    | .blockMappingStart =>
      if block then
        skip
        pure (.mapping (givenTag tag) (← blockEntries fuel))
      else if given then pure (.scalar (givenTag tag) [] true)
      else bad
    | _ => if given then pure (.scalar (givenTag tag) [] true) else bad

def blockItems (fuel : Nat) : Reader (List Node) :=
  match fuel with
  | 0 => bad
  | fuel + 1 => do
    if ← accept .blockEntry then
      let next ← peek
      let n ← if next == .blockEntry || next == .blockEnd then pure nothing
        else node fuel true false
      pure (n :: (← blockItems fuel))
    else if ← accept .blockEnd then pure []
    else bad

def indentlessItems (fuel : Nat) : Reader (List Node) :=
  match fuel with
  | 0 => bad
  | fuel + 1 => do
    if ← accept .blockEntry then
      let next ← peek
      let n ← if next == .blockEntry || endsEntry next then pure nothing
        else node fuel true false
      pure (n :: (← indentlessItems fuel))
    else pure []

def blockPart (fuel : Nat) : Reader Node :=
  match fuel with
  | 0 => bad
  | fuel + 1 => do
    if endsEntry (← peek) then pure nothing else node fuel true true

def blockEntries (fuel : Nat) : Reader (List (Node × Node)) :=
  match fuel with
  | 0 => bad
  | fuel + 1 => do
    if ← accept .key then
      let k ← blockPart fuel
      let v ← if ← accept .value then blockPart fuel else pure nothing
      pure ((k, v) :: (← blockEntries fuel))
    else if ← accept .blockEnd then pure []
    else bad

def flowItems (fuel : Nat) (first : Bool) : Reader (List Node) :=
  match fuel with
  | 0 => bad
  | fuel + 1 => do
    if ← accept .flowSequenceEnd then return []
    if !first then
      if !(← accept .flowEntry) then bad
    if ← accept .flowSequenceEnd then return []
    let n ← if ← accept .key then
        let next ← peek
        let empty := next == .value || next == .flowEntry || next == .flowSequenceEnd
        let k ← if empty then pure nothing else node fuel false false
        let v ← flowValue fuel .flowSequenceEnd
        pure (.mapping none [(k, v)])
      else node fuel false false
    pure (n :: (← flowItems fuel false))

/-- The value behind a colon in flow style, up to `last` at most. -/
def flowValue (fuel : Nat) (last : Token) : Reader Node :=
  match fuel with
  | 0 => bad
  | fuel + 1 => do
    if ← accept .value then
      let next ← peek
      if next == .flowEntry || next == last then pure nothing else node fuel false false
    else pure nothing

def flowEntries (fuel : Nat) (first : Bool) : Reader (List (Node × Node)) :=
  match fuel with
  | 0 => bad
  | fuel + 1 => do
    if ← accept .flowMappingEnd then return []
    if !first then
      if !(← accept .flowEntry) then bad
    if ← accept .flowMappingEnd then return []
    let entry ← if ← accept .key then
        let next ← peek
        let empty := next == .value || next == .flowEntry || next == .flowMappingEnd
        let k ← if empty then pure nothing else node fuel false false
        pure (k, ← flowValue fuel .flowMappingEnd)
      else pure (← node fuel false false, nothing)
    pure (entry :: (← flowEntries fuel false))

end

def defaultHandles : List (String × String) := [("!", "!"), ("!!", "tag:yaml.org,2002:")]

def directives (fuel : Nat) (versioned : Bool) (handles : List (String × String)) :
    Reader (List (String × String)) :=
  match fuel with
  | 0 => pure handles
  | fuel + 1 => do
    match ← peek with
    | .directive "YAML" arguments =>
      skip
      if versioned || arguments.head? != some "1" then bad
      directives fuel true handles
    | .directive "TAG" [handle, start] =>
      skip
      if (handles.lookup handle).isSome then bad
      directives fuel versioned ((handle, start) :: handles)
    | .directive _ _ =>
      skip
      directives fuel versioned handles
    | _ => pure handles

def isDirective : Token → Bool
  | .directive _ _ => true
  | _ => false

def skipDocumentEnds : Nat → Reader Unit
  | 0 => pure ()
  | fuel + 1 => do if ← accept .documentEnd then skipDocumentEnds fuel

def document (fuel : Nat) : Reader (Option Node) := do
  let first ← peek
  if first != .documentStart && !isDirective first && first != .streamEnd then
    modify fun r => { r with handles := defaultHandles }
    some <$> node fuel true false
  else
    skipDocumentEnds fuel
    if (← peek) == .streamEnd then return none
    let handles ← directives fuel false []
    modify fun r => { r with
      handles := handles ++ defaultHandles.filter fun h => (handles.lookup h.1).isNone }
    if !(← accept .documentStart) then bad
    let next ← peek
    if isDirective next || next == .documentStart || next == .documentEnd || next == .streamEnd then
      pure (some nothing)
    else some <$> node fuel true false

/-- Nothing follows the document but marks of its end. -/
def finish (fuel : Nat) : Reader Unit := do
  skipDocumentEnds fuel
  if (← peek) != .streamEnd then
    let _ ← directives fuel false []
    bad

end Reader

def ofTokens? (ts : Tokens) : Except Fault (Option Node) := do
  let fuel := 4 * ts.known.length + 8
  let (n, _) ← (do
    let n ← Reader.document fuel
    Reader.finish fuel
    pure n : Reader (Option Node)).run ⟨ts.known, ts.fault, [], []⟩
  pure n

end Node

end Assay.Yaml
