import Assay.Fault
import Assay.Text.Whole

/-! # Tokens of YAML

A text is cut into tokens from left to right. Indentation opens and closes the collections of the
block style, and what turns out to be a key gets its token put in front of it when the colon comes.
-/

namespace Assay.Yaml

inductive Token
  | directive (name : String) (arguments : List String)
  | documentStart
  | documentEnd
  | blockSequenceStart
  | blockMappingStart
  | blockEnd
  | flowSequenceStart
  | flowSequenceEnd
  | flowMappingStart
  | flowMappingEnd
  | blockEntry
  | flowEntry
  | key
  | value
  | alias (name : String)
  | anchor (name : String)
  | tag (handle : Option String) (suffix : String)
  /-- A scalar by its code points; `plain` when it stands without quotes. -/
  | scalar (codes : List Nat) (plain : Bool)
  | streamEnd
deriving DecidableEq

/-- Where a key may have begun that is known as one only by the colon behind it. -/
structure PendingKey where
  token : Nat
  required : Bool
  index : Nat
  line : Nat
  column : Nat

structure Scan where
  rest : List Char
  index : Nat
  line : Nat
  column : Nat
  indent : Int
  indents : List Int
  flow : Nat
  allowKey : Bool
  /-- The pending key of each level of flow collections. -/
  pending : List (Nat × PendingKey)
  tokens : Array Token

abbrev Scanner := StateT Scan (Except Fault)

/-- A carriage return, a line feed, or one of the other three line ends. -/
def isBreak (c : Char) : Bool :=
  c == '\n' || c == '\r' || c.toNat == 0x85 || c.toNat == 0x2028 || c.toNat == 0x2029

/-- A line end or the end of the text, which reads as a null character. -/
def isBreakOrEnd (c : Char) : Bool := isBreak c || c == '\x00'

def isSpaceOrEnd (c : Char) : Bool := isBreakOrEnd c || c == ' ' || c == '\t'

def isAllowed (c : Char) : Bool :=
  let n := c.toNat
  n == 9 || n == 0xa || n == 0xd || (0x20 ≤ n && n ≤ 0x7e) || n == 0x85
    || (0xa0 ≤ n && n != 0xfffe && n != 0xffff)

namespace Scanner

def bad {α : Type} : Scanner α := throw .malformedMarkup

def peek (n : Nat := 0) : Scanner Char := do pure ((← get).rest.getD n '\x00')

def move (s : Scan) (c : Char) (rest : List Char) : Scan :=
  let s := { s with rest, index := s.index + 1 }
  if isBreak c && !(c == '\r' && rest.head? == some '\n') then
    { s with line := s.line + 1, column := 0 }
  else if c == '\ufeff' then s
  else { s with column := s.column + 1 }

def forwardOver : Nat → Scan → Scan
  | 0, s => s
  | n + 1, s =>
    match s.rest with
    | [] => s
    | c :: rest => forwardOver n (move s c rest)

def forward (n : Nat := 1) : Scanner Unit := modify (forwardOver n)

def takeWhile (p : Char → Bool) : Scanner (List Char) := do
  let cs := (← get).rest.takeWhile p
  forward cs.length
  pure cs

def skipSpaces : Scanner Unit := do
  let _ ← takeWhile (· == ' ')

/-- Take a line end, if one stands here; most of them count as a line feed. -/
def lineBreak : Scanner (List Char) := do
  let c ← peek
  if c == '\r' && (← peek 1) == '\n' then
    forward 2
    pure ['\n']
  else if c == '\r' || c == '\n' || c.toNat == 0x85 then
    forward
    pure ['\n']
  else if isBreak c then
    forward
    pure [c]
  else pure []

def emit (t : Token) : Scanner Unit := modify fun s => { s with tokens := s.tokens.push t }

def emitScalar (cs : List Char) (plain : Bool) : Scanner Unit :=
  emit (.scalar (cs.map Char.toNat) plain)

/-- Three equal marks at the front, with nothing joined to them. -/
def isDocumentMark (c : Char) : Scanner Bool := do
  let cs := (← get).rest
  pure (cs.take 3 == [c, c, c] && isSpaceOrEnd (cs.getD 3 '\x00'))

def atDocumentMark : Scanner Bool := do
  pure ((← isDocumentMark '-') || (← isDocumentMark '.'))

/-- A key has to end on its line and within 1024 characters. -/
def isStale (s : Scan) (k : PendingKey) : Bool := k.line != s.line || s.index - k.index > 1024

/-- Forget a pending key, which must not be one that has to come. -/
def dropKey (k : Nat × PendingKey) : Scanner Unit := do
  if k.2.required then bad
  modify fun s => { s with pending := s.pending.filter (·.1 != k.1) }

def dropStaleKeys : Scanner Unit := do
  let s ← get
  for k in s.pending do
    if isStale s k.2 then dropKey k

def dropPendingKey : Scanner Unit := do
  let s ← get
  match s.pending.find? (·.1 == s.flow) with
  | some k => dropKey k
  | none => pure ()

def savePendingKey : Scanner Unit := do
  let s ← get
  let required := s.flow == 0 && s.indent == (s.column : Int)
  if s.allowKey then
    dropPendingKey
    let k : PendingKey := ⟨s.tokens.size, required, s.index, s.line, s.column⟩
    modify fun s => { s with pending := (s.flow, k) :: s.pending }

def allowKey (b : Bool) : Scanner Unit := modify fun s => { s with allowKey := b }

/-- Close the block collections that are indented deeper than a column. -/
def unwind (column : Int) : Scanner Unit := do
  let s ← get
  if s.flow == 0 then
    let rec go (indent : Int) (indents : List Int) (closed : Nat) : Int × List Int × Nat :=
      if indent > column then
        match indents with
        | [] => (indent, [], closed)
        | i :: rest => go i rest (closed + 1)
      else (indent, indents, closed)
    let (indent, indents, closed) := go s.indent s.indents 0
    set { s with
      indent, indents, tokens := s.tokens ++ (List.replicate closed Token.blockEnd).toArray }

/-- Indent to a column; false when the current indentation reaches it already. -/
def indentTo (column : Nat) : Scanner Bool := do
  let s ← get
  if s.indent < (column : Int) then
    set { s with indents := s.indent :: s.indents, indent := (column : Int) }
    pure true
  else pure false

def skipToToken (fuel : Nat) : Scanner Unit :=
  match fuel with
  | 0 => pure ()
  | fuel + 1 => do
    if (← get).index == 0 && (← peek) == '\ufeff' then forward
    skipSpaces
    if (← peek) == '#' then
      let _ ← takeWhile (!isBreakOrEnd ·)
    if (← lineBreak).isEmpty then pure ()
    else
      if (← get).flow == 0 then allowKey true
      skipToToken fuel

def isNameChar (c : Char) : Bool :=
  Text.isAsciiDigit c || ('a' ≤ c && c ≤ 'z') || ('A' ≤ c && c ≤ 'Z') || c == '-' || c == '_'

/-- Nothing but a comment is left on the line. -/
def endLine : Scanner Unit := do
  skipSpaces
  if (← peek) == '#' then
    let _ ← takeWhile (!isBreakOrEnd ·)
  if !isBreakOrEnd (← peek) then bad
  let _ ← lineBreak

def isUriChar (c : Char) : Bool :=
  isNameChar c || "-;/?:@&=+$,_.!~*'()[]%".toList.contains c

def tagHandle : Scanner String := do
  if (← peek) != '!' then bad
  forward
  let name ← takeWhile isNameChar
  if (← peek) == '!' then
    forward
    pure (.ofList ('!' :: name ++ ['!']))
  else if name.isEmpty && (← peek) == ' ' then pure "!"
  else bad

def uri : Scanner String := do
  let cs ← takeWhile isUriChar
  if cs.isEmpty then bad
  pure (.ofList cs)

def directiveArguments (name : String) : Scanner (List String) := do
  if name == "YAML" then
    skipSpaces
    let major ← takeWhile Text.isAsciiDigit
    if major.isEmpty then bad
    if major.length > Text.digitLimit then throw (.tooManyDigits major.length)
    if (← peek) != '.' then bad
    forward
    let minor ← takeWhile Text.isAsciiDigit
    if minor.isEmpty then bad
    if minor.length > Text.digitLimit then throw (.tooManyDigits minor.length)
    if !(isBreakOrEnd (← peek) || (← peek) == ' ') then bad
    pure [.ofList (major.dropWhile (· == '0')), .ofList minor]
  else if name == "TAG" then
    skipSpaces
    let handle ← tagHandle
    if (← peek) != ' ' then bad
    skipSpaces
    let start ← uri
    if !(isBreakOrEnd (← peek) || (← peek) == ' ') then bad
    pure [handle, start]
  else
    let _ ← takeWhile (!isBreakOrEnd ·)
    pure []

def directive : Scanner Unit := do
  unwind (-1)
  dropPendingKey
  allowKey false
  forward
  let name ← takeWhile isNameChar
  if name.isEmpty || !(isBreakOrEnd (← peek) || (← peek) == ' ') then bad
  let arguments ← directiveArguments (.ofList name)
  endLine
  emit (.directive (.ofList name) arguments)

def documentMark (t : Token) : Scanner Unit := do
  unwind (-1)
  dropPendingKey
  allowKey false
  forward 3
  emit t

def flowStart (t : Token) : Scanner Unit := do
  savePendingKey
  modify fun s => { s with flow := s.flow + 1 }
  allowKey true
  forward
  emit t

def flowEnd (t : Token) : Scanner Unit := do
  dropPendingKey
  modify fun s => { s with flow := s.flow - 1 }
  allowKey false
  forward
  emit t

def flowEntry : Scanner Unit := do
  allowKey true
  dropPendingKey
  forward
  emit .flowEntry

/-- Open a block collection at the current column, where a new one may begin. -/
def openBlock (t : Token) : Scanner Unit := do
  let s ← get
  if s.flow == 0 then
    if !s.allowKey then bad
    if ← indentTo s.column then emit t

def blockEntry : Scanner Unit := do
  openBlock .blockSequenceStart
  allowKey true
  dropPendingKey
  forward
  emit .blockEntry

def explicitKey : Scanner Unit := do
  openBlock .blockMappingStart
  allowKey ((← get).flow == 0)
  dropPendingKey
  forward
  emit .key

/-- Put tokens in front of the one with a number. -/
def insertTokens (position : Nat) (ts : List Token) : Scanner Unit :=
  modify fun s =>
    let tokens := ts.foldr (fun t all => all.insertIdxIfInBounds position t) s.tokens
    { s with tokens }

def mappingValue : Scanner Unit := do
  let s ← get
  match s.pending.find? (·.1 == s.flow) with
  | some (level, k) =>
    modify fun s => { s with pending := s.pending.filter (·.1 != level) }
    if s.flow == 0 then
      if ← indentTo k.column then insertTokens k.token [.blockMappingStart, .key]
      else insertTokens k.token [.key]
    else insertTokens k.token [.key]
    allowKey false
  | none =>
    openBlock .blockMappingStart
    allowKey (s.flow == 0)
    dropPendingKey
  forward
  emit .value

def anchorName : Scanner String := do
  forward
  let name ← takeWhile isNameChar
  let c ← peek
  if name.isEmpty || !(isSpaceOrEnd c || "?:,]\x7d%@`".toList.contains c) then bad
  pure (.ofList name)

def named (t : String → Token) : Scanner Unit := do
  savePendingKey
  allowKey false
  emit (t (← anchorName))

/-- Whether the tag in front has a handle, which ends with an exclamation mark. -/
def hasHandle (cs : List Char) : Bool :=
  (cs.takeWhile fun c => !isBreakOrEnd c && c != ' ').contains '!'

def tagToken : Scanner Token := do
  let c ← peek 1
  if c == '<' then
    forward 2
    let suffix ← uri
    if (← peek) != '>' then bad
    forward
    pure (.tag none suffix)
  else if isSpaceOrEnd c then
    forward
    pure (.tag none "!")
  else if hasHandle ((← get).rest.drop 1) then
    let handle ← tagHandle
    pure (.tag (some handle) (← uri))
  else
    forward
    pure (.tag (some "!") (← uri))

def tag : Scanner Unit := do
  savePendingKey
  allowKey false
  let t ← tagToken
  if !(isBreakOrEnd (← peek) || (← peek) == ' ') then bad
  emit t

/-- The chomping and the indentation that a block scalar asks for. -/
def blockIndicators : Scanner (Option Bool × Option Nat) := do
  let chomping : Scanner (Option Bool) := do
    let c ← peek
    if c == '+' || c == '-' then
      forward
      pure (some (c == '+'))
    else pure none
  let increment : Scanner (Option Nat) := do
    let c ← peek
    if Text.isAsciiDigit c then
      if c == '0' then bad
      forward
      pure (Text.decimalValue? c)
    else pure none
  let first ← chomping
  let n ← increment
  let last ← if first.isNone && n.isSome then chomping else pure first
  let c ← peek
  if !(isBreakOrEnd c || c == ' ') then bad
  pure (last, n)

/-- Empty lines at the front of a block scalar, and the deepest indentation among them. -/
def blockIndentation (fuel deepest : Nat) (done : List Char) : Scanner (List Char × Nat) :=
  match fuel with
  | 0 => pure (done, deepest)
  | fuel + 1 => do
    let c ← peek
    if c == ' ' then
      forward
      blockIndentation fuel (max deepest (← get).column) done
    else if isBreak c then blockIndentation fuel deepest (done ++ (← lineBreak))
    else pure (done, deepest)

def skipIndent (indent : Nat) : Scanner Unit := do
  let s ← get
  let n := min (indent - s.column) (s.rest.takeWhile (· == ' ')).length
  forward n

/-- Line ends, with the indentation after each of them skipped. -/
def blockBreaks (indent fuel : Nat) (done : List Char) : Scanner (List Char) :=
  match fuel with
  | 0 => pure done
  | fuel + 1 => do
    skipIndent indent
    if isBreak (← peek) then blockBreaks indent fuel (done ++ (← lineBreak))
    else pure done

/-- The lines of a block scalar: its characters in reverse without the last line end, that line end,
and the empty lines after it. -/
def blockLines (folded : Bool) (indent fuel : Nat) (done breaks : List Char) :
    Scanner (List Char × List Char × List Char) :=
  match fuel with
  | 0 => pure (done, [], breaks)
  | fuel + 1 => do
    let leading ← peek
    let line ← takeWhile (!isBreakOrEnd ·)
    let done := line.reverse ++ breaks.reverse ++ done
    let ending ← lineBreak
    let breaks ← blockBreaks indent fuel []
    let next ← peek
    if (← get).column == indent && next != '\x00' then
      let isText (c : Char) : Bool := c != ' ' && c != '\t'
      if folded && ending == ['\n'] && isText leading && isText next then
        blockLines folded indent fuel (if breaks.isEmpty then ' ' :: done else done) breaks
      else blockLines folded indent fuel (ending ++ done) breaks
    else pure (done, ending, breaks)

def blockScalar (fuel : Nat) (folded : Bool) : Scanner Unit := do
  allowKey true
  dropPendingKey
  forward
  let (chomping, increment) ← blockIndicators
  endLine
  let least := max 1 ((← get).indent + 1).toNat
  let (breaks, indent) ← match increment with
    | none => do
      let (breaks, deepest) ← blockIndentation fuel 0 []
      pure (breaks, max least deepest)
    | some n => do
      let indent := least + n - 1
      pure (← blockBreaks indent fuel [], indent)
  let (text, ending, breaks) ←
    if (← get).column == indent && (← peek) != '\x00' then
      blockLines folded indent fuel [] breaks
    else pure ([], [], breaks)
  let tail := match chomping with
    | some false => []
    | some true => ending ++ breaks
    | none => ending
  emitScalar (text.reverse ++ tail) false

/-- The line ends inside a quoted scalar, with the blanks around them left out. -/
def quotedBreaks (fuel : Nat) (done : List Char) : Scanner (List Char) :=
  match fuel with
  | 0 => pure done
  | fuel + 1 => do
    if ← atDocumentMark then bad
    let _ ← takeWhile fun c => c == ' ' || c == '\t'
    if isBreak (← peek) then quotedBreaks fuel (done ++ (← lineBreak))
    else pure done

/-- What a line end stands for: itself, a space, or the empty lines after it. -/
def foldBreak (ending breaks : List Char) : List Char :=
  if ending != ['\n'] then ending ++ breaks
  else if breaks.isEmpty then [' ']
  else breaks

def quotedSpaces (fuel : Nat) : Scanner (List Char) := do
  let blanks ← takeWhile fun c => c == ' ' || c == '\t'
  let c ← peek
  if c == '\x00' then bad
  if isBreak c then
    let ending ← lineBreak
    pure (foldBreak ending (← quotedBreaks fuel []))
  else pure blanks

def escapes : List (Char × Char) :=
  [('0', '\x00'), ('a', '\x07'), ('b', '\x08'), ('t', '\t'), ('\t', '\t'), ('n', '\n'),
   ('v', '\x0b'), ('f', '\x0c'), ('r', '\r'), ('e', '\x1b'), (' ', ' '), ('"', '"'),
   ('\\', '\\'), ('/', '/'), ('N', '\u0085'), ('_', '\u00a0'), ('L', '\u2028'), ('P', '\u2029')]

def escapeWidth? (c : Char) : Option Nat :=
  if c == 'x' then some 2 else if c == 'u' then some 4 else if c == 'U' then some 8 else none

def numbered (n : Nat) : Except Fault Nat :=
  if n < 0x110000 then .ok n
  else if n < 0x80000000 then .error .codeOutOfRange
  else .error .codeTooLarge

/-- The code points that an escape stands for; the backslash has been taken. -/
def escaped (fuel : Nat) : Scanner (List Nat) := do
  let c ← peek
  match escapes.lookup c, escapeWidth? c with
  | some d, _ =>
    forward
    pure [d.toNat]
  | none, some width =>
    forward
    let ds := (← get).rest.take width
    match (if ds.length == width then Text.baseValue Text.hexValue? 16 0 ds else none) with
    | none => bad
    | some n =>
      let code ← numbered n
      forward width
      pure [code]
  | none, none =>
    if isBreak c then
      let _ ← lineBreak
      pure ((← quotedBreaks fuel []).map Char.toNat)
    else bad

/-- The code points of a quoted scalar up to its closing quote; `done` holds those read, in
reverse. -/
def quotedCodes (double : Bool) (fuel : Nat) (done : List Nat) : Scanner (List Nat) :=
  match fuel with
  | 0 => bad
  | fuel + 1 => do
    let run ← takeWhile fun c => !(isSpaceOrEnd c || c == '\'' || c == '"' || c == '\\')
    let done := (run.map Char.toNat).reverse ++ done
    let c ← peek
    let more (ns : List Nat) : Scanner (List Nat) := quotedCodes double fuel (ns.reverse ++ done)
    if c == '\'' && !double then
      if (← peek 1) == '\'' then
        forward 2
        more [c.toNat]
      else pure done.reverse
    else if c == '"' && double then pure done.reverse
    else if c == '\\' && double then
      forward
      more (← escaped fuel)
    else if c == '\'' || c == '"' || c == '\\' then
      forward
      more [c.toNat]
    else more ((← quotedSpaces fuel).map Char.toNat)

def quotedScalar (fuel : Nat) (double : Bool) : Scanner Unit := do
  savePendingKey
  allowKey false
  forward
  let codes ← quotedCodes double fuel []
  forward
  emit (.scalar codes false)

/-- The line ends inside a plain scalar; `none` when a document mark follows. -/
def plainBreaks (fuel : Nat) (done : List Char) : Scanner (Option (List Char)) :=
  match fuel with
  | 0 => pure (some done)
  | fuel + 1 => do
    let c ← peek
    if c == ' ' then
      forward
      plainBreaks fuel done
    else if isBreak c then
      let ending ← lineBreak
      if ← atDocumentMark then pure none else plainBreaks fuel (done ++ ending)
    else pure (some done)

/-- What stands between the parts of a plain scalar; nothing when it ends here. -/
def plainSpaces (fuel : Nat) : Scanner (List Char) := do
  let blanks ← takeWhile (· == ' ')
  if isBreak (← peek) then
    let ending ← lineBreak
    allowKey true
    if ← atDocumentMark then pure []
    else
      match ← plainBreaks fuel [] with
      | none => pure []
      | some breaks => pure (foldBreak ending breaks)
  else pure blanks

def plainLength (inFlow : Bool) : List Char → Nat
  | [] => 0
  | c :: cs =>
    let next := cs.headD '\x00'
    let closes := isSpaceOrEnd next || (inFlow && ",[]\x7b\x7d".toList.contains next)
    if isSpaceOrEnd c || (c == ':' && closes) || (inFlow && ",?[]\x7b\x7d".toList.contains c) then 0
    else plainLength inFlow cs + 1

def plainParts (indent : Int) (fuel : Nat) (done spaces : List Char) : Scanner (List Char) :=
  match fuel with
  | 0 => pure done
  | fuel + 1 => do
    if (← peek) == '#' then return done
    let s ← get
    let n := plainLength (s.flow != 0) s.rest
    if n == 0 then return done
    allowKey false
    let done := done ++ spaces ++ s.rest.take n
    forward n
    let spaces ← plainSpaces fuel
    let s ← get
    if spaces.isEmpty || (← peek) == '#' || (s.flow == 0 && (s.column : Int) < indent) then
      return done
    plainParts indent fuel done spaces

def plainScalar (fuel : Nat) : Scanner Unit := do
  savePendingKey
  allowKey false
  let s ← get
  let cs ← plainParts (s.indent + 1) fuel [] []
  emitScalar cs true

def indicators : List Char := "-?:,[]\x7b\x7d#&*!|>'\"%@`".toList

def startsPlain (inFlow : Bool) (c next : Char) : Bool :=
  !(isSpaceOrEnd c || indicators.contains c)
    || (!isSpaceOrEnd next && (c == '-' || (!inFlow && (c == '?' || c == ':'))))

/-- Read the token in front, which is not the end of the text. The fuel exceeds what is left to
read, here and in `next`. -/
def token (fuel : Nat) (c next : Char) : Scanner Unit := do
  let s ← get
  let inFlow := s.flow != 0
  let lineStart := s.column == 0
  let apart := inFlow || isSpaceOrEnd next
  if c == '%' && lineStart then directive
  else if c == '-' && lineStart && (← isDocumentMark '-') then documentMark .documentStart
  else if c == '.' && lineStart && (← isDocumentMark '.') then documentMark .documentEnd
  else if c == '[' then flowStart .flowSequenceStart
  else if c == '{' then flowStart .flowMappingStart
  else if c == ']' then flowEnd .flowSequenceEnd
  else if c == '}' then flowEnd .flowMappingEnd
  else if c == ',' then flowEntry
  else if c == '-' && isSpaceOrEnd next then blockEntry
  else if c == '?' && apart then explicitKey
  else if c == ':' && apart then mappingValue
  else if c == '*' then named .alias
  else if c == '&' then named .anchor
  else if c == '!' then tag
  else if c == '|' && !inFlow then blockScalar fuel false
  else if c == '>' && !inFlow then blockScalar fuel true
  else if c == '\'' then quotedScalar fuel false
  else if c == '"' then quotedScalar fuel true
  else if startsPlain inFlow c next then plainScalar fuel
  else bad

def next (fuel : Nat) : Scanner Bool := do
  skipToToken fuel
  dropStaleKeys
  unwind (← get).column
  if (← get).rest.isEmpty then
    unwind (-1)
    dropPendingKey
    emit .streamEnd
    pure true
  else
    token fuel (← peek) (← peek 1)
    pure false

end Scanner

structure Tokens where
  known : List Token
  fault : Option Fault

namespace Scan

/-- The tokens of which it is certain that nothing is put in front of them. -/
def certain (s : Scan) : List Token :=
  let pending := s.pending.filter fun k => !Scanner.isStale s k.2
  s.tokens.toList.take (pending.foldl (fun n k => min n k.2.token) s.tokens.size)

def tokensFrom (fuel : Nat) (s : Scan) : Tokens :=
  match fuel with
  | 0 => ⟨s.certain, some .malformedMarkup⟩
  | fuel + 1 =>
    match (Scanner.next (fuel + 1)).run s with
    | .ok (true, last) => ⟨last.tokens.toList, none⟩
    | .ok (false, s) => tokensFrom fuel s
    | .error f => ⟨s.certain, some f⟩

end Scan

namespace Tokens

def ofText (s : String) : Tokens :=
  let cs := s.toList
  if cs.all isAllowed then
    let start : Scan := ⟨cs, 0, 0, 0, -1, [], 0, true, [], #[]⟩
    start.tokensFrom (2 * cs.length + 2)
  else ⟨[], some .malformedMarkup⟩

end Tokens

end Assay.Yaml
