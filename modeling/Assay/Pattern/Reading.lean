import Assay.Pattern.Syntax
import Assay.Text.CharacterName
import Assay.Text.Identifier
import Assay.Text.Quoted
import Assay.Text.Whole

/-! # Reading patterns

The notation of regular expressions. A pattern is read as a row of tokens, a backslash and the
character behind it being one; a mistake is reported with the position of what is wrong.
-/

namespace Assay.Pattern

/-- Why a text is no pattern. -/
inductive Problem
  | malformed (message : String)
  /-- A repetition is bounded by a number that is out of reach. -/
  | repetitionTooLarge
  | tooManyDigits (count : Nat)
  | flagsIncompatible
  /-- A look behind is wider than can be expressed. -/
  | tooWide
deriving DecidableEq

/-- A character or a backslash and the character behind it, with the code point that is last. -/
structure Token where
  chars : List Char
  code : Nat
  position : Nat
deriving DecidableEq

/-- The tokens of a pattern. A backslash at the end is a token by itself. -/
def tokens (position : Nat) : List Nat → List Token
  | [] => []
  | 92 :: n :: ns => ⟨['\\', Char.ofNat n], n, position⟩ :: tokens (position + 2) ns
  | n :: ns => ⟨[Char.ofNat n], n, position⟩ :: tokens (position + 1) ns

structure Reading where
  source : List Nat
  rest : List Token
  flags : Flags
  unicode : Bool
  /-- The widths of the captures in order, absent while one is open. -/
  captures : List (Option (Nat × Nat))
  names : List (String × Nat)
  /-- The number of captures before the outermost look behind that is being read. -/
  behindFrom : Option Nat
  /-- The captures that conditions ask for, and where. -/
  asked : List (Nat × Nat)

abbrev Reader := StateT Reading (Except Problem)

/-- The line and column of a position, for patterns of several lines. -/
def lineNote (source : List Nat) (position : Nat) : String :=
  if source.contains 10 then
    let before := source.take position
    let line := before.count 10 + 1
    let column := (before.reverse.takeWhile (· != 10)).length + 1
    s!" (line {line}, column {column})"
  else ""

def problemAt (source : List Nat) (message : String) (position : Nat) : Problem :=
  .malformed (s!"{message} at position {position}" ++ lineNote source position)

namespace Reader

def position : Reader Nat := do
  let r ← get
  pure (match r.rest with
    | t :: _ => t.position
    | [] => r.source.length)

/-- Fail with a message about the place `back` characters before the next token. -/
def bad {α : Type} (message : String) (back : Nat := 0) : Reader α := do
  let r ← get
  throw (problemAt r.source message ((← position) - back))

def peek : Reader (List Char) := do
  match (← get).rest with
  | t :: _ => pure t.chars
  | [] => pure []

/-- A backslash at the end is no token to go on to. -/
def checkNext : Reader Unit := do
  let r ← get
  match r.rest with
  | [⟨['\\'], _, n⟩] => throw (problemAt r.source "bad escape (end of pattern)" n)
  | _ => pure ()

/-- Take the next token; at the end there is none and no characters are taken. -/
def takeToken : Reader Token := do
  match (← get).rest with
  | t :: rest => do
    modify fun r => { r with rest }
    checkNext
    pure t
  | [] => pure ⟨[], 0, 0⟩

def take : Reader (List Char) := do pure (← takeToken).chars

def accept (c : Char) : Reader Bool := do
  if (← peek) == [c] then
    let _ ← take
    pure true
  else pure false

def isOctal (c : Char) : Bool := '0' ≤ c && c ≤ '7'

def isHex (c : Char) : Bool := (Text.hexValue? c).isSome

def isAsciiLetter (c : Char) : Bool := ('a' ≤ c && c ≤ 'z') || ('A' ≤ c && c ≤ 'Z')

def takeUpTo (p : Char → Bool) : Nat → Reader (List Char)
  | 0 => pure []
  | n + 1 => do
    match ← peek with
    | [c] =>
      if p c then
        let _ ← take
        pure (c :: (← takeUpTo p n))
      else pure []
    | _ => pure []

def takeAll (p : Char → Bool) : Reader (List Char) := do
  takeUpTo p (← get).rest.length

/-- Take a name up to the character that closes it. -/
def takeName (close : Char) (what : String) : Reader String := do
  let rec go (fuel : Nat) (done : List Char) : Reader (List Char) :=
    match fuel with
    | 0 => bad ("missing " ++ what)
    | fuel + 1 => do
      match ← take with
      | [] =>
        if done.isEmpty then bad ("missing " ++ what)
        else bad s!"missing {close}, unterminated name" done.length
      | t =>
        if t == [close] then
          if done.isEmpty then bad ("missing " ++ what) 1 else pure done
        else go fuel (done ++ t)
  pure (.ofList (← go ((← get).rest.length + 1) []))

def checkName (name : String) : Reader Unit := do
  if !Text.isName name then
    bad s!"bad character in group name {Text.quoted name}" (name.length + 1)

/-- The value of digits in a base that is a power of two. -/
def valueIn (base : Nat) (ds : List Char) : Nat := (Text.baseValue Text.hexValue? base 0 ds).getD 0

end Reader

inductive Escaped
  | code (value : Nat)
  | category (kind : Category) (negated : Bool)
  | anchor (kind : Anchor)
  | reference (number : Nat)

namespace Reader

def controlCode? : Char → Option Nat
  | 'a' => some 7
  | 'b' => some 8
  | 'f' => some 12
  | 'n' => some 10
  | 'r' => some 13
  | 't' => some 9
  | 'v' => some 11
  | '\\' => some 92
  | _ => none

def category? : Char → Option Escaped
  | 'd' => some (.category .digit false)
  | 'D' => some (.category .digit true)
  | 's' => some (.category .blank false)
  | 'S' => some (.category .blank true)
  | 'w' => some (.category .word false)
  | 'W' => some (.category .word true)
  | _ => none

def shownEscape (ds : List Char) : String := .ofList ('\\' :: ds)

def badEscape {α : Type} (ds : List Char) : Reader α :=
  bad s!"bad escape {shownEscape ds}" (ds.length + 1)

def hexEscape (c : Char) (count : Nat) : Reader Nat := do
  let ds ← takeUpTo isHex count
  if ds.length != count then
    bad s!"incomplete escape {shownEscape (c :: ds)}" (ds.length + 2)
  let n := valueIn 16 ds
  if n > 0x10ffff then badEscape (c :: ds)
  pure n

def namedEscape : Reader Nat := do
  if !(← accept '{') then bad "missing \x7b"
  let name ← takeName '}' "character name"
  match Text.characterNamed? name with
  | some n => pure n
  | none => bad s!"undefined character name {Text.quoted name}" (name.length + 4)

def octalCode (ds : List Char) : Reader Nat := do
  let n := valueIn 8 ds
  if n > 0o377 then
    bad s!"octal escape value {shownEscape ds} outside of range 0-0o377" (ds.length + 1)
  pure n

/-- The escapes that mean the same inside and outside of a class. -/
def codeEscape (c : Char) (code : Nat) : Reader Nat := do
  if c == 'x' then hexEscape c 2
  else if c == 'u' then hexEscape c 4
  else if c == 'U' then hexEscape c 8
  else if c == 'N' then namedEscape
  else if isAsciiLetter c || Text.isAsciiDigit c then badEscape [c]
  else pure code

def classEscape (c : Char) (code : Nat) : Reader Escaped := do
  match controlCode? c, category? c with
  | some n, _ => pure (.code n)
  | _, some k => pure k
  | _, _ =>
    if isOctal c then .code <$> octalCode (c :: (← takeUpTo isOctal 2))
    else .code <$> codeEscape c code

/-- A capture that may be referred to here. -/
def checkReference (number back : Nat) : Reader Unit := do
  let r ← get
  let closed := (r.captures.getD (number - 1) none).isSome
  if !closed then bad "cannot refer to an open group" back
  match r.behindFrom with
  | some n =>
    if number > n then bad "cannot refer to group defined in the same lookbehind subpattern"
  | none => pure ()

/-- A reference to a capture by number, or an octal code of three digits. -/
def numericEscape (c : Char) : Reader Escaped := do
  let second ← takeUpTo Text.isAsciiDigit 1
  match second with
  | [d] =>
    if isOctal c && isOctal d then
      match ← takeUpTo isOctal 1 with
      | [e] => return .code (← octalCode [c, d, e])
      | _ => pure ()
  | _ => pure ()
  let ds := c :: second
  let number := valueIn 10 ds
  if number > (← get).captures.length then
    bad s!"invalid group reference {number}" ds.length
  checkReference number (ds.length + 1)
  pure (.reference number)

def escape (f : Flags) (c : Char) (code : Nat) : Reader Escaped := do
  match c with
  | 'A' => pure (.anchor .textStart)
  | 'Z' => pure (.anchor .textEnd)
  | 'b' => pure (.anchor (.boundary f.ascii))
  | 'B' => pure (.anchor (.inside f.ascii))
  | c =>
    match category? c, controlCode? c with
    | some k, _ => pure k
    | _, some n => pure (.code n)
    | _, _ =>
      if c == '0' then
        pure (.code (valueIn 8 (← takeUpTo isOctal 2)))
      else if Text.isAsciiDigit c then numericEscape c
      else .code <$> codeEscape c code

def classItem : Escaped → ClassItem
  | .category k negated => .category k negated
  | .code n => .single n
  | .anchor _ | .reference _ => .single 0

def classPart (t : Token) : Reader Escaped :=
  match t.chars with
  | ['\\', c] => classEscape c t.code
  | _ => pure (.code t.code)

/-- The items of a class up to its closing bracket; `opened` is where the class began. -/
def classItems (opened fuel : Nat) (done : List ClassItem) : Reader (List ClassItem) :=
  match fuel with
  | 0 => pure done
  | fuel + 1 => do
    let unterminated {α : Type} : Reader α := do
      bad "unterminated character set" ((← position) - opened)
    let first ← takeToken
    if first.chars.isEmpty then unterminated
    if first.chars == [']'] && !done.isEmpty then return done
    let left ← classPart first
    if ← accept '-' then
      let second ← takeToken
      if second.chars.isEmpty then unterminated
      if second.chars == [']'] then return done ++ [classItem left, .single 45]
      let right ← classPart second
      let badRange {α : Type} : Reader α :=
        bad s!"bad character range {String.ofList first.chars}-{String.ofList second.chars}"
          (first.chars.length + 1 + second.chars.length)
      match left, right with
      | .code a, .code b =>
        if b < a then badRange
        classItems opened fuel (done ++ [.range a b])
      | _, _ => badRange
    else classItems opened fuel (done ++ [classItem left])

def charClass (f : Flags) (items : List ClassItem) (negated : Bool) : Node :=
  .char ⟨items, negated, f.ignoreCase, f.ascii⟩

def readClass (f : Flags) : Reader Node := do
  let opened := (← position) - 1
  let negated ← accept '^'
  let items ← classItems opened ((← get).rest.length + 1) []
  pure (charClass f items.eraseDups negated)

/-- The bounds of a repetition in braces; `none` when the brace stands for itself. -/
def bounds : Reader (Option (Nat × Option Nat)) := do
  let here ← position
  let saved ← get
  if (← peek) == ['}'] then return none
  let low ← takeAll Text.isAsciiDigit
  let high ← if ← accept ',' then takeAll Text.isAsciiDigit else pure low
  if !(← accept '}') then
    set saved
    return none
  let number (ds : List Char) : Reader (Option Nat) := do
    if ds.isEmpty then pure none
    else if ds.length > Text.digitLimit then throw (.tooManyDigits ds.length)
    else
      let n := valueIn 10 ds
      if n ≥ Node.repetitionLimit then throw .repetitionTooLarge
      pure (some n)
  let least := (← number low).getD 0
  let most ← number high
  match most with
  | some n => if n < least then bad "min repeat greater than max repeat" ((← position) - here)
  | none => pure ()
  pure (some (least, most))

/-- The mark behind a repetition that says how it prefers to match. -/
def readGreed : Reader Greed := do
  if ← accept '?' then pure .lazy
  else if ← accept '+' then pure .possessive
  else pure .greedy

/-- Repeat the last of the parts read, which stand in reverse. -/
def repeatLast (least : Nat) (most : Option Nat) (here width : Nat) (done : List Node) :
    Reader (List Node) := do
  match done with
  | [] => bad "nothing to repeat" ((← position) - here + width)
  | last :: before =>
    if last.isAnchor then bad "nothing to repeat" ((← position) - here + width)
    if last.isRepetition then bad "multiple repeat" ((← position) - here + width)
    let body := match last with
      | .group true inner => inner
      | n => [n]
    let greed ← readGreed
    pure (.repetition greed least most body :: before)

def isFlag (c : Char) : Bool := "iLmsxatu".toList.contains c

structure FlagChange where
  added : List Char := []
  removed : List Char := []

def typeFlag (c : Char) : Bool := c == 'a' || c == 'u' || c == 'L'

def addedFlags (fuel : Nat) (c : Char) (done : List Char) : Reader (List Char × Char) :=
  match fuel with
  | 0 => pure (done, c)
  | fuel + 1 => do
    if c == 'L' then bad "bad inline flags: cannot use 'L' flag with a str pattern"
    let done := done ++ [c]
    if typeFlag c && done.any (fun d => typeFlag d && d != c) then
      bad "bad inline flags: flags 'a', 'u' and 'L' are incompatible"
    match ← take with
    | [] => bad "missing -, : or )"
    | t =>
      match t with
      | [d] =>
        if d == ')' || d == '-' || d == ':' then pure (done, d)
        else if isFlag d then addedFlags fuel d done
        else bad (if Text.isLetter d then "unknown flag" else "missing -, : or )") 1
      | t => bad "missing -, : or )" t.length

def removedFlags (fuel : Nat) (c : Char) (done : List Char) : Reader (List Char) :=
  match fuel with
  | 0 => pure done
  | fuel + 1 => do
    if typeFlag c then bad "bad inline flags: cannot turn off flags 'a', 'u' and 'L'"
    let done := done ++ [c]
    match ← take with
    | [] => bad "missing :"
    | [d] =>
      if d == ':' then pure done
      else if isFlag d then removedFlags fuel d done
      else bad (if Text.isLetter d then "unknown flag" else "missing :") 1
    | t => bad "missing :" t.length

/-- The flags that a group changes, or `none` when they were set for the whole pattern. -/
def flagChange (c : Char) : Reader (Option FlagChange) := do
  let fuel := (← get).rest.length + 1
  let (added, ending) ← if c == '-' then pure ([], c) else addedFlags fuel c []
  if ending == ')' then
    modify fun r =>
      let set (b : Bool) (d : Char) : Bool := b || added.contains d
      let f := r.flags
      { r with
        flags := ⟨set f.template 't', set f.ignoreCase 'i', set f.multiLine 'm', set f.dotAll 's',
          set f.verbose 'x', set f.ascii 'a'⟩
        unicode := set r.unicode 'u' }
    return none
  if added.contains 't' then bad "bad inline flags: cannot turn on global flag" 1
  if ending == '-' then
    let removed ← match ← take with
      | [] => bad "missing flag"
      | [d] =>
        if isFlag d then removedFlags fuel d []
        else bad (if Text.isLetter d then "unknown flag" else "missing flag") 1
      | t => bad "missing flag" t.length
    if removed.contains 't' then bad "bad inline flags: cannot turn off global flag" 1
    if added.any removed.contains then bad "bad inline flags: flag turned on and off" 1
    pure (some ⟨added, removed⟩)
  else pure (some ⟨added, []⟩)

def FlagChange.apply (d : FlagChange) (f : Flags) : Flags :=
  let change (b : Bool) (c : Char) : Bool := (b || d.added.contains c) && !d.removed.contains c
  ⟨f.template, change f.ignoreCase 'i', change f.multiLine 'm', change f.dotAll 's',
    change f.verbose 'x', (f.ascii && !d.added.contains 'u') || d.added.contains 'a'⟩

def openCapture (name : Option String) : Reader Nat := do
  let r ← get
  let number := r.captures.length + 1
  modify fun r => { r with captures := r.captures ++ [none] }
  match name with
  | some s =>
    match r.names.lookup s with
    | some earlier =>
      bad s!"redefinition of group name {Text.quoted s} as group {number}; was group {earlier}"
        (s.length + 1)
    | none => modify fun r => { r with names := (s, number) :: r.names }
  | none => pure ()
  pure number

def knownWidths (r : Reading) : List (Nat × Nat) :=
  (0, 0) :: r.captures.map (·.getD (0, 0))

def closeCapture [Edition] (number : Nat) (body : List Node) : Reader Unit := do
  modify fun r =>
    let width := Node.capped (Node.widthAll (knownWidths r) body)
    { r with captures := r.captures.set (number - 1) (some width) }

def closeGroup (opened : Nat) : Reader Unit := do
  if !(← accept ')') then
    bad "missing ), unterminated subpattern" ((← position) - opened)

/-- Skip a comment up to the character that ends it, which may be the end of the pattern. -/
def skipLine : Nat → Reader Unit
  | 0 => pure ()
  | fuel + 1 => do
    match ← take with
    | [] | ['\n'] => pure ()
    | _ => skipLine fuel

def skipComment (opened : Nat) : Nat → Reader Unit
  | 0 => pure ()
  | fuel + 1 => do
    if (← peek).isEmpty then bad "missing ), unterminated comment" ((← position) - opened)
    if (← take) == [')'] then pure () else skipComment opened fuel

def captureLimit : Nat := 0x3fffffff

def condition : Reader Nat := do
  let name ← takeName ')' "group name"
  let number ←
    if Text.isName name then
      match (← get).names.lookup name with
      | some n => pure n
      | none => bad s!"unknown group name {Text.quoted name}" (name.length + 1)
    else
      let read := (Text.integer? name.toList).getD (-1)
      if read < 0 then bad s!"bad character in group name {Text.quoted name}" (name.length + 1)
      let number := read.toNat
      if number == 0 then bad "bad group number" (name.length + 1)
      if number ≥ captureLimit then bad s!"invalid group reference {number}" (name.length + 1)
      let place := (← position) - name.length - 1
      modify fun r =>
        if r.asked.any (·.1 == number) then r else { r with asked := r.asked ++ [(number, place)] }
      pure number
  if (← get).behindFrom.isSome then checkReference number 0
  pure number

def namedReference (f : Flags) : Reader Node := do
  let name ← takeName ')' "group name"
  checkName name
  match (← get).names.lookup name with
  | none => bad s!"unknown group name {Text.quoted name}" (name.length + 1)
  | some n =>
    checkReference n (name.length + 1)
    pure (.reference n f.ignoreCase f.ascii)

def escapedNode (f : Flags) : Escaped → Node
  | .code n => charClass f [.single n] false
  | .category k negated => charClass f [.category k negated] false
  | .anchor a => .anchor a
  | .reference n => .reference n f.ignoreCase f.ascii

def isVerboseBlank (c : Char) : Bool := c == ' ' || (9 ≤ c.toNat && c.toNat ≤ 13)

/-- What stands behind the opening of a group. -/
inductive Opening
  | group (f : Flags) (name : Option String)
  | plain (f : Flags) (changed : Bool)
  | atomic
  | look (behind negated : Bool)
  | condition
  | node (n : Node)
  | nothing
  | global

def namedOpening (f : Flags) : Reader Opening := do
  if ← accept '<' then
    let name ← takeName '>' "group name"
    checkName name
    pure (.group f (some name))
  else if ← accept '=' then .node <$> namedReference f
  else
    match ← take with
    | [] => bad "unexpected end of pattern"
    | t => bad s!"unknown extension ?P{String.ofList t}" (t.length + 2)

def opening (f : Flags) (opened : Nat) : Reader Opening := do
  if !(← accept '?') then return .group f none
  match ← take with
  | [] => bad "unexpected end of pattern"
  | ['P'] => namedOpening f
  | [':'] => pure (.plain f false)
  | ['#'] =>
    skipComment opened ((← get).rest.length + 1)
    pure .nothing
  | ['='] => pure (.look false false)
  | ['!'] => pure (.look false true)
  | ['<'] =>
    match ← take with
    | [] => bad "unexpected end of pattern"
    | ['='] => pure (.look true false)
    | ['!'] => pure (.look true true)
    | t => bad s!"unknown extension ?<{String.ofList t}" (t.length + 2)
  | ['('] => pure .condition
  | ['>'] => pure .atomic
  | t =>
    match t with
    | [c] =>
      if isFlag c || c == '-' then
        match ← flagChange c with
        | none => pure .global
        | some d => pure (.plain (d.apply f) true)
      else bad s!"unknown extension ?{c}" 2
    | t => bad s!"unknown extension ?{String.ofList t}" (t.length + 1)

/-- Put the parts of plain groups in the place of the groups. -/
def unwrap (ns : List Node) : List Node :=
  ns.flatMap fun
    | .group true body => body
    | n => [n]

/-- The parts that all branches begin with, and what is left of the branches. -/
def commonStart : List Node → List (List Node) → List Node × List (List Node)
  | [], others => ([], [] :: others)
  | n :: rest, others =>
    if others.all fun b => b.head?.any n.same then
      let (common, left) := commonStart rest (others.map List.tail)
      (n :: common, left)
    else ([], (n :: rest) :: others)

/-- The items of a branch that is one character of a class. -/
def branchItems? : List Node → Option CharClass
  | [.char k] => if k.negated then none else some k
  | _ => none

/-- The parts of a choice: what the branches have in common, then a class if each branch is one
character, or else a choice. -/
def joinBranches : List (List Node) → List Node
  | [] => []
  | [b] => b
  | b :: others =>
    let (common, left) := commonStart b others
    match left.mapM branchItems? with
    | some (k :: ks) =>
      let items := ((k :: ks).flatMap CharClass.items).eraseDups
      common ++ [.char { k with items }]
    | _ => common ++ [.choice left]

section

variable [Edition]

mutual

/-- Branches separated by bars, up to a closing parenthesis or the end. `top` tells that they are
the whole pattern. -/
def branches (fuel : Nat) (f : Flags) (top first : Bool) : Reader (List (List Node)) :=
  match fuel with
  | 0 => pure []
  | fuel + 1 => do
    let n ← parts fuel f first []
    if ← accept '|' then
      let whole := (← get).flags
      pure (n :: (← branches fuel (if top then whole else f) top false))
    else pure [n]

/-- The parts of one branch; those already read are given in reverse. -/
def parts (fuel : Nat) (f : Flags) (first : Bool) (done : List Node) : Reader (List Node) :=
  match fuel with
  | 0 => pure (unwrap done.reverse)
  | fuel + 1 => do
    let next ← peek
    if next.isEmpty || next == ['|'] || next == [')'] then return unwrap done.reverse
    let t ← takeToken
    match t.chars with
    | ['\\', c] => parts fuel f first (escapedNode f (← escape f c t.code) :: done)
    | [c] =>
      if f.verbose && isVerboseBlank c then parts fuel f first done
      else if f.verbose && c == '#' then do
        skipLine ((← get).rest.length + 1)
        parts fuel f first done
      else if c == '[' then parts fuel f first ((← readClass f) :: done)
      else if c == '.' then parts fuel f first (.any f.dotAll :: done)
      else if c == '^' then
        parts fuel f first (.anchor (if f.multiLine then .lineStart else .textStart) :: done)
      else if c == '$' then
        parts fuel f first (.anchor (if f.multiLine then .lineEnd else .lastLineEnd) :: done)
      else if c == '?' || c == '*' || c == '+' then do
        let least := if c == '+' then 1 else 0
        let most := if c == '?' then some 1 else none
        parts fuel f first (← repeatLast least most (← position) 1 done)
      else if c == '{' then do
        let here ← position
        match ← bounds with
        | none => parts fuel f first (charClass f [.single 123] false :: done)
        | some (least, most) => parts fuel f first (← repeatLast least most here 1 done)
      else if c == '(' then do
        let opened := (← position) - 1
        match ← opening f opened with
        | .global =>
          if !first || !done.isEmpty then
            bad "global flags not at the start of the expression" ((← position) - opened)
          parts fuel (← get).flags first done
        | .nothing => parts fuel f first done
        | .node n => parts fuel f first (n :: done)
        | o => parts fuel f first ((← group fuel f opened o) :: done)
      else parts fuel f first (charClass f [.single t.code] false :: done)
    | _ => parts fuel f first done

def group (fuel : Nat) (f : Flags) (opened : Nat) (o : Opening) : Reader Node :=
  match fuel with
  | 0 => pure (.group true [])
  | fuel + 1 => do
    match o with
    | .group f name =>
      let number ← openCapture name
      let body ← choiceOf fuel f
      closeGroup opened
      closeCapture number body
      pure (.capture number body)
    | .plain f changed =>
      let body ← choiceOf fuel f
      closeGroup opened
      pure (.group (!changed) body)
    | .atomic =>
      let body ← choiceOf fuel f
      closeGroup opened
      pure (.atomic body)
    | .look false negated =>
      let body ← choiceOf fuel f
      closeGroup opened
      pure (.look false negated body)
    | .look true negated =>
      let outer := (← get).behindFrom
      if outer.isNone then modify fun r => { r with behindFrom := some r.captures.length }
      let body ← choiceOf fuel f
      modify fun r => { r with behindFrom := outer }
      closeGroup opened
      pure (.look true negated body)
    | .condition =>
      let number ← condition
      let yes ← parts fuel f false []
      let no ←
        if ← accept '|' then
          let no ← parts fuel f false []
          if (← peek) == ['|'] then bad "conditional backref with more than two branches"
          pure no
        else pure []
      closeGroup opened
      pure (.conditional number yes no)
    | .node n => pure n
    | .nothing | .global => pure (.group true [])

def choiceOf (fuel : Nat) (f : Flags) : Reader (List Node) :=
  match fuel with
  | 0 => pure []
  | fuel + 1 => do pure (joinBranches (← branches fuel f false false))

end

end

end Reader

/-- The whole pattern, after which nothing may be left. -/
def readWhole [Edition] (fuel : Nat) (f : Flags) : Reader (List Node) := do
  Reader.checkNext
  let bs ← Reader.branches fuel f true true
  let r ← get
  if r.flags.ascii && r.unicode then throw .flagsIncompatible
  if !r.rest.isEmpty then Reader.bad "unbalanced parenthesis"
  match r.asked.find? fun a => a.1 > r.captures.length with
  | some (n, place) => throw (problemAt r.source s!"invalid group reference {n}" place)
  | none => pure (Reader.joinBranches bs)

/-- What the text of a pattern says. -/
structure Outline where
  nodes : List Node
  flags : Flags
  /-- The least and the greatest width of the captures, of which the first stands for the whole
  and is left open. -/
  widths : List (Nat × Nat)
  /-- The names of captures, the last one first. -/
  names : List (String × Nat)

/-- Read the code points of a pattern under the flags that it is given. -/
def Outline.read [Edition] (source : List Nat) (f : Flags) : Except Problem Outline := do
  let ts := tokens 0 source
  let start : Reading := ⟨source, ts, f, false, [], [], none, []⟩
  let (ns, r) ← (readWhole (4 * ts.length + 8) f).run start
  pure ⟨ns, r.flags, Reader.knownWidths r, r.names⟩

end Assay.Pattern
