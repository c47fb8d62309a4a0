import Assay.Data.Equality
import Assay.Fault
import Assay.Binary64.Reading

/-! # Reading JSON

The notation of JSON values, with the words for not-a-number and the infinities added. A mistake is
reported with its line, column and position, and collections nested too deep are refused. Of two
entries with one key the later one counts, in the place of the earlier one.
-/

namespace Assay.Json

/-- What is left to read, and how many characters stand before it. -/
structure Cursor where
  rest : List Char
  position : Nat

def malformed (source : List Char) (problem : String) (position : Nat) : Fault :=
  let before := source.take position
  let column := (before.reverse.takeWhile (· != '\n')).length + 1
  .malformedJson problem (before.count '\n' + 1) column position

namespace Cursor

def advance (c : Cursor) (n : Nat) : Cursor := ⟨c.rest.drop n, c.position + n⟩

def isBlank (c : Char) : Bool := c == ' ' || c == '\t' || c == '\n' || c == '\r'

def skipBlanks (c : Cursor) : Cursor := c.advance (c.rest.takeWhile isBlank).length

def head (c : Cursor) : Option Char := c.rest.head?

/-- The rest after a word, if it stands here. -/
def word? (c : Cursor) (w : String) : Option Cursor :=
  if w.toList.isPrefixOf c.rest then some (c.advance w.length) else none

end Cursor

def escapeCode? : Char → Option Nat
  | '"' => some 0x22
  | '\\' => some 0x5c
  | '/' => some 0x2f
  | 'b' => some 0x08
  | 'f' => some 0x0c
  | 'n' => some 0x0a
  | 'r' => some 0x0d
  | 't' => some 0x09
  | _ => none

def fourDigits? (cs : List Char) : Option Nat :=
  let ds := cs.take 4
  if ds.length == 4 then Text.baseValue Text.hexValue? 16 0 ds else none

/-- The code point of a Unicode escape whose digits stand at the cursor, and how many characters it
takes. A pair of surrogates is one character. -/
def unicodeEscape (source : List Char) (c : Cursor) : Except Fault (Nat × Nat) :=
  let bad (position : Nat) : Except Fault (Nat × Nat) :=
    .error (malformed source "Invalid \\uXXXX escape" position)
  if (c.rest.take 5).length ≤ 4 then bad (c.position - 1)
  else
    match fourDigits? c.rest with
    | none => bad (c.position - 1)
    | some n =>
      let second := (c.rest.drop 4).take 7
      if 0xd800 ≤ n && n < 0xdc00 && second.take 2 == ['\\', 'u'] && second.length > 6 then
        match fourDigits? (second.drop 2) with
        | none => bad (c.position + 5)
        | some m =>
          if 0xdc00 ≤ m && m < 0xe000 then
            .ok (0x10000 + (n - 0xd800) * 0x400 + (m - 0xdc00), 10)
          else .ok (n, 4)
      else .ok (n, 4)

def unterminated (source : List Char) (opened : Nat) : Except Fault (Data × Cursor) :=
  .error (malformed source "Unterminated string starting at" opened)

/-- The text up to its closing quote; `opened` is where the opening one stands and `done` holds the
code points read, in reverse. -/
def readCodes (source : List Char) (opened : Nat) (done : List Nat) (c : Cursor) :
    Except Fault (Data × Cursor) :=
  match _h : c.rest with
  | [] => unterminated source opened
  | '"' :: _ => .ok (.ofCodes done.reverse, c.advance 1)
  | '\\' :: [] => unterminated source opened
  | '\\' :: 'u' :: _ =>
    match unicodeEscape source (c.advance 2) with
    | .error f => .error f
    | .ok (d, width) => readCodes source opened (d :: done) (c.advance (2 + width))
  | '\\' :: e :: _ =>
    match escapeCode? e with
    | some d => readCodes source opened (d :: done) (c.advance 2)
    | none => .error (malformed source "Invalid \\escape" c.position)
  | d :: _ =>
    if d.toNat < 0x20 then .error (malformed source "Invalid control character at" c.position)
    else readCodes source opened (d.toNat :: done) (c.advance 1)
termination_by c.rest.length
decreasing_by all_goals (simp [Cursor.advance, _h] <;> omega)

def readText (source : List Char) (c : Cursor) : Except Fault (Data × Cursor) :=
  readCodes source (c.position - 1) [] c

def wholeDigits? : List Char → Option (List Char)
  | '0' :: _ => some ['0']
  | cs =>
    let ds := cs.takeWhile Text.isAsciiDigit
    if ds.isEmpty then none else some ds

def fractionPart : List Char → List Char
  | '.' :: cs =>
    let ds := cs.takeWhile Text.isAsciiDigit
    if ds.isEmpty then [] else '.' :: ds
  | _ => []

def exponentPart : List Char → List Char
  | e :: cs =>
    if e == 'e' || e == 'E' then
      let sign := match cs with
        | '+' :: _ => ['+']
        | '-' :: _ => ['-']
        | _ => []
      let ds := (cs.drop sign.length).takeWhile Text.isAsciiDigit
      if ds.isEmpty then [] else e :: sign ++ ds
    else []
  | [] => []

def wholeNumber (negative : Bool) (ds : List Char) : Except Fault Data :=
  if ds.length > Text.digitLimit then .error (.tooManyDigits ds.length)
  else
    let n : Int := (Text.digitsValue 0 ds).getD 0
    .ok (.int (if negative then -n else n))

def readNumber (source : List Char) (c : Cursor) : Except Fault (Data × Cursor) :=
  let negative := c.head == some '-'
  let start := if negative then c.advance 1 else c
  match wholeDigits? start.rest with
  | none => .error (malformed source "Expecting value" c.position)
  | some whole =>
    let behind := start.advance whole.length
    let fraction := fractionPart behind.rest
    let exponent := exponentPart (behind.advance fraction.length).rest
    let next := behind.advance (fraction.length + exponent.length)
    if fraction.isEmpty && exponent.isEmpty then do
      pure (← wholeNumber negative whole, next)
    else
      let x := (Binary64.readAscii (whole ++ fraction ++ exponent)).getD .nan
      let x := match x with
        | .finite _ m e => Binary64.finite negative m e
        | .infinite _ => .infinite negative
        | .nan => .nan
      .ok (.float x, next)

def words : List (String × Data) :=
  [("null", .null), ("true", .bool true), ("false", .bool false), ("NaN", .float .nan),
   ("Infinity", .float (.infinite false)), ("-Infinity", .float (.infinite true))]

/-- How deep the collections of a document may be nested. -/
def deepest : Nat := 990

def expect (source : List Char) (d : Char) (problem : String) (c : Cursor) :
    Except Fault Cursor :=
  if c.head == some d then .ok (c.advance 1) else .error (malformed source problem c.position)

mutual

/-- The value at the cursor, within which collections may be nested `depth` deep. -/
def readValue (source : List Char) (fuel depth : Nat) (c : Cursor) :
    Except Fault (Data × Cursor) :=
  match fuel with
  | 0 => .error (malformed source "Expecting value" c.position)
  | fuel + 1 =>
    match c.head with
    | some '"' => readText source (c.advance 1)
    | some '{' => do
      if depth == 0 then throw (.tooDeep "JSON object")
      let inner := (c.advance 1).skipBlanks
      if inner.head == some '}' then pure (.mapping [], inner.advance 1)
      else
        let (entries, next) ← readEntries source fuel (depth - 1) inner
        pure (Data.ofEntries entries, next)
    | some '[' => do
      if depth == 0 then throw (.tooDeep "JSON array")
      let inner := (c.advance 1).skipBlanks
      if inner.head == some ']' then pure (.list [], inner.advance 1)
      else
        let (items, next) ← readItems source fuel (depth - 1) inner
        pure (.list items, next)
    | _ =>
      match words.findSome? fun w => (c.word? w.1).map fun next => (w.2, next) with
      | some found => .ok found
      | none => readNumber source c

def readItems (source : List Char) (fuel depth : Nat) (c : Cursor) :
    Except Fault (List Data × Cursor) :=
  match fuel with
  | 0 => .error (malformed source "Expecting value" c.position)
  | fuel + 1 => do
    let (v, next) ← readValue source fuel depth c
    let next := next.skipBlanks
    if next.head == some ']' then pure ([v], next.advance 1)
    else
      let next ← expect source ',' "Expecting ',' delimiter" next
      let (rest, last) ← readItems source fuel depth next.skipBlanks
      pure (v :: rest, last)

def readEntries (source : List Char) (fuel depth : Nat) (c : Cursor) :
    Except Fault (List (Data × Data) × Cursor) :=
  match fuel with
  | 0 => .error (malformed source "Expecting value" c.position)
  | fuel + 1 => do
    let next ← expect source '"' "Expecting property name enclosed in double quotes" c
    let (key, next) ← readText source next
    let next ← expect source ':' "Expecting ':' delimiter" next.skipBlanks
    let (v, next) ← readValue source fuel depth next.skipBlanks
    let next := next.skipBlanks
    if next.head == some '}' then pure ([(key, v)], next.advance 1)
    else
      let next ← expect source ',' "Expecting ',' delimiter" next
      let (rest, last) ← readEntries source fuel depth next.skipBlanks
      pure ((key, v) :: rest, last)

end

def ofText (s : String) : Except Fault Data := do
  let source := s.toList
  if source.head? == some '\ufeff' then
    throw (malformed source "Unexpected UTF-8 BOM (decode using utf-8-sig)" 0)
  let start : Cursor := ⟨source, 0⟩
  let (v, next) ← readValue source (2 * source.length + 2) deepest start.skipBlanks
  let last := next.skipBlanks
  if last.rest.isEmpty then pure v
  else throw (malformed source "Extra data" last.position)

end Assay.Json
