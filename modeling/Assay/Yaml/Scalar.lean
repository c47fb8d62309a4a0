import Assay.Binary64.Reading
import Assay.Text.Case
import Assay.Yaml.Timestamp

/-! # Plain scalars of YAML

A scalar without quotes and without a tag stands for a truth value, a whole number, a double, null
or, when it has none of their forms, for its own text. Numbers may be written with underscores, in
several bases, and in base sixty with colons.
-/

namespace Assay.Yaml.Scalar

def trueWords : List String := ["yes", "true", "on"]

def falseWords : List String := ["no", "false", "off"]

/-- A word in lower case, in upper case, or with a capital. -/
def isCasing (word text : String) : Bool :=
  let upper (cs : List Char) : List Char := cs.map Char.toUpper
  let cs := word.toList
  let ts := text.toList
  ts == cs || ts == upper cs || ts == upper (cs.take 1) ++ cs.drop 1

def truth? (s : String) : Option Bool :=
  if trueWords.any (isCasing · s) then some true
  else if falseWords.any (isCasing · s) then some false
  else none

def isNull (s : String) : Bool := s == "" || s == "~" || isCasing "null" s

def splitSign : List Char → Bool × List Char
  | '-' :: cs => (true, cs)
  | '+' :: cs => (false, cs)
  | cs => (false, cs)

/-- Digits of a kind and underscores. -/
def isRun (p : Char → Bool) (cs : List Char) : Bool := cs.all fun c => p c || c == '_'

def isDigitRun (cs : List Char) : Bool :=
  match cs with
  | c :: cs => Text.isAsciiDigit c && isRun Text.isAsciiDigit cs
  | [] => false

def isBit (c : Char) : Bool := c == '0' || c == '1'

def isOctal (c : Char) : Bool := '0' ≤ c && c ≤ '7'

def isHex (c : Char) : Bool := (Text.hexValue? c).isSome

def colonParts (cs : List Char) : List (List Char) :=
  cs.splitOnP (· == ':')

/-- A part behind a colon: up to two digits, below sixty. -/
def isSixtieth : List Char → Bool
  | [d] => Text.isAsciiDigit d
  | [t, d] => '0' ≤ t && t ≤ '5' && Text.isAsciiDigit d
  | _ => false

def isWhole (cs : List Char) : Bool :=
  match cs with
  | ['0'] => true
  | '0' :: 'b' :: ds => !ds.isEmpty && isRun isBit ds
  | '0' :: 'x' :: ds => !ds.isEmpty && isRun isHex ds
  | '0' :: ds => isRun isOctal ds
  | c :: _ =>
    match colonParts cs with
    | first :: rest => c != '0' && isDigitRun first && rest.all isSixtieth
    | [] => false
  | [] => false

def withoutUnderscores (cs : List Char) : List Char := cs.filter (· != '_')

def digitIn? (base : Nat) (c : Char) : Option Nat := (Text.hexValue? c).filter (· < base)

/-- The value of digits in a base, of which there must be one; `shown` is what they are part of. -/
def based (base : Nat) (shown ds : List Char) : Except Fault Int :=
  match (if ds.isEmpty then none else Text.baseValue (digitIn? base) base 0 ds) with
  | some n => .ok n
  | none => .error (.unreadableWhole base (Text.quoted (.ofList shown)))

def decimal (ds : List Char) : Except Fault Int :=
  if ds.length > Text.digitLimit && ds.all Text.isAsciiDigit then .error (.tooManyDigits ds.length)
  else
    match Text.integer? ds with
    | some n => .ok n
    | none => .error (.unreadableWhole 10 (Text.quoted (.ofList ds)))

def unsigned (cs : List Char) : Except Fault Int :=
  match cs with
  | [] => .error (.outOfRange "str")
  | ['0'] => .ok 0
  | '0' :: 'b' :: ds => based 2 ds ds
  | '0' :: 'x' :: ds => based 16 ds ds
  | '0' :: 'o' :: ds | '0' :: 'O' :: ds => based 8 cs ds
  | '0' :: _ => based 8 cs cs
  | cs =>
    if cs.contains ':' then (colonParts cs).foldlM (fun n ds => do pure (n * 60 + (← decimal ds))) 0
    else decimal cs

def whole (cs : List Char) : Except Fault Int := do
  let (negative, body) := splitSign (withoutUnderscores cs)
  let n ← unsigned body
  pure (if negative then -n else n)

/-- An exponent with its sign, which a double must give. -/
def isExponent : List Char → Bool
  | [] => true
  | e :: s :: ds =>
    (e == 'e' || e == 'E') && (s == '+' || s == '-') && !ds.isEmpty && ds.all Text.isAsciiDigit
  | _ => false

/-- Digits, a point, digits that may be left out, and an exponent that may be left out. -/
def isDecimal (cs : List Char) : Bool :=
  let whole := cs.takeWhile (· != '.')
  match cs.drop whole.length with
  | '.' :: rest =>
    let exponent := rest.dropWhile fun c => Text.isAsciiDigit c || c == '_'
    isDigitRun whole && isExponent exponent
  | _ => false

/-- A point, digits, and an exponent that may be left out. -/
def isFraction : List Char → Bool
  | '.' :: rest =>
    let digits := rest.takeWhile fun c => Text.isAsciiDigit c || c == '_'
    isDigitRun digits && isExponent (rest.drop digits.length)
  | _ => false

/-- Parts in base sixty, the last of which goes on behind a point. -/
def isSixtiesDecimal (cs : List Char) : Bool :=
  let whole := cs.takeWhile (· != '.')
  match cs.drop whole.length, colonParts whole with
  | '.' :: rest, first :: second :: others =>
    isDigitRun first && (second :: others).all isSixtieth && isRun Text.isAsciiDigit rest
  | _, _ => false

def isInfinityWord (cs : List Char) : Bool :=
  cs == ".inf".toList || cs == ".Inf".toList || cs == ".INF".toList

def isNaNWord (cs : List Char) : Bool :=
  cs == ".nan".toList || cs == ".NaN".toList || cs == ".NAN".toList

/-- The exact value `± m * 2 ^ e` as a quotient. -/
def exactly : Binary64 → Int × Nat
  | .finite s m e =>
    let n : Int := m * twoTo e.toNat
    (if s then -n else n, twoTo (-e).toNat)
  | _ => (0, 1)

def times (x y : Binary64) : Binary64 :=
  match x with
  | .finite _ _ _ =>
    let (n, d) := exactly x
    let (p, q) := exactly y
    Binary64.ofQuotient false (n * p).natAbs (d * q)
  | x => x

def plus (x y : Binary64) : Binary64 :=
  match x, y with
  | .finite _ _ _, .finite _ _ _ =>
    let (n, d) := exactly x
    let (p, q) := exactly y
    Binary64.ofQuotient false (n * q + p * d).natAbs (d * q)
  | .finite _ _ _, y => y
  | x, _ => x

/-- The value of parts in base sixty, the last one first, where `scale` is what the next one counts.
Each step is rounded. -/
def sixtiesValue (scale : Nat) (sum : Binary64) : List Binary64 → Except Fault Binary64
  | [] => .ok sum
  | x :: rest =>
    match Binary64.ofInt? scale with
    | some base => sixtiesValue (scale * 60) (plus sum (times x base)) rest
    | none => .error .numberTooLarge

def readDouble (cs : List Char) : Except Fault Binary64 :=
  match Binary64.ofText? (.ofList cs) with
  | some x => .ok x
  | none => .error (.unreadableNumber (Text.quoted (.ofList cs)))

def negate : Binary64 → Binary64
  | .finite s m e => .finite (!s) m e
  | .infinite s => .infinite (!s)
  | .nan => .nan

def isDouble (cs : List Char) : Bool :=
  let (_, body) := splitSign cs
  isNaNWord cs || isInfinityWord body || isDecimal body || isFraction cs || isSixtiesDecimal body

def double (cs : List Char) : Except Fault Binary64 := do
  let digits := Text.lowerChars [] (withoutUnderscores cs)
  let (negative, body) := splitSign digits
  let x ←
    if digits.isEmpty then throw (.outOfRange "str")
    else if body == ".inf".toList then pure (.infinite false)
    else if body == ".nan".toList then pure .nan
    else if body.contains ':' then do
      let parts ← (colonParts body).mapM readDouble
      sixtiesValue 1 (.zero false) parts.reverse
    else readDouble body
  pure (if negative then negate x else x)

def value (s : String) : Except Fault Data :=
  let cs := s.toList
  match truth? s with
  | some b => .ok (.bool b)
  | none =>
    if isDouble cs then do pure (.float (← double cs))
    else if isWhole (splitSign cs).2 then do pure (.int (← whole cs))
    else if isNull s then .ok .null
    else if Timestamp.isPlain cs then Timestamp.valueOf cs else .ok (.text s)

end Assay.Yaml.Scalar
