import Assay.Text.Printable

/-! # Quoted text

Text and bytes as they are written inside quotes. The quote is single unless the text holds a
single quote and no double one; printable characters stand for themselves and all others are
written as escapes of fixed width.
-/

namespace Assay.Text

def hexDigit (n : Nat) : Char :=
  "0123456789abcdef".toList.getD n '0'

/-- The last `width` hexadecimal digits of `n`. -/
def hexDigits : (width n : Nat) → List Char
  | 0, _ => []
  | w + 1, n => hexDigits w (n / 16) ++ [hexDigit (n % 16)]

def quoteFor (cs : List Char) : Char :=
  if cs.contains '\'' && !cs.contains '"' then '"' else '\''

def escapeCode (n : Nat) : List Char :=
  if n < 0x100 then ['\\', 'x'] ++ hexDigits 2 n
  else if n < 0x10000 then ['\\', 'u'] ++ hexDigits 4 n
  else ['\\', 'U'] ++ hexDigits 8 n

def escapeChar (quote c : Char) : List Char :=
  if c == quote || c == '\\' then ['\\', c]
  else if c == '\t' then ['\\', 't']
  else if c == '\n' then ['\\', 'n']
  else if c == '\r' then ['\\', 'r']
  else if isPrintable c then [c]
  else escapeCode c.toNat

def quoteChars (cs : List Char) : List Char :=
  let q := quoteFor cs
  q :: cs.flatMap (escapeChar q) ++ [q]

def quoted (s : String) : String :=
  .ofList (quoteChars s.toList)

/-- The characters of code points, those that are no characters being written as escapes. -/
def writeCodes (write : Char → List Char) (ns : List Nat) : List Char :=
  ns.flatMap fun n => if n.isValidChar then write (Char.ofNat n) else escapeCode n

def ofCodes (ns : List Nat) : String := .ofList (writeCodes (fun c => [c]) ns)

theorem ofCodes_append (ms ns : List Nat) : ofCodes (ms ++ ns) = ofCodes ms ++ ofCodes ns := by
  rw [ofCodes, writeCodes, List.flatMap_append, String.ofList_append]
  rfl

theorem map_ofNat_toNat (cs : List Char) : (cs.map Char.toNat).map Char.ofNat = cs := by
  rw [List.map_map]
  exact (List.map_congr_left fun c _ => Char.ofNat_toNat c).trans (List.map_id' cs)

theorem writeCodes_toNat (write : Char → List Char) (cs : List Char) :
    writeCodes write (cs.map Char.toNat) = cs.flatMap write := by
  induction cs with
  | nil => rfl
  | cons c cs ih =>
    have hvalid : c.toNat.isValidChar := c.valid
    rw [writeCodes, List.map_cons, List.flatMap_cons, if_pos hvalid, Char.ofNat_toNat,
      List.flatMap_cons]
    exact congrArg (write c ++ ·) ih

theorem ofCodes_toNat (cs : List Char) : ofCodes (cs.map Char.toNat) = .ofList cs := by
  rw [ofCodes, writeCodes_toNat, List.flatMap_singleton']

def quotedCodes (ns : List Nat) : String :=
  let q := quoteFor (ns.map Char.ofNat)
  .ofList (q :: writeCodes (escapeChar q) ns ++ [q])

theorem quotedCodes_toNat (s : String) : quotedCodes (s.toList.map Char.toNat) = quoted s := by
  rw [quotedCodes, map_ofNat_toNat, writeCodes_toNat]
  rfl

def escapeByte (quote c : Char) : List Char :=
  if c == quote || c == '\\' then ['\\', c]
  else if c == '\t' then ['\\', 't']
  else if c == '\n' then ['\\', 'n']
  else if c == '\r' then ['\\', 'r']
  else if 0x20 ≤ c.toNat && c.toNat < 0x7f then [c]
  else ['\\', 'x'] ++ hexDigits 2 c.toNat

/-- Bytes are written like text, marked by a `b`, with only the visible ASCII characters bare. -/
def quotedBytes (bs : List UInt8) : String :=
  let cs := bs.map fun b => Char.ofNat b.toNat
  let q := quoteFor cs
  .ofList ('b' :: q :: cs.flatMap (escapeByte q) ++ [q])

end Assay.Text
