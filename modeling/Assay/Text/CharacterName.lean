import Assay.Text.CharacterName.Aliases
import Assay.Text.CharacterName.Alphabets
import Assay.Text.CharacterName.Ancient
import Assay.Text.CharacterName.Pictographs
import Assay.Text.CharacterName.Syllabaries
import Assay.Text.CharacterName.Symbols
import Assay.Text.CharacterName.Words
import Assay.Text.Whole

/-! # Names of characters

The character that a name stands for, without regard to the case of the name. The ideographs and
the syllables of Hangul are named by rule, in capitals only, and all others are listed.

In a list, the names of characters that follow each other stand behind each other. A mark in front
of a name tells how many of its words are the first words of the name before it, and the other words
follow, divided by spaces or abbreviated to two small letters. Where characters are left out, the
code point of the next one stands behind a circumflex.
-/

namespace Assay.Text

namespace CharacterName

/-- The marks in front of names, for no words in common, for one, and so on. -/
def marks : List Char := "&*+,:;<=>~|_".toList

def isMark (c : Char) : Bool := marks.contains c || c == '^'

def words : Array String := (wordLines.flatMap fun l => l.splitOn " ").toArray

def abbreviated (a b : Char) : String :=
  words.getD ((a.toNat - 'a'.toNat) * 26 + (b.toNat - 'a'.toNat)) ""

def isSmall (c : Char) : Bool := 'a' ≤ c && c ≤ 'z'

def closed (word : List Char) : List String :=
  if word.isEmpty then [] else [.ofList word.reverse]

def wordsIn (word : List Char) : List Char → List String
  | [] => closed word
  | ' ' :: cs => closed word ++ wordsIn [] cs
  | [c] => closed (c :: word)
  | c :: d :: cs =>
    if isSmall c then closed word ++ abbreviated c d :: wordsIn [] cs
    else wordsIn (c :: word) (d :: cs)

/-- The code point of the character with the name `target` in a list, where `next` is the code point
of the next name and `previous` the name before it. -/
def find? (target : List String) (next : Nat) (previous : List String) (cs : List Char) :
    Option Nat :=
  match cs with
  | [] => none
  | c :: cs =>
    let body := cs.takeWhile (!isMark ·)
    let rest := cs.drop body.length
    if c == '^' then find? target ((baseValue hexValue? 16 0 body).getD 0) previous rest
    else
      let name := previous.take (marks.idxOf c) ++ wordsIn [] body
      if name == target then some next else find? target (next + 1) name rest
termination_by cs.length
decreasing_by all_goals simp only [List.length_drop, List.length_cons]; omega

def lists : List (List String) :=
  [alphabetsLines, symbolsLines, syllabariesLines, ancientLines, pictographsLines, aliasLines]

def listed? (name : String) : Option Nat :=
  let target := (String.ofList (name.toList.map Char.toUpper)).splitOn " "
  lists.findSome? fun ls => find? target 0 [] (ls.flatMap String.toList)

def ideographs : List (Nat × Nat) :=
  [(0x3400, 0x4dbf), (0x4e00, 0x9fff), (0x20000, 0x2a6df), (0x2a700, 0x2b738), (0x2b740, 0x2b81d),
   (0x2b820, 0x2cea1), (0x2ceb0, 0x2ebe0), (0x30000, 0x3134a)]

/-- The ideograph with a code point given by four or five hexadecimal digits. -/
def ideograph? (digits : List Char) : Option Nat :=
  if (digits.length == 4 || digits.length == 5) && !digits.any isSmall then
    (baseValue hexValue? 16 0 digits).filter fun n =>
      ideographs.any fun r => r.1 ≤ n && n ≤ r.2
  else none

def leads : List String :=
  ["G", "GG", "N", "D", "DD", "R", "M", "B", "BB", "S", "SS", "", "J", "JJ", "C", "K", "T", "P",
   "H"]

def vowels : List String :=
  ["A", "AE", "YA", "YAE", "EO", "E", "YEO", "YE", "O", "WA", "WAE", "OE", "YO", "U", "WEO", "WE",
   "WI", "YU", "EU", "YI", "I"]

def tails : List String :=
  ["", "G", "GG", "GS", "N", "NJ", "NH", "D", "L", "LG", "LM", "LB", "LS", "LT", "LP", "LH", "M",
   "B", "BS", "S", "SS", "NG", "J", "C", "K", "T", "P", "H"]

/-- The place of the longest of the parts that the text begins with, and the rest of the text. -/
def longest? (parts : List String) (cs : List Char) : Option (Nat × List Char) :=
  let fits := parts.filter fun p => p.toList.isPrefixOf cs
  let n := fits.foldl (fun n p => max n p.length) 0
  (fits.find? fun p => p.length == n).map fun p => (parts.idxOf p, cs.drop n)

def syllable? (cs : List Char) : Option Nat := do
  let (lead, cs) ← longest? leads cs
  let (vowel, cs) ← longest? vowels cs
  let (tail, cs) ← longest? tails cs
  if cs.isEmpty then some (0xac00 + (lead * vowels.length + vowel) * tails.length + tail) else none

def behind? (start : String) (cs : List Char) : Option (List Char) :=
  if start.toList.isPrefixOf cs then some (cs.drop start.length) else none

end CharacterName

open CharacterName

def characterNamed? (name : String) : Option Nat :=
  match behind? "HANGUL SYLLABLE " name.toList, behind? "CJK UNIFIED IDEOGRAPH-" name.toList with
  | some cs, _ => syllable? cs
  | none, some digits => ideograph? digits
  | none, none => listed? name

end Assay.Text
