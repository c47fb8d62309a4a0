import Assay.Path
import Assay.Data.Access
import Assay.Data.Order
import Assay.Text.Whole

/-! # Notation of paths

Paths as text: names joined by dots, positions in brackets. Reading accepts a name or a position,
then any number of positions and of names after a dot. A name holds neither dots nor brackets, and
a position has at least one decimal digit of any script.
-/

namespace Assay

namespace Segment

/-- A position must not be negative. -/
def ofPosition (v : Data) : Except Fault Segment := do
  if ← v.compare .less (.int 0) then throw (.negativePosition (← v.spell))
  match v with
  | .int n => pure (.index n.toNat)
  | v => pure (.loose v)

def ofItem : Data → Except Fault Segment
  | .text s => .ok (.name (.text s))
  | .codes ns => .ok (.name (.codes ns))
  | .int n => ofPosition (.int n)
  | v => .error (.badSegment v.shortKind)

def bracketed (shown : String) : List Nat := '['.toNat :: shown.toList.map Char.toNat ++ [']'.toNat]

def codes : Segment → Except Fault (List Nat)
  | .name v =>
    match v.codes? with
    | some ns => .ok ns
    | none => .error (.unspeakableName v.kind)
  | .index i => do pure (bracketed (← (Data.int i).spell))
  | .loose v => do pure (bracketed (← v.spell))

end Segment

namespace Path

/-- The path of the items: texts are names and whole numbers positions. -/
def ofItems (items : List Data) : Except Fault Path := do
  pure ⟨← items.mapM Segment.ofItem⟩

/-- The code points of the segments that follow at least one other. -/
def tailCodes : List Segment → Except Fault (List Nat)
  | [] => .ok []
  | s :: rest => do
    let ns ← s.codes
    pure ((if s.isName then '.'.toNat :: ns else ns) ++ (← tailCodes rest))

def codes (p : Path) : Except Fault (List Nat) :=
  match p.segments with
  | [] => .ok []
  | s :: rest => do
    let ns ← s.codes
    pure (ns ++ (← tailCodes rest))

def text (p : Path) : Except Fault String := do pure (Text.ofCodes (← p.codes))

def written (p : Path) : Except Fault String := do
  pure ("PropertyPath(" ++ Text.quotedCodes (← p.codes) ++ ")")

namespace Notation

def isNameChar (c : Char) : Bool := c != '.' && c != '[' && c != ']'

/-- One segment or its failure, and the characters behind it. -/
inductive Token (cs : List Char)
  | name (label : String) (rest : List Char) (shorter : rest.length < cs.length)
  | index (digits : List Char) (rest : List Char) (shorter : rest.length < cs.length)
  | none

def nameToken (cs : List Char) : Token cs :=
  match cs with
  | [] => .none
  | c :: cs =>
    if isNameChar c then
      .name (.ofList (c :: cs.takeWhile isNameChar)) (cs.dropWhile isNameChar)
        (Nat.lt_succ_of_le (List.dropWhile_sublist _).length_le)
    else .none

def indexToken (cs : List Char) : Token ('[' :: cs) :=
  match h : cs.dropWhile Text.isDecimal with
  | ']' :: rest =>
    if cs.takeWhile Text.isDecimal == [] then .none
    else .index (cs.takeWhile Text.isDecimal) rest (by
      have := (List.dropWhile_sublist Text.isDecimal (l := cs)).length_le
      simp only [h, List.length_cons] at this ⊢
      omega)
  | _ => .none

def token (cs : List Char) : Token cs :=
  match cs with
  | '[' :: cs => indexToken cs
  | cs => nameToken cs

def position (digits : List Char) : Except Fault Nat :=
  if digits.length > Text.digitLimit then .error (.tooManyDigits digits.length)
  else .ok ((Text.digitsValue 0 digits).getD 0)

/-- The segments of the characters `cs`; `started` when others stand before them. The fault `bad`
is the one of a text that is no path. -/
def read (bad : Fault) (started : Bool) (cs : List Char) : Except Fault (List Segment) :=
  match cs with
  | [] => .ok []
  | c :: cs =>
    if started && c == '.' then
      match nameToken cs with
      | .name label rest _ => do
        pure (.name (.text label) :: (← read bad true rest))
      | _ => .error bad
    else
      match token (c :: cs) with
      | .name label rest _ =>
        if started then .error bad
        else do pure (.name (.text label) :: (← read bad true rest))
      | .index digits rest _ => do
        let i ← position digits
        pure (.index i :: (← read bad true rest))
      | .none => .error bad
termination_by cs.length
decreasing_by all_goals simp_all [List.length_cons]; try omega

/-- Give the names that have been read the code points that stand in their places. -/
def rename : List Segment → List Nat → List Segment
  | [], _ => []
  | .name _ :: rest, ns =>
    let ns := ns.dropWhile (· == '.'.toNat)
    let isLabel (n : Nat) : Bool := isNameChar (Char.ofNat n)
    .name (.ofCodes (ns.takeWhile isLabel)) :: rename rest (ns.dropWhile isLabel)
  | s :: rest, ns => s :: rename rest ((ns.dropWhile (· != ']'.toNat)).drop 1)

end Notation

def ofText (s : String) : Except Fault Path := do
  pure ⟨← Notation.read (.malformedPath (Text.quoted s)) false s.toList⟩

/-- Read the notation of a path from code points. Those that are no characters are read like the
character zero, which may stand in names only. -/
def ofCodes (ns : List Nat) : Except Fault Path := do
  let ss ← Notation.read (.malformedPath (Text.quotedCodes ns)) false (ns.map Char.ofNat)
  pure ⟨Notation.rename ss ns⟩

/-- Read a path from a value, which should be text. An empty value of another kind has nothing in
it to read. -/
def ofData : Data → Except Fault Path
  | .text s => ofText s
  | .codes ns => ofCodes ns
  | v =>
    match v.length? with
    | none => .error (.noLength v.kind)
    | some 0 => .ok ∅
    | some _ =>
      match v with
      | .bytes _ => .error .pathFromBytes
      | v => .error (.notPathText v.kind)

def joinText (p : Path) (text : Data) : Except Fault Path := do pure (p.join (← ofData text))

end Path

end Assay
