import Assay.Issue
import Assay.Path.Notation

/-! # Issues as records

Making an issue from its parts, and its form as a plain mapping. An issue always has a message.
-/

namespace Assay.Issue

/-- The issue with the given parts, whose message must not count as false. -/
def make (path : Path) (message code group : Data) : Except Fault Issue :=
  if message.isTrue then .ok ⟨path, message, code, group⟩ else .error .emptyMessage

/-- The mapping of the parts; a tag that is null is left out. -/
def toData (i : Issue) : Except Fault Data := do
  let path ← i.path.codes
  let tag (name : String) (v : Data) : List (Data × Data) :=
    if v.isNull then [] else [(.text name, v)]
  pure (.mapping ([(.text "path", .ofCodes path), (.text "message", i.message)]
    ++ tag "code" i.code ++ tag "group" i.group))

def ofData (v : Data) : Except Fault Issue :=
  match v with
  | .mapping es => do
    let path ← Path.ofData ((Data.lookup? (.text "path") es).getD (.text ""))
    match Data.lookup? (.text "message") es with
    | none => throw (.missingKey (Data.text "message").written)
    | some message =>
      make path message ((Data.lookup? (.text "code") es).getD .null)
        ((Data.lookup? (.text "group") es).getD .null)
  | v => do
    let get ← v.readAttribute "get"
    throw (.notCallable get.kind)

/-- Whether an issue made from the record of `i` is equal to it. The record carries the message and
the tags over as they are, so that only the path can come back different. -/
def returnedAs (i j : Issue) : Bool := j.path.eq i.path

def written (i : Issue) : Except Fault String := do
  let path ← i.path.written
  let message ← i.message.write
  let code ← i.code.write
  let group ← i.group.write
  pure s!"ValidationError(path={path}, message={message}, code={code}, group={group})"

def writtenList (is : List Issue) : Except Fault String := do
  pure ("[" ++ Data.commaSeparated (← is.mapM written) ++ "]")

def summaryPart (i : Issue) : Except Fault Data := do
  let path ← i.path.text
  if path.isEmpty then pure i.message
  else pure (.text s!"{path}: {← i.message.spell}")

/-- The texts of the parts from the one at `position` on, all of which must be text. -/
def joinTexts (position : Nat) : List Data → Except Fault (List String)
  | [] => .ok []
  | v :: rest =>
    if v.isText then do pure (v.shown :: (← joinTexts (position + 1) rest))
    else .error (.notPart position v.kind)

def rejection (is : List Issue) : Except Fault Fault := do
  let parts ← joinTexts 0 (← is.mapM summaryPart)
  pure (.rejected is ("; ".intercalate parts))

end Assay.Issue
