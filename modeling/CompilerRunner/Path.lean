import CompilerRunner.Text.Quoted
import CompilerRunner.Text.Split

/-!
# Path

Paths as they are written in settings and messages.  A `Path` is in normal form: empty parts and
parts `.` are dropped (`Path.ofText`), while `..` stays, since its meaning depends on links.  Two
leading slashes are an anchor of their own; one, or three and more, are the root.
-/

namespace CompilerRunner

/-- What a path starts from. -/
inductive Anchor where
  | relative
  | root
  | doubleRoot
deriving DecidableEq

/-- The text of an anchor. -/
def Anchor.text : Anchor → String
  | .relative => ""
  | .root => "/"
  | .doubleRoot => "//"

/-- A path in normal form. -/
structure Path where
  anchor : Anchor
  parts : List String
deriving DecidableEq

namespace Path

/-- The pieces between slashes. -/
def pieces (s : String) : List String := Text.split '/' s

/-- The anchor that a text starts with. -/
def anchorOf : List Char → Anchor
  | '/' :: '/' :: '/' :: _ => .root
  | '/' :: '/' :: _ => .doubleRoot
  | '/' :: _ => .root
  | _ => .relative

/-- The path that a text denotes. -/
def ofText (s : String) : Path :=
  { anchor := anchorOf s.toList
    parts := (pieces s).filter fun p => p ≠ "" && p ≠ "." }

/-- The path of a place in the file tree. -/
def ofLocation (parts : List String) : Path := { anchor := .root, parts }

/-- The text of a path; the path without parts is written `.`. -/
def text (p : Path) : String :=
  match p.anchor, p.parts with
  | .relative, [] => "."
  | a, ps => a.text ++ String.intercalate "/" ps

/-- The path starts from a root. -/
def isAbsolute (p : Path) : Bool := p.anchor ≠ .relative

/-- The path `q` taken from `p`: `q` itself if it is absolute. -/
def join (p q : Path) : Path :=
  if q.isAbsolute then q else { p with parts := p.parts ++ q.parts }

/-- The path of what stands under the name in the directory at a path. -/
def child (p : Path) (name : String) : Path := { p with parts := p.parts ++ [name] }

/-- The path one step up.  From a path that already leads up, and from the relative path without
parts, the step is written as `..`; the root is its own parent. -/
def parent (p : Path) : Path :=
  if p.isAbsolute = true ∨ (p.parts.getLast?.any fun name => name ≠ "..") = true then
    { p with parts := p.parts.dropLast }
  else p.child ".."

/-- The last part, empty if there is none. -/
def name (p : Path) : String := p.parts.getLast?.getD ""

/-- The form of a path in messages. -/
def literal (p : Path) : String := "PosixPath(" ++ Text.quoted p.text ++ ")"

@[simp] theorem join_absolute {p q : Path} (h : q.isAbsolute = true) : p.join q = q := by
  simp [join, h]

theorem isAbsolute_join {p q : Path} (h : p.isAbsolute = true) : (p.join q).isAbsolute = true := by
  unfold join
  split
  · assumption
  · simpa [isAbsolute] using h

example : (ofText "a//b/./c/").text = "a/b/c" := by decide +kernel
example : (ofText "/../a").text = "/../a" := by decide +kernel

end Path

end CompilerRunner
