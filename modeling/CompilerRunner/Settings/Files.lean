import CompilerRunner.Directories
import CompilerRunner.Document
import CompilerRunner.Settings

/-!
# Settings — Files

Settings from the files that apply to a directory.  Of several files that say something under one
key, the one closest to the directory decides, and it does so for the whole key: nothing below it is
mixed (`field?_overlayAll`).
-/

namespace CompilerRunner.Settings

/-- A file that cannot be loaded, as a failure to load settings. -/
def loadFailure : LoadFault → Failure
  | .missing => .crash .notFound
  | .unreadable crash => .crash crash
  | .malformed fault => .settings (.unparsable fault)

/-- The settings file in a directory. -/
def fileIn (directory : Path) : String :=
  (directory.join (Path.ofText Directories.settingsFile)).text

/-- The value of a settings file; where no regular file stands, nothing is loaded. -/
def readFile (w : World) (path : String) : Except LoadFault Value :=
  match w.tree.find w.directory path with
  -- whether such a file exists cannot even be asked
  | .error .tooLong => .error (.unreadable .system)
  | .error .permissionDenied => .error (.unreadable .permission)
  | _ =>
    if w.tree.isFile w.directory path then Document.load w.tree w.directory path
    else .error .missing

/-- The entries of a mapping; a file without content has none. -/
def entriesOf? (v : Value) : Option Entries :=
  match v.opened with
  | .mapping es => some es
  | .null => some []
  | _ => none

/-- The entries of several mappings, of which a later one replaces what an earlier one says. -/
def overlayAll (contents : List Entries) : Entries := contents.foldl Entries.overlay []

/-- Of the mappings that say something under a name the last decides. -/
theorem field?_overlayAll (contents : List Entries) (name : String) :
    (overlayAll contents).field? name =
      contents.reverse.findSome? fun es => Entries.field? es.reverse name := by
  have from_ (lower : Entries) : (contents.foldl Entries.overlay lower).field? name =
      (contents.reverse.findSome? fun es => Entries.field? es.reverse name).or
        (lower.field? name) := by
    induction contents generalizing lower with
    | nil => simp
    | cons es rest ih =>
      simp only [List.foldl_cons, ih, Entries.field?_overlay, List.reverse_cons,
        List.findSome?_append, List.findSome?_cons, List.findSome?_nil, Option.or_assoc]
      cases Entries.field? es.reverse name <;> rfl
  simpa [overlayAll, Entries.field?, Entries.get?] using from_ []

/-- The entries without the one that no file may decide. -/
def withoutDirectory (es : Entries) : Entries :=
  es.filter fun e => !e.1.sameKey (.text "current_dir")

/-- The settings that the contents of the files stand for, for a directory. -/
def ofContents (directory : Path) (contents : List Value) : Except Failure Settings := do
  match contents.mapM entriesOf? with
  | none => throw (.settings .notMapping)
  | some entries =>
    match ofValue (.mapping (withoutDirectory (overlayAll entries))) with
    | .ok s => return { s with currentDirectory := some directory }
    | .error r => throw (.settings (.invalid r))

/-- The settings for the directory at a path. -/
def load (w : World) (path : Path) : Except Failure Settings := do
  let user ← (Directories.userDirectory w).mapError fun f => .crash f.crash
  let current ← (w.resolve path).mapError fun f => .crash f.crash
  let (directories, fault) := Directories.hierarchy w user current
  match Document.contents (readFile w) (directories.map fileIn), fault with
  | (_, some f), _ => throw (loadFailure f)
  | (_, none), some crash => throw (.crash crash)
  | (contents, none), none => ofContents current contents

end CompilerRunner.Settings
