import CompilerRunner.Proofs.SettingsFailure
import CompilerRunner.Proofs.SettingsSpelling
import Mathlib

/-!
# Proofs — WorkingDirectory

Where the compiler runs as a child process, and what that has to do with the directory that the
program itself runs in.

* `RunsIn`: a child runs in the directory of the settings, at the configured path if that is
  absolute, and else at the configured path seen from the directory of the settings.
* `directory_of_fields`: this is so for every configuration whose fields are accepted.
* `follow_of_rooted`, `resolve_of_isAbsolute`: what an absolute path is resolved to does not depend
  on the directory that the program runs in.  No path from the root leads over more links at once
  than there are (`Underway.room`), so that the depth is always enough.
* `load_startedIn`: nor do settings, except through the two paths that are resolved.
* `directory_anchored`: all of this together.

The second of the two paths is that of the user's configuration directory, which the environment may
give by a relative path (`not_anchored_by_path_alone`).
-/

namespace CompilerRunner

/-! ### Paths from the root -/

namespace FileTree

/-- The path leads down from the root. -/
structure Rooted (p : Path) : Prop where
  anchor : p.anchor = .root
  down : ∀ name ∈ p.parts, LeadsDown name

section Rooted

variable {t : FileTree} {p : Path} {name : String}

theorem rooted_ofLocation_nil : Rooted (Path.ofLocation []) := ⟨rfl, by simp [Path.ofLocation]⟩

theorem Rooted.ofLocation_parts (h : Rooted p) : Path.ofLocation p.parts = p := by
  rw [Path.ofLocation, ← h.anchor]

theorem Rooted.spot_eq (h : Rooted p) (dir : Location) : spot dir p = p.parts := by
  rw [← h.ofLocation_parts]
  exact spot_ofLocation dir h.down

theorem Rooted.seen?_eq (h : Rooted p) (dir : Location) : t.seen? dir p = t.sees p.parts := by
  rw [← h.ofLocation_parts]
  exact seen?_ofLocation t dir _

theorem Rooted.child (h : Rooted p) (hn : LeadsDown name) : Rooted (p.child name) := by
  refine ⟨h.anchor, fun n hm => ?_⟩
  rcases List.mem_append.mp hm with hm | hm
  · exact h.down n hm
  · exact List.mem_singleton.mp hm ▸ hn

theorem Rooted.parent (h : Rooted p) : Rooted p.parent := by
  have absolute : p.isAbsolute = true := by simp [Path.isAbsolute, h.anchor]
  rw [Path.parent, if_pos (.inl absolute)]
  exact ⟨h.anchor, fun n hm => h.down n (List.mem_of_mem_dropLast hm)⟩

theorem Rooted.start (h : Rooted p) (target : String) :
    Rooted (if (Path.ofText target).isAbsolute then Path.ofLocation [] else p) := by
  split
  · exact rooted_ofLocation_nil
  · exact h

/-- What has been followed led to paths from the root, and the links at the places `busy` are being
followed, one inside another. -/
structure Underway (t : FileTree) (trail : Trail) (busy : List Location) : Prop where
  known : ∀ k q, trail.lookup k = some (some q) → Rooted q
  following : ∀ l ∈ busy, trail.lookup (Path.ofLocation l) = some none
  links : ∀ l ∈ busy, ∃ target, t.node? l = some (.link target)
  nodup : busy.Nodup

theorem underway_nil (t : FileTree) : Underway t [] [] := ⟨nofun, by simp, by simp, .nil⟩

variable {trail inner : Trail} {busy : List Location}

/-- A link that is met for the first time is followed inside the others. -/
theorem Underway.push (h : Underway t trail busy) (hp : Rooted p) {target : String}
    (hm : trail.lookup p = none) (hl : t.node? p.parts = some (.link target)) :
    Underway t ((p, none) :: trail) (p.parts :: busy) := by
  have fresh (l : Location) (hb : l ∈ busy) : Path.ofLocation l ≠ p := by
    rintro rfl
    have met := h.following l hb
    rw [hm] at met
    cases met
  refine ⟨fun k q hk => ?_, fun l hb => ?_, fun l hb => ?_,
    List.nodup_cons.mpr ⟨fun mem => ?_, h.nodup⟩⟩
  · by_cases same : k = p
    · simp [same] at hk
    · rw [List.lookup_cons, beq_eq_false_iff_ne.mpr same] at hk
      exact h.known k q hk
  · rcases List.mem_cons.mp hb with rfl | hb
    · simp [hp.ofLocation_parts]
    · rw [List.lookup_cons, beq_eq_false_iff_ne.mpr (fresh l hb)]
      exact h.following l hb
  · rcases List.mem_cons.mp hb with rfl | hb
    · exact ⟨target, hl⟩
    · exact h.links l hb
  · exact fresh _ mem hp.ofLocation_parts

/-- When the link has been followed, the others still are. -/
theorem Underway.pop (h : Underway t inner (p.parts :: busy)) (hp : Rooted p) {q : Path}
    (hq : Rooted q) : Underway t ((p, some q) :: inner) busy := by
  obtain ⟨fresh, nodup⟩ := List.nodup_cons.mp h.nodup
  refine ⟨fun k r hk => ?_, fun l hb => ?_, fun l hb => h.links l (List.mem_cons_of_mem _ hb),
    nodup⟩
  · by_cases same : k = p
    · obtain rfl : q = r := by simpa [same] using hk
      exact hq
    · rw [List.lookup_cons, beq_eq_false_iff_ne.mpr same] at hk
      exact h.known k r hk
  · have other : Path.ofLocation l ≠ p := by
      rintro rfl
      exact fresh hb
    rw [List.lookup_cons, beq_eq_false_iff_ne.mpr other]
    exact h.following l (List.mem_cons_of_mem _ hb)

/-- There is room for one link more. -/
theorem Underway.room (h : Underway t trail busy) (hp : Rooted p) {target : String}
    (hm : trail.lookup p = none) (hl : t.node? p.parts = some (.link target)) :
    busy.length + 1 ≤ t.linkCount := by
  have pushed := h.push hp hm hl
  exact length_le_linkCount pushed.nodup pushed.links

/-- A depth that is enough for the links that are not being followed yet is enough to follow one
more. -/
theorem Underway.exists_depth (h : Underway t trail busy) (hp : Rooted p) {target : String}
    (hm : trail.lookup p = none) (hl : t.node? p.parts = some (.link target)) {depth : Nat}
    (hd : t.linkCount ≤ busy.length + depth) :
    ∃ d, depth = d + 1 ∧ t.linkCount ≤ (p.parts :: busy).length + d := by
  have room := h.room hp hm hl
  exact ⟨depth - 1, by omega, by rw [List.length_cons]; omega⟩

/-- **From the root.**  What a path from the root comes to does not depend on the directory that it
is seen from, as long as the depth is enough for the links that are not being followed yet. -/
theorem follow_of_rooted {dir dir' : Location} {depth depth' : Nat} (pieces : List String)
    (hp : Rooted p) (hu : Underway t trail busy) (hd : t.linkCount ≤ busy.length + depth)
    (hd' : t.linkCount ≤ busy.length + depth') :
    t.follow dir' depth' trail p pieces = t.follow dir depth trail p pieces ∧
      ∀ q trail', t.follow dir depth trail p pieces = .ok (q, trail') →
        Rooted q ∧ Underway t trail' busy := by
  fun_induction follow t dir depth trail p pieces generalizing depth' busy with
  | case1 depth trail p =>
      refine ⟨by rw [follow], ?_⟩
      rintro q trail' ⟨⟩
      exact ⟨hp, hu⟩
  | case2 depth trail p name rest hn ih =>
      rw [follow, if_pos hn]
      exact ih hp hu hd hd'
  | case3 depth trail p rest hn ih =>
      rw [follow, if_neg hn, if_pos rfl]
      exact ih hp.parent hu hd hd'
  | case4 depth trail p name rest hn hup target ht q hm ih =>
      have child := hp.child (leadsDown_of_not hn hup)
      rw [follow, if_neg hn, if_neg hup, child.seen?_eq]
      rw [child.seen?_eq] at ht
      simp only [ht, hm]
      exact ih (hu.known _ _ hm) hu hd hd'
  | case5 depth trail p name rest hn hup target ht hm =>
      have child := hp.child (leadsDown_of_not hn hup)
      rw [follow, if_neg hn, if_neg hup, child.seen?_eq, child.spot_eq, child.spot_eq]
      rw [child.seen?_eq] at ht
      simp only [ht, hm]
      exact ⟨trivial, fun _ _ h => by cases h⟩
  | case6 trail p name rest hn hup target ht hm =>
      have child := hp.child (leadsDown_of_not hn hup)
      rw [child.seen?_eq] at ht
      have stands := node?_of_sees child.down ht
      -- Without depth all links would be under way already, and this one is not.
      obtain ⟨d, h, -⟩ := hu.exists_depth child hm stands hd
      cases h
  | case7 trail p name rest hn hup target ht hm depth start q inner hi inside =>
      rename_i after
      have child := hp.child (leadsDown_of_not hn hup)
      rw [child.seen?_eq] at ht
      have stands := node?_of_sees child.down ht
      have pushed := hu.push child hm stands
      obtain ⟨_, ⟨⟩, enough⟩ := hu.exists_depth child hm stands hd
      obtain ⟨depth', rfl, enough'⟩ := hu.exists_depth child hm stands hd'
      -- First the target, with this link under way, and then the rest from where that ends.
      obtain ⟨same, ends⟩ := inside (hp.start target) pushed enough enough'
      obtain ⟨rooted, popped⟩ := ends q inner hi
      have reached : t.follow dir' depth' ((p.child name, none) :: trail)
          (if (Path.ofText target).isAbsolute then Path.ofLocation [] else p)
          (Path.pieces target) = .ok (q, inner) := same.trans hi
      rw [follow, if_neg hn, if_neg hup, child.seen?_eq]
      simp only [ht, hm, reached]
      exact after rooted (popped.pop child rooted) hd hd'
  | case8 trail p name rest hn hup target ht hm depth start q hi =>
      rename_i inside
      have child := hp.child (leadsDown_of_not hn hup)
      rw [child.seen?_eq] at ht
      have stands := node?_of_sees child.down ht
      have pushed := hu.push child hm stands
      obtain ⟨_, ⟨⟩, enough⟩ := hu.exists_depth child hm stands hd
      obtain ⟨depth', rfl, enough'⟩ := hu.exists_depth child hm stands hd'
      obtain ⟨same, -⟩ := inside (hp.start target) pushed enough enough'
      have refused : t.follow dir' depth' ((p.child name, none) :: trail)
          (if (Path.ofText target).isAbsolute then Path.ofLocation [] else p)
          (Path.pieces target) = .error q := same.trans hi
      rw [follow, if_neg hn, if_neg hup, child.seen?_eq]
      simp only [ht, hm, refused]
      exact ⟨trivial, fun _ _ h => by cases h⟩
  | case9 depth trail p name rest hn hup hfree ih =>
      have child := hp.child (leadsDown_of_not hn hup)
      rw [follow, if_neg hn, if_neg hup, child.seen?_eq]
      rw [child.seen?_eq] at hfree
      split
      · next target ht => exact absurd ht (hfree target)
      · exact ih child hu hd hd'

end Rooted

section Absolute

variable {t : FileTree} {p : Path}

theorem followed_of_isAbsolute (h : p.isAbsolute = true) (dir : Location) :
    t.followed dir p =
      t.follow dir ((dir.length + 2) * t.linkCount) [] (Path.ofLocation []) p.parts := by
  simp [followed, h]

theorem destination_of_isAbsolute (h : p.isAbsolute = true) (dir dir' : Location) :
    t.destination dir' p = t.destination dir p := by
  have enough (dir : Location) :
      t.linkCount ≤ ([] : List Location).length + (dir.length + 2) * t.linkCount := by
    simpa using Nat.le_mul_of_pos_left t.linkCount (by omega)
  obtain ⟨same, ends⟩ := follow_of_rooted p.parts rooted_ofLocation_nil (underway_nil t)
    (enough dir) (enough dir')
  rw [destination, destination, followed_of_isAbsolute h, followed_of_isAbsolute h, same]
  cases hf : t.follow dir ((dir.length + 2) * t.linkCount) [] (Path.ofLocation []) p.parts with
  | error q => rfl
  | ok r =>
      obtain ⟨q, trail⟩ := r
      have rooted := (ends q trail hf).1
      simp only [rooted.spot_eq]

/-- An absolute path is resolved to the same path from everywhere. -/
theorem resolve_of_isAbsolute (h : p.isAbsolute = true) (dir dir' : Location) :
    t.resolve dir' p = t.resolve dir p := by
  rw [resolve, resolve, place, place, destination_of_isAbsolute h dir dir']

/-- What an absolute path opens is the same from everywhere. -/
theorem find_of_isAbsolute {text : String} (h : (Path.ofText text).isAbsolute = true)
    (dir dir' : Location) : t.find dir' text = t.find dir text := by
  simp only [find, locate, if_pos h]

end Absolute

end FileTree

namespace Path

variable {p : Path}

theorem isAbsolute_ofText {s : String} {rest : List Char} (h : s.toList = '/' :: rest) :
    (ofText s).isAbsolute = true := by
  rw [isAbsolute, ofText, h]
  unfold anchorOf
  split <;> simp_all

/-- The text of an absolute path spells an absolute path. -/
theorem isAbsolute_ofText_text (h : p.isAbsolute = true) : (ofText p.text).isAbsolute = true := by
  obtain ⟨anchor, parts⟩ := p
  cases anchor with
  | relative => simp [isAbsolute] at h
  | root | doubleRoot => exact isAbsolute_ofText (by simp [text, Anchor.text]; rfl)

end Path

/-! ### The directory that the program runs in -/

/-- The same world, for a program that is started in another directory. -/
def World.startedIn (w : World) (dir : Location) : World := { w with directory := dir }

namespace Directories

variable {w : World} {dir : Location} {user current a b : Path}

theorem resolve_startedIn {p : Path} (h : p.isAbsolute = true) (w : World) (dir : Location) :
    (w.startedIn dir).resolve p = w.resolve p :=
  FileTree.resolve_of_isAbsolute h w.directory dir

/-- Where the environment says where configuration directories stand, this is where they stand. -/
theorem userDirectory_startedIn (h : (configurationHome w.environment).isAbsolute = true)
    (dir : Location) : userDirectory (w.startedIn dir) = userDirectory w :=
  resolve_startedIn (Path.isAbsolute_join h) w dir

theorem hierarchy_startedIn (h : current.isAbsolute = true) (dir : Location) :
    hierarchy (w.startedIn dir) user current = hierarchy w user current := by
  have same := resolve_startedIn h w dir
  cases hr : w.resolve current with
  | error f => rw [hierarchy_of_error hr, hierarchy_of_error (same.trans hr)]
  | ok place => rw [hierarchy_of_resolve hr, hierarchy_of_resolve (same.trans hr)]

theorem isAbsolute_of_mem_chain (ha : a.isAbsolute = true) :
    ∀ d ∈ (chain a b).1, d.isAbsolute = true := by
  by_cases above : a.IsAbove b
  · obtain ⟨ds, hds, descends⟩ := chain_of_isAbove above
    intro d hd
    rw [hds] at hd
    have same : a.anchor = d.anchor := ((descends.mem_iff d).mp hd).1.1
    simpa [Path.isAbsolute, same] using ha
  · simpa [chain_of_not_isAbove above] using ha

/-- Settings are looked for at absolute paths. -/
theorem isAbsolute_of_mem_hierarchy (hu : user.isAbsolute = true) :
    ∀ d ∈ (hierarchy w user current).1, d.isAbsolute = true := by
  cases hr : w.resolve current with
  | error f => simpa [hierarchy_of_error hr] using hu
  | ok place =>
      rw [hierarchy_of_resolve hr]
      exact List.forall_mem_cons.mpr ⟨hu, isAbsolute_of_mem_chain rfl⟩

end Directories

namespace Settings

variable {w : World} {p : Path}

theorem readFile_startedIn {file : String} (h : (Path.ofText file).isAbsolute = true) (w : World)
    (dir : Location) : readFile (w.startedIn dir) file = readFile w file := by
  have same : (w.startedIn dir).tree.find (w.startedIn dir).directory file =
      w.tree.find w.directory file := FileTree.find_of_isAbsolute h w.directory dir
  rw [readFile_eq, readFile_eq, same]

theorem isAbsolute_fileIn {d : Path} (h : d.isAbsolute = true) :
    (Path.ofText (fileIn d)).isAbsolute = true :=
  Path.isAbsolute_ofText_text (Path.isAbsolute_join h)

/-- **Settings for a program that is started elsewhere.**  They are the same where the path and the
configuration directory of the user stand for the same places. -/
theorem load_startedIn {dir : Location} (hp : (w.startedIn dir).resolve p = w.resolve p)
    (hu : Directories.userDirectory (w.startedIn dir) = Directories.userDirectory w) :
    load (w.startedIn dir) p = load w p := by
  cases hd : Directories.userDirectory w with
  | error f => rw [load_of_unresolved_user hd, load_of_unresolved_user (hu.trans hd)]
  | ok user =>
      cases hc : w.resolve p with
      | error f => rw [load_of_unresolved hd hc, load_of_unresolved (hu.trans hd) (hp.trans hc)]
      | ok current =>
          have absolute : user.isAbsolute = true := FileTree.isAbsolute_of_resolve hd
          rw [load_of_resolve hd hc, load_of_resolve (hu.trans hd) (hp.trans hc),
            Directories.hierarchy_startedIn (FileTree.isAbsolute_of_resolve hc),
            Document.contents_congr fun file hf => ?_]
          obtain ⟨d, hd, rfl⟩ := List.mem_map.mp hf
          exact readFile_startedIn
            (isAbsolute_fileIn (Directories.isAbsolute_of_mem_hierarchy absolute d hd)) w dir

end Settings

/-! ### Where a child process runs -/

namespace ChildCommand

open Validation

/-- What is written under the name of the directory: nothing, which `null` is too, or a path. -/
inductive Written : Option Value → Option Path → Prop where
  | unset : Written none none
  | null : Written (some .null) none
  | path (s : String) : Written (some (.text s)) (some (Path.ofText s))

/-- The directory that a child runs in, by the directory of the settings and by what is written.
Without a directory of the settings it is as written. -/
inductive RunsIn : Option Path → Option Path → Option Path → Prop where
  | written {q : Option Path} : RunsIn none q q
  | settings {d : Path} : RunsIn (some d) none (some d)
  | absolute {d q : Path} (h : q.isAbsolute = true) : RunsIn (some d) (some q) (some q)
  | below {d q : Path} (h : q.isAbsolute = false) :
      RunsIn (some d) (some q) (some { d with parts := d.parts ++ q.parts })

theorem directoryField_comes_iff {t : Table Value} {q : Option Path} :
    directoryField.Comes t q ↔ Written (t.get? directoryField.name) q := by
  unfold FieldForm.Comes
  cases t.get? directoryField.name with
  | none =>
      constructor
      · rintro ⟨⟩
        exact .unset
      · rintro ⟨⟩
        rfl
  | some v =>
      constructor
      · intro h
        cases v with
        | null =>
            cases h
            exact .null
        | text s =>
            cases h
            exact .path s
        | _ => cases h
      · rintro ⟨⟩ <;> rfl

theorem directoryFor_eq_iff {current configured place : Option Path} :
    directoryFor current configured = place ↔ RunsIn current configured place := by
  constructor
  · rintro rfl
    cases current with
    | none => exact .written
    | some d =>
        cases configured with
        | none => exact .settings
        | some q =>
            cases h : q.isAbsolute with
            | true => simpa [directoryFor, h] using RunsIn.absolute h
            | false => simpa [directoryFor, Path.join, h] using RunsIn.below h
  · rintro (_ | _ | h | h)
    · rfl
    · rfl
    · simp [directoryFor, h]
    · simp [directoryFor, Path.join, h]

theorem RunsIn.isAbsolute {d : Path} {configured place : Option Path}
    (h : RunsIn (some d) configured place) (hd : d.isAbsolute = true) :
    ∃ q, place = some q ∧ q.isAbsolute = true := by
  cases h with
  | settings => exact ⟨d, rfl, hd⟩
  | absolute hq => exact ⟨_, rfl, hq⟩
  | below => exact ⟨_, rfl, hd⟩

end ChildCommand

namespace EntryPoint

open ChildCommand (RunsIn Written directoryField)

/-- Every field of a child process comes to something. -/
def Accepted (s : Settings) : Prop :=
  ∀ f ∈ fields .subprocess, ¬ f.2.Broken (s.configuration registry Kind.subprocess.key)

/-- What is written under the name of the directory in the configuration of a child process. -/
def directoryEntry (s : Settings) : Option Value :=
  (s.configuration registry Kind.subprocess.key).get? directoryField.name

/-- A request for a child process comes to this one, unless its command is empty. -/
def Makes (s : Settings) (c : ChildCommand) : Prop :=
  (c.command ≠ [] ∧ new Kind.subprocess.key s = .ok (.child c)) ∨
    (c.command = [] ∧ new Kind.subprocess.key s = .error (.tool .emptyCommand))

variable {s : Settings}

/-- The fields are accepted if they stand for a child process. -/
theorem accepted_iff : Accepted s ↔ ∃ c, ChildCommand.Configured s.currentDirectory
    (s.configuration registry Kind.subprocess.key) c := by
  simp only [Accepted, fields, List.forall_mem_cons, Validation.FieldForm.Broken, not_not]
  constructor
  · rintro ⟨⟨w, hw⟩, ⟨l, hl⟩, ⟨o, ho⟩, ⟨e, he⟩, ⟨d, hd⟩, -⟩
    exact ⟨⟨w, l, o, e, _⟩, hw, hl, ho, he, d, hd, rfl⟩
  · rintro ⟨c, hw, hl, ho, he, d, hd, -⟩
    exact ⟨⟨_, hw⟩, ⟨_, hl⟩, ⟨_, ho⟩, ⟨_, he⟩, ⟨d, hd⟩, by simp⟩

/-- **Accepted fields.**  They make a child process that runs where it should, unless the command is
empty. -/
theorem directory_of_fields (h : Accepted s) :
    ∃ c written, Written (directoryEntry s) written ∧
      RunsIn s.currentDirectory written c.directory ∧ Makes s c := by
  obtain ⟨c, configured⟩ := accepted_iff.mp h
  obtain ⟨written, comes, directory⟩ := configured.directory
  refine ⟨c, written, ChildCommand.directoryField_comes_iff.mp comes,
    ChildCommand.directoryFor_eq_iff.mp directory.symm, ?_⟩
  by_cases empty : c.command = []
  · exact .inr ⟨empty, new_eq_iff.mpr (.empty rfl configured empty)⟩
  · exact .inl ⟨empty, new_eq_iff.mpr (.child rfl configured empty)⟩

/-- A child process has been made of accepted fields. -/
theorem accepted_of_new {c : ChildCommand} (h : new Kind.subprocess.key s = .ok (.child c)) :
    Accepted s := by
  cases new_eq_iff.mp h with
  | child _ configured => exact accepted_iff.mpr ⟨c, configured⟩

/-- **The working directory of the compiler.**  Settings that have been loaded hold the absolute
path that the given one is resolved to.  If the fields of a child process are accepted, it runs
there, or at the configured path if that is absolute, and else at the configured path seen from
there; this is always an absolute path.  Settings without a directory leave the configured path as
it is.

The directory that the program is started in makes a difference only through two paths: the given
one, and that of the configuration directory of the user.  Neither does if it is absolute. -/
theorem directory_anchored :
    (∀ w p s, Settings.load w p = .ok s →
      ∃ d, w.resolve p = .ok d ∧ d.isAbsolute = true ∧ s.currentDirectory = some d ∧
        (Accepted s → ∃ c written q, Written (directoryEntry s) written ∧
          RunsIn (some d) written (some q) ∧ q.isAbsolute = true ∧ c.directory = some q ∧
          Makes s c)) ∧
    (∀ s : Settings, s.currentDirectory = none → Accepted s →
      ∃ c, Written (directoryEntry s) c.directory ∧ Makes s c) ∧
    (∀ s c, new Kind.subprocess.key s = .ok (.child c) → Accepted s) ∧
    ∀ (w : World) (dir : Location) (p : Path),
      ((w.startedIn dir).resolve p = w.resolve p →
        Directories.userDirectory (w.startedIn dir) = Directories.userDirectory w →
        Settings.load (w.startedIn dir) p = Settings.load w p) ∧
      (p.isAbsolute = true → (w.startedIn dir).resolve p = w.resolve p) ∧
      ((Directories.configurationHome w.environment).isAbsolute = true →
        Directories.userDirectory (w.startedIn dir) = Directories.userDirectory w) := by
  refine ⟨fun w p s h => ?_, fun s none_ accepted => ?_, fun s c h => accepted_of_new h,
    fun w dir p => ⟨Settings.load_startedIn, fun h => Directories.resolve_startedIn h w dir,
      fun h => Directories.userDirectory_startedIn h dir⟩⟩
  · obtain ⟨d, hd, hs⟩ := Settings.currentDirectory_of_load h
    have absolute := FileTree.isAbsolute_of_resolve hd
    refine ⟨d, hd, absolute, hs, fun accepted => ?_⟩
    obtain ⟨c, written, hw, runs, made⟩ := directory_of_fields accepted
    rw [hs] at runs
    obtain ⟨q, hq, anchored⟩ := runs.isAbsolute absolute
    exact ⟨c, written, q, hw, hq ▸ runs, anchored, hq, made⟩
  · obtain ⟨c, written, hw, runs, made⟩ := directory_of_fields accepted
    rw [none_] at runs
    cases runs
    exact ⟨c, hw, made⟩

/-- Without a word from the files the child process runs in the directory of the settings, and a
path that settings without a directory hold is left as it is.  A program that is started in the root
loads the same settings. -/
theorem directory_anchored_sampleWorld :
    let w := Settings.sampleWorld [] []
    let s : Settings := { currentDirectory := some (Path.ofLocation ["konanrun"]) }
    let s' := { sampleSettings [("cwd", .text "../d")] with currentDirectory := none }
    (∃ c, Settings.load w (Path.ofText "") = .ok s ∧ Makes s c ∧
      c.directory = some (Path.ofLocation ["konanrun"])) ∧
    (∃ c, Makes s' c ∧ c.directory = some (Path.ofText "../d")) ∧
    Directories.userDirectory (w.startedIn []) = Directories.userDirectory w ∧
    (w.startedIn []).resolve (Path.ofLocation ["konanrun"]) =
      w.resolve (Path.ofLocation ["konanrun"]) ∧
    Settings.load (w.startedIn []) (Path.ofLocation ["konanrun"]) =
      Settings.load w (Path.ofLocation ["konanrun"]) := by
  intro w s s'
  obtain ⟨loaded, written, accepted, apart⟩ := directory_anchored
  have plain : new Kind.subprocess.key s =
      .ok (.child { directory := some (Path.ofLocation ["konanrun"]) }) := by
    cbv
  have above : new Kind.subprocess.key s' =
      .ok (.child { directory := some (Path.ofText "../d") }) := by
    cbv
  obtain ⟨settled, absolute, home⟩ := apart w [] (Path.ofLocation ["konanrun"])
  have same_home := home (by cbv)
  have same_path := absolute rfl
  refine ⟨?_, ?_, same_home, same_path, settled same_path same_home⟩
  · have same : Settings.load w (Path.ofText "") = .ok s := Settings.load_sampleWorld_nil
    obtain ⟨d, -, -, hs, child⟩ := loaded w _ s same
    obtain rfl : Path.ofLocation ["konanrun"] = d := Option.some.inj hs
    obtain ⟨c, configured, q, hw, runs, -, hq, makes⟩ := child (accepted s _ plain)
    refine ⟨c, same, makes, ?_⟩
    cases hw with
    | unset =>
        cases runs
        exact hq
  · obtain ⟨c, hw, makes⟩ := written s' rfl (accepted s' _ above)
    refine ⟨c, makes, ?_⟩
    generalize c.directory = place at hw
    cases hw
    rfl

/-! ### A configuration directory that is given by a relative path -/

/-- A file that configures a directory for the child process. -/
def directoryFile : List UInt8 :=
  Text.Utf8.encode "components: \x7bentry_point: \x7bsubprocess: \x7bcwd: d\x7d\x7d\x7d"

/-- A world with this file in the configuration directory of the user, which the environment gives
by a path from the directory that the program runs in: here the root. -/
def homelessWorld : World :=
  { Settings.sampleWorld directoryFile [] with
    environment := [("XDG_CONFIG_HOME", ".")]
    directory := [] }

theorem resolve_homelessWorld (dir : Location) :
    (homelessWorld.startedIn dir).resolve (Path.ofLocation []) = .ok (Path.ofLocation []) :=
  FileTree.resolve_of_root (a := .root) (by decide) dir

theorem userDirectory_homelessWorld :
    Directories.userDirectory (homelessWorld.startedIn []) = .ok (Path.ofLocation ["konanrun"]) ∧
    Directories.userDirectory (homelessWorld.startedIn ["konanrun"]) =
      .ok (Path.ofLocation ["konanrun", "konanrun"]) := by
  have home : (Directories.configurationHome [("XDG_CONFIG_HOME", ".")]).join
      (Path.ofText Directories.toolName) = ⟨.relative, ["konanrun"]⟩ := by
    cbv
  have seen (dir : Location) : Directories.userDirectory (homelessWorld.startedIn dir) =
      homelessWorld.tree.resolve dir ⟨.relative, ["konanrun"]⟩ :=
    congrArg (homelessWorld.tree.resolve dir) home
  have root : homelessWorld.tree.destination [] ⟨.relative, ["konanrun"]⟩ =
      Path.ofLocation ["konanrun"] := by
    cbv
  have below : homelessWorld.tree.destination ["konanrun"] ⟨.relative, ["konanrun"]⟩ =
      Path.ofLocation ["konanrun", "konanrun"] := by
    cbv
  rw [seen, seen]
  exact ⟨FileTree.resolve_of_destination (by decide) root (by cbv; simp),
    FileTree.resolve_of_destination (by decide) below (by cbv; simp)⟩

/-- The files of the world are the same for every program. -/
theorem readFile_homelessWorld (dir : Location) :
    Settings.readFile (homelessWorld.startedIn dir) "/konanrun/konanrun.yml" =
      Document.ofBytes directoryFile ∧
    Settings.readFile (homelessWorld.startedIn dir) "/konanrun.yml" = .ok .null ∧
    Settings.readFile (homelessWorld.startedIn dir) "/konanrun/konanrun/konanrun.yml" =
      .error .missing := by
  have anywhere (file : String) (h : (Path.ofText file).isAbsolute = true) :
      Settings.readFile (homelessWorld.startedIn dir) file =
        Settings.readFile (Settings.sampleWorld directoryFile []) file :=
    Settings.readFile_startedIn h (Settings.sampleWorld directoryFile []) dir
  rw [anywhere _ (by cbv), anywhere _ (by cbv), anywhere _ (by cbv)]
  refine ⟨Settings.readFile_sampleWorld_user _ _,
    (Settings.readFile_sampleWorld_root _ _).trans Settings.ofBytes_nil, ?_⟩
  have lost : (Settings.sampleWorld directoryFile []).tree.find ["konanrun"]
      "/konanrun/konanrun/konanrun.yml" = .error .notFound := by
    rw [FileTree.find, FileTree.locate_of_fromRoot (by decide +kernel)]
    cbv
  exact Settings.readFile_of_notFound lost

/-- The directory that a child process is to run in, if it has been made. -/
def directoryOf? : Except Failure EntryPoint → Option Path
  | .ok (.child c) => c.directory
  | _ => none

/-- The directory that the compiler runs in as a child process, by the settings for a path. -/
def directoryAt? (w : World) (p : Path) : Option Path :=
  directoryOf? ((Settings.load w p).bind (new Kind.subprocess.key))

theorem directoryAt?_of_load {w : World} {p : Path} {r : Except Failure Settings}
    (h : Settings.load w p = r) :
    directoryAt? w p = directoryOf? (r.bind (new Kind.subprocess.key)) := by
  rw [directoryAt?, h]

theorem load_homelessWorld {user : Path} {dir : Location}
    (hu : Directories.userDirectory (homelessWorld.startedIn dir) = .ok user)
    (hp : ∀ p ∈ Settings.settingsFiles user [],
      Document.Passes (Settings.readFile (homelessWorld.startedIn dir)) p) :
    Settings.load (homelessWorld.startedIn dir) (Path.ofLocation []) =
      Settings.ofContents (Path.ofLocation [])
        (Settings.loaded (homelessWorld.startedIn dir) (Settings.settingsFiles user [])) :=
  Settings.load_of_passes hu (resolve_homelessWorld dir) (resolve_homelessWorld dir) hp

/-- **The path that is given is not all.**  A program that is started in the root reads the file,
and one that is started below it does not, although the path is the root for both. -/
theorem not_anchored_by_path_alone :
    let p := Path.ofLocation []
    let w := homelessWorld.startedIn []
    let w' := homelessWorld.startedIn ["konanrun"]
    w'.resolve p = w.resolve p ∧
      directoryAt? w p = some (Path.ofText "/d") ∧ directoryAt? w' p = some (Path.ofText "/") := by
  intro p w w'
  refine ⟨(resolve_homelessWorld _).trans (resolve_homelessWorld _).symm, ?_, ?_⟩
  · have files : Settings.settingsFiles (Path.ofLocation ["konanrun"]) [] =
        ["/konanrun/konanrun.yml", "/konanrun.yml"] := by
      cbv
    obtain ⟨read, general, -⟩ := readFile_homelessWorld []
    have parsed : ((Document.ofBytes directoryFile).toOption.bind fun v =>
        directoryOf? ((Settings.ofContents p [v, .null]).bind (new Kind.subprocess.key))) =
        some (Path.ofText "/d") := by
      decide +kernel
    obtain ⟨v, hv, parsed⟩ := Option.bind_eq_some_iff.mp parsed
    rw [ok_of_toOption hv] at read
    rw [← parsed]
    refine directoryAt?_of_load ?_
    have h := load_homelessWorld userDirectory_homelessWorld.1 (by
      simp [files, Document.Passes, read, general])
    rw [files] at h
    simpa [Settings.loaded, read, general, Except.toOption] using h
  · have files : Settings.settingsFiles (Path.ofLocation ["konanrun", "konanrun"]) [] =
        ["/konanrun/konanrun/konanrun.yml", "/konanrun.yml"] := by
      cbv
    obtain ⟨-, general, missing⟩ := readFile_homelessWorld ["konanrun"]
    have h := load_homelessWorld userDirectory_homelessWorld.2 (by
      simp [files, Document.Passes, missing, general])
    rw [files] at h
    rw [directoryAt?_of_load (r := Settings.ofContents (Path.ofLocation []) [.null]) (by
      simpa [Settings.loaded, missing, general, Except.toOption] using h)]
    cbv

end EntryPoint

end CompilerRunner
