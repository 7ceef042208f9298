import CompilerRunner.CommandLine
import CompilerRunner.Proofs.EntryPointConfiguration
import CompilerRunner.Proofs.PathSpelling
import CompilerRunner.Proofs.SettingsMerge
import Mathlib

/-!
# Proofs — SettingsSpelling

Settings belong to a directory and not to the path that it is given by.

* `load_eq_of_resolve`: paths that stand for one directory have the same settings, or end in the
  same failure, and so do the commands that load them.
* `load_eq_ok_iff`: paths that stand for different directories have different settings, since
  settings hold the path of their directory.
* `directory_of_new`: a child process runs in that directory or in one seen from it.
* `settings_of_place`: this, and which paths stand for one directory: those that lead to it by the
  rules, and all texts that open it.
-/

namespace CompilerRunner

namespace Settings

variable {w : World} {p q d : Path} {s : Settings}

theorem load_eq_of_resolve (h : w.resolve p = w.resolve q) : load w p = load w q := by
  rw [load, load, h]

/-- Settings from contents are for the directory that they have been asked for. -/
theorem currentDirectory_of_ofContents {contents : List Value}
    (h : ofContents d contents = .ok s) : s.currentDirectory = some d := by
  unfold ofContents at h
  split at h
  · cases h
  · split at h
    · obtain rfl := Except.ok.inj h
      rfl
    · cases h

/-- Settings that have been loaded are made of contents, for the directory that the path stands
for. -/
theorem exists_contents_of_load (h : load w p = .ok s) :
    ∃ d contents, w.resolve p = .ok d ∧ ofContents d contents = .ok s := by
  cases hu : Directories.userDirectory w with
  | error f => simp [load_of_unresolved_user hu] at h
  | ok user =>
      cases hc : w.resolve p with
      | error f => simp [load_of_unresolved hu hc] at h
      | ok current =>
          rw [load_of_resolve hu hc] at h
          split at h
          · cases h
          · cases h
          · exact ⟨current, _, rfl, h⟩

theorem currentDirectory_of_load (h : load w p = .ok s) :
    ∃ d, w.resolve p = .ok d ∧ s.currentDirectory = some d := by
  obtain ⟨d, contents, hd, hs⟩ := exists_contents_of_load h
  exact ⟨d, hd, currentDirectory_of_ofContents hs⟩

theorem load_eq_ok_iff (hp : load w p = .ok s) : load w q = .ok s ↔ w.resolve q = w.resolve p := by
  constructor
  · intro hq
    obtain ⟨d, hd, hs⟩ := currentDirectory_of_load hp
    obtain ⟨d', hd', hs'⟩ := currentDirectory_of_load hq
    obtain rfl : d' = d := Option.some.inj (hs'.symm.trans hs)
    rw [hd, hd']
  · intro h
    rw [load_eq_of_resolve h, hp]

end Settings

namespace EntryPoint

/-- The directory of a child process is the one that the settings are for, or the configured one,
seen from there. -/
theorem directory_of_new {s : Settings} {key : String} {c : ChildCommand} {d : Path}
    (hd : s.currentDirectory = some d) (h : new key s = .ok (.child c)) :
    ∃ configured, ChildCommand.directoryField.Comes (s.configuration registry key) configured ∧
      c.directory = some ((configured.map d.join).getD d) := by
  cases new_eq_iff.mp h with
  | child _ fields =>
      obtain ⟨configured, comes, directory⟩ := fields.directory
      exact ⟨configured, comes, by rw [directory, hd, ChildCommand.directoryFor]⟩

end EntryPoint

namespace CommandLine

/-- The command, for another directory. -/
def Command.inDirectory (d : Path) : Command → Command
  | .compile options _ => .compile options d
  | .run target _ => .run target d
  | .arguments target _ => .arguments target d
  | .targets _ => .targets d
  | .completion shell => .completion shell

theorem executeWith_inDirectory {w : World} {p q : Path}
    (h : Settings.load w p = Settings.load w q) (launch : EntryPoint → Tool) (c : Command) :
    (c.inDirectory p).executeWith launch w = (c.inDirectory q).executeWith launch w := by
  cases c with
  | completion => rfl
  | compile | run | arguments | targets =>
      simp only [Command.inDirectory, Command.executeWith, h]

/-- **The settings of a directory.**  Paths that stand for one directory have the same settings, or
end in the same failure, and all that is built and run from them is the same.  The settings hold the
path of the directory, so that no other directory has the same; a child process runs there, or in
the configured directory seen from there, wherever the program itself runs.  Paths that lead to one
place stand for it, whatever links they lead over, and so do all texts by which it can be opened;
the place that a path starts from is one that can be reached. -/
theorem settings_of_place (w : World) :
    (∀ p q, w.resolve p = w.resolve q →
      Settings.load w p = Settings.load w q ∧
      (∀ key, (Settings.load w p).bind (EntryPoint.new key) =
        (Settings.load w q).bind (EntryPoint.new key)) ∧
      ∀ launch (c : Command), (c.inDirectory p).executeWith launch w =
        (c.inDirectory q).executeWith launch w) ∧
    (∀ p s, Settings.load w p = .ok s →
      (∀ q, Settings.load w q = .ok s ↔ w.resolve q = w.resolve p) ∧
      ∃ d, w.resolve p = .ok d ∧ s.currentDirectory = some d ∧
        ∀ key c, EntryPoint.new key s = .ok (.child c) →
          ∃ configured directory,
            ChildCommand.directoryField.Comes (s.configuration EntryPoint.registry key) configured ∧
            directory = (configured.map d.join).getD d ∧ directory.isAbsolute = true ∧
            c.directory = some directory) ∧
    (∀ p n l, w.tree.Reachable (FileTree.origin w.directory p) →
      w.tree.Leads n (FileTree.origin w.directory p) p.parts l →
      (∀ name ∈ p.parts ++ l, Char.ofNat 0 ∉ name.toList) →
      w.resolve p = .ok (Path.ofLocation l) ∧
        w.resolve (Path.ofLocation l) = .ok (Path.ofLocation l)) ∧
    ∀ text l, w.tree.Reachable (FileTree.origin w.directory (Path.ofText text)) →
      w.tree.locate w.directory text = .ok l →
      w.resolve (Path.ofText text) = .ok (Path.ofLocation l) := by
  refine ⟨fun p q h => ?_, fun p s h => ⟨fun q => Settings.load_eq_ok_iff h, ?_⟩,
    fun p n l ho h hn => ?_, fun text l ho h => FileTree.resolve_of_locate ho h⟩
  · have same := Settings.load_eq_of_resolve h
    exact ⟨same, fun key => by rw [same], fun launch c => executeWith_inDirectory same launch c⟩
  · obtain ⟨d, hd, hs⟩ := Settings.currentDirectory_of_load h
    refine ⟨d, hd, hs, fun key c hc => ?_⟩
    obtain ⟨configured, comes, directory⟩ := EntryPoint.directory_of_new hs hc
    refine ⟨configured, _, comes, rfl, ?_, directory⟩
    have absolute := FileTree.isAbsolute_of_resolve hd
    cases configured with
    | none => exact absolute
    | some relative => exact Path.isAbsolute_join absolute
  · exact ((FileTree.ends_iff_leads ho).mpr ⟨n, h⟩).resolve_idem ho hn

/-! ### A directory that a link leads to -/

/-- A world with two empty settings files, and with a link in the root to the directory that
commands run in. -/
def linkedWorld : World :=
  { Settings.sampleWorld [] [] with
    tree := (Settings.sampleWorld [] []).tree ++ [(["link"], .link "konanrun/.")] }

theorem reachable_linkedWorld : linkedWorld.tree.Reachable ["konanrun"] := by
  have node (above : Location) (ha : above <+: ["konanrun"]) :
      linkedWorld.tree.node? above = some .directory := by
    obtain rfl | rfl : above = [] ∨ above = ["konanrun"] := by
      simpa [List.prefix_cons_iff] using ha
    all_goals simp [FileTree.node?, linkedWorld, Settings.sampleWorld]
  have down : ∀ name ∈ ["konanrun"], LeadsDown name := by decide
  refine ⟨⟨down, fun above ha target hl => ?_⟩, fun above ha => ?_⟩
  · have here := FileTree.node?_of_sees (fun name hn => down name (ha.subset hn)) hl
    rw [node above ha] at here
    cases here
  · exact FileTree.isClosed_eq_false (node above ha) (by decide)

theorem readFile_linkedWorld {path : String}
    (h : path = "/konanrun/konanrun.yml" ∨ path = "/konanrun.yml") :
    Settings.readFile linkedWorld path = Document.ofBytes [] := by
  have found : ∃ place, linkedWorld.tree.find ["konanrun"] path = .ok (place, .file [] false) := by
    rcases h with rfl | rfl
    · refine ⟨["konanrun", "konanrun.yml"], ?_⟩
      rw [FileTree.find, FileTree.locate_of_fromRoot (by decide +kernel)]
      cbv
    · refine ⟨["konanrun.yml"], ?_⟩
      rw [FileTree.find, FileTree.locate_of_fromRoot (by decide +kernel)]
      cbv
  obtain ⟨place, found⟩ := found
  exact Settings.readFile_of_find found

theorem followLink_linkedWorld :
    FileTree.followLink [] "konanrun/." = ([], ["konanrun", "."]) := by
  have pieces : Path.pieces "konanrun/." = ["konanrun", "."] := by cbv
  have relative : (Path.ofText "konanrun/.").isAbsolute = false := by cbv
  simp [FileTree.followLink, pieces, relative]

/-- Over the link, back to the root, and over the link again. -/
theorem locate_linkedWorld :
    linkedWorld.tree.locate ["konanrun"] "/link/..//link/." = .ok ["konanrun"] := by
  have pieces : Path.pieces "/link/..//link/." = ["", "link", "..", "", "link", "."] := by
    cbv
  rw [FileTree.locate_of_fromRoot (by decide +kernel), pieces]
  simp [FileTree.walk, FileTree.node?, FileTree.linkLimit, linkedWorld, Settings.sampleWorld,
    List.lookup, followLink_linkedWorld]

/-- From the directory one step up, and back over the link. -/
theorem leads_linkedWorld :
    linkedWorld.tree.Leads (0 + 0 + 1) ["konanrun"] ["..", "link"] ["konanrun"] := by
  have back : linkedWorld.tree.Leads 0 [] ["konanrun", "."] ["konanrun"] :=
    .down (by decide) (reachable_linkedWorld.plain.noLink ["konanrun"] List.prefix_rfl)
      (.stay (.inr rfl) .here)
  have link : linkedWorld.tree.sees ([] ++ ["link"]) = some (.link "konanrun/.") := by
    have shown : linkedWorld.tree.Shown ([] ++ ["link"]) :=
      (FileTree.shown_nil _).child (by decide) rfl
    rw [shown.sees_eq]
    simp [FileTree.node?, linkedWorld, Settings.sampleWorld, List.lookup]
  exact .up (.link (by decide) link (followLink_linkedWorld ▸ back) .here)

/-- Two spellings of the directory, one that opens it and one that leads to it from there: both have
the settings of the directory, and the child process of both runs there. -/
theorem settings_of_place_linkedWorld :
    let w := linkedWorld
    let text := "/link/..//link/."
    let path := Path.ofText "../link"
    let s : Settings := { currentDirectory := some (Path.ofLocation ["konanrun"]) }
    Settings.load w (Path.ofText text) = .ok s ∧ Settings.load w path = .ok s ∧
    ∃ c directory, EntryPoint.new "subprocess" s = .ok (.child c) ∧
      c.directory = some directory ∧ directory.isAbsolute = true := by
  intro w text path s
  obtain ⟨same, settings, leads, opens⟩ := settings_of_place w
  have start := FileTree.reachable_origin reachable_linkedWorld
  have parsed : path = ⟨.relative, ["..", "link"]⟩ := by cbv
  obtain ⟨resolved, fixed⟩ := leads path 1 ["konanrun"] (start path)
    (parsed ▸ leads_linkedWorld) (by
    rw [parsed]
    decide)
  have user : Directories.userDirectory w = .ok (Path.ofLocation ["konanrun"]) := by
    have home : (Directories.configurationHome [("XDG_CONFIG_HOME", "/")]).join
        (Path.ofText Directories.toolName) = Path.ofLocation ["konanrun"] := by
      cbv
    exact (congrArg w.resolve home).trans fixed
  have loaded : Settings.load w path = .ok s := by
    rw [← Settings.load_sampleWorld_nil]
    refine Settings.load_congr (Settings.userDirectory_sampleWorld [] [])
      (Settings.resolve_sampleWorld [] [] (.inl rfl))
      (Settings.resolve_sampleWorld [] [] (.inr rfl)) user resolved fixed
      (Settings.forall_settingsFiles_sampleWorld ?_ ?_)
    · rw [readFile_linkedWorld (.inl rfl), Settings.readFile_sampleWorld_user]
    · rw [readFile_linkedWorld (.inr rfl), Settings.readFile_sampleWorld_root]
  refine ⟨?_, loaded, ?_⟩
  · rw [(same _ path ((opens text _ (start _) locate_linkedWorld).trans resolved.symm)).1, loaded]
  · have made : EntryPoint.new "subprocess" s =
        .ok (.child { directory := some (Path.ofLocation ["konanrun"]) }) := by
      cbv
    obtain ⟨d, -, -, runs⟩ := (settings path s loaded).2
    obtain ⟨-, directory, -, -, absolute, held⟩ := runs _ _ made
    exact ⟨_, directory, made, held, absolute⟩

end CommandLine

end CompilerRunner
