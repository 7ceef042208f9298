import CompilerRunner.Proofs.Isolation
import CompilerRunner.Proofs.SettingsMerge
import Mathlib

/-!
# Proofs — SettingsInheritance

What the settings of a directory have to do with those of the directories above it.

- A directory that is no link and is not reached over one (`FileTree.Stands`) is where its path
  leads (`resolve_of_stands`).
- Its settings are those of what its files say together (`merged`, `load_eq_validated`), and for a
  directory below it the files on the way down are added to these (`settingsFiles_append`).
- Fields are validated one by one, so that each has the last word of the files on the way down, or
  the value it had (`Renewed`, `load_below_iff`).

All of this takes it that a settings file is there or not.  One that cannot even be asked for is an
error, also where there is none (`load_of_unreadable`, `settings_inherited`).
-/

namespace CompilerRunner

/-! ### Directories that are no links -/

namespace FileTree

/-- The text is the name of a file or directory. -/
def IsName (name : String) : Prop :=
  name ≠ "" ∧ name ≠ "." ∧ name ≠ ".." ∧ Char.ofNat 0 ∉ name.toList

instance (name : String) : Decidable (IsName name) :=
  inferInstanceAs (Decidable (name ≠ "" ∧ name ≠ "." ∧ name ≠ ".." ∧ Char.ofNat 0 ∉ name.toList))

/-- The place is a directory, and so is every place on the way to it; none of them is a link. -/
structure Stands (t : FileTree) (l : Location) : Prop where
  named : ∀ name ∈ l, IsName name
  directories : ∀ above, above <+: l →
    ∃ listable searchable, t.node? above = some (.directory listable searchable)

section Stands

variable {t : FileTree} {l above below : Location}

/-- The directories above one stand as well. -/
theorem Stands.of_append (h : Stands t (above ++ below)) : Stands t above :=
  ⟨fun name hn => h.named name (List.mem_append_left below hn),
    fun l hl => h.directories l (hl.trans (List.prefix_append above below))⟩

theorem stands_singleton {name : String} (hn : IsName name)
    (h : t.node? [name] = some .directory) : Stands t [name] := by
  refine ⟨by simpa using hn, fun above ha => ?_⟩
  obtain rfl | rfl : above = [] ∨ above = [name] := by simpa [List.prefix_cons_iff] using ha
  · exact ⟨true, true, rfl⟩
  · exact ⟨_, _, h⟩

theorem Stands.plain (h : Stands t l) : Plain t l := by
  have down : ∀ name ∈ l, LeadsDown name := fun name hn =>
    have ⟨h1, h2, h3, _⟩ := h.named name hn
    ⟨h1, h2, h3⟩
  refine ⟨down, fun above ha target hl => ?_⟩
  obtain ⟨listable, searchable, here⟩ := h.directories above ha
  rw [node?_of_sees (fun name hn => down name (ha.subset hn)) hl] at here
  cases here

/-- A directory that is no link, and is not reached by one, is where its path leads. -/
theorem resolve_of_stands (h : Stands t l) (dir : Location) :
    t.resolve dir (Path.ofLocation l) = .ok (Path.ofLocation l) :=
  resolve_of_plain h.plain (fun name hn => (h.named name hn).2.2.2) dir

end Stands

end FileTree

/-- The path leads to the directory, and that is where the directory's own path leads. -/
structure World.Reaches (w : World) (p : Path) (l : Location) : Prop where
  resolve : w.resolve p = .ok (Path.ofLocation l)
  again : w.resolve (Path.ofLocation l) = .ok (Path.ofLocation l)

theorem World.reaches_of_stands {w : World} {l : Location} (h : w.tree.Stands l) :
    w.Reaches (Path.ofLocation l) l :=
  ⟨FileTree.resolve_of_stands h w.directory, FileTree.resolve_of_stands h w.directory⟩

namespace Settings

open Directories (descend)
open Validation (Accepts withDefault text table anything)

/-! ### The content for a directory -/

/-- The settings file of a directory. -/
def ownFile (l : Location) : String := fileIn (Path.ofLocation l)

/-- The settings files of the directories below one on the way down by the names. -/
def filesBelow (d : Location) (names : List String) : List String :=
  (descend (Path.ofLocation d) names).map fileIn

/-- The files that count below a directory are added to those that count for it. -/
theorem settingsFiles_append (user : Path) (d : Location) (names : List String) :
    settingsFiles user (d ++ names) = settingsFiles user d ++ filesBelow d names := by
  have below : descend (Path.ofLocation d) names =
      (names.inits.tail.map fun names => d ++ names).map Path.ofLocation := by
    rw [List.map_map, List.map_tail]
    exact congrArg List.tail (Directories.cons_descend (Path.ofLocation d) names)
  rw [settingsFiles, List.inits_append, List.map_append, ← List.cons_append, List.map_append,
    filesBelow, below]
  rfl

variable {w : World}

/-- What the files say together. -/
def merged (w : World) (files : List String) : Entries := overlayAll (files.map (said w))

theorem merged_append (files below : List String) :
    merged w (files ++ below) = (below.map (said w)).foldl Entries.overlay (merged w files) := by
  simp [merged, overlayAll]

/-- What the files say together is what their contents come to, one laid over the other. -/
theorem exists_entries_overlayAll {files : List String} (h : ∀ f ∈ files, Settled w f) :
    ∃ entries, (loaded w files).mapM entriesOf? = some entries ∧
      overlayAll entries = merged w files := by
  -- the overlay has to start from any entries for the induction on the files
  suffices same : ∃ entries, (loaded w files).mapM entriesOf? = some entries ∧
      ∀ lower, entries.foldl Entries.overlay lower =
        (files.map (said w)).foldl Entries.overlay lower from
    same.imp fun entries he => ⟨he.1, he.2 []⟩
  induction files with
  | nil => exact ⟨[], rfl, fun lower => rfl⟩
  | cons f rest ih =>
      obtain ⟨hf, hrest⟩ := List.forall_mem_cons.mp h
      obtain ⟨entries, he, same⟩ := ih hrest
      rcases hf with hr | ⟨v, es, hr, hv⟩
      · have skip : loaded w (f :: rest) = loaded w rest := by
          rw [loaded, List.filterMap_cons, hr]
          rfl
        refine ⟨entries, by rw [skip, he], fun lower => ?_⟩
        rw [same, List.map_cons, said_of_missing hr]
        rfl
      · have take : loaded w (f :: rest) = v :: loaded w rest := by
          rw [loaded, List.filterMap_cons, hr]
          rfl
        refine ⟨es :: entries, by rw [take, List.mapM_cons, hv, he]; rfl, fun lower => ?_⟩
        rw [List.foldl_cons, same, List.map_cons, List.foldl_cons, said_of_mapping hr hv]

theorem merges_merged (files : List String) :
    Merges w files (withoutDirectory (merged w files)) := by
  refine ⟨fun name hn => ?_, by rw [field?_withoutDirectory, if_pos rfl]⟩
  have apart : name ≠ "current_dir" := by
    rintro rfl
    exact absurd hn (by decide)
  rw [field?_withoutDirectory, if_neg apart, merged, field?_overlayAll, ← List.map_reverse,
    List.findSome?_map]
  rfl

theorem lastSaid_append (files below : List String) (name : String) :
    lastSaid w (files ++ below) name = (lastSaid w below name).or (lastSaid w files name) := by
  rw [lastSaid, List.reverse_append, List.findSome?_append]
  rfl

/-! ### Fields that are inherited -/

section Field

variable {α : Type} {check : Value → Checked α} {M M' : Entries} {name : String}
  {word : Option Value} {default a b : α}

/-- The value of a field, where `word` is what is said of it anew: that, or else what it was. -/
def Renewed (check : Value → Checked α) (word : Option Value) (a b : α) : Prop :=
  match word with
  | none => b = a
  | some v => check v = .valid b

theorem exists_renewed_iff : (∃ b, Renewed check word a b) ↔ ∀ v ∈ word, Accepts check v := by
  cases word <;> simp [Renewed, Accepts]

theorem withDefault_eq_valid_iff_renewed (h : withDefault M name default check = .valid a)
    (hM : M'.field? name = word.or (M.field? name)) :
    withDefault M' name default check = .valid b ↔ Renewed check word a b := by
  cases word with
  | none =>
      rw [withDefault_congr (hM.trans Option.none_or), h]
      simp [Renewed, eq_comm]
  | some v =>
      rw [Validation.withDefault_eq_valid_iff, hM]
      simp [Renewed]

end Field

/-- The settings that a mapping stands for, field by field, if it says nothing of a directory. -/
theorem validated_eq_ok_iff {M : Entries} (hM : M.field? "current_dir" = none) {directory : Path}
    {s : Settings} :
    validated directory M = .ok s ↔
      withDefault M "entry_point" "subprocess" text = .valid s.entryPoint ∧
      withDefault M "components" [] (table (table (table anything))) = .valid s.components ∧
      withDefault M "targets" [] (table (table anything)) = .valid s.targets ∧
      s.currentDirectory = some directory := by
  have unsaid : withDefault M "current_dir" none (Validation.optional Validation.path) =
      .valid none := by
    rw [withDefault, hM]
  constructor
  · intro h
    cases hv : ofValue (.mapping M) with
    | error r => simp [validated, hv] at h
    | ok s' =>
        obtain rfl : { s' with currentDirectory := some directory } = s := by
          simpa [validated, hv] using h
        obtain ⟨he, hc, ht, -⟩ := ofValue_eq_ok_iff.mp hv
        exact ⟨he, hc, ht, rfl⟩
  · rintro ⟨he, hc, ht, hd⟩
    have hv : ofValue (.mapping M) = .ok { s with currentDirectory := none } :=
      ofValue_eq_ok_iff.mpr ⟨he, hc, ht, unsaid⟩
    simp [validated, hv, ← hd]

/-- The settings `s'` have what is said anew under the names of fields, and the rest from `s`. -/
structure RenewedBy (word : String → Option Value) (s s' : Settings) : Prop where
  entryPoint : Renewed text (word "entry_point") s.entryPoint s'.entryPoint
  components :
    Renewed (table (table (table anything))) (word "components") s.components s'.components
  targets : Renewed (table (table anything)) (word "targets") s.targets s'.targets

/-- What is said anew under the names of fields is accepted there. -/
structure WellSaid (word : String → Option Value) : Prop where
  entryPoint : ∀ v ∈ word "entry_point", Accepts text v
  components : ∀ v ∈ word "components", Accepts (table (table (table anything))) v
  targets : ∀ v ∈ word "targets", Accepts (table (table anything)) v

theorem exists_renewedBy_iff {word : String → Option Value} {s : Settings} {directory : Path} :
    (∃ s', RenewedBy word s s' ∧ s'.currentDirectory = some directory) ↔ WellSaid word := by
  constructor
  · rintro ⟨s', ⟨he, hc, ht⟩, -⟩
    exact ⟨exists_renewed_iff.mp ⟨_, he⟩, exists_renewed_iff.mp ⟨_, hc⟩,
      exists_renewed_iff.mp ⟨_, ht⟩⟩
  · rintro ⟨he, hc, ht⟩
    obtain ⟨e, he⟩ := exists_renewed_iff.mpr he
    obtain ⟨c, hc⟩ := exists_renewed_iff.mpr hc
    obtain ⟨t, ht⟩ := exists_renewed_iff.mpr ht
    exact ⟨⟨e, c, t, some directory⟩, ⟨he, hc, ht⟩, rfl⟩

/-- Where nothing is said anew, only the directory is another. -/
theorem renewedBy_of_unsaid {word : String → Option Value} (h : ∀ name, word name = none)
    (s : Settings) (directory : Option Path) :
    RenewedBy word s { s with currentDirectory := directory } := by
  refine ⟨?_, ?_, ?_⟩ <;>
  · rw [h]
    rfl

section Load

variable {user : Path} {d : Location} {p q : Path} {names : List String} {s s' : Settings}

/-- The settings of a directory are those of what its files say together. -/
theorem load_eq_validated (hu : Directories.userDirectory w = .ok user)
    (hp : w.Reaches p d) (h : ∀ f ∈ settingsFiles user d, Settled w f) :
    load w p =
      validated (Path.ofLocation d) (withoutDirectory (merged w (settingsFiles user d))) := by
  obtain ⟨entries, he, same⟩ := exists_entries_overlayAll h
  rw [load_of_passes hu hp.resolve hp.again fun f hf => (h f hf).passes, ofContents, he]
  simp only [same]
  rfl

/-- What is said for a directory is said for those below it, unless a file on the way down says
something else. -/
theorem field?_merged_below {name : String} (hn : name ∈ spoken) :
    (withoutDirectory (merged w (settingsFiles user (d ++ names)))).field? name =
      (lastSaid w (filesBelow d names) name).or
        ((withoutDirectory (merged w (settingsFiles user d))).field? name) := by
  rw [(merges_merged _).1 name hn, (merges_merged _).1 name hn, settingsFiles_append,
    lastSaid_append]

/-- **Down the tree.**  Where the settings of a directory are known, those of a directory below it
have what the files on the way down say last, and else the same. -/
theorem load_below_iff (hu : Directories.userDirectory w = .ok user) (hp : w.Reaches p d)
    (hq : w.Reaches q (d ++ names))
    (h : ∀ f ∈ settingsFiles user (d ++ names), Settled w f) (hs : load w p = .ok s) :
    load w q = .ok s' ↔ RenewedBy (lastSaid w (filesBelow d names)) s s' ∧
      s'.currentDirectory = some (Path.ofLocation (d ++ names)) := by
  have above : ∀ f ∈ settingsFiles user d, Settled w f := by
    rw [settingsFiles_append] at h
    exact fun f hf => h f (List.mem_append_left _ hf)
  rw [load_eq_validated hu hp above, validated_eq_ok_iff (merges_merged _).2] at hs
  rw [load_eq_validated hu hq h, validated_eq_ok_iff (merges_merged _).2]
  obtain ⟨he, hc, ht, -⟩ := hs
  -- each field is renewed by itself, whatever becomes of the others
  rw [withDefault_eq_valid_iff_renewed he (field?_merged_below (by decide)),
    withDefault_eq_valid_iff_renewed hc (field?_merged_below (by decide)),
    withDefault_eq_valid_iff_renewed ht (field?_merged_below (by decide))]
  constructor
  · rintro ⟨he, hc, ht, hd⟩
    exact ⟨⟨he, hc, ht⟩, hd⟩
  · rintro ⟨⟨he, hc, ht⟩, hd⟩
    exact ⟨he, hc, ht, hd⟩

/-- A file of a directory's own that is not readable stands in the way of its settings. -/
theorem load_of_unreadable (hu : Directories.userDirectory w = .ok user) {name : String}
    (hq : w.Reaches q (d ++ [name])) (h : ∀ f ∈ settingsFiles user d, Settled w f) {k : Crash}
    (hf : readFile w (ownFile (d ++ [name])) = .error (.unreadable k)) :
    load w q = .error (.crash k) :=
  load_of_fault hu hq.resolve (Directories.hierarchy_of_root hq.again)
    (settingsFiles_append user d [name]) (fun f hf => (h f hf).passes) hf (by simp)

end Load

/-- **Settings are inherited.**  A directory that is no link is where its path leads.  What is said
for a directory is what is said for the one above it, overlaid with what its own file says.  So
where the settings of a directory can be loaded, those of a directory below it can be loaded exactly
if the last words of the files on the way down are accepted.  Each field then has its last word if
there is one and its old value otherwise, and where nothing is said only the directory is another.
But a settings file that cannot even be asked for is an error: because its path is too long or leads
over a name that is, or because a directory on the way may not be searched. -/
theorem settings_inherited (w : World) (user : Path)
    (hu : Directories.userDirectory w = .ok user) :
    (∀ l, w.tree.Stands l → w.Reaches (Path.ofLocation l) l) ∧
    (∀ d name, merged w (settingsFiles user (d ++ [name])) =
      (merged w (settingsFiles user d)).overlay (said w (ownFile (d ++ [name])))) ∧
    (∀ p d, w.Reaches p d → (∀ f ∈ settingsFiles user d, Settled w f) →
      load w p =
        validated (Path.ofLocation d) (withoutDirectory (merged w (settingsFiles user d)))) ∧
    (∀ p q d names s, w.Reaches p d → w.Reaches q (d ++ names) →
      (∀ f ∈ settingsFiles user (d ++ names), Settled w f) → load w p = .ok s →
      let word := lastSaid w (filesBelow d names)
      (∀ s', load w q = .ok s' ↔
        RenewedBy word s s' ∧ s'.currentDirectory = some (Path.ofLocation (d ++ names))) ∧
      ((∃ s', load w q = .ok s') ↔ WellSaid word) ∧
      ((∀ f ∈ filesBelow d names, said w f = []) →
        load w q = .ok { s with currentDirectory := some (Path.ofLocation (d ++ names)) })) ∧
    ∀ q d name, w.Reaches q (d ++ [name]) → (∀ f ∈ settingsFiles user d, Settled w f) →
      (w.tree.find w.directory (ownFile (d ++ [name])) = .error .tooLong →
        load w q = .error (.crash .system)) ∧
      (w.tree.find w.directory (ownFile (d ++ [name])) = .error .permissionDenied →
        load w q = .error (.crash .permission)) := by
  refine ⟨fun l h => w.reaches_of_stands h, fun d name => ?_,
    fun p d hp h => load_eq_validated hu hp h, fun p q d names s hp hq h hs => ⟨?_, ?_, ?_⟩,
    fun q d name hq h => ⟨fun hf => ?_, fun hf => ?_⟩⟩
  · rw [settingsFiles_append, merged_append]
    rfl
  · exact fun s' => load_below_iff hu hp hq h hs
  · simp only [load_below_iff hu hp hq h hs]
    exact exists_renewedBy_iff
  · intro unsaid
    refine (load_below_iff hu hp hq h hs).mpr ⟨renewedBy_of_unsaid (fun name => ?_) s _, rfl⟩
    rw [lastSaid_eq_none_iff]
    intro f hf
    rw [unsaid f hf]
    rfl
  all_goals exact load_of_unreadable hu hq h (by rw [readFile, hf])

/-! ### An empty file, and a link that leads nowhere -/

theorem unsaid_of_notFound {path : String}
    (h : w.tree.find w.directory path = .error .notFound) :
    Settled w path ∧ said w path = [] :=
  ⟨.inl (readFile_of_notFound h), said_of_missing (readFile_of_notFound h)⟩

theorem unsaid_of_null {path : String} (h : readFile w path = .ok .null) :
    Settled w path ∧ said w path = [] :=
  ⟨.inr ⟨.null, [], h, rfl⟩, said_of_mapping h rfl⟩

/-- Without any word from the files the settings are the defaults. -/
theorem load_of_unsaid {user p : Path} {d : Location}
    (hu : Directories.userDirectory w = .ok user) (hp : w.Reaches p d)
    (h : ∀ f ∈ settingsFiles user d, Settled w f ∧ said w f = []) :
    load w p = .ok { currentDirectory := some (Path.ofLocation d) } := by
  have merges : Merges w (settingsFiles user d) [] := by
    refine ⟨fun name _ => Eq.symm (lastSaid_eq_none_iff.mpr fun f hf => ?_), rfl⟩
    rw [(h f hf).2]
    rfl
  rw [load_of_settled hu hp.resolve hp.again (fun f hf => (h f hf).1) merges]
  rfl

section Link

variable (target : String)

/-- A world with one directory, whose settings file is a link to another file in it. -/
def linkWorld : World :=
  { sampleWorld [] [] with
    tree := [(["c"], .directory), (["c", "konanrun.yml"], .link target)] }

theorem userDirectory_linkWorld :
    Directories.userDirectory (linkWorld target) = .ok (Path.ofLocation ["konanrun"]) := by
  have home : (Directories.configurationHome [("XDG_CONFIG_HOME", "/")]).join
      (Path.ofText Directories.toolName) = Path.ofLocation ["konanrun"] := by
    cbv
  have plain : (linkWorld target).tree.Plain ["konanrun"] := by
    refine ⟨by decide, fun above ha target' hl => ?_⟩
    obtain rfl | rfl : above = [] ∨ above = ["konanrun"] := by
      simpa [List.prefix_cons_iff] using ha
    all_goals
      have here := FileTree.node?_of_sees (by decide) hl
      simp [FileTree.node?, linkWorld, List.lookup] at here
  show (linkWorld target).tree.resolve ["konanrun"]
    ((Directories.configurationHome [("XDG_CONFIG_HOME", "/")]).join
      (Path.ofText Directories.toolName)) = _
  rw [home]
  exact FileTree.resolve_of_plain plain (by decide) _

/-- There is no settings file above the directory. -/
theorem unsaid_linkWorld : ∀ f ∈ settingsFiles (Path.ofLocation ["konanrun"]) [],
    Settled (linkWorld target) f ∧ said (linkWorld target) f = [] := by
  have files : settingsFiles (Path.ofLocation ["konanrun"]) [] =
      ["/konanrun/konanrun.yml", "/konanrun.yml"] := by
    cbv
  have lost : (linkWorld target).tree.find ["konanrun"] "/konanrun/konanrun.yml" =
        .error .notFound ∧
      (linkWorld target).tree.find ["konanrun"] "/konanrun.yml" = .error .notFound := by
    constructor <;>
    · rw [FileTree.find, FileTree.locate_of_fromRoot (by decide +kernel)]
      cbv
  rw [files]
  simpa using ⟨unsaid_of_notFound lost.1, unsaid_of_notFound lost.2⟩

variable {target}

theorem find_linkWorld (hp : Path.pieces target = [target])
    (ha : (Path.ofText target).isAbsolute = false) (hn : FileTree.IsName target)
    (hf : target ≠ "konanrun.yml") (hl : FileTree.nameLimit < FileTree.byteCount target) :
    (linkWorld target).tree.find ["konanrun"] "/c/konanrun.yml" = .error .tooLong := by
  obtain ⟨h1, h2, h3, -⟩ := hn
  have pieces : Path.pieces "/c/konanrun.yml" = ["", "c", "konanrun.yml"] := by cbv
  have tree : (linkWorld target).tree =
      [(["c"], .directory), (["c", "konanrun.yml"], .link target)] := rfl
  have other : (target == "konanrun.yml") = false := by simpa using hf
  have walked : (linkWorld target).tree.walk FileTree.linkLimit [] ["", "c", "konanrun.yml"] =
      .error .tooLong := by
    rw [tree]
    simp [FileTree.walk, FileTree.node?, FileTree.followLink, FileTree.linkLimit, List.lookup, hp,
      ha, h1, h2, h3, other, hl]
  rw [FileTree.find, FileTree.locate_of_fromRoot (by decide +kernel), pieces, walked]
  rfl

end Link

/-- A name of 300 characters. -/
def longName : String := String.ofList (List.replicate 300 'n')

theorem toList_longName : longName.toList = List.replicate 300 'n' := String.toList_ofList

theorem find_longName :
    (linkWorld longName).tree.find ["konanrun"] "/c/konanrun.yml" = .error .tooLong := by
  have whole : Text.splitAt '/' (List.replicate 300 'n') = [List.replicate 300 'n'] := by
    decide +kernel
  have relative : Path.anchorOf (List.replicate 300 'n') = .relative := by decide +kernel
  have apart (s : String) (h : List.replicate 300 'n' ≠ s.toList) : longName ≠ s := fun e =>
    h (toList_longName.symm.trans (congrArg String.toList e))
  refine find_linkWorld ?_ ?_ ⟨apart _ ?_, apart _ ?_, apart _ ?_, ?_⟩ (apart _ ?_) ?_
  · rw [Path.pieces, Text.split, toList_longName, whole]
    rfl
  · rw [Path.isAbsolute, Path.ofText, toList_longName, relative]
    rfl
  · decide +kernel
  · decide +kernel
  · decide +kernel
  · rw [toList_longName]
    decide +kernel
  · decide +kernel
  · rw [FileTree.byteCount, Text.Utf8.encodeStray?, Text.codes, toList_longName]
    decide +kernel

/-- A directory with an empty settings file has the settings of the root.  One whose settings file
is a link to a name that is too long has none, although there is no file at all. -/
theorem settings_inherited_sampleWorld :
    let w := sampleWorld [] []
    let w' := linkWorld longName
    (∃ s, load w (Path.ofLocation []) = .ok s ∧ load w (Path.ofLocation ["konanrun"]) =
      .ok { s with currentDirectory := some (Path.ofLocation ["konanrun"]) }) ∧
    (∃ s, load w' (Path.ofLocation []) = .ok s) ∧
    load w' (Path.ofLocation ["c"]) = .error (.crash .system) := by
  intro w w'
  constructor
  · obtain ⟨resolved, -, -, below, -⟩ :=
      settings_inherited w _ (userDirectory_sampleWorld [] [])
    have stands : w.tree.Stands ([] ++ ["konanrun"]) :=
      FileTree.stands_singleton (by decide +kernel) rfl
    have unsaid : ∀ f ∈ settingsFiles (Path.ofLocation ["konanrun"]) ([] ++ ["konanrun"]),
        Settled w f ∧ said w f = [] :=
      forall_settingsFiles_sampleWorld
        (unsaid_of_null ((readFile_sampleWorld_user [] []).trans ofBytes_nil))
        (unsaid_of_null ((readFile_sampleWorld_root [] []).trans ofBytes_nil))
    have split := settingsFiles_append (Path.ofLocation ["konanrun"]) [] ["konanrun"]
    have hp := resolved [] stands.of_append
    have hs := load_of_unsaid (userDirectory_sampleWorld [] []) hp fun f hf =>
      unsaid f (split ▸ List.mem_append_left _ hf)
    exact ⟨_, hs, (below _ _ [] ["konanrun"] _ hp (resolved _ stands)
      (fun f hf => (unsaid f hf).1) hs).2.2 fun f hf =>
        (unsaid f (split ▸ List.mem_append_right _ hf)).2⟩
  · obtain ⟨resolved, -, -, -, lost⟩ := settings_inherited w' _ (userDirectory_linkWorld _)
    have stands : w'.tree.Stands ([] ++ ["c"]) :=
      FileTree.stands_singleton (by decide +kernel) rfl
    have unsaid := unsaid_linkWorld longName
    refine ⟨⟨_, load_of_unsaid (userDirectory_linkWorld _) (resolved [] stands.of_append) unsaid⟩,
      (lost _ [] "c" (resolved _ stands) fun f hf => (unsaid f hf).1).1 ?_⟩
    have file : ownFile ([] ++ ["c"]) = "/c/konanrun.yml" := by cbv
    rw [file]
    exact find_longName

end Settings

end CompilerRunner
