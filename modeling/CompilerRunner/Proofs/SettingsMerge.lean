import CompilerRunner.Settings.Files
import CompilerRunner.Proofs.DirectoryChain
import Mathlib

/-!
# Proofs — SettingsMerge

Which settings the files come to, for every path and every file tree.

The files that count are those in the configuration directory of the user and in each directory from
the root down to the one that the path stands for (`settingsFiles`).

* `readFile_eq_missing_iff`: a file is passed over exactly when no regular file can be found there.
* `lastSaid`: the value that the last file that says something under a name gives it.
* `load_of_settled`: where each file is passed over or holds a mapping or nothing, the settings are
  the validation of the mapping that has under each name what is said last.
* `load_of_fault`: the first file that can neither be loaded nor passed over decides how the loading
  fails, before the contents of any file are looked at.
* `load_merges`: these two and the one case between them, a content that is no mapping.
-/

namespace CompilerRunner

/-- The text is taken for a path, and for one from the root. -/
def FileTree.FromRoot (path : String) : Prop :=
  path.toList.contains (Char.ofNat 0) = false ∧ path ≠ "" ∧ byteCount path ≤ pathLimit ∧
    (Path.ofText path).isAbsolute = true

instance (path : String) : Decidable (FileTree.FromRoot path) :=
  inferInstanceAs (Decidable (_ ∧ _ ∧ _ ∧ _))

theorem FileTree.locate_of_fromRoot {t : FileTree} {directory : Location} {path : String}
    (h : FromRoot path) : t.locate directory path = t.walk linkLimit [] (Path.pieces path) := by
  obtain ⟨noNul, nonempty, short, absolute⟩ := h
  rw [locate, if_neg (Bool.eq_false_iff.mp noNul), if_neg nonempty, if_neg (Nat.not_lt.mpr short),
    if_pos absolute]

/-! ### Outcomes that are known by a part -/

theorem ok_of_toOption {α ε : Type} {x : Except ε α} {a : α} (h : x.toOption = some a) :
    x = .ok a := by
  cases x with
  | error e => cases h
  | ok b => exact congrArg _ (Option.some.inj h)

theorem error_of_map {α ε : Type} {x : Except ε α} {e : ε}
    (h : (x.map fun _ => ()) = .error e) : x = .error e := by
  cases x with
  | ok a => cases h
  | error e' => exact congrArg _ (Except.error.inj h)

/-! ### Files that are passed over or loaded -/

namespace Document

variable {α : Type} {read : α → Except LoadFault Value}

/-- The file can be loaded, or it is passed over because there is none. -/
def Passes (read : α → Except LoadFault Value) (path : α) : Prop :=
  ∀ f, read path = .error f → f = .missing

theorem contents_of_passes {l : List α} (h : ∀ path ∈ l, Passes read path) :
    contents read l = (l.filterMap fun path => (read path).toOption, none) := by
  induction l with
  | nil => rfl
  | cons path rest ih =>
      have hrest := ih fun p hp => h p (List.mem_cons_of_mem path hp)
      rw [contents, hrest, List.filterMap_cons]
      cases hr : read path with
      | ok v => rfl
      | error f =>
          obtain rfl := h path List.mem_cons_self f hr
          rfl

theorem contents_congr {read' : α → Except LoadFault Value} {l : List α}
    (h : ∀ path ∈ l, read' path = read path) : contents read' l = contents read l := by
  induction l with
  | nil => rfl
  | cons path rest ih =>
      rw [contents, contents, h path List.mem_cons_self,
        ih fun p hp => h p (List.mem_cons_of_mem path hp)]

/-- The first file that is neither loaded nor passed over is the fault of all of them. -/
theorem contents_fault {before : List α} {path : α} (hb : ∀ p ∈ before, Passes read p)
    {f : LoadFault} (hp : read path = .error f) (hf : f ≠ .missing) (after : List α) :
    (contents read (before ++ path :: after)).2 = some f := by
  have none_before : (contents read before).2 = none := by rw [contents_of_passes hb]
  rw [contents_append none_before, contents, hp]
  cases f with
  | missing => exact absurd rfl hf
  | _ => rfl

theorem ofText_ne_missing (text : List Char) : ofText text ≠ .error .missing := by
  unfold ofText
  split <;> simp

theorem ofBytes_ne_missing (bytes : List UInt8) : ofBytes bytes ≠ .error .missing := by
  unfold ofBytes
  split
  · exact ofText_ne_missing _
  · simp

end Document

namespace Settings

/-- A file is passed over exactly when it can be asked for and no regular file is found. -/
theorem readFile_eq_missing_iff {w : World} {path : String} :
    readFile w path = .error .missing ↔
      w.tree.find w.directory path ≠ .error .tooLong ∧
        w.tree.find w.directory path ≠ .error .permissionDenied ∧
        w.tree.isFile w.directory path = false := by
  unfold readFile FileTree.isFile Document.load
  cases h : w.tree.find w.directory path with
  | error f => cases f <;> simp
  | ok found =>
      obtain ⟨place, node⟩ := found
      cases node with
      | file content executable readable => cases readable <;> simp [Document.ofBytes_ne_missing]
      | directory | program kind | link target => simp

theorem readFile_of_notFound {w : World} {path : String}
    (h : w.tree.find w.directory path = .error .notFound) :
    readFile w path = .error .missing :=
  readFile_eq_missing_iff.mpr ⟨by simp [h], by simp [h], by simp [FileTree.isFile, h]⟩

/-- A regular file is loaded. -/
theorem readFile_of_isFile {w : World} {path : String}
    (h : w.tree.isFile w.directory path = true) :
    readFile w path = Document.load w.tree w.directory path := by
  rw [readFile, if_pos h]
  split
  · next hf => simp [FileTree.isFile, hf] at h
  · next hf => simp [FileTree.isFile, hf] at h
  · rfl

variable {w : World}

theorem readFile_of_find {path : String} {place : Location} {bytes : List UInt8}
    {executable : Bool} (h : w.tree.find w.directory path = .ok (place, .file bytes executable)) :
    readFile w path = Document.ofBytes bytes := by
  rw [readFile_of_isFile (by simp [FileTree.isFile, h]), Document.load, h]

/-! ### What is said last -/

/-- What a file says: the entries of its mapping.  Nothing is said by a file that is not there, has
no content or cannot be loaded. -/
def said (w : World) (path : String) : Entries :=
  ((readFile w path).toOption.bind entriesOf?).getD []

/-- The value that the last of the files that say something under the name gives it. -/
def lastSaid (w : World) (files : List String) (name : String) : Option Value :=
  files.reverse.findSome? fun path => Entries.field? (said w path).reverse name

theorem said_of_missing {path : String} (h : readFile w path = .error .missing) :
    said w path = [] := by
  rw [said, h]
  rfl

theorem said_of_mapping {path : String} {v : Value} {es : Entries} (h : readFile w path = .ok v)
    (hv : entriesOf? v = some es) : said w path = es := by
  rw [said, h]
  show (entriesOf? v).getD [] = es
  rw [hv]
  rfl

theorem lastSaid_cons (path : String) (files : List String) (name : String) :
    lastSaid w (path :: files) name =
      (lastSaid w files name).or (Entries.field? (said w path).reverse name) := by
  simp only [lastSaid, List.reverse_cons, List.findSome?_append, List.findSome?_singleton]

theorem lastSaid_eq_none_iff {files : List String} {name : String} :
    lastSaid w files name = none ↔
      ∀ path ∈ files, Entries.field? (said w path).reverse name = none := by
  simp [lastSaid]

/-- The file is passed over, or it holds a mapping or nothing. -/
def Settled (w : World) (path : String) : Prop :=
  readFile w path = .error .missing ∨
    ∃ v es, readFile w path = .ok v ∧ entriesOf? v = some es

theorem Settled.passes {path : String} (h : Settled w path) :
    Document.Passes (readFile w) path := by
  intro f hf
  rcases h with h | ⟨v, es, h, -⟩
  · rw [h] at hf
    exact (Except.error.inj hf).symm
  · rw [h] at hf
    cases hf

/-- The values of the files that are not passed over, in the order of the files. -/
def loaded (w : World) (files : List String) : List Value :=
  files.filterMap fun path => (readFile w path).toOption

/-- Files that hold mappings or nothing have entries, and under each name the last word. -/
theorem exists_entries_of_settled {files : List String} (h : ∀ path ∈ files, Settled w path) :
    ∃ entries, (loaded w files).mapM entriesOf? = some entries ∧
      ∀ name, (entries.reverse.findSome? fun es => Entries.field? es.reverse name)
        = lastSaid w files name := by
  induction files with
  | nil => exact ⟨[], rfl, fun name => rfl⟩
  | cons path rest ih =>
      obtain ⟨entries, he, hl⟩ := ih fun p hp => h p (List.mem_cons_of_mem path hp)
      rcases h path List.mem_cons_self with hr | ⟨v, es, hr, hv⟩
      · have skip : loaded w (path :: rest) = loaded w rest := by
          rw [loaded, List.filterMap_cons, hr]
          rfl
        refine ⟨entries, by rw [skip, he], fun name => ?_⟩
        rw [lastSaid_cons, said_of_missing hr, hl name]
        exact Option.or_none.symm
      · have take : loaded w (path :: rest) = v :: loaded w rest := by
          rw [loaded, List.filterMap_cons, hr]
          rfl
        refine ⟨es :: entries, by rw [take, List.mapM_cons, hv, he]; rfl, fun name => ?_⟩
        rw [lastSaid_cons, said_of_mapping hr hv, List.reverse_cons, List.findSome?_append,
          List.findSome?_singleton, hl name]

/-- The names under which the files may say something. -/
def spoken : List String := ["entry_point", "components", "targets"]

/-- Two mappings that agree under the names of the fields stand for the same settings. -/
theorem ofValue_congr {M N : Entries} (h : ∀ name ∈ spoken, M.field? name = N.field? name)
    (hd : M.field? "current_dir" = N.field? "current_dir") :
    ofValue (.mapping M) = ofValue (.mapping N) := by
  have fields : check M = check N := by
    simp only [check, Validation.withDefault, hd, h "entry_point" (by simp [spoken]),
      h "components" (by simp [spoken]), h "targets" (by simp [spoken])]
  show (check M).toExcept title = (check N).toExcept title
  rw [fields]

theorem field?_withoutDirectory (es : Entries) (name : String) :
    (withoutDirectory es).field? name =
      if name = "current_dir" then none else es.field? name := by
  unfold withoutDirectory Entries.field?
  induction es with
  | nil => simp [Entries.get?]
  | cons e rest ih =>
      -- the entry is dropped, or it is the one that is looked for, or neither
      obtain ⟨key, v⟩ := e
      by_cases hk : key = .text "current_dir"
      · have other : (key.sameKey (.text name) = true) ↔ name = "current_dir" := by
          rw [Value.sameKey_text, hk, Value.text.injEq, eq_comm]
        rw [List.filter_cons_of_neg (by simp [Value.sameKey_text, hk]), ih]
        by_cases hn : name = "current_dir"
        · rw [if_pos hn, if_pos hn]
        · rw [if_neg hn, if_neg hn, Entries.get?, if_neg (mt other.mp hn)]
      · have kept : (!key.sameKey (.text "current_dir")) = true := by
          rw [Bool.not_eq_true', Bool.eq_false_iff]
          exact mt Value.sameKey_text.mp hk
        rw [List.filter_cons, if_pos kept, Entries.get?, Entries.get?]
        by_cases hn : key.sameKey (.text name) = true
        · have apart : name ≠ "current_dir" := fun e => hk (e ▸ Value.sameKey_text.mp hn)
          rw [if_pos hn, if_neg apart, if_pos hn]
        · rw [if_neg hn, if_neg hn, ih]

/-- The settings that a mapping stands for, in the directory. -/
def validated (directory : Path) (M : Entries) : Except Failure Settings :=
  match ofValue (.mapping M) with
  | .ok s => .ok { s with currentDirectory := some directory }
  | .error r => .error (.settings (.invalid r))

/-- The mapping has under each name of a field what is said last, and no directory. -/
def Merges (w : World) (files : List String) (M : Entries) : Prop :=
  (∀ name ∈ spoken, M.field? name = lastSaid w files name) ∧ M.field? "current_dir" = none

theorem ofContents_of_settled {files : List String} (h : ∀ path ∈ files, Settled w path)
    {M : Entries} (hM : Merges w files M) (directory : Path) :
    ofContents directory (loaded w files) = validated directory M := by
  obtain ⟨entries, he, hl⟩ := exists_entries_of_settled h
  -- `M` need not be the merged mapping, only agree with it where the validation looks
  have same : ofValue (.mapping (withoutDirectory (overlayAll entries))) =
      ofValue (.mapping M) := by
    refine ofValue_congr (fun name hn => ?_) ?_
    · have apart : name ≠ "current_dir" := by
        rintro rfl
        exact absurd hn (by decide)
      rw [field?_withoutDirectory, if_neg apart, field?_overlayAll, hl name, hM.1 name hn]
    · rw [field?_withoutDirectory, if_pos rfl, hM.2]
  simp only [ofContents, he, same, validated]
  rfl

/-- The settings files that count for a directory: the one of the user, then those in the
directories from the root down. -/
def settingsFiles (user : Path) (place : Location) : List String :=
  (user :: place.inits.map Path.ofLocation).map fileIn

theorem load_of_unresolved_user {f : PathFault} (h : Directories.userDirectory w = .error f)
    (path : Path) : load w path = .error (.crash f.crash) := by
  rw [load, h]
  rfl

theorem load_of_unresolved {user : Path} (hu : Directories.userDirectory w = .ok user)
    {path : Path} {f : PathFault} (h : w.resolve path = .error f) :
    load w path = .error (.crash f.crash) := by
  rw [load, hu, h]
  rfl

section Resolved

variable {user current path : Path} {place : Location}

theorem load_of_resolve (hu : Directories.userDirectory w = .ok user)
    (hc : w.resolve path = .ok current) :
    load w path =
      match Document.contents (readFile w)
          ((Directories.hierarchy w user current).1.map fileIn),
        (Directories.hierarchy w user current).2 with
      | (_, some f), _ => .error (loadFailure f)
      | (_, none), some crash => .error (.crash crash)
      | (contents, none), none => ofContents current contents := by
  rw [load, hu, hc]
  rfl

theorem load_eq (hu : Directories.userDirectory w = .ok user) (hc : w.resolve path = .ok current)
    (hp : w.resolve current = .ok (Path.ofLocation place)) :
    load w path =
      match Document.contents (readFile w) (settingsFiles user place) with
      | (_, some f) => .error (loadFailure f)
      | (contents, none) => ofContents current contents := by
  rw [load_of_resolve hu hc, Directories.hierarchy_of_root hp]
  dsimp only [settingsFiles]
  rcases Document.contents (readFile w) ((user :: place.inits.map Path.ofLocation).map fileIn) with
    ⟨contents, _ | f⟩ <;> rfl

/-- What the files hold and where the directory is decide the settings; no other file does. -/
theorem load_congr {w' : World} {path' : Path} (hu : Directories.userDirectory w = .ok user)
    (hc : w.resolve path = .ok current) (hp : w.resolve current = .ok (Path.ofLocation place))
    (hu' : Directories.userDirectory w' = .ok user) (hc' : w'.resolve path' = .ok current)
    (hp' : w'.resolve current = .ok (Path.ofLocation place))
    (h : ∀ p ∈ settingsFiles user place, readFile w' p = readFile w p) :
    load w' path' = load w path := by
  rw [load_eq hu hc hp, load_eq hu' hc' hp', Document.contents_congr h]

theorem load_of_complete (hu : Directories.userDirectory w = .ok user)
    (hc : w.resolve path = .ok current) {directories : List Path}
    (hd : Directories.hierarchy w user current = (directories, none))
    (h : ∀ p ∈ directories.map fileIn, Document.Passes (readFile w) p) :
    load w path = ofContents current (loaded w (directories.map fileIn)) := by
  rw [load_of_resolve hu hc, hd, Document.contents_of_passes h]
  rfl

theorem load_of_passes (hu : Directories.userDirectory w = .ok user)
    (hc : w.resolve path = .ok current) (hp : w.resolve current = .ok (Path.ofLocation place))
    (h : ∀ p ∈ settingsFiles user place, Document.Passes (readFile w) p) :
    load w path = ofContents current (loaded w (settingsFiles user place)) :=
  load_of_complete hu hc (Directories.hierarchy_of_root hp) h

/-- **Mappings are merged.**  Where each file is passed over or holds a mapping or nothing, the
settings are the validation of any mapping that has under each name what is said last. -/
theorem load_of_settled (hu : Directories.userDirectory w = .ok user)
    (hc : w.resolve path = .ok current) (hp : w.resolve current = .ok (Path.ofLocation place))
    (h : ∀ p ∈ settingsFiles user place, Settled w p) {M : Entries}
    (hM : Merges w (settingsFiles user place) M) : load w path = validated current M := by
  rw [load_of_passes hu hc hp fun p hp => (h p hp).passes, ofContents_of_settled h hM]

/-- **The first fault decides.**  It does so whatever the files before it hold. -/
theorem load_of_fault (hu : Directories.userDirectory w = .ok user)
    (hc : w.resolve path = .ok current) {directories : List Path} {fault : Option Crash}
    (hd : Directories.hierarchy w user current = (directories, fault))
    {before after : List String} {p : String}
    (hf : directories.map fileIn = before ++ p :: after)
    (hb : ∀ q ∈ before, Document.Passes (readFile w) q) {f : LoadFault}
    (hr : readFile w p = .error f) (hm : f ≠ .missing) :
    load w path = .error (loadFailure f) := by
  have found := Document.contents_fault hb hr hm after
  rw [load_of_resolve hu hc, hd, hf]
  -- what was loaded before the fault plays no part
  generalize Document.contents (readFile w) (before ++ p :: after) = r at found
  obtain ⟨contents, f'⟩ := r
  obtain rfl : f' = some f := found
  rfl

end Resolved

section Sample

variable (user root : List UInt8)

/-- A world with a settings file in the root and one in the configuration directory of the user,
which lies in the root and is the one that commands run in. -/
def sampleWorld : World :=
  { tree := [(["konanrun"], .directory), (["konanrun", "konanrun.yml"], .file user false),
      (["konanrun.yml"], .file root false)]
    environment := [("XDG_CONFIG_HOME", "/")]
    directory := ["konanrun"]
    modules := [] }

theorem walk_sampleWorld :
    (sampleWorld user root).tree.walk FileTree.linkLimit [] ["konanrun"] = .ok ["konanrun"] := by
  cbv

/-- The paths by which the configuration directory of the user is reached. -/
theorem resolve_sampleWorld {path : Path}
    (h : path = Path.ofText "" ∨ path = Path.ofLocation ["konanrun"]) :
    (sampleWorld user root).resolve path = .ok (Path.ofLocation ["konanrun"]) := by
  have place : (sampleWorld user root).tree.destination ["konanrun"] path =
      Path.ofLocation ["konanrun"] := by
    rcases h with rfl | rfl <;> cbv
  refine FileTree.resolve_of_destination ?_ place ?_
  · rcases h with rfl | rfl <;> decide
  · show FileTree.walk _ _ _ ["konanrun"] ≠ _
    rw [walk_sampleWorld]
    simp

theorem userDirectory_sampleWorld :
    Directories.userDirectory (sampleWorld user root) = .ok (Path.ofLocation ["konanrun"]) := by
  have home : (Directories.configurationHome [("XDG_CONFIG_HOME", "/")]).join
      (Path.ofText Directories.toolName) = Path.ofLocation ["konanrun"] := by
    cbv
  exact resolve_sampleWorld user root (.inr home)

theorem settingsFiles_sampleWorld :
    settingsFiles (Path.ofLocation ["konanrun"]) ["konanrun"] =
      ["/konanrun/konanrun.yml", "/konanrun.yml", "/konanrun/konanrun.yml"] := by
  cbv

theorem readFile_sampleWorld_root :
    readFile (sampleWorld user root) "/konanrun.yml" = Document.ofBytes root := by
  have found : (sampleWorld user root).tree.find ["konanrun"] "/konanrun.yml" =
      .ok (["konanrun.yml"], .file root false) := by
    rw [FileTree.find, FileTree.locate_of_fromRoot (by decide +kernel)]
    cbv
  exact readFile_of_find found

theorem readFile_sampleWorld_user :
    readFile (sampleWorld user root) "/konanrun/konanrun.yml" = Document.ofBytes user := by
  have found : (sampleWorld user root).tree.find ["konanrun"] "/konanrun/konanrun.yml" =
      .ok (["konanrun", "konanrun.yml"], .file user false) := by
    rw [FileTree.find, FileTree.locate_of_fromRoot (by decide +kernel)]
    cbv
  exact readFile_of_find found

variable {user root}

theorem forall_settingsFiles_sampleWorld {P : String → Prop} (hu : P "/konanrun/konanrun.yml")
    (hr : P "/konanrun.yml") :
    ∀ p ∈ settingsFiles (Path.ofLocation ["konanrun"]) ["konanrun"], P p := by
  simp [settingsFiles_sampleWorld, hu, hr]

theorem settled_sampleWorld
    (hu : ∃ v es, Document.ofBytes user = .ok v ∧ entriesOf? v = some es)
    (hr : ∃ v es, Document.ofBytes root = .ok v ∧ entriesOf? v = some es) :
    ∀ p ∈ settingsFiles (Path.ofLocation ["konanrun"]) ["konanrun"],
      Settled (sampleWorld user root) p :=
  forall_settingsFiles_sampleWorld (.inr (by rwa [readFile_sampleWorld_user]))
    (.inr (by rwa [readFile_sampleWorld_root]))

/-- The settings of the world are those of the contents of its files, one of which is reached
twice. -/
theorem load_sampleWorld {u r : Value} (hu : Document.ofBytes user = .ok u)
    (hr : Document.ofBytes root = .ok r) :
    load (sampleWorld user root) (Path.ofText "") =
      ofContents (Path.ofLocation ["konanrun"]) [u, r, u] := by
  have file : readFile (sampleWorld user root) "/konanrun/konanrun.yml" = .ok u :=
    (readFile_sampleWorld_user user root).trans hu
  have general : readFile (sampleWorld user root) "/konanrun.yml" = .ok r :=
    (readFile_sampleWorld_root user root).trans hr
  have passes {p : String} {v : Value} (h : readFile (sampleWorld user root) p = .ok v) :
      Document.Passes (readFile (sampleWorld user root)) p := by
    intro f hf
    rw [h] at hf
    cases hf
  rw [load_of_passes (userDirectory_sampleWorld user root)
    (resolve_sampleWorld user root (.inl rfl)) (resolve_sampleWorld user root (.inr rfl))
    (forall_settingsFiles_sampleWorld (passes file) (passes general))]
  simp only [loaded, settingsFiles_sampleWorld, List.filterMap_cons, List.filterMap_nil, file,
    general, Except.toOption]

theorem ofBytes_nil : Document.ofBytes [] = .ok .null := by cbv

/-- What is asked of the settings in a text is answered by those of the world where it is the user's
file. -/
theorem exists_load_sampleWorld {α : Type} {t : String} {f : Settings → Option α} {a : α}
    (h : ((Document.ofBytes (Text.Utf8.encode t)).toOption.bind fun u =>
      (ofContents (Path.ofLocation ["konanrun"]) [u, .null, u]).toOption.bind f) = some a) :
    ∃ s, load (sampleWorld (Text.Utf8.encode t) []) (Path.ofText "") = .ok s ∧ f s = some a := by
  obtain ⟨u, hu, h⟩ := Option.bind_eq_some_iff.mp h
  obtain ⟨s, hs, h⟩ := Option.bind_eq_some_iff.mp h
  refine ⟨s, ?_, h⟩
  rw [load_sampleWorld (ok_of_toOption hu) ofBytes_nil]
  exact ok_of_toOption hs

/-- Where the file in the root is empty and the one of the user says nothing under the names of the
fields, nothing is said. -/
theorem merges_sampleWorld {v : Value} {es : Entries} (hu : Document.ofBytes user = .ok v)
    (hv : entriesOf? v = some es) (hs : ∀ name ∈ spoken, Entries.field? es.reverse name = none) :
    Merges (sampleWorld user [])
      (settingsFiles (Path.ofLocation ["konanrun"]) ["konanrun"]) [] := by
  refine ⟨fun name hn => Eq.symm ?_, rfl⟩
  refine lastSaid_eq_none_iff.mpr (forall_settingsFiles_sampleWorld ?_ ?_)
  · rw [said_of_mapping ((readFile_sampleWorld_user user []).trans hu) hv, hs name hn]
  · rw [said_of_mapping ((readFile_sampleWorld_root user []).trans ofBytes_nil) rfl]
    rfl

theorem validated_nil : validated (Path.ofLocation ["konanrun"]) [] =
    .ok { currentDirectory := some (Path.ofLocation ["konanrun"]) } := by
  cbv

/-- Without content in the files the settings are the defaults. -/
theorem load_sampleWorld_nil : load (sampleWorld [] []) (Path.ofText "") =
    .ok { currentDirectory := some (Path.ofLocation ["konanrun"]) } := by
  have settled : ∀ p ∈ settingsFiles (Path.ofLocation ["konanrun"]) ["konanrun"],
      Settled (sampleWorld [] []) p :=
    settled_sampleWorld ⟨_, _, ofBytes_nil, rfl⟩ ⟨_, _, ofBytes_nil, rfl⟩
  have merges := merges_sampleWorld ofBytes_nil rfl fun _ _ => rfl
  rw [load_of_settled (userDirectory_sampleWorld [] []) (resolve_sampleWorld [] [] (.inl rfl))
    (resolve_sampleWorld [] [] (.inr rfl)) settled merges, validated_nil]

end Sample

end Settings

end CompilerRunner
