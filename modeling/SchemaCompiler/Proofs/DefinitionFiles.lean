import SchemaCompiler.Proofs.Discovery
import SchemaCompiler.Proofs.Project
import SchemaCompiler.Proofs.Search.Reordered
import SchemaCompiler.Proofs.Search.Repeats

namespace SchemaCompiler

/-! # Definition files in order

The names of the discovered files come in the order of their paths, whatever the order in which the
tree holds its entries, and each as often as the file is found. A database has the objects of the
files in that order, one for each name (`Compile.definitions_in_order`).
-/

namespace Assets

variable {tree : FileTree} {working : Place} {assets : Assets}

/-! ## Files with one name -/

theorem steps_eq_of_components {a b : Text} (h : Path.components a = Path.components b) :
    Path.steps a = Path.steps b := by
  rw [← Path.filter_components, h, Path.filter_components]

/-- Files that are found from the source directory and have one name make the same steps. -/
theorem steps_eq_of_behind {a b : Text} (ha : Glob.Behind assets.sourceDir a)
    (hb : Glob.Behind assets.sourceDir b)
    (h : Path.components (assets.nameOf a) = Path.components (assets.nameOf b)) :
    Path.steps a = Path.steps b := by
  by_cases hdot : Path.LedByDot assets.sourceDir
  · rw [nameOf_of_ledByDot ha hdot, nameOf_of_ledByDot hb hdot] at h
    exact steps_eq_of_components h
  · rw [steps_nameOf ha hdot, steps_nameOf hb hdot, steps_eq_of_components h]

/-- So do files that are found by absolute paths. -/
theorem steps_eq_of_absolute {a b : Text} (ha : Path.isAbsolute a = true)
    (hb : Path.isAbsolute b = true)
    (h : Path.components (assets.nameOf a) = Path.components (assets.nameOf b)) :
    Path.steps a = Path.steps b := by
  have hstart : Path.isAbsolute (assets.nameOf a) = Path.isAbsolute (assets.nameOf b) := by
    rw [Bool.eq_iff_iff, Path.isAbsolute_iff_mem_components, h, Path.isAbsolute_iff_mem_components]
  rcases nameOf_cases assets a with harest | ⟨haname, -⟩
  · rcases nameOf_cases assets b with hbrest | ⟨hbname, -⟩
    · rw [harest.steps_eq, hbrest.steps_eq, steps_eq_of_components h]
    · rw [harest.relative, hbname, hb] at hstart
      cases hstart
  · rcases nameOf_cases assets b with hbrest | ⟨hbname, -⟩
    · rw [hbrest.relative, haname, ha] at hstart
      cases hstart
    · rw [haname, hbname] at h
      exact steps_eq_of_components h

/-- If no file is found twice, no name is given twice. -/
theorem nodup_names (hnamed : tree.Named) {pattern : Text} {found : List Text}
    (h : Glob.search tree working (Path.join (Pattern.escape assets.sourceDir) pattern) = .ok found)
    (hapart : Glob.Apart (found.filter (tree.isFile working))) :
    (((found.filter (tree.isFile working)).map assets.nameOf).map Path.components).Nodup := by
  rw [Glob.Apart, List.Nodup, List.pairwise_map] at hapart
  rw [List.Nodup, List.pairwise_map, List.pairwise_map]
  refine hapart.imp_of_mem fun {a b} ha hb hne hab => hne ?_
  obtain ⟨ha, hafile⟩ := List.mem_filter.1 ha
  obtain ⟨hb, hbfile⟩ := List.mem_filter.1 hb
  cases hpattern : Path.isAbsolute pattern with
  | true =>
      rw [Path.join_of_isAbsolute _ hpattern] at h
      have hastart := Glob.isAbsolute_of_search hnamed h ha hafile
      have hbstart := Glob.isAbsolute_of_search hnamed h hb hbfile
      exact steps_eq_of_absolute (hastart.trans hpattern) (hbstart.trans hpattern) hab
  | false =>
      exact steps_eq_of_behind (Glob.behind_of_search hnamed hpattern h ha hafile)
        (Glob.behind_of_search hnamed hpattern h hb hbfile) hab

/-! ## The list of names -/

/-- What the list of discovered files is like. -/
structure Listed (tree : FileTree) (working : Place) (assets : Assets) (pattern : Text)
    (names : List Text) : Prop where
  /-- Every file is named as often as it is found. -/
  perm : ∃ found, Glob.search tree working
      (Path.join (Pattern.escape assets.sourceDir) pattern) = .ok found ∧
    names.Perm ((found.filter (tree.isFile working)).map assets.nameOf)
  /-- The names come in the order of their components. -/
  sorted : names.Pairwise fun a b => Path.le a b = true
  /-- The order of the entries of the tree does not matter. -/
  reordered : ∀ other : FileTree, tree.Reordered other →
    assets.discover other working pattern = .ok names
  /-- Names that come in one place are names that are given twice. -/
  before_iff : names.Pairwise Path.Before ↔ (names.map Path.components).Nodup
  /-- No name is given twice if at most one component of the pattern is not rigid. -/
  before : ∀ {patterns front middle back : List Pattern},
    (Glob.parts pattern).mapM Pattern.parse = .ok patterns →
      Glob.Unambiguous patterns front middle back → names.Pairwise Path.Before

theorem listed_of_discover (hnamed : tree.Named) {pattern : Text} {names : List Text}
    (h : assets.discover tree working pattern = .ok names) :
    Listed tree working assets pattern names := by
  obtain ⟨found, hfound, hnames⟩ := exists_of_discover h
  have hperm : names.Perm ((found.filter (tree.isFile working)).map assets.nameOf) :=
    hnames ▸ List.mergeSort_perm _ _
  have hsorted : names.Pairwise fun a b => Path.le a b = true :=
    hnames ▸ Path.pairwise_mergeSort _
  refine ⟨⟨found, hfound, hperm⟩, hsorted, fun other hother => ?_,
    Path.pairwise_before_iff hsorted, fun hpatterns hunambiguous => ?_⟩
  · rw [← discover_reordered hother, h]
  · rw [Path.pairwise_before_iff hsorted, (hperm.map Path.components).nodup_iff]
    exact nodup_names hnamed hfound (Glob.apart_of_search hnamed hfound hpatterns hunambiguous)

end Assets

namespace Compile

/-! ## The objects of the files -/

/-- A database with the objects of files, one for each file and in the order of the files. -/
structure Holds (objects : List Object) (db : Database) : Prop where
  tables : db.tables.map .table = objects.filter fun object => object.kind = .table
  sequences : db.sequences.map .sequence = objects.filter fun object => object.kind = .sequence
  functions : db.functions.map .function = objects.filter fun object => object.kind = .function
  size : db.size = objects.length

theorem holds_ofObjects (mapping : Mapping) (outputs : List OutputRequest)
    (objects : List Object) : Holds objects (.ofObjects mapping outputs objects) := by
  induction objects with
  | nil => exact ⟨rfl, rfl, rfl, rfl⟩
  | cons object rest ih =>
      obtain ⟨htables, hsequences, hfunctions, hsize⟩ := ih
      cases object with
      | table t =>
          refine ⟨congrArg (Object.table t :: ·) htables, hsequences, hfunctions, ?_⟩
          rw [List.length_cons, ← hsize]
          simp only [Database.size, Database.ofObjects, List.filterMap_cons, List.length_cons]
          omega
      | sequence s =>
          refine ⟨htables, congrArg (Object.sequence s :: ·) hsequences, hfunctions, ?_⟩
          rw [List.length_cons, ← hsize]
          simp only [Database.size, Database.ofObjects, List.filterMap_cons, List.length_cons]
          omega
      | function f =>
          refine ⟨htables, hsequences, congrArg (Object.function f :: ·) hfunctions, ?_⟩
          rw [List.length_cons, ← hsize]
          rfl

/-- A project that can be read has the objects of its files, one for each of the names. -/
theorem exists_objects_of_projectIn {config : Config} {host : Host} {files : FileTree}
    {db : Database} (h : projectIn config host files = .ok db) :
    ∃ makefile mapping names objects, makefileIn config host files = .ok makefile ∧
      mappingIn config makefile host files = .ok mapping ∧
      config.assets.discover files host.working makefile.definitions = .ok names ∧
      List.Forall₂ (fun name object => definitionIn config mapping name host files = .ok object)
        names objects ∧
      Holds objects db := by
  obtain ⟨makefile, hmakefile, h⟩ := exists_of_bind_eq_ok h
  obtain ⟨mapping, hmapping, h⟩ := exists_of_bind_eq_ok h
  obtain ⟨names, hnames, h⟩ := exists_of_bind_eq_ok h
  obtain ⟨objects, hobjects, h⟩ := exists_of_bind_eq_ok h
  obtain ⟨found, hdiscover, hnames⟩ := exists_of_bind_eq_ok hnames
  cases h
  refine ⟨makefile, mapping, names, objects, hmakefile, hmapping, ?_,
    forall₂_of_mapM_eq_ok hobjects, holds_ofObjects mapping makefile.outputs objects⟩
  split at hnames
  · cases hnames
  · cases hnames
    exact hdiscover

/-- Discovery lists files in the order of their paths, whatever the order of the tree's entries, and
a project has the objects of the listed files, one for each and in their order. A file is listed, and
its object is there, as often as the search finds the file: once, if at most one component of the
pattern is not rigid. -/
theorem definitions_in_order {files : FileTree} (hnamed : files.Named) :
    (∀ working assets pattern names, Assets.discover files working assets pattern = .ok names →
      Assets.Listed files working assets pattern names) ∧
    ∀ config host world db after, world.files = files →
      (readProject config).execute host world = (.ok db, after) →
        ∃ makefile mapping names objects, makefileIn config host files = .ok makefile ∧
          mappingIn config makefile host files = .ok mapping ∧
          config.assets.discover files host.working makefile.definitions = .ok names ∧
          List.Forall₂ (fun name object => definitionIn config mapping name host files = .ok object)
            names objects ∧
          Holds objects db := by
  refine ⟨fun _ _ _ _ h => Assets.listed_of_discover hnamed h, ?_⟩
  intro config host world db after hfiles hrun
  obtain ⟨w, hread, -⟩ := reads_readProject config host world
  rw [hrun, hfiles, Prod.mk.injEq] at hread
  exact exists_objects_of_projectIn hread.1.symm

/-! ### Nested directories -/

/-- A definition file in two directories of one name. -/
def nestedTree : FileTree :=
  (((FileTree.empty.put ["src"] .directory).put ["src", "a"] .directory).put
    ["src", "a", "a"] .directory).put ["src", "a", "a", "jobs.dbdef"]
      (.file (.text "SEQ\nNAME:jobs\n"))

theorem definitions_in_order_nested :
    nestedTree.Named ∧
      Assets.discover nestedTree [] ⟨"src"⟩ "a/**/*.dbdef" = .ok ["a/a/jobs.dbdef"] ∧
      Assets.Listed nestedTree [] ⟨"src"⟩ "a/**/*.dbdef" ["a/a/jobs.dbdef"] := by
  have hnamed : nestedTree.Named := by decide
  have hdiscover : Assets.discover nestedTree [] ⟨"src"⟩ "a/**/*.dbdef" =
      .ok ["a/a/jobs.dbdef"] := by cbv
  exact ⟨hnamed, hdiscover, (definitions_in_order hnamed).1 _ _ _ _ hdiscover⟩

/-- Between two double stars the name can be either directory, so the file is listed twice. -/
theorem discovered_twice :
    Assets.discover nestedTree [] ⟨"src"⟩ "**/a/**/*.dbdef" =
        .ok ["a/a/jobs.dbdef", "a/a/jobs.dbdef"] ∧
      ¬["a/a/jobs.dbdef".toList, "a/a/jobs.dbdef".toList].Pairwise Path.Before := by
  refine ⟨by cbv, fun h => ?_⟩
  rw [List.pairwise_pair] at h
  exact (Path.before_iff.1 h).2 rfl

end Compile

end SchemaCompiler
