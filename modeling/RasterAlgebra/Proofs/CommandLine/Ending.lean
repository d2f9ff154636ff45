import RasterAlgebra.CommandLine
import RasterAlgebra.Proofs.FileSource.Paths
import RasterAlgebra.Proofs.FileSource.Saving

/-!
# How the program ends

A report is carried out effect by effect (`carryOut`): lines are printed, and files are saved in a tree. If a file
cannot be put where it should be, the program ends there with the code one. `Ends` lists all ways in which a
formula with a value can end, and `ends_run` says that these are all. So files change in one case only, and
then it is the file that was asked for (`perform_ending`).
-/

namespace RasterAlgebra.CommandLine

open ArrayFile

/-! ## Carrying out -/

/-- What is left when the program has ended. -/
structure Ending where
  tree : FileTree
  /-- What stands on the standard output. -/
  printed : String
  code : ℕ

/-- Carries out effects in a tree of files, with something printed before, and `code` for the end. -/
def carryOut (code : ℕ) : List Effect → FileTree → (printed : String) → Ending
  | [], t, printed => ⟨t, printed, code⟩
  | .print line :: rest, t, printed => carryOut code rest t (printed ++ line ++ "\n")
  | .note _ :: rest, t, printed => carryOut code rest t printed
  | .save path g :: rest, t, printed =>
    match t.destination path with
    | .ok place => carryOut code rest (t.put place g.arrayFile) printed
    | .error _ => ⟨t, printed, 1⟩

/-- How the program ends that does what a report says. -/
def Report.ending (r : Report) (t : FileTree) : Ending := carryOut r.code r.effects t ""

variable {t : FileTree} {o : Options} {v : Value} {printed : String} {code : ℕ}

/-- Notes leave nothing behind. -/
theorem carryOut_notes (least : LogLevel) (entries : List LogEntry) (rest : List Effect) :
    carryOut code (notes least entries ++ rest) t printed = carryOut code rest t printed := by
  unfold notes
  induction entries.filter fun e => least.rank ≤ e.level.rank with
  | nil => rfl
  | cons entry entries ih => exact ih

/-! ## Paths of arrays -/

/-- The last name in the path of an array has the ending for arrays. -/
theorem exists_names_arrayPath (p : Path) : ∃ front stem, (arrayPath p).names = front ++ [stem ++ ".npy"] := by
  -- the ending stands behind the text, whether it was there or not
  obtain ⟨s, hs⟩ : ∃ s, (if ".npy".toList.isSuffixOf p.text.toList then p.text else p.text ++ ".npy") =
      String.ofList (s ++ ".npy".toList) := by
    split
    · rename_i hsuffix
      obtain ⟨s, hs⟩ := List.isSuffixOf_iff_suffix.mp hsuffix
      exact ⟨s, by rw [hs, String.ofList_toList]⟩
    · exact ⟨p.text.toList, by rw [← String.toList_append, String.ofList_toList]⟩
  obtain ⟨front, last, hnames⟩ := Path.exists_ofText_append s (w := ".npy".toList) (by decide) (by decide)
  refine ⟨front, String.ofList last, ?_⟩
  rw [arrayPath, hs, hnames, String.ofList_append, String.ofList_toList]

/-- So has the name of the file. -/
theorem exists_place_arrayPath {p : Path} {place : List String} (h : t.place (arrayPath p) = .ok place) :
    ∃ directory stem, place = directory ++ [stem ++ ".npy"] := by
  obtain ⟨front, stem, hnames⟩ := exists_names_arrayPath p
  obtain ⟨-, hfollow⟩ := FileTree.place_eq_ok.mp h
  rw [hnames] at hfollow
  have hdots : stem ++ ".npy" ≠ ".." := by
    intro hdots
    have hlength := congrArg String.length hdots
    rw [String.length_append] at hlength
    have : ".npy".length = 4 := rfl
    have : "..".length = 2 := rfl
    omega
  obtain ⟨directory, hplace⟩ := FileTree.exists_of_follow hdots hfollow
  exact ⟨directory, stem, hplace⟩

/-! ## Ways to end -/

/-- How the program can end if a formula has a value. -/
inductive Ends (o : Options) (v : Value) (t : FileTree) : Ending → Prop where
  | failed (hkind : v.kind = .error) : Ends o v t ⟨t, v.inspect ++ "\n", 1⟩
  | shown (hkind : v.kind ≠ .error) (houtput : o.output = none) : Ends o v t ⟨t, v.inspect ++ "\n", 0⟩
  | noGrid {path : Path} (hkind : v.kind ≠ .error) (hraster : v.kind ≠ .raster) (houtput : o.output = some path) :
      Ends o v t ⟨t, v.inspect ++ "\n", 1⟩
  | noPlace {g : Grid} {path : Path} {e : FileTree.Misplacement} (hraster : v = .raster g)
      (houtput : o.output = some path) (hplace : t.destination (arrayPath path) = .error e) :
      Ends o v t ⟨t, v.inspect ++ "\n", 1⟩
  | saved {g : Grid} {path : Path} {place : List String} (hraster : v = .raster g)
      (houtput : o.output = some path) (hplace : t.destination (arrayPath path) = .ok place) :
      Ends o v t ⟨t.put place g.arrayFile, v.inspect ++ "\n", 0⟩

theorem ends_finish (o : Options) (v : Value) (t : FileTree) : Ends o v t ((o.finish v).ending t) := by
  cases v with
  | error failure => exact .failed rfl
  | raster g =>
    unfold Options.finish
    cases houtput : o.output with
    | none => exact .shown Value.Kind.noConfusion houtput
    | some path =>
      unfold Report.ending
      cases hplace : t.destination (arrayPath path) with
      | error e =>
        simp only [carryOut, hplace]
        exact .noPlace rfl houtput hplace
      | ok place =>
        simp only [carryOut, hplace]
        -- behind the file, only the log says something
        rw [← List.append_nil (notes _ _), carryOut_notes]
        exact .saved rfl houtput hplace
  | number | boolean | null | returned =>
    unfold Options.finish
    cases houtput : o.output with
    | none => exact .shown Value.Kind.noConfusion houtput
    | some path => exact .noGrid Value.Kind.noConfusion Value.Kind.noConfusion houtput

/-- Where a formula has a value, the log says something, and then the value is dealt with. -/
theorem ends_run [Host] {c : Command} {policy : DivisionPolicy} {files : FileReader} {outcome : Outcome}
    (hrun : c.options.source.run policy files c.formula = .ok outcome) (t : FileTree) :
    ∃ report, c.run policy files = .ok report ∧ Ends c.options outcome.value t (report.ending t) := by
  unfold Command.run
  dsimp only
  rw [hrun]
  refine ⟨_, rfl, ?_⟩
  unfold Report.ending
  rw [carryOut_notes]
  exact ends_finish c.options outcome.value t

/-! ## Status and files -/

/-- What is asked for can be done with a value: it is no failure, and if it is to be saved, it is a grid, and there
is a place for it. -/
def Succeeds (o : Options) (v : Value) (t : FileTree) : Prop :=
  v.kind ≠ .error ∧ ∀ path, o.output = some path →
    v.kind = .raster ∧ ∃ place, t.destination (arrayPath path) = .ok place

theorem Ends.printed_eq {ending : Ending} (h : Ends o v t ending) : ending.printed = v.inspect ++ "\n" := by
  cases h <;> rfl

theorem Ends.code_eq {ending : Ending} (h : Ends o v t ending) :
    ending.code = 0 ∧ Succeeds o v t ∨ ending.code = 1 ∧ ¬ Succeeds o v t := by
  unfold Succeeds
  cases h with
  | failed hkind => exact .inr ⟨rfl, fun hsucceeds => hsucceeds.1 hkind⟩
  | shown hkind houtput =>
    refine .inl ⟨rfl, hkind, ?_⟩
    intro path hpath
    cases houtput.symm.trans hpath
  | noGrid _ hraster houtput => exact .inr ⟨rfl, fun hsucceeds => hraster (hsucceeds.2 _ houtput).1⟩
  | noPlace _ houtput hplace =>
    refine .inr ⟨rfl, ?_⟩
    intro hsucceeds
    obtain ⟨-, place, hok⟩ := hsucceeds.2 _ houtput
    cases hplace.symm.trans hok
  | saved hraster houtput hplace =>
    subst hraster
    refine .inl ⟨rfl, Value.Kind.noConfusion, ?_⟩
    intro path hpath
    obtain rfl := Option.some.inj (houtput.symm.trans hpath)
    exact ⟨rfl, _, hplace⟩

/-- Without success, or without a grid that is to be saved, all files stay as they are. -/
theorem Ends.tree_eq {ending : Ending} (h : Ends o v t ending)
    (hunsaved : ¬ (ending.code = 0 ∧ v.kind = .raster ∧ o.output.isSome)) : ending.tree = t := by
  cases h with
  | saved hraster houtput hplace =>
    subst hraster
    exact absurd ⟨rfl, rfl, by rw [houtput]; rfl⟩ hunsaved
  | _ => rfl

/-- Success with a grid that is to be saved: its file is at the place that the path leads to. -/
theorem Ends.exists_place {ending : Ending} {g : Grid} {path : Path} (h : Ends o v t ending)
    (hraster : v = .raster g) (houtput : o.output = some path) (hcode : ending.code = 0) :
    ∃ place, t.destination (arrayPath path) = .ok place ∧ ending.tree = t.put place g.arrayFile := by
  subst hraster
  cases h with
  | saved hraster' houtput' hplace =>
    obtain rfl := Value.raster.inj hraster'
    obtain rfl := Option.some.inj (houtput.symm.trans houtput')
    exact ⟨_, hplace, rfl⟩
  | shown _ hnone => cases houtput.symm.trans hnone
  | failed | noGrid | noPlace => cases hcode

/-- A formula with a value. The value and a new line are printed; the code is zero if the value is no failure and,
where a file is asked for, is a grid that can be saved, and else it is one. Only with the code zero, a grid, and a
file that is asked for, a file changes, and no other one does. It has the ending for arrays, and holds real
numbers of four bytes, row by row: in row `y` and column `x`, that of the cell. If the array is read from it as it
was written, which it is where there is room, a band whose path leads to the file has the same cells, and is of
real numbers unless it has a cell type of its own. -/
theorem perform_ending [Host] {settings : Settings} {arguments : List String} {c : Command} {outcome : Outcome}
    (hread : read settings.logLevel arguments = .ok c) (t : FileTree)
    (hrun : c.options.source.run settings.policy t.find c.formula = .ok outcome) :
    ∃ report, perform settings t.find arguments = .ok report ∧
      (report.ending t).printed = outcome.value.inspect ++ "\n" ∧
      ((report.ending t).code = 0 ∧ Succeeds c.options outcome.value t ∨
        (report.ending t).code = 1 ∧ ¬ Succeeds c.options outcome.value t) ∧
      (¬ ((report.ending t).code = 0 ∧ outcome.value.kind = .raster ∧ c.options.output.isSome) →
        (report.ending t).tree = t) ∧
      ∀ g path, outcome.value = .raster g → c.options.output = some path → (report.ending t).code = 0 →
        ∃ place bytes, t.destination (arrayPath path) = .ok place ∧
          (∃ directory stem, place = directory ++ [stem ++ ".npy"]) ∧
          (report.ending t).tree.files.lookup place = some bytes ∧
          (∀ other, other ≠ place → (report.ending t).tree.files.lookup other = t.files.lookup other) ∧
          bytes = encode ⟨.one, false⟩ Grid.elementType g.height g.width (rowMajor g.bits) ∧
          (∀ (y : Fin g.height) (x : Fin g.width),
            g.cell (x : ℕ) (y : ℕ) = .ok (sampleOf Grid.elementType.kind (g.bits y x))) ∧
          (g.height * g.width * 4 ≤ Host.arrayRoom → Stores bytes Grid.elementType g.bits) ∧
          (report.ending t).tree.place (arrayPath path) = .ok place ∧
          ∀ (s : FileSource) (band : String) (p : Path), s.cellTypes.lookup band = none →
            s.pathFor band = .ok p → (report.ending t).tree.place p = .ok place →
            Stores bytes Grid.elementType g.bits →
            ∃ k, s.source (report.ending t).tree.find band = .ok k ∧ k.cellType = .float32 ∧ k.SameExtents g ∧
              ∀ x y, k.cell x y = g.cell x y := by
  obtain ⟨report, hreport, hends⟩ := ends_run hrun t
  have hperform : perform settings t.find arguments = .ok report := by
    unfold perform
    rw [hread]
    exact hreport
  refine ⟨report, hperform, hends.printed_eq, hends.code_eq, hends.tree_eq, ?_⟩
  intro g path hraster houtput hcode
  obtain ⟨place, hplace, htree⟩ := hends.exists_place hraster houtput hcode
  have hfound := FileTree.place_of_destination hplace
  rw [htree]
  refine ⟨place, g.arrayFile, hplace, exists_place_arrayPath hfound, t.lookup_put place _,
    fun other => FileTree.lookup_put_of_ne, g.arrayFile_eq, g.cell_eq_bits, ?_, FileTree.place_put hfound, ?_⟩
  · intro hroom
    have hhas : HasRoom (.real 4) g.height g.width := ⟨by decide, g.height_pos, g.width_pos, hroom⟩
    rw [g.arrayFile_eq]
    exact stores_encode hhas _ _ _
  · intro s band p htypes hpath hleads hstores
    have hsource := FileSource.source_of_stores_bits htypes hpath (FileTree.find_put hleads) hstores
    exact ⟨_, hsource, rfl, ⟨rfl, rfl⟩, fun x y => rfl⟩

theorem exists_grid_of_kind (h : v.kind = .raster) : ∃ g, v = .raster g := by
  cases v with
  | raster g => exact ⟨g, rfl⟩
  | _ => cases h

/-- A tree with the file of one band, which has one cell, and with an empty directory. One is in neither of their
directories. -/
def bandTree : FileTree where
  files := [(["data", "B.npy"], encode ⟨.one, false⟩ ⟨.unsigned 1, false⟩ 1 1 [7])]
  directories := [["out"]]
  here := ["work"]

/-- Arguments with paths from where one is and from the root. -/
def sumArguments : List String := ["B + B", "--bands", "../data", "--output", "/out/sum"]

/-- A sum that is saved: the file of the band stays, and the file of the sum has got its ending. -/
theorem perform_ending_sum :
    ∃ c outcome report, read Settings.default.logLevel sumArguments = .ok c ∧
      c.options.source.run Settings.default.policy bandTree.find c.formula = .ok outcome ∧
      perform .default bandTree.find sumArguments = .ok report ∧
      (report.ending bandTree).printed = outcome.value.inspect ++ "\n" ∧ (report.ending bandTree).code = 0 ∧
      ((report.ending bandTree).tree.files.lookup ["out", "sum.npy"]).isSome ∧
      (report.ending bandTree).tree.files.lookup ["data", "B.npy"] = bandTree.files.lookup ["data", "B.npy"] := by
  have hvalue : ((read Settings.default.logLevel sumArguments).toOption.bind fun c =>
      (c.options.source.run Settings.default.policy bandTree.find c.formula).toOption.map fun outcome =>
        (c.options.output, outcome.value.kind)) = some (some (.ofText "/out/sum"), .raster) := by decide +kernel
  have hplace : bandTree.destination (arrayPath (.ofText "/out/sum")) = .ok ["out", "sum.npy"] := by decide +kernel
  cases hread : read Settings.default.logLevel sumArguments with
  | error stop =>
    rw [hread] at hvalue
    cases hvalue
  | ok c =>
    rw [hread] at hvalue
    cases hrun : c.options.source.run Settings.default.policy bandTree.find c.formula with
    | error e =>
      simp [hrun, Except.toOption] at hvalue
    | ok outcome =>
      obtain ⟨houtput, hkind⟩ : c.options.output = some (.ofText "/out/sum") ∧ outcome.value.kind = .raster := by
        simpa [hrun, Except.toOption] using hvalue
      obtain ⟨g, hraster⟩ := exists_grid_of_kind hkind
      obtain ⟨report, hreport, hprinted, hcode, -, hsaved⟩ := perform_ending hread bandTree hrun
      have hsucceeds : Succeeds c.options outcome.value bandTree := by
        refine ⟨by rw [hkind]; exact Value.Kind.noConfusion, fun path hpath => ⟨hkind, ["out", "sum.npy"], ?_⟩⟩
        obtain rfl := Option.some.inj (houtput.symm.trans hpath)
        exact hplace
      have hzero := (hcode.resolve_right fun h => h.2 hsucceeds).1
      obtain ⟨place, bytes, hplace', -, hlookup, hothers, -⟩ := hsaved g _ hraster houtput hzero
      obtain rfl := Except.ok.inj (hplace.symm.trans hplace')
      exact ⟨c, outcome, report, rfl, hrun, hreport, hprinted, hzero, by rw [hlookup]; rfl,
        hothers ["data", "B.npy"] (by decide)⟩

end RasterAlgebra.CommandLine
