import RasterAlgebra.FileSource
import RasterAlgebra.Proofs.ArrayFile.Pieces

/-!
# What files make of bands

A band in a file becomes a grid, or an error of this band that says that nothing was found or that it cannot
be read (`serves_grid_or_error`). There are two exceptions, and both end the run: templates that give no path,
and paths that cannot be looked up, because they may not be or because they are too long.

Whatever the attributes of a text are, they only count for the path that a template gives; so the host is left
open.

* `decodes`, `loads`: all that can come out of a file, and out of a band. The rows of a matrix always make a
  grid.
* `run_eq_ok_iff`: a run has an outcome exactly if all bands that it asks for have paths that can be looked
  up.
-/

namespace RasterAlgebra

namespace FileSource

section
variable [Host] {s : FileSource} {files : FileReader} {band : String} {bytes : List UInt8}

/-! ## Out of a file -/

/-- What a file holds for a band: no array, elements that are no samples, an array that is no matrix, or a
grid. -/
inductive Decodes (s : FileSource) (band : String) (bytes : List UInt8) : Except Error Grid → Prop where
  | damaged {e : ArrayFile.Error} (h : ArrayFile.ofBytes Host.arrayRoom bytes = .error e) :
      Decodes s band bytes (.error (.damaged e))
  | noSamples {file : ArrayFile} (h : ArrayFile.ofBytes Host.arrayRoom bytes = .ok file)
      (htype : ∀ type, file.descriptor = .single type → type.isSample = false) :
      Decodes s band bytes (.error (.noSamples file.descriptor))
  | noMatrix {file : ArrayFile} (h : ArrayFile.ofBytes Host.arrayRoom bytes = .ok file)
      (hshape : ∀ height width, file.shape = [height, width] → height = 0 ∨ width = 0) :
      Decodes s band bytes (.error (.noMatrix file.shape))
  | grid {file : ArrayFile} {type : ArrayFile.ElementType} {height width : ℕ}
      (h : ArrayFile.ofBytes Host.arrayRoom bytes = .ok file) (htype : file.descriptor = .single type)
      (hsample : type.isSample) (hshape : file.shape = [height, width]) (hwidth : 0 < width)
      (hheight : 0 < height) :
      Decodes s band bytes (.ok ⟨(s.cellTypes.lookup band).getD type.cellType, width, height, s.noData,
        (file.samples type height width).toArray, hwidth, hheight, file.length_samples type height width⟩)

theorem decodes (s : FileSource) (band : String) (bytes : List UInt8) :
    Decodes s band bytes (s.decode band bytes) := by
  rw [decode]
  cases h : ArrayFile.ofBytes Host.arrayRoom bytes with
  | error e => exact .damaged h
  | ok file =>
    simp only [Except.mapError, bind, Except.bind]
    split
    · rename_i type htype
      split
      · rename_i hsample
        refine .noSamples h fun type' htype' => ?_
        obtain rfl : type = type' := by simpa [htype] using htype'
        simpa using hsample
      · rename_i hsample
        split
        · rename_i height width hshape
          split
          · rename_i hempty
            refine .noMatrix h fun height' width' hshape' => ?_
            obtain ⟨rfl, rfl⟩ : height = height' ∧ width = width' := by simpa [hshape] using hshape'
            exact hempty
          · rename_i hempty
            have hwidth : 0 < width := by omega
            have hheight : 0 < height := by omega
            rw [file.ofRows_rows type hheight hwidth]
            exact .grid h htype (by simpa using hsample) hshape hwidth hheight
        · rename_i hshape
          exact .noMatrix h fun height width hmatrix => absurd hmatrix (hshape height width)
    · rename_i hsingle
      exact .noSamples h fun type htype => absurd htype (hsingle type)

/-! ## Out of a band -/

/-- What becomes of a band: it has no path, nothing is found at its path, the path cannot be looked up, the file
there cannot be opened, or it is what this file holds. -/
inductive Loads (s : FileSource) (files : FileReader) (band : String) : Except Error Grid → Prop where
  | template {fault : Template.Fault} (h : s.pathFor band = .error fault) :
      Loads s files band (.error (.template fault))
  | noFile {path : Path} (h : s.pathFor band = .ok path) (hfile : files path = .nothing) :
      Loads s files band (.error (.noFile path))
  | forbidden {path : Path} (h : s.pathFor band = .ok path) (hfile : files path = .forbidden) :
      Loads s files band (.error (.forbidden path))
  | longPath {path : Path} (h : s.pathFor band = .ok path) (hfile : files path = .tooLong) :
      Loads s files band (.error (.longPath path))
  | unopened {path : Path} (h : s.pathFor band = .ok path) (hfile : files path = .unopened) :
      Loads s files band (.error (.unopened path))
  | decoded {path : Path} {bytes : List UInt8} {r : Except Error Grid} (h : s.pathFor band = .ok path)
      (hfile : files path = .file bytes) (hdecodes : Decodes s band bytes r) : Loads s files band r

theorem loads (s : FileSource) (files : FileReader) (band : String) :
    Loads s files band (s.load files band) := by
  rw [load]
  cases h : s.pathFor band with
  | error fault => exact .template h
  | ok path =>
    simp only [Except.mapError, bind, Except.bind]
    cases hfile : files path with
    | nothing => exact .noFile h hfile
    | forbidden => exact .forbidden h hfile
    | tooLong => exact .longPath h hfile
    | unopened => exact .unopened h hfile
    | file bytes => exact .decoded h hfile (s.decodes band bytes)

/-- The band has a path, and it can be looked up. -/
def Reachable (s : FileSource) (files : FileReader) (band : String) : Prop :=
  ∃ path, s.pathFor band = .ok path ∧ (files path).isKnown

/-- Files are read as arrays, or cannot be read; none of them ends a run. -/
def ReadsArrays (files : FileReader) : Prop :=
  ∀ path bytes e, files path = .file bytes → ArrayFile.ofBytes Host.arrayRoom bytes = .error e → e.endsRun = false

theorem source_of_ok {g : Grid} (h : s.load files band = .ok g) : s.source files band = .ok g := by
  rw [source, h]
  rfl

theorem source_of_error {e : Error} (h : s.load files band = .error e) :
    s.source files band = .error (e.ofBand band) := by
  rw [source, h]
  rfl

theorem not_reachable_of_template {fault : Template.Fault} (h : s.pathFor band = .error fault) :
    ¬ s.Reachable files band := by
  rintro ⟨path, hpath, -⟩
  simp [h] at hpath

theorem not_reachable_of_unknown {path : Path} (h : s.pathFor band = .ok path)
    (hfile : (files path).isKnown = false) : ¬ s.Reachable files band := by
  rintro ⟨path', hpath, hfile'⟩
  obtain rfl := Except.ok.inj (h.symm.trans hpath)
  exact Bool.false_ne_true (hfile.symm.trans hfile')

/-- What becomes of a band as the source tells it, when no file ends a run. -/
inductive Serves (s : FileSource) (files : FileReader) (band : String) : Except Error Grid → Prop where
  | grid (g : Grid) (h : s.Reachable files band) : Serves s files band (.ok g)
  | error (e : Error) (h : s.Reachable files band) (hends : e.endsRun = false)
      (hreason : e.reason = .notFound ∨ e.reason = .unreadable) : Serves s files band (.error e)
  | unreachable (e : Error) (h : ¬ s.Reachable files band) (hends : e.endsRun)
      (hreason : e.reason = .unspecified) : Serves s files band (.error e)

theorem serves (hfiles : ReadsArrays files) (s : FileSource) (band : String) :
    Serves s files band (s.load files band) := by
  have hloads := s.loads files band
  generalize s.load files band = r at hloads
  cases hloads with
  | template h => exact .unreachable _ (not_reachable_of_template h) rfl rfl
  | forbidden h hfile | longPath h hfile =>
    exact .unreachable _ (not_reachable_of_unknown h (by rw [hfile]; rfl)) rfl rfl
  | noFile h hfile => exact .error _ ⟨_, h, by rw [hfile]; rfl⟩ rfl (.inl rfl)
  | unopened h hfile => exact .error _ ⟨_, h, by rw [hfile]; rfl⟩ rfl (.inr rfl)
  | decoded h hfile hdecodes =>
    have hreachable : s.Reachable files band := ⟨_, h, by rw [hfile]; rfl⟩
    cases hdecodes with
    | damaged hbytes => exact .error _ hreachable (hfiles _ _ _ hfile hbytes) (.inr rfl)
    | noSamples => exact .error _ hreachable rfl (.inr rfl)
    | noMatrix => exact .error _ hreachable rfl (.inr rfl)
    | grid => exact .grid _ hreachable

/-- A band whose path can be looked up is a grid or an error that says what is known about the band. -/
theorem source_of_reachable (hfiles : ReadsArrays files) (h : s.Reachable files band) :
    (∃ g, s.source files band = .ok g) ∨
      ∃ e, s.source files band = .error e ∧ e.band = band ∧
        (e.reason = .notFound ∨ e.reason = .unreadable) := by
  have hserves := serves hfiles s band
  cases hload : s.load files band with
  | ok g => exact .inl ⟨g, source_of_ok hload⟩
  | error e =>
    rw [hload] at hserves
    cases hserves with
    | error _ _ _ hreason => exact .inr ⟨_, source_of_error hload, rfl, hreason⟩
    | unreachable _ hnot => exact absurd h hnot

theorem source_of_not_reachable (hfiles : ReadsArrays files) (h : ¬ s.Reachable files band) :
    ∃ e, s.source files band = .error e ∧ e.band = band ∧ e.reason = .unspecified := by
  have hserves := serves hfiles s band
  cases hload : s.load files band with
  | ok g =>
    rw [hload] at hserves
    cases hserves with
    | grid _ hreachable => exact absurd hreachable h
  | error e =>
    rw [hload] at hserves
    cases hserves with
    | error _ hreachable => exact absurd hreachable h
    | unreachable _ _ _ hreason => exact ⟨_, source_of_error hload, rfl, hreason⟩

/-! ## Runs -/

theorem fatal?_eq_none_iff (hfiles : ReadsArrays files) (s : FileSource) (bands : List String) :
    s.fatal? files bands = none ↔ ∀ band ∈ bands, s.Reachable files band := by
  rw [fatal?, List.findSome?_eq_none_iff]
  refine forall₂_congr fun band _ => ?_
  have hserves := serves hfiles s band
  generalize s.load files band = r at hserves ⊢
  cases hserves with
  | grid g h => exact iff_of_true rfl h
  | error e h hends => exact iff_of_true (if_neg (Bool.not_eq_true _ ▸ hends)) h
  | unreachable e h hends => simp [hends, h]

/-- A run has an outcome if all bands that it asks for have paths that can be looked up, and only then. -/
theorem run_eq_ok_iff (hfiles : ReadsArrays files) (s : FileSource) (policy : DivisionPolicy)
    (formula : String) :
    s.run policy files formula = .ok (Environment.run ⟨policy, s.source files⟩ formula []) ↔
      ∀ band ∈ (Environment.run ⟨policy, s.source files⟩ formula []).requests,
        s.Reachable files band := by
  rw [← fatal?_eq_none_iff hfiles, run]
  cases s.fatal? files (Environment.run ⟨policy, s.source files⟩ formula []).requests with
  | none => exact iff_of_true rfl rfl
  | some e => exact iff_of_false (by simp) (by simp)

end

end FileSource

/-- If no file ends a run, a band whose path can be looked up is a grid, or there is an error of this band:
nothing was found, or it cannot be read. A band whose path cannot be looked up is an error that is neither and
ends the run. So a text has an outcome exactly if it asks for bands of the first sort only. -/
theorem serves_grid_or_error [Host] (s : FileSource) (files : FileReader) (hfiles : FileSource.ReadsArrays files) :
    (∀ band, s.Reachable files band →
      (∃ g, s.source files band = .ok g ∧ 0 < g.width ∧ 0 < g.height ∧
        g.cells.size = g.width * g.height) ∨
      ∃ e, s.source files band = .error e ∧ e.band = band ∧
        (e.reason = .notFound ∨ e.reason = .unreadable)) ∧
    (∀ band, ¬ s.Reachable files band →
      ∃ e, s.source files band = .error e ∧ e.band = band ∧ e.reason = .unspecified) ∧
    ∀ policy formula,
      s.run policy files formula = .ok (Environment.run ⟨policy, s.source files⟩ formula []) ↔
        ∀ band ∈ (Environment.run ⟨policy, s.source files⟩ formula []).requests,
          s.Reachable files band := by
  refine ⟨fun band hband => ?_, fun band hband => ?_, FileSource.run_eq_ok_iff hfiles s⟩
  · rcases FileSource.source_of_reachable hfiles hband with ⟨g, hg⟩ | herror
    · exact .inl ⟨g, hg, g.width_pos, g.height_pos, g.size_cells⟩
    · exact .inr herror
  · exact FileSource.source_of_not_reachable hfiles hband

/-- A directory with one file, which holds an array of one byte. -/
theorem serves_grid_or_error_byte :
    let s : FileSource := ⟨.ofText ".", "\x7bband\x7d.npy", [], 0, []⟩
    let files : FileReader := fun path =>
      if path.names = ["B.npy"] then .file (ArrayFile.encode ⟨.one, false⟩ ⟨.unsigned 1, false⟩ 1 1 [7])
      else .nothing
    FileSource.ReadsArrays files ∧ s.Reachable files "B" ∧ s.Reachable files "C" ∧
    (∃ g, s.source files "B" = .ok g ∧ 0 < g.width ∧ 0 < g.height ∧
      g.cells.size = g.width * g.height) ∧
    (∃ e, s.source files "C" = .error e ∧ e.band = "C" ∧
      (e.reason = .notFound ∨ e.reason = .unreadable)) ∧
    s.run .ieee files "B + C" = .ok (Environment.run ⟨.ieee, s.source files⟩ "B + C" []) := by
  intro s files
  have hfiles : FileSource.ReadsArrays files := by
    intro path bytes e hfound herror
    have hread : (ArrayFile.ofBytes Host.arrayRoom
        (ArrayFile.encode ⟨.one, false⟩ ⟨.unsigned 1, false⟩ 1 1 [7])).isOk := by decide +kernel
    obtain rfl : ArrayFile.encode ⟨.one, false⟩ ⟨.unsigned 1, false⟩ 1 1 [7] = bytes := by
      simp only [files] at hfound
      split at hfound
      · exact Finding.file.inj hfound
      · simp at hfound
    simp [herror, Except.isOk, Except.toBool] at hread
  have hknown : ∀ path, (files path).isKnown := by
    intro path
    simp only [files]
    split <;> rfl
  have hreachable : ∀ band, (s.pathFor band).isOk → s.Reachable files band := by
    intro band hband
    cases hpath : s.pathFor band with
    | ok path => exact ⟨path, hpath, hknown path⟩
    | error fault => simp [hpath, Except.isOk, Except.toBool] at hband
  have hB := hreachable "B" (by decide +kernel)
  have hC := hreachable "C" (by decide +kernel)
  have hrequests :
      (Environment.run ⟨.ieee, s.source files⟩ "B + C" []).requests = ["B", "C"] := by decide +kernel
  obtain ⟨hserved, -, hrun⟩ := serves_grid_or_error s files hfiles
  refine ⟨hfiles, hB, hC, (hserved "B" hB).resolve_right ?_, (hserved "C" hC).resolve_left ?_,
    (hrun .ieee "B + C").mpr ?_⟩
  · rintro ⟨e, he, -⟩
    have hok : (s.source files "B").isOk := by decide +kernel
    simp [he, Except.isOk, Except.toBool] at hok
  · rintro ⟨g, hg, -⟩
    have herror : (s.source files "C").isOk = false := by decide +kernel
    simp [hg, Except.isOk, Except.toBool] at herror
  · rw [hrequests]
    simp only [List.forall_mem_cons, List.not_mem_nil, false_implies, implies_true, and_true]
    exact ⟨hB, hC⟩

/-- A template with a name that is not there: the error of the band says neither that nothing was found nor
that the band cannot be read, and it ends the run. -/
theorem not_serves_unknownName :
    let s : FileSource := ⟨.ofText ".", "\x7bx\x7d.npy", [], 0, []⟩
    let files : FileReader := fun _ => .nothing
    FileSource.ReadsArrays files ∧
    ¬ ((∃ g, s.source files "B5" = .ok g) ∨
      ∃ e, s.source files "B5" = .error e ∧ (e.reason = .notFound ∨ e.reason = .unreadable)) ∧
    ∃ e, s.run .ieee files "B5" = .error e ∧ e.message = "'x'" := by
  intro s files
  have hpath : s.pathFor "B5" = .error (.unknownName "x") := by
    have hfault : (match s.pathFor "B5" with
        | .error fault => some fault
        | .ok _ => none) = some (.unknownName "x") := by decide +kernel
    cases h : s.pathFor "B5" with
    | ok path => simp [h] at hfault
    | error fault => simpa [h] using hfault
  have hload : s.load files "B5" = .error (.template (.unknownName "x")) := by
    rw [FileSource.load, hpath]
    rfl
  have hsource := FileSource.source_of_error hload
  have hrequests : (Environment.run ⟨.ieee, s.source files⟩ "B5" []).requests = ["B5"] := by
    decide +kernel
  refine ⟨fun path bytes e hfound => by simp [files] at hfound, ?_,
    .template (.unknownName "x"), ?_, by decide +kernel⟩
  · rintro (⟨g, hg⟩ | ⟨e, he, hreason⟩)
    · simp [hsource] at hg
    · obtain rfl := Except.error.inj (hsource.symm.trans he)
      simp [FileSource.Error.ofBand, FileSource.Error.reason] at hreason
  · rw [FileSource.run, hrequests, FileSource.fatal?, List.findSome?_cons, hload]
    rfl

end RasterAlgebra
