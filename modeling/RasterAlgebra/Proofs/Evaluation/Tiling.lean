import RasterAlgebra.Proofs.Evaluation.Pointwise
import RasterAlgebra.Proofs.Grid.Gather

/-!
# Evaluating tiles

Operators on rasters work cell by cell, so it makes no difference whether cells are picked from the bands
or from the result (`run_gathers`). A formula can be evaluated on tiles of its bands.
-/

namespace RasterAlgebra

open Grid

variable {w h w' h' : ℕ} {f : Fin w' × Fin h' → Fin w × Fin h}

/-! ## Operators on grids of which cells are picked -/

theorem Grid.Gathers.map {g g' : Grid} (hg : g.Gathers f g') (cellType : CellType)
    (φ : Sample → Sample) : (g.map cellType φ).Gathers f (g'.map cellType φ) := by
  refine ⟨hg.width, hg.height, hg.width', hg.height', rfl, hg.noData, ?_⟩
  intro p
  rw [cell_map, cell_map, hg.cells]

theorem Grid.Gathers.zipWith {g g' k k' : Grid} (hg : g.Gathers f g') (hk : k.Gathers f k')
    (same : g.SameExtents k) (same' : g'.SameExtents k') (cellType : CellType)
    (φ : Sample → Sample → Sample) :
    (g.zipWith k same cellType φ).Gathers f (g'.zipWith k' same' cellType φ) := by
  refine ⟨hg.width, hg.height, hg.width', hg.height', rfl, hg.noData, ?_⟩
  intro p
  rw [cell_zipWith, cell_zipWith, hg.cells, hk.cells]

theorem Grid.Gathers.sameExtents {g g' k k' : Grid} (hg : g.Gathers f g') (hk : k.Gathers f k') :
    g.SameExtents k ∧ g'.SameExtents k' :=
  ⟨⟨hg.width.trans hk.width.symm, hg.height.trans hk.height.symm⟩,
    ⟨hg.width'.trans hk.width'.symm, hg.height'.trans hk.height'.symm⟩⟩

/-- Before cells are picked, and behind that, all grids have the same extents. -/
theorem gathers_pointwise : Pointwise (Gathers f) False where
  cellType hg := hg.cellType
  noData hg := hg.noData
  sameExtents_iff hg hk := iff_of_true (hg.sameExtents hk).2 (hg.sameExtents hk).1
  extentsText_eq hg hk h := absurd (hg.sameExtents hk).1 h
  map {_ _} hg cellType φ _ hφ := by
    obtain rfl := hφ.resolve_right id
    exact hg.map cellType φ
  zipWith {_ _ _ _} hg hk same same' cellType φ _ hφ := by
    obtain rfl := hφ.resolve_right id
    exact hg.zipWith hk same same' cellType φ

/-! ## Runs -/

/-- A source that answers with the cells that `f` picks from the bands of another one. -/
def Source.gather (f : Fin w' × Fin h' → Fin w × Fin h) (hw' : 0 < w') (hh' : 0 < h')
    (source : Source) : Source := fun band => (source band).map (Grid.gather f hw' hh')

/-- Cells can be picked from every source whose bands have the extents that `f` picks from. -/
theorem Source.agree_gather (hw' : 0 < w') (hh' : 0 < h') {source : Source}
    (hsize : ∀ band g, source band = .ok g → g.width = w ∧ g.height = h) (band : String) :
    Source.Agree (Gathers f) (source band) (source.gather f hw' hh' band) := by
  rw [Source.gather]
  cases hband : source band with
  | ok g =>
    obtain ⟨hw, hh⟩ := hsize band g hband
    exact .ok (gathers_gather f hw' hh' hw hh)
  | error e => exact .error e e

/-- Two sources of which the second has the bands of the first with cells picked by `f`, and no others.
A text asks both for the same bands. If it has a raster over the first source, it has that raster with
cells picked by `f` over the second one, and any other value is the same. -/
theorem run_gathers [Host] {source source' : Source}
    (hsource : ∀ band, Source.Agree (Gathers f) (source band) (source' band))
    (policy : DivisionPolicy) (text : String) (memo memo' : Memo) :
    (Environment.run ⟨policy, source⟩ text memo).value.Agree (Gathers f)
        (Environment.run ⟨policy, source'⟩ text memo').value ∧
      (Environment.run ⟨policy, source'⟩ text memo').requests =
        (Environment.run ⟨policy, source⟩ text memo).requests := by
  exact run_agree (gathers_pointwise.environment_agree hsource (.inl rfl)) text memo memo'

/-- One row of two cells. -/
def rowSample : Grid where
  cellType := .int16
  width := 2
  height := 1
  noData := -1
  cells := #[5, 8]
  width_pos := Nat.zero_lt_two
  height_pos := Nat.one_pos
  size_cells := rfl

/-- The row is mirrored, and stands there three times. -/
def mirrored : Fin 2 × Fin 3 → Fin 2 × Fin 1 := fun p => (p.1.rev, 0)

/-- A source of one band. -/
def rowSource : Source := fun band =>
  if band = "a" then .ok rowSample else .error ⟨.notFound, band, none⟩

theorem run_gathers_mirrored :
    (∀ band, Source.Agree (Gathers mirrored) (rowSource band)
      (rowSource.gather mirrored (by decide) (by decide) band)) ∧
    (Environment.run ⟨.noData, rowSource⟩ "a / (a - 5) # (a == 1)" []).value.Agree (Gathers mirrored)
        (Environment.run ⟨.noData, rowSource.gather mirrored (by decide) (by decide)⟩
          "a / (a - 5) # (a == 1)" []).value ∧
      (Environment.run ⟨.noData, rowSource.gather mirrored (by decide) (by decide)⟩
          "a / (a - 5) # (a == 1)" []).requests =
        (Environment.run ⟨.noData, rowSource⟩ "a / (a - 5) # (a == 1)" []).requests := by
  have hsize : ∀ band g, rowSource band = .ok g → g.width = 2 ∧ g.height = 1 := by
    intro band g hg
    unfold rowSource at hg
    split at hg
    · obtain rfl := Except.ok.inj hg
      exact ⟨rfl, rfl⟩
    · simp at hg
  have hsource := Source.agree_gather (f := mirrored) (by decide) (by decide) hsize
  exact ⟨hsource, run_gathers hsource .noData "a / (a - 5) # (a == 1)" [] []⟩

end RasterAlgebra
