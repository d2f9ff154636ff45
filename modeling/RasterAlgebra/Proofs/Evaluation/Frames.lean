import RasterAlgebra.Proofs.Evaluation.Pointwise

/-!
# Samples stay in the samples

A grid without its samples is its frame: cell type, extents and no-data value. No operator looks at a
sample in order to choose what to do, so the frames of the operands decide whether it applies, how it
fails, and which frame the result has (`sameFrame_pointwise`). What becomes of a division by zero does not
show in a frame either.

Hence two sources whose bands have the same frames cannot be told apart by anything but the samples of
a result (`run_sameFrame`).
-/

namespace RasterAlgebra

/-- Equal in everything but the samples. -/
structure Grid.SameFrame (g g' : Grid) : Prop where
  cellType : g'.cellType = g.cellType
  width : g'.width = g.width
  height : g'.height = g.height
  noData : g'.noData = g.noData

/-! ## Operators on grids of the same frame -/

namespace Grid.SameFrame

variable {g g' k k' : Grid}

/-- Whatever is done to the samples, the frame shows the new cell type only. -/
theorem map (hg : g.SameFrame g') (cellType : CellType) (φ φ' : Sample → Sample) :
    (g.map cellType φ).SameFrame (g'.map cellType φ') :=
  ⟨rfl, hg.width, hg.height, hg.noData⟩

theorem zipWith (hg : g.SameFrame g') (same : g.SameExtents k) (same' : g'.SameExtents k')
    (cellType : CellType) (φ φ' : Sample → Sample → Sample) :
    (g.zipWith k same cellType φ).SameFrame (g'.zipWith k' same' cellType φ') :=
  ⟨rfl, hg.width, hg.height, hg.noData⟩

theorem extentsText_eq (hg : g.SameFrame g') : g'.extentsText = g.extentsText := by
  rw [extentsText, extentsText, hg.width, hg.height]

theorem sameExtents_iff (hg : g.SameFrame g') (hk : k.SameFrame k') :
    g'.SameExtents k' ↔ g.SameExtents k := by
  rw [SameExtents, SameExtents, hg.width, hg.height, hk.width, hk.height]

end Grid.SameFrame

open Grid

/-- Frames say what grids have in common apart from samples, and nothing about any cell. -/
theorem Grid.sameFrame_pointwise : Pointwise SameFrame True where
  cellType h := h.cellType
  noData h := h.noData
  sameExtents_iff hg hk := hg.sameExtents_iff hk
  extentsText_eq hg hk _ := ⟨hg.extentsText_eq, hk.extentsText_eq⟩
  map h cellType _ _ _ := h.map cellType _ _
  zipWith hg _ same same' cellType _ _ _ := hg.zipWith same same' cellType _ _

/-! ## Runs -/

/-- Two sources that have the same bands, with the same frames and any samples. A text asks both for the
same bands in the same order. Over both it has a raster of the same frame, or the same number, truth
value, null or failure. -/
theorem run_sameFrame [Host] {source source' : Source}
    (hsource : ∀ band, Source.Agree SameFrame (source band) (source' band))
    (policy : DivisionPolicy) (text : String) (memo memo' : Memo) :
    (Environment.run ⟨policy, source⟩ text memo).value.Agree SameFrame
        (Environment.run ⟨policy, source'⟩ text memo').value ∧
      (Environment.run ⟨policy, source'⟩ text memo').requests =
        (Environment.run ⟨policy, source⟩ text memo).requests :=
  run_agree (sameFrame_pointwise.environment_agree hsource (.inl rfl)) text memo memo'

/-- A source whose bands hold other samples in every cell. -/
def Source.overwrite (φ : Sample → Sample) (source : Source) : Source := fun band =>
  (source band).map fun g => g.map g.cellType φ

theorem Source.agree_overwrite (φ : Sample → Sample) (source : Source) (band : String) :
    Source.Agree SameFrame (source band) (source.overwrite φ band) := by
  rw [Source.overwrite]
  cases source band with
  | ok g => exact .ok ⟨rfl, rfl, rfl, rfl⟩
  | error e => exact .error e e

/-- Four words. -/
def wordSample : Grid where
  cellType := .uint16
  width := 2
  height := 2
  noData := 7
  cells := #[0, 5, 16, 300]
  width_pos := Nat.zero_lt_two
  height_pos := Nat.zero_lt_two
  size_cells := rfl

/-- A source of one band. -/
def wordSource : Source := fun band =>
  if band = "q" then .ok wordSample else .error ⟨.notFound, band, none⟩

/-- A quotient and a mask, over four words and over four zeros. -/
theorem run_sameFrame_zeros :
    (∀ band, Source.Agree SameFrame (wordSource band)
      (wordSource.overwrite (fun _ => 0) band)) ∧
    (Environment.run ⟨.noData, wordSource⟩ "(q / q) # (q == 16)" []).value.Agree SameFrame
        (Environment.run ⟨.noData, wordSource.overwrite fun _ => 0⟩ "(q / q) # (q == 16)" []).value ∧
      (Environment.run ⟨.noData, wordSource.overwrite fun _ => 0⟩ "(q / q) # (q == 16)" []).requests =
        (Environment.run ⟨.noData, wordSource⟩ "(q / q) # (q == 16)" []).requests := by
  have hsource := Source.agree_overwrite (fun _ => 0) wordSource
  exact ⟨hsource, run_sameFrame hsource .noData "(q / q) # (q == 16)" [] []⟩

end RasterAlgebra
