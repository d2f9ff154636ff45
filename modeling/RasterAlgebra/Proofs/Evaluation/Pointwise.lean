import RasterAlgebra.Proofs.Evaluation.Agreement

/-!
# Operators keep relations that look at cells

A relation between grids is `Pointwise` if it says what the grids have in common apart from samples, and
otherwise looks at their cells, so that it still holds when the same is done to the cells of both. A relation
that looks at no cell is `free`: anything may be done to the cells. Every operator keeps such a relation
(`broadcast_agree`, `rasterBinary_agree`), and so does a run over two sources that are so related
(`Grid.Pointwise.environment_agree`).
-/

namespace RasterAlgebra

variable {R : Grid → Grid → Prop} {free : Prop} {g g' k k' : Grid} {policy policy' : DivisionPolicy}

/-- A relation between grids that cannot be broken by doing the same to the cells of both; nor, if it is
free, by doing anything to them. -/
structure Grid.Pointwise (R : Grid → Grid → Prop) (free : Prop) : Prop where
  cellType {g g' : Grid} (h : R g g') : g'.cellType = g.cellType
  noData {g g' : Grid} (h : R g g') : g'.noData = g.noData
  sameExtents_iff {g g' k k' : Grid} (hg : R g g') (hk : R k k') :
    g'.SameExtents k' ↔ g.SameExtents k
  /-- Messages show the extents of grids that differ in them. -/
  extentsText_eq {g g' k k' : Grid} (hg : R g g') (hk : R k k') (h : ¬ g.SameExtents k) :
    g'.extentsText = g.extentsText ∧ k'.extentsText = k.extentsText
  map {g g' : Grid} (h : R g g') (cellType : CellType) {φ φ' : Sample → Sample} (hφ : φ = φ' ∨ free) :
    R (g.map cellType φ) (g'.map cellType φ')
  zipWith {g g' k k' : Grid} (hg : R g g') (hk : R k k') (same : g.SameExtents k)
    (same' : g'.SameExtents k') (cellType : CellType) {φ φ' : Sample → Sample → Sample}
    (hφ : φ = φ' ∨ free) :
    R (g.zipWith k same cellType φ) (g'.zipWith k' same' cellType φ')

namespace Grid.Pointwise

variable (hR : Pointwise R free)
include hR

theorem noDataSample_eq (hg : R g g') : g'.noDataSample = g.noDataSample := by
  rw [noDataSample, noDataSample, hR.noData hg]

theorem bitTest_agree (hg : R g g') (x : Scalar) : (bitTest g x).Agree R (bitTest g' x) := by
  unfold bitTest
  rw [hR.cellType hg]
  split
  · exact .error _
  · split
    · exact .error _
    · exact .raster (hR.map hg _ (.inl rfl))

/-- A scalar over related rasters. Under two policies the cells differ, which only free relations bear. -/
theorem broadcast_agree (hpolicy : policy = policy' ∨ free) (op : String) (side : ScalarSide) (x : Scalar)
    (hg : R g g') : (broadcast policy op side g x).Agree R (broadcast policy' op side g' x) := by
  unfold broadcast
  rw [hR.cellType hg, hR.noDataSample_eq hg]
  split
  · exact hR.bitTest_agree hg x
  · split
    · exact .error _
    · exact .error _
    · exact .raster (hR.map hg _ (hpolicy.imp_left fun h => by rw [h]))
    · exact .raster (hR.map hg _ (hpolicy.imp_left fun h => by rw [h]))

theorem applyMask_agree (hg : R g g') (hk : R k k') :
    (applyMask g k).Agree R (applyMask g' k') := by
  rw [applyMask, applyMask]
  by_cases same : g.SameExtents k
  · have same' := (hR.sameExtents_iff hg hk).mpr same
    rw [dif_pos same, dif_pos same', hR.cellType hk, hR.cellType hg, hR.noDataSample_eq hg]
    split
    · exact .raster (hR.zipWith hg hk same same' _ (.inl rfl))
    · exact .error _
  · obtain ⟨htext, htext'⟩ := hR.extentsText_eq hg hk same
    have hmessage : Failure.maskExtents g' k' = Failure.maskExtents g k := by
      rw [Failure.maskExtents, Failure.maskExtents, htext, htext']
    rw [dif_neg same, dif_neg (mt (hR.sameExtents_iff hg hk).mp same), hmessage]
    exact .error _

/-- Two rasters against two related ones. Every message is made from what they have in common. -/
theorem rasterBinary_agree (hpolicy : policy = policy' ∨ free) (op : String) (hg : R g g') (hk : R k k') :
    (rasterBinary policy op g k).Agree R (rasterBinary policy' op g' k') := by
  have htypes : Failure.cellTypes op g' k' = Failure.cellTypes op g k := by
    rw [Failure.cellTypes, Failure.cellTypes, hR.cellType hg, hR.cellType hk]
  have hvalues : Failure.noDataValues op g' k' = Failure.noDataValues op g k := by
    rw [Failure.noDataValues, Failure.noDataValues, hR.noData hg, hR.noData hk]
  have hnoData : g'.sameNoData k' = g.sameNoData k := by
    rw [sameNoData, sameNoData, hR.noData hg, hR.noData hk]
  rw [rasterBinary, rasterBinary]
  by_cases hop : op = "#"
  · rw [if_pos hop, if_pos hop]
    exact hR.applyMask_agree hg hk
  · rw [if_neg hop, if_neg hop]
    cases Arithmetic.ofSymbol? op with
    | none => exact .error _
    | some arithmetic =>
      by_cases same : g.SameExtents k
      · have same' := (hR.sameExtents_iff hg hk).mpr same
        simp only [dif_pos same, dif_pos same', htypes, hvalues, hnoData, hR.cellType hg,
          hR.cellType hk, hR.noDataSample_eq hg]
        split
        · exact .error _
        · split
          · exact .error _
          · exact .raster (hR.zipWith hg hk same same' _ (hpolicy.imp_left fun h => by rw [h]))
      · obtain ⟨htext, htext'⟩ := hR.extentsText_eq hg hk same
        have hextents : Failure.extents op g' k' = Failure.extents op g k := by
          rw [Failure.extents, Failure.extents, htext, htext']
        simp only [dif_neg same, dif_neg (mt (hR.sameExtents_iff hg hk).mp same), hextents]
        exact .error _

/-- Sources whose bands are related make environments that agree. -/
theorem environment_agree {source source' : Source}
    (hsource : ∀ band, Source.Agree R (source band) (source' band)) (hpolicy : policy = policy' ∨ free) :
    Environment.Agree R ⟨policy, source⟩ ⟨policy', source'⟩ where
  source := hsource
  broadcast op side x _ _ hg := hR.broadcast_agree hpolicy op side x hg
  raster op _ _ _ _ hg hk := hR.rasterBinary_agree hpolicy op hg hk

end Grid.Pointwise

end RasterAlgebra
