import RasterAlgebra.Proofs.Evaluation.Checked

/-!
# Where extents, no-data value and cell type come from

No operator makes up the metadata of a raster. An operator that yields one hands on those of its leftmost
raster (`Grid.Inherits`), but for the cell types that quotients and bit tests have (`Grid.Results`), and
two rasters go together only if they have the same extents. So all of an expression's bands have the
extents of its raster, and the leftmost of them gives the rest.

* `Value.binary_eq_raster`: the operands of an operator that yields a raster.
* `walk_comesFrom`: expressions; the induction is on the expression, and what is remembered only grows
  (`walk_lookup`).
* `Node.Raises.not_aboutExtents`: where all bands have the same extents, no operator fails because of them.
-/

namespace RasterAlgebra

/-! ## Inherited metadata -/

/-- The extents and the no-data value are those of another grid, and so is the cell type unless it is one
that operators give. -/
structure Grid.Inherits (r g : Grid) : Prop where
  extents : g.SameExtents r
  noData : r.noData = g.noData
  cellType : r.cellType ∈ [g.cellType, .float32, .boolean]

/-- A raster that an operator makes of `g`. -/
structure Grid.Results (op : String) (g r : Grid) : Prop extends r.Inherits g where
  quotient : op = "/" → r.cellType = .float32
  test : op = "==" → r.cellType = .boolean

/-- What is remembered of the bands explains the metadata of a raster: all bands have its extents, and it
inherits from the first one, which there is. -/
structure Grid.ComesFrom (r : Grid) (memo : Memo) (bands : List String) : Prop where
  extents : ∀ band ∈ bands, ∃ g, memo.lookup band = some g ∧ g.SameExtents r
  leftmost : ∃ band g, bands.head? = some band ∧ memo.lookup band = some g ∧ r.Inherits g

/-- All grids of a source have the same extents. -/
def Source.Uniform (source : Source) (width height : ℕ) : Prop :=
  ∀ band g, source band = .ok g → g.width = width ∧ g.height = height

/-- The failure says that rasters, or a raster and its mask, differ in extents. -/
def Failure.AboutExtents (f : Failure) : Prop :=
  f.kind = .dimensionMismatch ∨ "mask dimensions differ".toList <+: f.message.toList

variable {env : Environment} {memo memo' : Memo} {n left right m : Node} {g h r : Grid} {f : Failure}
  {op : String} {policy : DivisionPolicy} {v w : Value} {bands bands' : List String}

namespace Grid

theorem Inherits.refl (g : Grid) : g.Inherits g := ⟨⟨rfl, rfl⟩, rfl, List.mem_cons_self⟩

/-- What is inherited of what was inherited. -/
theorem Inherits.trans (hr : r.Inherits g) (hg : g.Inherits h) : r.Inherits h := by
  refine ⟨⟨hg.extents.1.trans hr.extents.1, hg.extents.2.trans hr.extents.2⟩,
    hr.noData.trans hg.noData, ?_⟩
  have htype := hr.cellType
  have hbefore := hg.cellType
  simp only [List.mem_cons, List.not_mem_nil, or_false] at htype hbefore ⊢
  rcases htype with htype | htype
  · rw [htype]
    exact hbefore
  · exact .inr htype

/-- Bands that are remembered besides make no difference. -/
theorem ComesFrom.mono (hg : g.ComesFrom memo bands)
    (hmemo : ∀ band k, memo.lookup band = some k → memo'.lookup band = some k) :
    g.ComesFrom memo' bands := by
  obtain ⟨band, k, hhead, hlookup, hk⟩ := hg.leftmost
  refine ⟨fun band hband => ?_, band, k, hhead, hmemo band k hlookup, hk⟩
  obtain ⟨k, hlookup, hk⟩ := hg.extents band hband
  exact ⟨k, hmemo band k hlookup, hk⟩

/-- What inherits from a raster comes from the same bands. -/
theorem ComesFrom.of_inherits (hg : g.ComesFrom memo bands) (hr : r.Inherits g) :
    r.ComesFrom memo bands := by
  obtain ⟨band, k, hhead, hlookup, hk⟩ := hg.leftmost
  refine ⟨fun band hband => ?_, band, k, hhead, hlookup, hr.trans hk⟩
  obtain ⟨k, hlookup, hk⟩ := hg.extents band hband
  exact ⟨k, hlookup, hk.1.trans hr.extents.1, hk.2.trans hr.extents.2⟩

/-- A raster next to another one of its extents. -/
theorem ComesFrom.append (hg : g.ComesFrom memo bands) (hh : h.ComesFrom memo bands')
    (same : g.SameExtents h) : g.ComesFrom memo (bands ++ bands') := by
  obtain ⟨band, k, hhead, hlookup, hk⟩ := hg.leftmost
  refine ⟨fun band hband => ?_, band, k, ?_, hlookup, hk⟩
  · rcases List.mem_append.mp hband with hband | hband
    · exact hg.extents band hband
    · obtain ⟨k, hlookup, hk⟩ := hh.extents band hband
      exact ⟨k, hlookup, hk.1.trans same.1.symm, hk.2.trans same.2.symm⟩
  · rw [List.head?_append, hhead]
    rfl

end Grid

/-! ## Operators that yield rasters -/

/-- An arithmetic operator keeps the extents and the no-data value, and quotients have a cell type of their own. -/
theorem Grid.results_of_arithmetic {arithmetic : Arithmetic}
    (harithmetic : Arithmetic.ofSymbol? op = some arithmetic) (hextents : g.SameExtents r)
    (hnoData : r.noData = g.noData) (htype : r.cellType = arithmetic.cellType g.cellType) :
    g.Results op r := by
  refine ⟨⟨hextents, hnoData, ?_⟩, ?_, ?_⟩
  · rw [htype]
    cases arithmetic <;> simp [Arithmetic.cellType]
  · rintro rfl
    obtain rfl : Arithmetic.div = arithmetic := Option.some.inj harithmetic
    exact htype
  · rintro rfl
    cases harithmetic

/-- A bit test keeps everything but the cell type. -/
theorem bitTest_results {x : Scalar} (h : bitTest g x = .raster r) : g.Results "==" r := by
  unfold bitTest at h
  split at h
  · cases h
  · split at h
    · cases h
    · obtain rfl := Value.raster.inj h
      exact ⟨⟨⟨rfl, rfl⟩, rfl, by simp [Grid.map]⟩, fun h => absurd h (by decide), fun _ => rfl⟩

/-- What becomes of a raster and a number has the extents of the raster. -/
theorem broadcast_results {side : ScalarSide} {x : Scalar}
    (h : broadcast policy op side g x = .raster r) : g.Results op r := by
  unfold broadcast at h
  split at h
  · rename_i htest
    rw [htest]
    exact bitTest_results h
  · split at h
    · cases h
    · cases h
    · rename_i arithmetic harithmetic
      obtain rfl := Value.raster.inj h
      exact Grid.results_of_arithmetic harithmetic ⟨rfl, rfl⟩ rfl rfl
    · rename_i arithmetic harithmetic
      obtain rfl := Value.raster.inj h
      exact Grid.results_of_arithmetic harithmetic ⟨rfl, rfl⟩ rfl rfl

/-- A raster behind a mask stays the same kind of raster, and has the extents of the mask. -/
theorem applyMask_results (hr : applyMask g h = .raster r) : g.SameExtents h ∧ g.Results "#" r := by
  unfold applyMask at hr
  split at hr
  · rename_i same
    split at hr
    · obtain rfl := Value.raster.inj hr
      exact ⟨same, ⟨⟨rfl, rfl⟩, rfl, List.mem_cons_self⟩, fun h => absurd h (by decide),
        fun h => absurd h (by decide)⟩
    · cases hr
  · cases hr

/-- Two rasters that yield a raster have the same extents, and it takes after the left one. -/
theorem rasterBinary_results (hr : rasterBinary policy op g h = .raster r) :
    g.SameExtents h ∧ g.Results op r := by
  unfold rasterBinary at hr
  split at hr
  · rename_i hmask
    rw [hmask]
    exact applyMask_results hr
  · split at hr
    · cases hr
    · rename_i arithmetic harithmetic
      split at hr
      · rename_i same
        split at hr
        · cases hr
        · split at hr
          · cases hr
          · obtain rfl := Value.raster.inj hr
            exact ⟨same, Grid.results_of_arithmetic harithmetic ⟨rfl, rfl⟩ rfl rfl⟩
      · cases hr

/-- Comparing does not yield rasters. -/
theorem Value.compare_ne_raster (op : String) (v w : Value) : Value.compare op v w ≠ .raster r := by
  intro hr
  unfold Value.compare at hr
  split at hr
  · cases hr
  · split at hr
    · cases hr
    · split at hr <;> cases hr

/-- An operator yields a raster only with a raster among its operands; if both are rasters, they have the
same extents. -/
theorem Value.binary_eq_raster (hr : Value.binary policy op v w = .raster r) :
    (∃ g x, v = .raster g ∧ w = .number x ∧ g.Results op r) ∨
    (∃ x g, v = .number x ∧ w = .raster g ∧ g.Results op r) ∨
    ∃ g h, v = .raster g ∧ w = .raster h ∧ g.SameExtents h ∧ g.Results op r := by
  unfold Value.binary at hr
  split at hr
  · unfold numberBinary at hr
    split at hr
    · cases hr
    · split at hr <;> cases hr
  · exact .inl ⟨_, _, rfl, rfl, broadcast_results hr⟩
  · exact .inr (.inl ⟨_, _, rfl, rfl, broadcast_results hr⟩)
  · exact .inr (.inr ⟨_, _, rfl, rfl, rasterBinary_results hr⟩)
  · exact absurd hr (Value.compare_ne_raster op _ _)

/-- No operator in front of a value yields a raster. -/
theorem Value.unary_ne_raster (op : String) (v : Value) : v.unary op ≠ .raster r := by
  intro hr
  unfold Value.unary at hr
  split at hr
  · cases hr
  · split at hr
    · split at hr <;> cases hr
    · cases hr

/-! ## Expressions that yield rasters -/

/-- What is remembered stays as it is. -/
theorem walk_lookup (env : Environment) (n : Node) (memo : Memo) (band : String) (k : Grid)
    (hlookup : memo.lookup band = some k) : (n.walk env memo).memo.lookup band = some k := by
  rw [(walk_remembers env n memo).memo_eq, List.lookup_append, hlookup]
  rfl

/-- Numbers are computed from numbers alone. -/
theorem bands_of_staticKind_number (hn : n.IsExpression) (hkind : n.staticKind? = some .number) :
    n.bands = [] := by
  induction hn with
  | number x => rw [Node.bands]
  | boolean b => simp [Node.staticKind?] at hkind
  | band name => simp [Node.staticKind?] at hkind
  | @unary op operand _ ih =>
    rw [Node.staticKind?, Option.bind_eq_some_iff] at hkind
    obtain ⟨k, hoperand, hunary⟩ := hkind
    unfold Value.Kind.unary? at hunary
    split at hunary
    · cases hunary
    · split at hunary
      · rename_i hminus
        rw [Node.bands]
        exact ih (hminus.2 ▸ hoperand)
      · cases hunary
  | @binary op left right _ _ ihl ihr =>
    rw [Node.staticKind?, Option.bind_eq_some_iff] at hkind
    obtain ⟨k, hl, hkind⟩ := hkind
    obtain ⟨l, hr, hbinary⟩ := Option.bind_eq_some_iff.mp hkind
    unfold Value.Kind.binary? at hbinary
    split at hbinary
    · rw [Node.bands, ihl hl, ihr hr, List.append_nil]
    all_goals
      first
      | cases hbinary
      | split at hbinary <;> cases hbinary

/-- An expression with a number for its value names no band. -/
theorem bands_of_walk_number (hn : n.IsExpression) {x : Scalar}
    (hvalue : (n.walk env memo).value = .number x) : n.bands = [] := by
  apply bands_of_staticKind_number hn
  have hfits : (n.walk env memo).value.Fits n.staticKind? := walk_fits hn memo
  rw [hvalue] at hfits
  exact hfits.eq_some_kind rfl

/-- The raster of a band comes from this band. -/
theorem walk_band_comesFrom {name : String} (hr : ((Node.band name).walk env memo).value = .raster r) :
    r.ComesFrom ((Node.band name).walk env memo).memo [name] := by
  have hlookup : ((Node.band name).walk env memo).memo.lookup name = some r := by
    rw [Node.walk, Environment.resolve] at hr ⊢
    cases hmemo : memo.lookup name with
    | some k =>
      rw [hmemo] at hr
      obtain rfl := Value.raster.inj hr
      exact hmemo
    | none =>
      rw [hmemo] at hr
      cases hsource : env.source name with
      | ok k =>
        rw [hsource] at hr
        obtain rfl := Value.raster.inj hr
        show (memo ++ [(name, k)]).lookup name = some k
        rw [List.lookup_append, hmemo, List.lookup_cons_self]
        rfl
      | error e =>
        rw [hsource] at hr
        cases hr
  refine ⟨fun band hband => ?_, name, r, rfl, hlookup, .refl r⟩
  obtain rfl := List.mem_singleton.mp hband
  exact ⟨r, hlookup, rfl, rfl⟩

/-- An operator between two expressions yields what it makes of their values. -/
theorem walk_binary_eq_raster (hr : ((Node.binary op left right).walk env memo).value = .raster r) :
    Value.binary env.policy op (left.walk env memo).value
        (right.walk env (left.walk env memo).memo).value = .raster r ∧
      ((Node.binary op left right).walk env memo).memo =
        (right.walk env (left.walk env memo).memo).memo := by
  cases hlerror : (left.walk env memo).value.isError with
  | true =>
    rw [walk_binary_of_left_error hlerror] at hr
    rw [hr] at hlerror
    cases hlerror
  | false =>
    cases hrerror : (right.walk env (left.walk env memo).memo).value.isError with
    | true =>
      rw [walk_binary_of_right_error hlerror hrerror] at hr
      have hvalue : (right.walk env (left.walk env memo).memo).value = .raster r := hr
      rw [hvalue] at hrerror
      cases hrerror
    | false =>
      rw [walk_binary_of_values hlerror hrerror] at hr ⊢
      exact ⟨hr, rfl⟩

/-- The metadata of a raster come from the bands of its expression. -/
theorem walk_comesFrom (hn : n.IsExpression) (hr : (n.walk env memo).value = .raster r) :
    r.ComesFrom (n.walk env memo).memo n.bands := by
  induction hn generalizing memo r with
  | number x =>
    rw [Node.walk] at hr
    cases hr
  | boolean b =>
    rw [Node.walk] at hr
    cases hr
  | band name => exact walk_band_comesFrom hr
  | @unary op operand _ ih =>
    cases herror : (operand.walk env memo).value.isError with
    | true =>
      rw [walk_unary_of_error herror] at hr
      rw [hr] at herror
      cases herror
    | false =>
      rw [walk_unary_of_value herror] at hr
      exact absurd hr (Value.unary_ne_raster op _)
  | @binary op left right hl hright ihl ihr =>
    obtain ⟨hbinary, hmemo⟩ := walk_binary_eq_raster hr
    rw [hmemo, Node.bands]
    -- behind the right operand, the bands of the left one are still what they were
    have hgrows := walk_lookup env right (left.walk env memo).memo
    rcases Value.binary_eq_raster hbinary with ⟨g, x, hv, hw, hresults⟩ | ⟨x, g, hv, hw, hresults⟩ |
      ⟨g, h, hv, hw, same, hresults⟩
    · rw [bands_of_walk_number hright hw, List.append_nil]
      exact ((ihl hv).mono hgrows).of_inherits hresults.toInherits
    · rw [bands_of_walk_number hl hv, List.nil_append]
      exact (ihr hw).of_inherits hresults.toInherits
    · exact (((ihl hv).mono hgrows).append (ihr hw) same).of_inherits hresults.toInherits

/-! ## Failures about extents -/

/-- What begins in another way is no message about the extents of a mask. -/
theorem Failure.not_aboutExtents (text : String) (hkind : f.kind ≠ .dimensionMismatch)
    (hmessage : text.toList <+: f.message.toList)
    (hdiffer : ¬ text.toList <+: "mask dimensions differ".toList ∧
      ¬ "mask dimensions differ".toList <+: text.toList) : ¬ f.AboutExtents := by
  rintro (h | h)
  · exact hkind h
  · rcases List.prefix_or_prefix_of_prefix hmessage h with h | h
    · exact hdiffer.1 h
    · exact hdiffer.2 h

/-- An operator that is not known is no matter of extents. -/
theorem Failure.unknownBinary_not_aboutExtents (k l : Value.Kind) (op : String) :
    ¬ (unknownBinary k op l).AboutExtents :=
  not_aboutExtents "unknown operator: " (by simp [unknownBinary])
    (by simp [unknownBinary, String.toList_append, List.append_assoc]) (by decide)

/-- Only rasters of different extents fail because of their extents. -/
theorem rasterBinary_aboutExtents (hf : rasterBinary policy op g h = .error f)
    (hextents : f.AboutExtents) : ¬ g.SameExtents h := by
  intro same
  revert hextents
  unfold rasterBinary applyMask at hf
  split at hf
  · split at hf
    · cases hf
    · obtain rfl := Value.error.inj hf
      exact Failure.not_aboutExtents "mask operand must be " (by simp [Failure.maskType])
        (by simp [Failure.maskType, String.toList_append, List.append_assoc]) (by decide)
  · split at hf
    · obtain rfl := Value.error.inj hf
      exact Failure.unknownBinary_not_aboutExtents _ _ _
    · split at hf
      · obtain rfl := Value.error.inj hf
        exact Failure.not_aboutExtents "incompatible cell types: " (by simp [Failure.cellTypes])
          (by simp [Failure.cellTypes, String.toList_append, List.append_assoc]) (by decide)
      · split at hf
        · obtain rfl := Value.error.inj hf
          exact Failure.not_aboutExtents "incompatible no-data values: "
            (by simp [Failure.noDataValues])
            (by simp [Failure.noDataValues, String.toList_append, List.append_assoc]) (by decide)
        · cases hf

/-- A bit test looks at one raster only. -/
theorem bitTest_not_aboutExtents {x : Scalar} (hf : bitTest g x = .error f) : ¬ f.AboutExtents := by
  unfold bitTest at hf
  split at hf
  · obtain rfl := Value.error.inj hf
    exact Failure.not_aboutExtents "masking not implemented for cell type "
      (by simp [Failure.noWords]) (by simp [Failure.noWords, String.toList_append]) (by decide)
  · split at hf
    · obtain rfl := Value.error.inj hf
      exact Failure.not_aboutExtents "mask value must be finite, got " (by simp [Failure.notFinite])
        (by simp [Failure.notFinite, String.toList_append]) (by decide)
    · cases hf

/-- So does every other operator between a raster and a number. -/
theorem broadcast_not_aboutExtents {side : ScalarSide} {x : Scalar}
    (hf : broadcast policy op side g x = .error f) : ¬ f.AboutExtents := by
  unfold broadcast at hf
  split at hf
  · exact bitTest_not_aboutExtents hf
  · split at hf
    · obtain rfl := Value.error.inj hf
      exact Failure.unknownBinary_not_aboutExtents _ _ _
    · obtain rfl := Value.error.inj hf
      exact Failure.unknownBinary_not_aboutExtents _ _ _
    · cases hf
    · cases hf

/-- Values that are only compared have no extents. -/
theorem Value.compare_not_aboutExtents (hf : Value.compare op v w = .error f) : ¬ f.AboutExtents := by
  unfold Value.compare at hf
  split at hf
  · obtain rfl := Value.error.inj hf
    exact Failure.not_aboutExtents "type mismatch: " (by simp [Failure.typeMismatch])
      (by simp [Failure.typeMismatch, String.toList_append, List.append_assoc]) (by decide)
  · split at hf
    · cases hf
    · split at hf
      · cases hf
      · obtain rfl := Value.error.inj hf
        exact Failure.unknownBinary_not_aboutExtents _ _ _

/-- A failure about extents comes from two rasters whose extents differ. -/
theorem Value.binary_aboutExtents (hf : Value.binary policy op v w = .error f)
    (hextents : f.AboutExtents) : ∃ g h, v = .raster g ∧ w = .raster h ∧ ¬ g.SameExtents h := by
  unfold Value.binary at hf
  split at hf
  · unfold numberBinary at hf
    split at hf
    · cases hf
    · split at hf
      · cases hf
      · obtain rfl := Value.error.inj hf
        exact absurd hextents (Failure.unknownBinary_not_aboutExtents _ _ _)
  · exact absurd hextents (broadcast_not_aboutExtents hf)
  · exact absurd hextents (broadcast_not_aboutExtents hf)
  · exact ⟨_, _, rfl, rfl, rasterBinary_aboutExtents hf hextents⟩
  · exact absurd hextents (Value.compare_not_aboutExtents hf)

/-- In front of a value there is only one thing. -/
theorem Value.unary_not_aboutExtents (hf : v.unary op = .error f) : ¬ f.AboutExtents := by
  have hunknown (k : Value.Kind) : ¬ (Failure.unknownUnary op k).AboutExtents :=
    Failure.not_aboutExtents "unknown operator: " (by simp [Failure.unknownUnary])
      (by simp [Failure.unknownUnary, String.toList_append]) (by decide)
  unfold Value.unary at hf
  split at hf
  · cases hf
  · split at hf
    · split at hf
      · cases hf
      · obtain rfl := Value.error.inj hf
        exact hunknown _
    · obtain rfl := Value.error.inj hf
      exact hunknown _

/-! ## Sources of one size -/

section
variable {width height : ℕ}

/-- All rasters have the extents that all bands have. -/
theorem Source.Uniform.raster (huniform : env.source.Uniform width height) (hn : n.IsExpression)
    (hr : (env.walk n).value = .raster r) : r.width = width ∧ r.height = height := by
  obtain ⟨band, k, -, hlookup, hk⟩ := (walk_comesFrom hn hr).leftmost
  have hconsistent := (walk_remembers env n []).consistent (Memo.consistent_nil _)
  obtain ⟨hwidth, hheight⟩ := huniform band k (hconsistent.of_lookup hlookup).1
  exact ⟨hk.extents.1.symm.trans hwidth, hk.extents.2.symm.trans hheight⟩

/-- If all bands have the same extents, no failure is about extents. -/
theorem Node.Raises.not_aboutExtents (hraises : m.Raises env f)
    (huniform : env.source.Uniform width height) (hm : m.IsExpression) : ¬ f.AboutExtents := by
  cases hraises with
  | band h =>
    exact Failure.not_aboutExtents "raster reading operation failed: " (by simp [Failure.bandFailed])
      (by simp [Failure.bandFailed, String.toList_append]) (by decide)
  | unary _ h => exact Value.unary_not_aboutExtents h
  | binary _ _ h =>
    intro hextents
    obtain ⟨g, k, hg, hk, hdiffer⟩ := Value.binary_aboutExtents h hextents
    cases hm with
    | binary _ hleft hright =>
      obtain ⟨hgwidth, hgheight⟩ := huniform.raster hleft hg
      obtain ⟨hkwidth, hkheight⟩ := huniform.raster hright hk
      exact hdiffer ⟨hgwidth.trans hkwidth.symm, hgheight.trans hkheight.symm⟩

/-- Neither is that of a run, whatever the text. -/
theorem Source.Uniform.run_not_aboutExtents [Host] (huniform : env.source.Uniform width height)
    {text : String} (hf : (env.run text memo).value = .error f) : ¬ f.AboutExtents := by
  by_cases hread : (parse text).faults = []
  · rw [run_eq_walkProgram hread] at hf
    have hss := isStatement_of_mem_parse text
    obtain ⟨m, front, hpart, hraises⟩ := walkProgram_exists_failsAt hss rfl hf
    exact hraises.not_aboutExtents huniform (hpart.isExpression hss)
  · rw [run_of_faults hread] at hf
    obtain rfl := Value.error.inj hf
    exact Failure.not_aboutExtents "syntax error: " (by simp [Failure.ofFaults])
      (by simp [Failure.ofFaults, String.toList_append]) (by decide)

end

/-! ## Provenance -/

/-- An expression that yields a raster names a band, and all the bands that it names were had, with the
extents of the raster. The no-data value is that of the leftmost one, and so is the cell type unless it is
`Float32` or `Boolean`, which quotients and bit tests always have. So over a source of one size no text
ever fails because rasters differ in extents. -/
theorem raster_provenance [Host] (env : Environment) :
    (∀ (n : Node) (room : ℕ) (memo : Memo) (o : Outcome) (r : Grid), n.IsExpression →
      n.walkWithin env room memo = .ok o → o.value = .raster r →
      (∀ band ∈ n.bands, ∃ g, o.memo.lookup band = some g ∧ g.width = r.width ∧ g.height = r.height) ∧
      (∃ band g, n.bands.head? = some band ∧ o.memo.lookup band = some g ∧
        r.noData = g.noData ∧ r.cellType ∈ [g.cellType, .float32, .boolean]) ∧
      (∀ left right, n = .binary "/" left right → r.cellType = .float32) ∧
      ∀ left right, n = .binary "==" left right → r.cellType = .boolean) ∧
    ∀ width height, env.source.Uniform width height → ∀ text memo f,
      (env.run text memo).value = .error f ∨ (env.runChecked text memo).result = .error (.failure f) →
      f.kind ≠ .dimensionMismatch ∧
        ¬ "mask dimensions differ".toList <+: f.message.toList := by
  refine ⟨fun n room memo o r hn ho hr => ?_, fun width height huniform text memo f hf => ?_⟩
  · obtain rfl := eq_walk_of_walkWithin ho
    have hcomes := walk_comesFrom hn hr
    have hresults {op : String} {left right : Node} (h : n = .binary op left right) :
        ∃ g, Grid.Results op g r := by
      rw [h] at hr
      rcases Value.binary_eq_raster (walk_binary_eq_raster hr).1 with ⟨g, _, -, -, hg⟩ |
        ⟨_, g, -, -, hg⟩ | ⟨g, _, -, -, -, hg⟩ <;> exact ⟨g, hg⟩
    obtain ⟨band, g, hhead, hlookup, hg⟩ := hcomes.leftmost
    refine ⟨hcomes.extents, ⟨band, g, hhead, hlookup, hg.noData, hg.cellType⟩, ?_, ?_⟩
    · intro left right h
      obtain ⟨g, hg⟩ := hresults h
      exact hg.quotient rfl
    · intro left right h
      obtain ⟨g, hg⟩ := hresults h
      exact hg.test rfl
  · have hvalue : (env.run text memo).value = .error f := by
      rcases hf with hf | hf
      · exact hf
      · exact (runChecked_failure_iff.mp hf).1
    exact not_or.mp (huniform.run_not_aboutExtents hvalue)

/-- Twice a band divided by another one. -/
def doubledQuotient : Node := .binary "/" (.binary "*" (.number 2) (.band "q")) (.band "r")

theorem doubledQuotient_isExpression : doubledQuotient.IsExpression :=
  .binary _ (.binary _ (.number 2) (.band "q")) (.band "r")

theorem Source.allBut_uniform (missing : String) (g : Grid) :
    (allBut missing g).Uniform g.width g.height := by
  intro band k hk
  unfold allBut at hk
  split at hk
  · cases hk
  · obtain rfl := Except.ok.inj hk
    exact ⟨rfl, rfl⟩

/-- A quotient of two bands, and a text that fails because of a band. -/
theorem raster_provenance_doubledQuotient :
    doubledQuotient.IsExpression ∧ (Source.allBut "p" oneCell).Uniform 1 1 ∧
    (∃ r, (Environment.evaluate ⟨.ieee, Source.allBut "p" oneCell⟩ doubledQuotient).value = .raster r ∧
      r.width = 1 ∧ r.height = 1 ∧ r.noData = 0 ∧ r.cellType = .float32) ∧
    (Environment.run ⟨.ieee, Source.allBut "p" oneCell⟩ "q # (r - p)" []).value =
      .error (.bandFailed "p") ∧
    (Failure.bandFailed "p").kind ≠ .dimensionMismatch := by
  obtain ⟨hrasters, hfailures⟩ := raster_provenance ⟨.ieee, Source.allBut "p" oneCell⟩
  have huniform := Source.allBut_uniform "p" oneCell
  have hread : (parse "q # (r - p)").faults = [] := by decide +kernel
  have hfails : (Environment.run ⟨.ieee, Source.allBut "p" oneCell⟩ "q # (r - p)" []).value =
      .error (.bandFailed "p") := by
    rw [run_eq_walkProgram hread]
    exact (walkProgram_requests_of_unavailable (e := ⟨.notFound, "p", none⟩)
      (isStatement_of_mem_parse _) rfl (by decide +kernel) rfl).2
  obtain ⟨r, hr⟩ : ∃ r, (Environment.walk ⟨.ieee, Source.allBut "p" oneCell⟩ doubledQuotient).value =
      .raster r := ⟨_, rfl⟩
  have hroom : doubledQuotient.height ≤ Host.callRoom := by decide
  obtain ⟨-, ⟨band, g, hband, hg, hnoData, -⟩, hquotient, -⟩ :=
    hrasters doubledQuotient _ [] _ r doubledQuotient_isExpression (walkWithin_of_height_le hroom []) hr
  obtain rfl : "q" = band := Option.some.inj hband
  obtain rfl : oneCell = g := Option.some.inj hg
  obtain ⟨hwidth, hheight⟩ := huniform.raster doubledQuotient_isExpression hr
  exact ⟨doubledQuotient_isExpression, huniform,
    ⟨r, by rw [Environment.evaluate, evaluateWithin_of_height_le _ hroom, hr], hwidth, hheight, hnoData,
      hquotient _ _ rfl⟩, hfails,
    (hfailures 1 1 huniform _ [] _ (.inl hfails)).1⟩

end RasterAlgebra
