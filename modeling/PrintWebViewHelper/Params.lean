import Mathlib.Algebra.Order.Floor
import Mathlib.Data.Rat.Floor
import PrintWebViewHelper.Units

/-!
# Print parameters

The value types the helper passes around: `gfx::Size` and `gfx::Rect` for printer geometry,
`blink::WebSize` for what the renderer reports, and the IPC structs `PrintMsg_Print_Params`
and `PrintMsg_PrintPages_Params` the host fills in.

A `gfx::Size` never holds a negative side: its constructor stores zero instead.  `Size`
carries that as two fields, so every size the model builds is one the code could hold, and
`Size.make` is the clamping constructor.  A `WebSize` has no such invariant.

The `double` fields `dpi`, `min_shrink` and `max_shrink` are only tested for zero, compared
with a constant and truncated by `static_cast<int>`; they are rationals here, which every
finite `double` is, and on which those three operations are exact.  The infinities a host
could send are not modelled.

`static_cast<int>` of a `double` truncates toward zero, and is undefined when the truncated
value is no `int`.  `staticCastInt` is what x86 makes of that case: `INT_MIN`.  So `GetDPI` of
a valid resolution of `2^31` or more is `INT_MIN`, and the resolution is at least one only
below that (`getDPI_pos_of_isValid`).

## Main definitions

* `Size`, `Size.make`, `Rect`, `WebSize` — the geometry types.
* `PrintMsgPrintParams`, `PrintMsgPrintPagesParams` — the settings a print job runs with.
* `InInt`, `staticCastInt`, `Double` — 32-bit `int`s, the cast of a `double` to one, and a
  `double` that may be NaN.
* `getDPI` — the resolution every conversion divides by; `kPointsPerInch` on the Mac.
* `printMsgPrintParamsIsValid` — the admission check of the silent settings path.

## Main results

* `getDPI_pos_of_isValid` — valid settings below `2^31` dpi give a resolution of at least one.
* `getDPI_bounds_of_isValid` — and of at most `2^12` at most `2^12` dpi.
-/

namespace Printing

/-! ### Geometry types -/

/-- `gfx::Size`: a width and a height, neither negative. -/
structure Size where
  width : Int
  height : Int
  width_nonneg : 0 ≤ width
  height_nonneg : 0 ≤ height
  deriving DecidableEq

/-- The `gfx::Size(width, height)` constructor, and `SetSize`: a negative side is stored as
zero. -/
def Size.make (width height : Int) : Size :=
  ⟨max width 0, max height 0, le_max_right _ _, le_max_right _ _⟩

/-- `gfx::Size::IsEmpty`. -/
def Size.isEmpty (s : Size) : Bool := s.width == 0 || s.height == 0

@[simp] theorem Size.make_width (w h : Int) : (Size.make w h).width = max w 0 := rfl

@[simp] theorem Size.make_height (w h : Int) : (Size.make w h).height = max h 0 := rfl

theorem Size.make_of_nonneg {w h : Int} (hw : 0 ≤ w) (hh : 0 ≤ h) :
    Size.make w h = ⟨w, h, hw, hh⟩ := by
  simp [Size.make, max_eq_left hw, max_eq_left hh]

@[simp] theorem Size.make_width_height (s : Size) : Size.make s.width s.height = s :=
  Size.make_of_nonneg s.width_nonneg s.height_nonneg

/-- A side of a non-empty size is at least one. -/
theorem Size.one_le_of_not_isEmpty {s : Size} (h : s.isEmpty = false) :
    1 ≤ s.width ∧ 1 ≤ s.height := by
  have := s.width_nonneg; have := s.height_nonneg
  simp only [Size.isEmpty, Bool.or_eq_false_iff, beq_eq_false_iff_ne] at h
  omega

/-- `gfx::Rect`: an origin and a `gfx::Size`. -/
structure Rect where
  x : Int
  y : Int
  size : Size
  deriving DecidableEq

/-- `blink::WebSize`: two plain `int`s. -/
structure WebSize where
  width : Int
  height : Int
  deriving DecidableEq, Repr

/-- `blink::WebPrintScalingOption`. -/
inductive WebPrintScalingOption
  | none
  | fitToPrintableArea
  | sourceSize
  deriving DecidableEq, Repr

/-! ### The settings of a print job -/

/-- The fields of `PrintMsg_Print_Params` that the helper reads or writes. -/
structure PrintMsgPrintParams where
  pageSize : Size
  contentSize : Size
  printableArea : Rect
  marginTop : Int
  marginLeft : Int
  /-- A `double`: only tested, compared and truncated. -/
  dpi : ℚ
  minShrink : ℚ
  maxShrink : ℚ
  desiredDpi : Int
  documentCookie : Int
  selectionOnly : Bool
  printScalingOption : WebPrintScalingOption
  shouldPrintBackgrounds : Bool
  deriving DecidableEq

/-- `PrintMsg_PrintPages_Params`: the settings and the requested page numbers, empty for
every page. -/
structure PrintMsgPrintPagesParams where
  params : PrintMsgPrintParams
  pages : List Int
  deriving DecidableEq

/-- `PageSizeMargins`: a page layout in points.  Its fields are `double`s holding the integers
`ConvertUnit` returns, so every sum the code forms of them is exact. -/
structure PageSizeMargins where
  contentWidth : Int
  contentHeight : Int
  marginTop : Int
  marginRight : Int
  marginBottom : Int
  marginLeft : Int
  deriving DecidableEq, Repr

/-- `static_cast<int>` of a `double`: rounds toward zero. -/
def toIntTrunc (x : ℚ) : Int := if 0 ≤ x then ⌊x⌋ else ⌈x⌉

theorem toIntTrunc_nonneg {x : ℚ} (hx : 0 ≤ x) : 0 ≤ toIntTrunc x := by
  rw [toIntTrunc, if_pos hx]; exact Int.floor_nonneg.mpr hx

theorem one_le_toIntTrunc {x : ℚ} (hx : 1 ≤ x) : 1 ≤ toIntTrunc x := by
  rw [toIntTrunc, if_pos (by linarith)]; exact Int.le_floor.mpr (by exact_mod_cast hx)

/-- Truncation stays below a bound that is not negative. -/
theorem toIntTrunc_le {x : ℚ} {b : Int} (hx : x ≤ b) (hb : 0 ≤ b) : toIntTrunc x ≤ b := by
  unfold toIntTrunc
  split
  · exact Int.cast_le.mp ((Int.floor_le x).trans hx)
  · next hneg => exact (Int.ceil_le.mpr (by exact_mod_cast (not_le.mp hneg).le)).trans hb

/-- Truncation stays above a bound that is not positive. -/
theorem le_toIntTrunc {x : ℚ} {a : Int} (hx : a ≤ x) (ha : a ≤ 0) : a ≤ toIntTrunc x := by
  unfold toIntTrunc
  split
  · next hnonneg => exact ha.trans (Int.floor_nonneg.mpr hnonneg)
  · exact Int.cast_le.mp (hx.trans (Int.le_ceil x))

/-- Truncating an exact quotient of integers is the `int` division, which rounds toward
zero. -/
theorem toIntTrunc_intCast_div (n : Int) (d : Nat) : toIntTrunc ((n : ℚ) / d) = n.tdiv d := by
  rcases Nat.eq_zero_or_pos d with rfl | hd
  · simp [toIntTrunc]
  have hd' : (0 : ℚ) < d := by exact_mod_cast hd
  unfold toIntTrunc
  split
  · next hnn =>
    have hn : 0 ≤ n := by
      by_contra h
      exact hnn.not_lt (div_neg_of_neg_of_pos (by exact_mod_cast not_le.mp h) hd')
    rw [Rat.floor_intCast_div_natCast, Int.tdiv_eq_ediv hn (Int.ofNat_nonneg d)]
  · next hneg =>
    -- a negative quotient: the ceiling is the floor of the negation, negated
    have hn : 0 ≤ -n := by
      have : ¬0 ≤ (n : ℚ) := fun h => hneg (div_nonneg h hd'.le)
      exact_mod_cast neg_nonneg.mpr (not_le.mp this).le
    have hx : -((n : ℚ) / d) = ((-n : Int) : ℚ) / d := by push_cast; ring
    rw [← neg_neg ⌈(n : ℚ) / d⌉, ← Int.floor_neg, hx, Rat.floor_intCast_div_natCast,
      ← Int.tdiv_eq_ediv hn (Int.ofNat_nonneg d), Int.neg_tdiv, neg_neg]

/-- A value a 32-bit `int` holds, from `INT_MIN` to `INT_MAX`. -/
def InInt (x : Int) : Prop := -2 ^ 31 ≤ x ∧ x < 2 ^ 31

instance : DecidablePred InInt := fun _ => inferInstanceAs (Decidable (_ ∧ _))

/-- `static_cast<int>` of a `double`, as x86 computes it: the value truncated toward zero, and
`INT_MIN` (the "integer indefinite" of `cvttsd2si`) when that is no `int`, where C++ leaves
the result undefined. -/
def staticCastInt (x : ℚ) : Int := if InInt (toIntTrunc x) then toIntTrunc x else -2 ^ 31

theorem staticCastInt_of_inInt {x : ℚ} (h : InInt (toIntTrunc x)) :
    staticCastInt x = toIntTrunc x := if_pos h

/-- A `double` as `FitPrintParamsToPage` computes it: a finite value, taken exactly, or NaN.
The infinities its quotients by zero make are never selected, so they have no value here. -/
inductive Double
  | finite (x : ℚ)
  | nan
  deriving DecidableEq

namespace Double

/-- IEEE arithmetic on one `double`: a NaN stays NaN. -/
def map (f : ℚ → ℚ) : Double → Double
  | finite x => finite (f x)
  | nan => nan

/-- `static_cast<int>`: a NaN, like a value out of range, is `INT_MIN` on x86. -/
def toInt : Double → Int
  | finite x => staticCastInt x
  | nan => -2 ^ 31

/-- The cast to `int` is defined: the `double` is a number whose truncation is an `int`. -/
def CastInInt : Double → Prop
  | finite x => InInt (toIntTrunc x)
  | nan => False

instance : DecidablePred CastInInt := fun
  | finite x => inferInstanceAs (Decidable (InInt (toIntTrunc x)))
  | nan => inferInstanceAs (Decidable False)

@[simp] theorem map_finite (f : ℚ → ℚ) (x : ℚ) : (finite x).map f = finite (f x) := rfl

@[simp] theorem toInt_finite (x : ℚ) : (finite x).toInt = staticCastInt x := rfl

@[simp] theorem castInInt_finite (x : ℚ) : (finite x).CastInInt ↔ InInt (toIntTrunc x) := Iff.rfl

end Double

/-- `kMinDpi`: the resolution valid settings must exceed. -/
def kMinDpi : ℚ := 1

section
variable (osMacosx : Bool)

/-- `GetDPI`: on the Mac the printable area is in points and is not scaled; elsewhere the
printer's resolution, cast to `int`. -/
def getDPI (printParams : PrintMsgPrintParams) : Int :=
  if osMacosx then kPointsPerInch else staticCastInt printParams.dpi

end

/-- `PrintMsg_Print_Params_IsValid`. -/
def printMsgPrintParamsIsValid (params : PrintMsgPrintParams) : Bool :=
  !params.contentSize.isEmpty && !params.pageSize.isEmpty &&
    !params.printableArea.size.isEmpty && params.documentCookie != 0 &&
    params.desiredDpi != 0 && params.maxShrink != 0 && params.minShrink != 0 &&
    params.dpi != 0 && decide (params.marginTop ≥ 0) && decide (params.marginLeft ≥ 0) &&
    decide (params.dpi > kMinDpi) && params.documentCookie != 0

/-- What the validity check establishes, field by field. -/
theorem printMsgPrintParamsIsValid_iff (p : PrintMsgPrintParams) :
    printMsgPrintParamsIsValid p = true ↔
      p.contentSize.isEmpty = false ∧ p.pageSize.isEmpty = false ∧
        p.printableArea.size.isEmpty = false ∧ p.documentCookie ≠ 0 ∧ p.desiredDpi ≠ 0 ∧
        p.maxShrink ≠ 0 ∧ p.minShrink ≠ 0 ∧ 0 ≤ p.marginTop ∧ 0 ≤ p.marginLeft ∧ 1 < p.dpi := by
  simp only [printMsgPrintParamsIsValid, kMinDpi, Bool.and_eq_true, Bool.not_eq_true',
    bne_iff_ne, ne_eq, decide_eq_true_eq, ge_iff_le, gt_iff_lt]
  constructor
  · rintro ⟨⟨⟨⟨⟨⟨⟨⟨⟨⟨⟨h1, h2⟩, h3⟩, h4⟩, h5⟩, h6⟩, h7⟩, -⟩, h9⟩, h10⟩, h11⟩, -⟩
    exact ⟨h1, h2, h3, h4, h5, h6, h7, h9, h10, h11⟩
  · rintro ⟨h1, h2, h3, h4, h5, h6, h7, h9, h10, h11⟩
    exact ⟨⟨⟨⟨⟨⟨⟨⟨⟨⟨⟨h1, h2⟩, h3⟩, h4⟩, h5⟩, h6⟩, h7⟩, by linarith⟩, h9⟩, h10⟩, h11⟩, h4⟩

/-- A resolution from `1` to below `2^31` casts to its truncation, which is at least one and
at most the resolution. -/
private theorem staticCastInt_dpi {dpi : ℚ} (h1 : 1 < dpi) (h2 : dpi < 2 ^ 31) :
    staticCastInt dpi = toIntTrunc dpi ∧ 1 ≤ toIntTrunc dpi ∧ (toIntTrunc dpi : ℚ) ≤ dpi := by
  have hpos : 0 ≤ dpi := by linarith
  have hle : (toIntTrunc dpi : ℚ) ≤ dpi := by rw [toIntTrunc, if_pos hpos]; exact Int.floor_le dpi
  have hone := one_le_toIntTrunc h1.le
  have hlt : toIntTrunc dpi < 2 ^ 31 := by exact_mod_cast hle.trans_lt h2
  exact ⟨staticCastInt_of_inInt ⟨by omega, hlt⟩, hone, hle⟩

/-- **Valid settings give a resolution of at least one**, on every platform, as long as the
resolution is below `2^31`: `dpi > 1` survives the truncation. -/
theorem getDPI_pos_of_isValid (osMacosx : Bool) {p : PrintMsgPrintParams}
    (h : printMsgPrintParamsIsValid p = true) (hdpi : p.dpi < 2 ^ 31) : 1 ≤ getDPI osMacosx p := by
  unfold getDPI
  split
  · decide
  · obtain ⟨hcast, hone, -⟩ :=
      staticCastInt_dpi ((printMsgPrintParamsIsValid_iff p).mp h).2.2.2.2.2.2.2.2.2 hdpi
    rw [hcast]; exact hone

/-- Off the Mac a resolution strictly between -1 and 1 truncates to a `GetDPI` of zero. -/
theorem getDPI_eq_zero {p : PrintMsgPrintParams} (hlo : -1 < p.dpi) (hhi : p.dpi < 1) :
    getDPI false p = 0 := by
  have htrunc : toIntTrunc p.dpi = 0 := by
    unfold toIntTrunc
    split
    · exact Int.floor_eq_zero_iff.mpr ⟨‹_›, hhi⟩
    · exact Int.ceil_eq_zero_iff.mpr ⟨hlo, by linarith⟩
  simp only [getDPI, Bool.false_eq_true, if_false]
  rw [staticCastInt_of_inInt (by rw [htrunc]; decide), htrunc]

/-- Valid settings of at most `2^12` dpi give a resolution from one to `2^12`. -/
theorem getDPI_bounds_of_isValid (osMacosx : Bool) {p : PrintMsgPrintParams}
    (h : printMsgPrintParamsIsValid p = true) (hdpi : p.dpi ≤ 2 ^ 12) :
    1 ≤ getDPI osMacosx p ∧ getDPI osMacosx p ≤ 2 ^ 12 := by
  unfold getDPI
  split
  · decide
  · obtain ⟨hcast, hone, hle⟩ := staticCastInt_dpi
      ((printMsgPrintParamsIsValid_iff p).mp h).2.2.2.2.2.2.2.2.2 (by linarith)
    rw [hcast]
    exact ⟨hone, by exact_mod_cast hle.trans hdpi⟩

end Printing
