import Mathlib.Algebra.Order.Field.Basic
import PrintWebViewHelper.Geometry

/-!
# The reconciled layout

What `CalculatePrintParamsForCss` returns, and what `CalculatePageLayoutFromPrintParams`
makes of it in points, over the unbounded model.

`GetCssPrintParams` keeps the margins non-negative when the printer's and the frame's are.
Fitting picks a finite scale factor whenever the printer's page has a height, and that factor
shrinks the CSS page into the printer's page.  The returned page is laid out in the
orientation of the CSS page, and in points the content and the two margins, rounded one by
one, add up to the page rounded once within a point; exactly so when the resolution divides
`kPointsPerInch`, as on the Mac.  `Reconciliation` carries these to the code's 32-bit
arithmetic.

## Main results

* `getCssPrintParams_margins_nonneg` — the CSS parameters have non-negative margins.
* `fitScaleFactor_spec` — on a printer's page with a height, the scale factor is a number from
  zero to one that fits the CSS page in.
* `calculatePrintParamsForCss_orientation` — **the page is laid out landscape exactly when the
  CSS page is**, unless the printer's page is square.
* `calculatePageLayoutFromPrintParams_closes` — a layout in points adds up to its page within
  a point each way.
-/

namespace Printing

section
variable {osMacosx : Bool}

/-! ### Margins -/

/-- The frame, if any, reports non-negative top and left margins for this page. -/
def CssMarginsNonneg (osMacosx : Bool) (frame : Option CssFrame) (pageIndex : Int)
    (pageParams : PrintMsgPrintParams) : Prop :=
  ∀ f, frame = some f →
    0 ≤ (f.pageSizeAndMarginsInPixels pageIndex (defaultPageBox osMacosx pageParams)).marginTop ∧
      0 ≤ (f.pageSizeAndMarginsInPixels pageIndex (defaultPageBox osMacosx pageParams)).marginLeft

/-- The printer's margins in pixels are non-negative. -/
theorem defaultPageBox_margins_nonneg {pageParams : PrintMsgPrintParams}
    (hdpi : 1 ≤ getDPI osMacosx pageParams) (hmt : 0 ≤ pageParams.marginTop)
    (hml : 0 ≤ pageParams.marginLeft) :
    0 ≤ (defaultPageBox osMacosx pageParams).marginTop ∧
      0 ≤ (defaultPageBox osMacosx pageParams).marginLeft :=
  ⟨convertUnit_nonneg (by omega) (by decide) hmt, convertUnit_nonneg (by omega) (by decide) hml⟩

/-- One activation of `GetCssPrintParams` keeps the margins non-negative, given a page box
with non-negative margins and a fallback that keeps them. -/
theorem cssPrintParamsStep_margins_nonneg {frame : Option CssFrame} {pageIndex : Int}
    {pageParams q : PrintMsgPrintParams} {fallback : Option PrintMsgPrintParams}
    (hdpi : 1 ≤ getDPI osMacosx pageParams)
    (hbox : 0 ≤ (cssPageBox osMacosx frame pageIndex pageParams).marginTop ∧
      0 ≤ (cssPageBox osMacosx frame pageIndex pageParams).marginLeft)
    (hfallback : ∀ q, fallback = some q → 0 ≤ q.marginTop ∧ 0 ≤ q.marginLeft)
    (h : cssPrintParamsStep osMacosx frame pageIndex pageParams fallback = some q) :
    0 ≤ q.marginTop ∧ 0 ≤ q.marginLeft := by
  simp only [cssPrintParamsStep] at h
  split at h
  · split at h
    · cases h
    · exact hfallback q h
  · cases h
    exact ⟨convertUnit_nonneg (by decide) (by omega) hbox.1,
      convertUnit_nonneg (by decide) (by omega) hbox.2⟩

/-- `GetCssPrintParams` keeps the margins non-negative: they are non-negative pixel margins,
the frame's or the printer's, converted back. -/
theorem getCssPrintParams_margins_nonneg {frame : Option CssFrame} {pageIndex : Int}
    {pageParams q : PrintMsgPrintParams} (hdpi : 1 ≤ getDPI osMacosx pageParams)
    (hmt : 0 ≤ pageParams.marginTop) (hml : 0 ≤ pageParams.marginLeft)
    (hcss : CssMarginsNonneg osMacosx frame pageIndex pageParams)
    (h : getCssPrintParams osMacosx frame pageIndex pageParams = some q) :
    0 ≤ q.marginTop ∧ 0 ≤ q.marginLeft := by
  have hdefault : 0 ≤ (cssPageBox osMacosx none pageIndex pageParams).marginTop ∧
      0 ≤ (cssPageBox osMacosx none pageIndex pageParams).marginLeft :=
    defaultPageBox_margins_nonneg hdpi hmt hml
  have hbox : 0 ≤ (cssPageBox osMacosx frame pageIndex pageParams).marginTop ∧
      0 ≤ (cssPageBox osMacosx frame pageIndex pageParams).marginLeft := by
    cases frame with
    | none => exact hdefault
    | some f => exact hcss f rfl
  unfold getCssPrintParams at h
  -- the recursive call at a null frame has no fallback of its own
  exact cssPrintParamsStep_margins_nonneg hdpi hbox
    (fun _ hq => cssPrintParamsStep_margins_nonneg hdpi hdefault
      (fun _ h => Option.noConfusion h) hq) h

/-- **The scale factor on a printer's page with a height** is a number from zero to one that
scales the CSS page into the printer's page: a ratio `d / c` scales `c` back to `d`, the ratio
of a side that does not fit is below one, and the `0 / 0` that would be NaN needs a printer's
page of height zero. -/
theorem fitScaleFactor_spec (defaultPageSize cssPageSize : Size)
    (hh : 0 < defaultPageSize.height) :
    ∃ s, fitScaleFactor defaultPageSize cssPageSize = .finite s ∧ 0 ≤ s ∧ s ≤ 1 ∧
      (cssPageSize.width : ℚ) * s ≤ defaultPageSize.width ∧
      (cssPageSize.height : ℚ) * s ≤ defaultPageSize.height := by
  obtain ⟨dw, dh, hdw, hdh⟩ := defaultPageSize
  obtain ⟨cw, ch, hcw, hch⟩ := cssPageSize
  unfold fitScaleFactor
  dsimp only at hh ⊢
  have hdw' : (0 : ℚ) ≤ dw := by exact_mod_cast hdw
  have hdh' : (0 : ℚ) ≤ dh := by exact_mod_cast hdh
  have hcw' : (0 : ℚ) ≤ cw := by exact_mod_cast hcw
  have hch' : (0 : ℚ) ≤ ch := by exact_mod_cast hch
  -- a ratio `d / c` scales `c` back to exactly `d`, or to zero when `c` is zero
  have hback : ∀ d c : ℚ, 0 ≤ d → 0 ≤ c → c * (d / c) ≤ d := fun d c hd hc => by
    rcases hc.eq_or_lt with rfl | hc
    · rw [zero_mul]; exact hd
    · rw [mul_div_cancel₀ _ hc.ne']
  -- the ratio of a side that does not fit is below one
  have hbelow : ∀ d c : Int, 0 ≤ d → d < c → (d : ℚ) / c < 1 := fun d c hd hdc =>
    (div_lt_one (by exact_mod_cast hd.trans_lt hdc)).mpr (by exact_mod_cast hdc)
  split
  · next hshrink =>
    split
    · next hw =>
      subst hw
      exact ⟨_, rfl, div_nonneg hdh' hch', (hbelow _ _ hdh (hshrink.resolve_left (by omega))).le,
        by rw [Int.cast_zero, zero_mul]; exact hdw', hback _ _ hdh' hch'⟩
    · split
      · next hh0 =>
        subst hh0
        rw [if_neg (by omega)]
        exact ⟨_, rfl, div_nonneg hdw' hcw',
          (hbelow _ _ hdw (hshrink.resolve_right (by omega))).le, hback _ _ hdw' hcw',
          by rw [Int.cast_zero, zero_mul]; exact hdh'⟩
      · -- both sides positive: the smaller ratio, below one along the side that does not fit
        refine ⟨_, rfl, ?_⟩
        split
        · next hlt =>
          refine ⟨div_nonneg hdw' hcw', ?_, hback _ _ hdw' hcw',
            (mul_le_mul_of_nonneg_left hlt.le hch').trans (hback _ _ hdh' hch')⟩
          rcases hshrink with h | h
          · exact (hbelow _ _ hdw h).le
          · exact (hlt.trans (hbelow _ _ hdh h)).le
        · next hlt =>
          refine ⟨div_nonneg hdh' hch', ?_,
            (mul_le_mul_of_nonneg_left (not_lt.mp hlt) hcw').trans (hback _ _ hdw' hcw'),
            hback _ _ hdh' hch'⟩
          rcases hshrink with h | h
          · exact (not_lt.mp hlt).trans (hbelow _ _ hdw h).le
          · exact (hbelow _ _ hdh h).le
  · next hshrink =>
    rw [not_or, not_lt, not_lt] at hshrink
    exact ⟨1, rfl, zero_le_one, le_rfl, by rw [mul_one]; exact_mod_cast hshrink.1,
      by rw [mul_one]; exact_mod_cast hshrink.2⟩

/-- Fitting lays the CSS page out on the printer's page. -/
theorem fitPrintParamsToPage_pageSize (pageParams paramsToFit : PrintMsgPrintParams) :
    (fitPrintParamsToPage pageParams paramsToFit).2.pageSize = pageParams.pageSize := by
  unfold fitPrintParamsToPage
  split
  · next heq => exact heq.symm
  · rfl

/-! ### Orientation -/

/-- `EnsureOrientationMatches` leaves the printer's page landscape exactly when the CSS page is,
unless the printer's page is square. -/
theorem ensureOrientationMatches_landscape {cssParams pageParams : PrintMsgPrintParams}
    (hsq : pageParams.pageSize.width ≠ pageParams.pageSize.height) :
    let q := ensureOrientationMatches cssParams pageParams
    q.pageSize.height < q.pageSize.width ↔
      cssParams.pageSize.height < cssParams.pageSize.width := by
  have hw := pageParams.pageSize.width_nonneg
  have hh := pageParams.pageSize.height_nonneg
  unfold ensureOrientationMatches
  split
  · next h => exact Iff.of_eq h
  · next h =>
    simp only [Size.make_width, Size.make_height, max_eq_left hw, max_eq_left hh]
    by_cases h₁ : pageParams.pageSize.height < pageParams.pageSize.width <;>
      by_cases h₂ : cssParams.pageSize.height < cssParams.pageSize.width <;> simp_all <;> omega

/-- **The page is laid out in the orientation its CSS asks for.**  Whether CSS margins are
ignored or not and whether the page is fitted or not, `CalculatePrintParamsForCss` returns a
landscape page exactly when the page `GetCssPrintParams` reconciled with the frame's `@page`
rules is landscape, as long as the printer's page is not square: the printer's page is turned
to match, and fitting lays the CSS page out on the turned printer's page. -/
theorem calculatePrintParamsForCss_orientation {frame : Option CssFrame} {pageIndex : Int}
    {pageParams cssParams : PrintMsgPrintParams} (ignoreCssMargins fitToPage : Bool)
    (hcss : getCssPrintParams osMacosx frame pageIndex pageParams = some cssParams)
    (hsq : pageParams.pageSize.width ≠ pageParams.pageSize.height) :
    ∀ params scaleFactor, calculatePrintParamsForCss osMacosx frame pageIndex pageParams
        ignoreCssMargins fitToPage = some (params, scaleFactor) →
      (params.pageSize.height < params.pageSize.width ↔
        cssParams.pageSize.height < cssParams.pageSize.width) := by
  intro params scaleFactor h
  -- the page returned is the CSS page, or the printer's page turned to match it
  suffices hpage : params.pageSize = cssParams.pageSize ∨
      params.pageSize = (ensureOrientationMatches cssParams pageParams).pageSize by
    rcases hpage with hp | hp
    · rw [hp]
    · rw [hp]
      exact ensureOrientationMatches_landscape hsq
  rw [calculatePrintParamsForCss, hcss] at h
  cases ignoreCssMargins <;> cases fitToPage <;>
    obtain ⟨rfl, -⟩ := Prod.mk.inj (Option.some.inj h)
  · exact .inl rfl
  · exact .inr (fitPrintParamsToPage_pageSize _ _)
  · exact .inl rfl
  · exact .inr rfl

/-- A landscape `@page` of 1056 by 816 pixels on portrait Letter in points: the reconciled page
is landscape, and so is the fitted layout. -/
theorem calculatePrintParamsForCss_orientation_landscape :
    let pageParams : PrintMsgPrintParams :=
      { pageSize := Size.make 612 792, contentSize := Size.make 576 756,
        printableArea := ⟨0, 0, Size.make 612 792⟩, marginTop := 18, marginLeft := 18,
        dpi := 72, minShrink := 1, maxShrink := 2, desiredDpi := 72, documentCookie := 1,
        selectionOnly := false, printScalingOption := .fitToPrintableArea,
        shouldPrintBackgrounds := false }
    let frame : CssFrame := ⟨fun _ box => { box with pageSize := ⟨1056, 816⟩ }⟩
    ∃ cssParams, getCssPrintParams false (some frame) 0 pageParams = some cssParams ∧
      cssParams.pageSize.height < cssParams.pageSize.width ∧
      pageParams.pageSize.width ≠ pageParams.pageSize.height ∧
      ∀ params scaleFactor, calculatePrintParamsForCss false (some frame) 0 pageParams false true =
          some (params, scaleFactor) →
        (params.pageSize.height < params.pageSize.width ↔
          cssParams.pageSize.height < cssParams.pageSize.width) :=
  ⟨_, rfl, by decide, by decide, calculatePrintParamsForCss_orientation false true rfl (by decide)⟩

/-! ### Closure in points -/

/-- **A layout in points adds up to its page within a point each way**, and exactly when the
resolution divides `kPointsPerInch`. -/
theorem calculatePageLayoutFromPrintParams_closes (params : PrintMsgPrintParams)
    (hdpi : 1 ≤ getDPI osMacosx params) :
    let l := calculatePageLayoutFromPrintParams osMacosx params
    let dpi := getDPI osMacosx params
    (|l.contentWidth + l.marginLeft + l.marginRight -
        convertUnit params.pageSize.width dpi kPointsPerInch| ≤ 1 ∧
      |l.contentHeight + l.marginTop + l.marginBottom -
        convertUnit params.pageSize.height dpi kPointsPerInch| ≤ 1) ∧
    (dpi ∣ kPointsPerInch →
      l.contentWidth + l.marginLeft + l.marginRight =
          convertUnit params.pageSize.width dpi kPointsPerInch ∧
        l.contentHeight + l.marginTop + l.marginBottom =
          convertUnit params.pageSize.height dpi kPointsPerInch) := by
  intro l dpi
  have ho : 0 < dpi := by omega
  have hn : (0 : Int) < kPointsPerInch := by decide
  refine ⟨⟨abs_le.mpr (convertUnit_add_add_sub ho hn (by ring)),
    abs_le.mpr (convertUnit_add_add_sub ho hn (by ring))⟩, fun hdvd => ?_⟩
  simp only [l, calculatePageLayoutFromPrintParams, convertUnit_of_dvd ho hn hdvd]
  constructor <;> ring

end

end Printing
