import PrintWebViewHelper.CssFallback
import PrintWebViewHelper.IntRange

/-!
# The reconciliation in the code's arithmetic

The model of the geometry computes with unbounded integers and exact rationals; the code with
32-bit `int`s and `double`s.  Where every `int` the code forms is in range and every cast it
makes is defined (`ReconcilesInInt`), the two compute the same values, up to the rounding of
the fit's `double`s.  `IntRange` shows that settings of at most `2^16` device units at up to
`2^12` dpi, with a non-empty page, and frames reporting at most `2^16` pixels each way keep the
code there; outside those bounds a web page's `@page` rule can overflow it
(`getCssPrintParams_overflows`), and a printer's page of height zero makes its fit cast a NaN.

Each result here is stated within those bounds and says first that the reconciliation stays in
range, then what it returns: the margins stay non-negative, a frame with no `@page` rule gives
the printer's page back, and the layout in points closes up to a point.

## Main results

* `calculatePrintParamsForCss_margins_nonneg` — **the reconciled margins are non-negative.**
* `calculatePrintParamsForCss_of_noCss` — **with no override, the reconciled page size is the
  printer's**, the margins survive the round trip up to `kPixelsPerInch`, and the call returns
  exactly when the pixel content is at least one pixel each way.
* `computePageLayoutInPointsForCss_closes` — **the layout of every reconciled page closes up to
  a point.**
-/

namespace Printing

section
variable {osMacosx : Bool}

/-! ### Margins -/

/-- **The reconciled margins are non-negative**, whether CSS margins are ignored or not and
whether the page is fitted or not, for bounded settings with a non-empty page and non-negative
margins and a bounded frame, if any, reporting non-negative margins; and the code computes
them in range.  This is all of a well-formed layout that reconciliation keeps: the content can
come back empty, and need not fit in the page. -/
theorem calculatePrintParamsForCss_margins_nonneg {frame : Option CssFrame} {pageIndex : Int}
    {pageParams : PrintMsgPrintParams} (ignoreCssMargins fitToPage : Bool)
    (hdpi : 1 ≤ getDPI osMacosx pageParams ∧ getDPI osMacosx pageParams ≤ 2 ^ 12)
    (hwithin : pageParams.Within (2 ^ 16)) (hpage : pageParams.pageSize.isEmpty = false)
    (hframe : FrameWithin osMacosx frame pageIndex pageParams)
    (hmt : 0 ≤ pageParams.marginTop) (hml : 0 ≤ pageParams.marginLeft)
    (hcss : CssMarginsNonneg osMacosx frame pageIndex pageParams) :
    ReconcilesInInt osMacosx frame pageIndex pageParams ignoreCssMargins fitToPage ∧
      ∀ params scaleFactor, calculatePrintParamsForCss osMacosx frame pageIndex pageParams
          ignoreCssMargins fitToPage = some (params, scaleFactor) →
        0 ≤ params.marginTop ∧ 0 ≤ params.marginLeft := by
  have hbox := cssPageBox_pixelBounded hdpi hwithin hframe
  refine ⟨(calculatePrintParamsForCss_within hdpi hwithin hpage hbox ignoreCssMargins
    fitToPage).1, fun params scaleFactor h => ?_⟩
  cases hc : getCssPrintParams osMacosx frame pageIndex pageParams with
  | none => simp [calculatePrintParamsForCss, hc] at h
  | some cssParams =>
    have hcss' := getCssPrintParams_margins_nonneg hdpi.1 hmt hml hcss hc
    have horient :
        (ensureOrientationMatches cssParams pageParams).marginTop = pageParams.marginTop ∧
          (ensureOrientationMatches cssParams pageParams).marginLeft = pageParams.marginLeft := by
      unfold ensureOrientationMatches; split <;> exact ⟨rfl, rfl⟩
    rw [calculatePrintParamsForCss, hc] at h
    cases ignoreCssMargins <;> cases fitToPage <;>
      obtain ⟨rfl, -⟩ := Prod.mk.inj (Option.some.inj h)
    · exact hcss'
    · -- the fit, in range, keeps non-negative margins non-negative
      obtain ⟨-, -, hcw, hch, hmt', hml'⟩ := (getCssPrintParams_within hdpi hwithin hbox).2 _ hc
      obtain ⟨hw, hh, -⟩ := ensureOrientationMatches_within cssParams hwithin
      obtain ⟨-, -, -, -, -, hft, hfl⟩ :=
        fitPrintParamsToPage_bounds (ensureOrientationMatches cssParams pageParams) cssParams
          (m := 2 ^ 22) (ensureOrientationMatches_height_pos cssParams hpage) hmt' hml'
          (by omega) (by omega) (by omega) (by omega)
      exact ⟨hft hcss'.1, hfl hcss'.2⟩
    · exact ⟨horient.1 ▸ hmt, horient.2 ▸ hml⟩
    · exact ⟨horient.1 ▸ hmt, horient.2 ▸ hml⟩

end

/-- `calculatePrintParamsForCss_margins_nonneg` for Letter at 600 dpi fitted to an A4 `@page`
with half-inch margins. -/
theorem calculatePrintParamsForCss_margins_nonneg_a4 :
    let pageParams : PrintMsgPrintParams :=
      { pageSize := Size.make 5100 6600, contentSize := Size.make 4500 6000,
        printableArea := ⟨0, 0, Size.make 5100 6600⟩, marginTop := 300, marginLeft := 300,
        dpi := 600, minShrink := 1, maxShrink := 2, desiredDpi := 600, documentCookie := 1,
        selectionOnly := false, printScalingOption := .fitToPrintableArea,
        shouldPrintBackgrounds := false }
    let frame : CssFrame := ⟨fun _ _ => ⟨⟨794, 1123⟩, 48, 48, 48, 48⟩⟩
    (1 ≤ getDPI false pageParams ∧ getDPI false pageParams ≤ 2 ^ 12) ∧
      pageParams.Within (2 ^ 16) ∧ pageParams.pageSize.isEmpty = false ∧
      FrameWithin false (some frame) 0 pageParams ∧ 0 ≤ pageParams.marginTop ∧
      0 ≤ pageParams.marginLeft ∧ CssMarginsNonneg false (some frame) 0 pageParams ∧
      (ReconcilesInInt false (some frame) 0 pageParams false true ∧
        ∀ params scaleFactor, calculatePrintParamsForCss false (some frame) 0 pageParams false
            true = some (params, scaleFactor) →
          0 ≤ params.marginTop ∧ 0 ≤ params.marginLeft) :=
  have hframe : FrameWithin false (some _) 0 _ := fun _ hf => by cases hf; decide
  have hcss : CssMarginsNonneg false (some _) 0 _ := fun _ hf => by cases hf; decide
  ⟨by decide, by decide, by decide, hframe, by decide, by decide, hcss,
    calculatePrintParamsForCss_margins_nonneg false true (by decide) (by decide) (by decide)
      hframe (by decide) (by decide) hcss⟩

/-- Content need not survive: ignoring CSS margins, a 10 by 10 pixel `@page` on a 100 by 100
page with 10-unit printer margins (96 dpi) leaves `10 - 10 - 10` of content, which the
`gfx::Size` clamps to an empty 0 by 0. -/
theorem calculatePrintParamsForCss_content_clamped :
    let pageParams : PrintMsgPrintParams :=
      { pageSize := Size.make 100 100, contentSize := Size.make 80 80,
        printableArea := ⟨0, 0, Size.make 100 100⟩, marginTop := 10, marginLeft := 10,
        dpi := 96, minShrink := 1, maxShrink := 2, desiredDpi := 72, documentCookie := 1,
        selectionOnly := false, printScalingOption := .sourceSize,
        shouldPrintBackgrounds := false }
    let frame : CssFrame := ⟨fun _ _ => ⟨⟨10, 10⟩, 0, 0, 0, 0⟩⟩
    1 ≤ getDPI false pageParams ∧ 1 ≤ pageParams.contentSize.width ∧
      1 ≤ pageParams.contentSize.height ∧ 0 ≤ pageParams.marginTop ∧
      0 ≤ pageParams.marginLeft ∧
      0 ≤ pageParams.pageSize.width - pageParams.contentSize.width - pageParams.marginLeft ∧
      0 ≤ pageParams.pageSize.height - pageParams.contentSize.height - pageParams.marginTop ∧
      (calculatePrintParamsForCss false (some frame) 0 pageParams true false).map
        (·.1.contentSize) = some (Size.make 0 0) := by
  decide

/-! ### No override -/

section
variable {osMacosx : Bool}

/-- **Reconciliation with no CSS override.**  For valid settings of at most `2^16` device units
at up to `2^12` dpi and a frame that overrides nothing, the code computes in range, and the
call returns exactly when the printer's geometry keeps at least a pixel of content each way;
when it does, the page size is the printer's, no scale factor is set, and at a resolution up
to `kPixelsPerInch` the top and left margins come back unchanged.  The content size is not
promised: it goes through three separately rounded conversions. -/
theorem calculatePrintParamsForCss_of_noCss {frame : Option CssFrame} {pageIndex : Int}
    {pageParams : PrintMsgPrintParams} (hvalid : printMsgPrintParamsIsValid pageParams = true)
    (hdpi : pageParams.dpi ≤ 2 ^ 12) (hwithin : pageParams.Within (2 ^ 16))
    (hframe : OverridesNothing osMacosx frame pageIndex pageParams) :
    ReconcilesInInt osMacosx frame pageIndex pageParams false false ∧
      ((calculatePrintParamsForCss osMacosx frame pageIndex pageParams false false).isSome ↔
        DefaultBoxHasContent osMacosx pageParams) ∧
      ∀ params scaleFactor,
        calculatePrintParamsForCss osMacosx frame pageIndex pageParams false false =
          some (params, scaleFactor) →
        scaleFactor = none ∧ params.pageSize = pageParams.pageSize ∧
          (getDPI osMacosx pageParams ≤ kPixelsPerInch →
            params.marginTop = pageParams.marginTop ∧ params.marginLeft = pageParams.marginLeft) := by
  have hdpi' := getDPI_bounds_of_isValid osMacosx hvalid hdpi
  -- the frame leaves the printer's box, whose pixel values are bounded
  have hbox : (cssPageBox osMacosx frame pageIndex pageParams).All
      (PixelBounded (getDPI osMacosx pageParams)) := by
    rw [cssPageBox_of_overridesNothing hframe]
    exact defaultPageBox_pixelBounded hdpi' hwithin
  exact ⟨(calculatePrintParamsForCss_within hdpi' hwithin
      ((printMsgPrintParamsIsValid_iff pageParams).mp hvalid).2.1 hbox false false).1,
    calculatePrintParamsForCss_of_overridesNothing hdpi'.1 hframe⟩

end

/-- `calculatePrintParamsForCss_of_noCss` at Letter in points, 72 dpi, with no frame. -/
theorem calculatePrintParamsForCss_of_noCss_letter :
    let pageParams : PrintMsgPrintParams :=
      { pageSize := Size.make 612 792, contentSize := Size.make 576 756,
        printableArea := ⟨0, 0, Size.make 612 792⟩, marginTop := 18, marginLeft := 18,
        dpi := 72, minShrink := 1, maxShrink := 2, desiredDpi := 72, documentCookie := 1,
        selectionOnly := false, printScalingOption := .sourceSize,
        shouldPrintBackgrounds := false }
    printMsgPrintParamsIsValid pageParams = true ∧ pageParams.dpi ≤ 2 ^ 12 ∧
      pageParams.Within (2 ^ 16) ∧ OverridesNothing false none 0 pageParams ∧
      (ReconcilesInInt false none 0 pageParams false false ∧
        ((calculatePrintParamsForCss false none 0 pageParams false false).isSome ↔
          DefaultBoxHasContent false pageParams) ∧
        ∀ params scaleFactor,
          calculatePrintParamsForCss false none 0 pageParams false false =
            some (params, scaleFactor) →
          scaleFactor = none ∧ params.pageSize = pageParams.pageSize ∧
            (getDPI false pageParams ≤ kPixelsPerInch →
              params.marginTop = pageParams.marginTop ∧
                params.marginLeft = pageParams.marginLeft)) :=
  have hvalid : printMsgPrintParamsIsValid _ = true := by decide
  have hframe : OverridesNothing false none 0 _ := fun _ h => Option.noConfusion h
  ⟨hvalid, by norm_num, by decide, hframe,
    calculatePrintParamsForCss_of_noCss hvalid (by norm_num) (by decide) hframe⟩

/-- The content does drift: a 5 by 5 page at 72 dpi with a 3 by 3 content and one-unit
margins comes back with a 4 by 4 content, since 5, 1 and 1 units convert to 7, 1 and 1
pixels. -/
theorem calculatePrintParamsForCss_content_drifts :
    let pageParams : PrintMsgPrintParams :=
      { pageSize := Size.make 5 5, contentSize := Size.make 3 3,
        printableArea := ⟨0, 0, Size.make 5 5⟩, marginTop := 1, marginLeft := 1,
        dpi := 72, minShrink := 1, maxShrink := 2, desiredDpi := 72, documentCookie := 1,
        selectionOnly := false, printScalingOption := .sourceSize,
        shouldPrintBackgrounds := false }
    printMsgPrintParamsIsValid pageParams = true ∧
      0 ≤ pageParams.pageSize.width - pageParams.contentSize.width - pageParams.marginLeft ∧
      0 ≤ pageParams.pageSize.height - pageParams.contentSize.height - pageParams.marginTop ∧
      (calculatePrintParamsForCss false none 0 pageParams false false).map
        (·.1.contentSize) = some (Size.make 4 4) := by
  decide

/-! ### Closure in points -/

/-- **The layout of every reconciled page closes up to a point.**  For valid settings of at
most `2^16` device units at up to `2^12` dpi, any bounded frame and either value of
`ignoreCssMargins`, the code computes the reconciliation and the layout in range, and the
params `P` that `ComputePageLayoutInPointsForCss` reconciles lay out in points to a content
and two margins adding up to `P`'s page in points within one point each way, and exactly when
the resolution divides `kPointsPerInch`: always on the Mac, where it is `kPointsPerInch`. -/
theorem computePageLayoutInPointsForCss_closes (osMacosx : Bool) {frame : Option CssFrame}
    {pageIndex : Int} {pageParams : PrintMsgPrintParams} (ignoreCssMargins : Bool)
    (hvalid : printMsgPrintParamsIsValid pageParams = true) (hdpi : pageParams.dpi ≤ 2 ^ 12)
    (hwithin : pageParams.Within (2 ^ 16))
    (hframe : FrameWithin osMacosx frame pageIndex pageParams) :
    ReconcilesInInt osMacosx frame pageIndex pageParams ignoreCssMargins
        (pageParams.printScalingOption == .fitToPrintableArea) ∧
    ∀ params scaleFactor, calculatePrintParamsForCss osMacosx frame pageIndex pageParams
        ignoreCssMargins (pageParams.printScalingOption == .fitToPrintableArea) =
          some (params, scaleFactor) →
      computePageLayoutInPointsForCss osMacosx frame pageIndex pageParams ignoreCssMargins =
          some (calculatePageLayoutFromPrintParams osMacosx params, scaleFactor) ∧
      (∀ x ∈ calculatePageLayoutFromPrintParamsInts osMacosx params, InInt x) ∧
      let l := calculatePageLayoutFromPrintParams osMacosx params
      let dpi := getDPI osMacosx params
      (|l.contentWidth + l.marginLeft + l.marginRight -
          convertUnit params.pageSize.width dpi kPointsPerInch| ≤ 1 ∧
        |l.contentHeight + l.marginTop + l.marginBottom -
          convertUnit params.pageSize.height dpi kPointsPerInch| ≤ 1) ∧
      (dpi ∣ kPointsPerInch →
        l.contentWidth + l.marginLeft + l.marginRight =
            convertUnit params.pageSize.width dpi kPointsPerInch ∧
          l.contentHeight + l.marginTop + l.marginBottom =
            convertUnit params.pageSize.height dpi kPointsPerInch) := by
  have hdpi' := getDPI_bounds_of_isValid osMacosx hvalid hdpi
  have hpage := ((printMsgPrintParamsIsValid_iff pageParams).mp hvalid).2.1
  have hbox := cssPageBox_pixelBounded hdpi' hwithin hframe
  let fitToPage := pageParams.printScalingOption == .fitToPrintableArea
  refine ⟨(calculatePrintParamsForCss_within hdpi' hwithin hpage hbox ignoreCssMargins
    fitToPage).1, fun params scaleFactor h => ⟨by simp [computePageLayoutInPointsForCss, h],
    calculatePrintParamsForCss_layout_within hdpi' hwithin hpage hbox ignoreCssMargins fitToPage
      params scaleFactor h, ?_⟩⟩
  -- reconciliation keeps the resolution
  apply calculatePageLayoutFromPrintParams_closes
  rw [(calculatePrintParamsForCss_sameSettings h).getDPI_eq]
  exact hdpi'.1

/-- Three separately rounded terms overshoot: Letter at 300 dpi with a 2401-unit content and a
70-unit left margin reconciles to a 2403-unit content and a 69-unit margin, whose layout in
points adds up to 577 + 17 + 19 = 613 for a page of 612 points. -/
theorem computePageLayoutInPointsForCss_overshoots :
    let pageParams : PrintMsgPrintParams :=
      { pageSize := Size.make 2550 3300, contentSize := Size.make 2401 3150,
        printableArea := ⟨0, 0, Size.make 2550 3300⟩, marginTop := 75, marginLeft := 70,
        dpi := 300, minShrink := 1, maxShrink := 2, desiredDpi := 72, documentCookie := 1,
        selectionOnly := false, printScalingOption := .sourceSize,
        shouldPrintBackgrounds := false }
    printMsgPrintParamsIsValid pageParams = true ∧
      (calculatePrintParamsForCss false none 0 pageParams false false).map (fun r =>
        let l := calculatePageLayoutFromPrintParams false r.1
        (l.contentWidth + l.marginLeft + l.marginRight,
          convertUnit r.1.pageSize.width (getDPI false r.1) kPointsPerInch)) = some (613, 612) := by
  decide

/-- `computePageLayoutInPointsForCss_closes` at Letter in points on the Mac. -/
theorem computePageLayoutInPointsForCss_closes_letter :
    let pageParams : PrintMsgPrintParams :=
      { pageSize := Size.make 612 792, contentSize := Size.make 576 756,
        printableArea := ⟨0, 0, Size.make 612 792⟩, marginTop := 18, marginLeft := 18,
        dpi := 72, minShrink := 1, maxShrink := 2, desiredDpi := 72, documentCookie := 1,
        selectionOnly := false, printScalingOption := .sourceSize,
        shouldPrintBackgrounds := false }
    printMsgPrintParamsIsValid pageParams = true ∧ pageParams.dpi ≤ 2 ^ 12 ∧
      pageParams.Within (2 ^ 16) ∧ FrameWithin true none 0 pageParams ∧
    (ReconcilesInInt true none 0 pageParams false
        (pageParams.printScalingOption == .fitToPrintableArea) ∧
    ∀ params scaleFactor, calculatePrintParamsForCss true none 0 pageParams false
        (pageParams.printScalingOption == .fitToPrintableArea) = some (params, scaleFactor) →
      computePageLayoutInPointsForCss true none 0 pageParams false =
          some (calculatePageLayoutFromPrintParams true params, scaleFactor) ∧
      (∀ x ∈ calculatePageLayoutFromPrintParamsInts true params, InInt x) ∧
      let l := calculatePageLayoutFromPrintParams true params
      let dpi := getDPI true params
      (|l.contentWidth + l.marginLeft + l.marginRight -
          convertUnit params.pageSize.width dpi kPointsPerInch| ≤ 1 ∧
        |l.contentHeight + l.marginTop + l.marginBottom -
          convertUnit params.pageSize.height dpi kPointsPerInch| ≤ 1) ∧
      (dpi ∣ kPointsPerInch →
        l.contentWidth + l.marginLeft + l.marginRight =
            convertUnit params.pageSize.width dpi kPointsPerInch ∧
          l.contentHeight + l.marginTop + l.marginBottom =
            convertUnit params.pageSize.height dpi kPointsPerInch)) :=
  have hvalid : printMsgPrintParamsIsValid _ = true := by decide
  have hframe : FrameWithin true none 0 _ := fun _ h => Option.noConfusion h
  ⟨hvalid, by norm_num, by decide, hframe,
    computePageLayoutInPointsForCss_closes true false hvalid (by norm_num) (by decide) hframe⟩

end Printing
