import PrintWebViewHelper.Params

/-!
# Page geometry

The anonymous-namespace functions of `print_web_view_helper.cc` that reconcile the printer's
page with the page the document's CSS asks for, and lay the result out in points.

`GetCssPrintParams` converts the printer geometry to CSS pixels, lets the frame's `@page`
rules override it, and converts back.  When the override leaves no content it calls itself
once with no frame, and that call must not fail again: `CHECK(frame != NULL)`.  The process
abort of a failed `CHECK` is `none`.  The recursive call is always made with a null frame,
and at a null frame the `CHECK` fires before any further call, so the recursion is written
out as `cssPrintParamsStep` applied twice; `getCssPrintParams_eq` is the source's own
recursive equation.

`FitPrintParamsToPage` is the one place the code computes with `double`s.  A finite one is
an exact rational here: the IEEE rounding of the two ratios and the products is not modelled.
The quotients by zero are: a side of zero gives an infinite ratio, or NaN for `0 / 0`, and
`<` is false as soon as a NaN is compared.  So an infinite ratio is never picked, but a NaN
height ratio always is, and then every `static_cast<int>` of the fit is `INT_MIN`
(`Double.toInt`).

The `int` arithmetic is on unbounded integers.  Where the code's 32-bit `int`s stay in range,
and its casts are defined, is the subject of `IntRange`; the results about what the
reconciliation returns are stated within those bounds (`Reconciliation`).

## Main definitions

* `CssFrame` — what a frame answers `pageSizeAndMarginsInPixels` with.
* `getCssPrintParams`, `fitScaleFactor`, `fitPrintParamsToPage`, `ensureOrientationMatches`,
  `calculatePrintParamsForCss` — the reconciliation.
* `calculatePageLayoutFromPrintParams`, `computePageLayoutInPointsForCss`,
  `getPageSizeAndContentAreaFromPageLayout` — the layout in points.
* `computeWebKitPrintParamsInDesiredDpi` — the parameters handed to `printBegin`.
-/

namespace Printing

/-- What `WebFrame::pageSizeAndMarginsInPixels` reads and overwrites: a page size and the
top, right, bottom and left margins, in CSS pixels. -/
structure PageBox where
  pageSize : WebSize
  marginTop : Int
  marginRight : Int
  marginBottom : Int
  marginLeft : Int
  deriving DecidableEq, Repr

/-- The part of a `blink::WebFrame` the geometry reads: for a page index and the default
page box, the box its `@page` rules make of it. -/
structure CssFrame where
  pageSizeAndMarginsInPixels : Int → PageBox → PageBox

/-- A frame with no `@page` rules: it leaves every default as it is. -/
def CssFrame.noCss : CssFrame := ⟨fun _ box => box⟩

section
variable (osMacosx : Bool)

/-! ### `GetCssPrintParams` -/

/-- The printer's page box in CSS pixels, right and bottom margins derived from the page, the
content and the top and left margins. -/
def defaultPageBox (pageParams : PrintMsgPrintParams) : PageBox :=
  let dpi := getDPI osMacosx pageParams
  { pageSize := ⟨convertUnit pageParams.pageSize.width dpi kPixelsPerInch,
      convertUnit pageParams.pageSize.height dpi kPixelsPerInch⟩
    marginTop := convertUnit pageParams.marginTop dpi kPixelsPerInch
    marginRight := convertUnit (pageParams.pageSize.width - pageParams.contentSize.width -
      pageParams.marginLeft) dpi kPixelsPerInch
    marginBottom := convertUnit (pageParams.pageSize.height - pageParams.contentSize.height -
      pageParams.marginTop) dpi kPixelsPerInch
    marginLeft := convertUnit pageParams.marginLeft dpi kPixelsPerInch }

/-- The page box after the frame, if any, has applied its `@page` rules. -/
def cssPageBox (frame : Option CssFrame) (pageIndex : Int)
    (pageParams : PrintMsgPrintParams) : PageBox :=
  match frame with
  | some f => f.pageSizeAndMarginsInPixels pageIndex (defaultPageBox osMacosx pageParams)
  | none => defaultPageBox osMacosx pageParams

/-- `new_content_width`: what the box leaves between its left and right margins. -/
def PageBox.contentWidth (box : PageBox) : Int := box.pageSize.width - box.marginLeft - box.marginRight

/-- `new_content_height`: what the box leaves between its top and bottom margins. -/
def PageBox.contentHeight (box : PageBox) : Int :=
  box.pageSize.height - box.marginTop - box.marginBottom

/-- One activation of `GetCssPrintParams`, with the result of its recursive call
`GetCssPrintParams(NULL, page_index, page_params)` passed as `fallback`. -/
def cssPrintParamsStep (frame : Option CssFrame) (pageIndex : Int)
    (pageParams : PrintMsgPrintParams) (fallback : Option PrintMsgPrintParams) :
    Option PrintMsgPrintParams :=
  let dpi := getDPI osMacosx pageParams
  let original := (defaultPageBox osMacosx pageParams).pageSize
  let box := cssPageBox osMacosx frame pageIndex pageParams
  -- Invalid page size and/or margins: use the default setting.
  if box.contentWidth < 1 ∨ box.contentHeight < 1 then
    if frame.isNone then none else fallback
  else
    some { pageParams with
      contentSize := Size.make (convertUnit box.contentWidth kPixelsPerInch dpi)
        (convertUnit box.contentHeight kPixelsPerInch dpi)
      pageSize :=
        if original ≠ box.pageSize then
          Size.make (convertUnit box.pageSize.width kPixelsPerInch dpi)
            (convertUnit box.pageSize.height kPixelsPerInch dpi)
        else pageParams.pageSize
      marginTop := convertUnit box.marginTop kPixelsPerInch dpi
      marginLeft := convertUnit box.marginLeft kPixelsPerInch dpi }

/-- `GetCssPrintParams`; `none` is the abort of `CHECK(frame != NULL)`. -/
def getCssPrintParams (frame : Option CssFrame) (pageIndex : Int)
    (pageParams : PrintMsgPrintParams) : Option PrintMsgPrintParams :=
  cssPrintParamsStep osMacosx frame pageIndex pageParams
    (cssPrintParamsStep osMacosx none pageIndex pageParams none)

/-- The source's recursive equation: `getCssPrintParams` is one activation whose recursive
call is `getCssPrintParams` at a null frame. -/
theorem getCssPrintParams_eq (frame : Option CssFrame) (pageIndex : Int)
    (pageParams : PrintMsgPrintParams) :
    getCssPrintParams osMacosx frame pageIndex pageParams =
      cssPrintParamsStep osMacosx frame pageIndex pageParams
        (getCssPrintParams osMacosx none pageIndex pageParams) := rfl

/-! ### Fitting a CSS page to the printer's page -/

/-- The scale factor of `FitPrintParamsToPage` for a CSS page on the printer's page: one if
the CSS page fits, and otherwise `ratio_width < ratio_height ? ratio_width : ratio_height` in
IEEE arithmetic.  A CSS side that does not fit is positive, so at most the other ratio is a
quotient by zero; it loses when infinite, and wins when it is the NaN of `0 / 0`. -/
def fitScaleFactor (defaultPageSize cssPageSize : Size) : Double :=
  if defaultPageSize.width < cssPageSize.width ∨ defaultPageSize.height < cssPageSize.height then
    let ratioWidth : ℚ := defaultPageSize.width / cssPageSize.width
    let ratioHeight : ℚ := defaultPageSize.height / cssPageSize.height
    if cssPageSize.width = 0 then .finite ratioHeight
    else if cssPageSize.height = 0 then
      if defaultPageSize.height = 0 then .nan else .finite ratioWidth
    else .finite (if ratioWidth < ratioHeight then ratioWidth else ratioHeight)
  else .finite 1

/-- `FitPrintParamsToPage`: scale the CSS page down until it fits the printer's page, centre
it there, and return the scale factor with the fitted parameters. -/
def fitPrintParamsToPage (pageParams paramsToFit : PrintMsgPrintParams) :
    Double × PrintMsgPrintParams :=
  let defaultPageSizeHeight := pageParams.pageSize.height
  let defaultPageSizeWidth := pageParams.pageSize.width
  let cssPageSizeHeight := paramsToFit.pageSize.height
  let cssPageSizeWidth := paramsToFit.pageSize.width
  if pageParams.pageSize = paramsToFit.pageSize then (.finite 1, paramsToFit)
  else
    let shrink := defaultPageSizeWidth < cssPageSizeWidth ∨ defaultPageSizeHeight < cssPageSizeHeight
    let scaleFactor := fitScaleFactor pageParams.pageSize paramsToFit.pageSize
    let contentWidth : Double :=
      if shrink then scaleFactor.map (paramsToFit.contentSize.width * ·)
      else .finite paramsToFit.contentSize.width
    let contentHeight : Double :=
      if shrink then scaleFactor.map (paramsToFit.contentSize.height * ·)
      else .finite paramsToFit.contentSize.height
    (scaleFactor, { paramsToFit with
      marginTop := (scaleFactor.map fun s =>
        (defaultPageSizeHeight - cssPageSizeHeight * s) / 2 + paramsToFit.marginTop * s).toInt
      marginLeft := (scaleFactor.map fun s =>
        (defaultPageSizeWidth - cssPageSizeWidth * s) / 2 + paramsToFit.marginLeft * s).toInt
      contentSize := Size.make contentWidth.toInt contentHeight.toInt
      pageSize := pageParams.pageSize })

/-! ### Layout in points -/

/-- `CalculatePageLayoutFromPrintParams`: content and margins in points, the right and bottom
margins derived from the page. -/
def calculatePageLayoutFromPrintParams (params : PrintMsgPrintParams) : PageSizeMargins :=
  let dpi := getDPI osMacosx params
  let contentWidth := params.contentSize.width
  let contentHeight := params.contentSize.height
  let marginBottom := params.pageSize.height - contentHeight - params.marginTop
  let marginRight := params.pageSize.width - contentWidth - params.marginLeft
  { contentWidth := convertUnit contentWidth dpi kPointsPerInch
    contentHeight := convertUnit contentHeight dpi kPointsPerInch
    marginTop := convertUnit params.marginTop dpi kPointsPerInch
    marginRight := convertUnit marginRight dpi kPointsPerInch
    marginBottom := convertUnit marginBottom dpi kPointsPerInch
    marginLeft := convertUnit params.marginLeft dpi kPointsPerInch }

end

/-- `EnsureOrientationMatches`: when the CSS page and the printer's page disagree on being
landscape, swap the width and height of the printer's page, content and printable area. -/
def ensureOrientationMatches (cssParams pageParams : PrintMsgPrintParams) :
    PrintMsgPrintParams :=
  if (pageParams.pageSize.width > pageParams.pageSize.height) =
      (cssParams.pageSize.width > cssParams.pageSize.height) then pageParams
  else
    { pageParams with
      pageSize := Size.make pageParams.pageSize.height pageParams.pageSize.width
      contentSize := Size.make pageParams.contentSize.height pageParams.contentSize.width
      printableArea := { pageParams.printableArea with
        size := Size.make pageParams.printableArea.size.height
          pageParams.printableArea.size.width } }

/-- `blink::WebRect`. -/
structure WebRect where
  x : Int
  y : Int
  width : Int
  height : Int
  deriving DecidableEq, Repr

/-- The fields of `blink::WebPrintParams` the helper sets. -/
structure WebPrintParams where
  printerDPI : Int
  printScalingOption : WebPrintScalingOption
  printContentArea : WebRect
  printableArea : WebRect
  paperSize : WebSize
  deriving DecidableEq

/-- A default-constructed `blink::WebPrintParams`. -/
def WebPrintParams.default : WebPrintParams :=
  ⟨72, .fitToPrintableArea, ⟨0, 0, 0, 0⟩, ⟨0, 0, 0, 0⟩, ⟨0, 0⟩⟩

section
variable (osMacosx : Bool)

/-- `ComputeWebKitPrintParamsInDesiredDpi`: the printer geometry at the resolution the
document is laid out at.  It writes into an existing `WebPrintParams`, leaving the origin of
the content area as it was. -/
def computeWebKitPrintParamsInDesiredDpi (printParams : PrintMsgPrintParams)
    (webkitPrintParams : WebPrintParams) : WebPrintParams :=
  let dpi := getDPI osMacosx printParams
  let conv (v : Int) := convertUnit v dpi printParams.desiredDpi
  { printerDPI := dpi
    printScalingOption := printParams.printScalingOption
    printContentArea := { webkitPrintParams.printContentArea with
      width := conv printParams.contentSize.width
      height := conv printParams.contentSize.height }
    printableArea := ⟨conv printParams.printableArea.x, conv printParams.printableArea.y,
      conv printParams.printableArea.size.width, conv printParams.printableArea.size.height⟩
    paperSize := ⟨conv printParams.pageSize.width, conv printParams.pageSize.height⟩ }

/-! ### Reconciliation -/

/-- `CalculatePrintParamsForCss`: the parameters to lay page `pageIndex` out with, and the
scale factor `FitPrintParamsToPage` chose when fitting; `none` if `GetCssPrintParams`
aborts. -/
def calculatePrintParamsForCss (frame : Option CssFrame) (pageIndex : Int)
    (pageParams : PrintMsgPrintParams) (ignoreCssMargins fitToPage : Bool) :
    Option (PrintMsgPrintParams × Option Double) := do
  let cssParams ← getCssPrintParams osMacosx frame pageIndex pageParams
  let params := ensureOrientationMatches cssParams pageParams
  if ignoreCssMargins && fitToPage then return (params, none)
  let resultParams :=
    if ignoreCssMargins then
      -- Since we are ignoring the margins, the css page size is no longer valid.
      let defaultMarginRight :=
        params.pageSize.width - params.contentSize.width - params.marginLeft
      let defaultMarginBottom :=
        params.pageSize.height - params.contentSize.height - params.marginTop
      { cssParams with
        marginTop := params.marginTop
        marginLeft := params.marginLeft
        contentSize := Size.make
          (cssParams.pageSize.width - params.marginLeft - defaultMarginRight)
          (cssParams.pageSize.height - params.marginTop - defaultMarginBottom) }
    else cssParams
  if fitToPage then
    let (factor, fitted) := fitPrintParamsToPage params resultParams
    return (fitted, some factor)
  return (resultParams, none)

/-- `ComputePageLayoutInPointsForCss`: reconcile with fitting as the settings' scaling option
asks, then lay the result out in points. -/
def computePageLayoutInPointsForCss (frame : Option CssFrame) (pageIndex : Int)
    (pageParams : PrintMsgPrintParams) (ignoreCssMargins : Bool) :
    Option (PageSizeMargins × Option Double) := do
  let (params, scaleFactor) ← calculatePrintParamsForCss osMacosx frame pageIndex pageParams
    ignoreCssMargins (pageParams.printScalingOption == .fitToPrintableArea)
  return (calculatePageLayoutFromPrintParams osMacosx params, scaleFactor)

end

/-- `GetPageSizeAndContentAreaFromPageLayout`: the page a layout in points adds up to, and
its content rectangle. -/
def getPageSizeAndContentAreaFromPageLayout (pageLayoutInPoints : PageSizeMargins) :
    Size × Rect :=
  (Size.make
      (pageLayoutInPoints.contentWidth + pageLayoutInPoints.marginRight +
        pageLayoutInPoints.marginLeft)
      (pageLayoutInPoints.contentHeight + pageLayoutInPoints.marginTop +
        pageLayoutInPoints.marginBottom),
    ⟨pageLayoutInPoints.marginLeft, pageLayoutInPoints.marginTop,
      Size.make pageLayoutInPoints.contentWidth pageLayoutInPoints.contentHeight⟩)

/-! ### What the reconciliation leaves alone -/

/-- `q` agrees with `p` everywhere but in the geometry: page, content, printable area and top
and left margins. -/
structure SameSettings (p q : PrintMsgPrintParams) : Prop where
  dpi : q.dpi = p.dpi
  minShrink : q.minShrink = p.minShrink
  maxShrink : q.maxShrink = p.maxShrink
  desiredDpi : q.desiredDpi = p.desiredDpi
  documentCookie : q.documentCookie = p.documentCookie
  selectionOnly : q.selectionOnly = p.selectionOnly
  printScalingOption : q.printScalingOption = p.printScalingOption
  shouldPrintBackgrounds : q.shouldPrintBackgrounds = p.shouldPrintBackgrounds

theorem SameSettings.refl (p : PrintMsgPrintParams) : SameSettings p p :=
  ⟨rfl, rfl, rfl, rfl, rfl, rfl, rfl, rfl⟩

theorem SameSettings.trans {p q r : PrintMsgPrintParams} (h : SameSettings p q)
    (h' : SameSettings q r) : SameSettings p r :=
  ⟨h'.1.trans h.1, h'.2.trans h.2, h'.3.trans h.3, h'.4.trans h.4, h'.5.trans h.5,
    h'.6.trans h.6, h'.7.trans h.7, h'.8.trans h.8⟩

theorem SameSettings.getDPI_eq (osMacosx : Bool) {p q : PrintMsgPrintParams}
    (h : SameSettings p q) : getDPI osMacosx q = getDPI osMacosx p := by
  simp only [getDPI, h.dpi]

section
variable {osMacosx : Bool}

/-- One activation of `GetCssPrintParams` changes only the geometry, given a fallback that
does. -/
theorem cssPrintParamsStep_sameSettings {frame : Option CssFrame} {pageIndex : Int}
    {pageParams q : PrintMsgPrintParams} {fallback : Option PrintMsgPrintParams}
    (hfallback : ∀ q, fallback = some q → SameSettings pageParams q)
    (h : cssPrintParamsStep osMacosx frame pageIndex pageParams fallback = some q) :
    SameSettings pageParams q := by
  simp only [cssPrintParamsStep] at h
  split at h
  · split at h
    · cases h
    · exact hfallback q h
  · cases h
    exact ⟨rfl, rfl, rfl, rfl, rfl, rfl, rfl, rfl⟩

theorem getCssPrintParams_sameSettings {frame : Option CssFrame} {pageIndex : Int}
    {pageParams q : PrintMsgPrintParams}
    (h : getCssPrintParams osMacosx frame pageIndex pageParams = some q) :
    SameSettings pageParams q :=
  cssPrintParamsStep_sameSettings (fun _ hq => cssPrintParamsStep_sameSettings
    (fun _ h => Option.noConfusion h) hq) h

theorem ensureOrientationMatches_sameSettings (cssParams pageParams : PrintMsgPrintParams) :
    SameSettings pageParams (ensureOrientationMatches cssParams pageParams) := by
  unfold ensureOrientationMatches
  split <;> exact ⟨rfl, rfl, rfl, rfl, rfl, rfl, rfl, rfl⟩

theorem fitPrintParamsToPage_sameSettings (pageParams paramsToFit : PrintMsgPrintParams) :
    SameSettings paramsToFit (fitPrintParamsToPage pageParams paramsToFit).2 := by
  unfold fitPrintParamsToPage
  split <;> exact ⟨rfl, rfl, rfl, rfl, rfl, rfl, rfl, rfl⟩

/-- **Reconciliation changes only the geometry**: the resolution, the desired resolution, the
cookie and the flags of the result are the printer's. -/
theorem calculatePrintParamsForCss_sameSettings {frame : Option CssFrame} {pageIndex : Int}
    {pageParams params : PrintMsgPrintParams} {ignoreCssMargins fitToPage : Bool}
    {scaleFactor : Option Double}
    (h : calculatePrintParamsForCss osMacosx frame pageIndex pageParams ignoreCssMargins
      fitToPage = some (params, scaleFactor)) :
    SameSettings pageParams params := by
  cases hc : getCssPrintParams osMacosx frame pageIndex pageParams with
  | none => simp [calculatePrintParamsForCss, hc] at h
  | some cssParams =>
    have hcss := getCssPrintParams_sameSettings hc
    rw [calculatePrintParamsForCss, hc] at h
    cases ignoreCssMargins <;> cases fitToPage <;>
      obtain ⟨rfl, -⟩ := Prod.mk.inj (Option.some.inj h)
    · exact hcss
    · exact hcss.trans (fitPrintParamsToPage_sameSettings _ _)
    · exact hcss.trans ⟨rfl, rfl, rfl, rfl, rfl, rfl, rfl, rfl⟩
    · exact ensureOrientationMatches_sameSettings _ _

end

end Printing
