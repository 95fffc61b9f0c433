import PrintWebViewHelper.Geometry

/-!
# The null-frame fallback and the pixel round trip

With no `@page` rule in play, `GetCssPrintParams` converts the printer's page, margins and
derived right and bottom margins to CSS pixels, subtracts, and converts the content and the
margins back.  Three separately rounded conversions make up the pixel content, so it can
fall below one pixel, and then the null-frame call reaches `CHECK(frame != NULL)`; and the
round trip through pixels can move the content by a unit.  Only the page size is protected:
when the frame leaves it alone the code copies the printer's value instead of converting it
back.

## Main results

* `getCssPrintParams_of_noCss` — a frame that overrides nothing behaves as a null frame.
* `getCssPrintParams_none_eq` — what the null-frame call computes.
* `getCssPrintParams_none_aborts_at_600dpi` — **valid settings can make the null-frame call
  abort.**
* `calculatePrintParamsForCss_of_overridesNothing` — with no override, the reconciled page size
  is the printer's, the margins survive the round trip up to `kPixelsPerInch`, and the call
  returns exactly when the pixel content is at least one pixel each way.
-/

namespace Printing

section
variable (osMacosx : Bool)

/-- The frame, if any, reports back the box it was given for this page. -/
def OverridesNothing (frame : Option CssFrame) (pageIndex : Int)
    (pageParams : PrintMsgPrintParams) : Prop :=
  ∀ f, frame = some f →
    f.pageSizeAndMarginsInPixels pageIndex (defaultPageBox osMacosx pageParams) =
      defaultPageBox osMacosx pageParams

/-- The printer's geometry in pixels leaves some content each way. -/
def DefaultBoxHasContent (pageParams : PrintMsgPrintParams) : Prop :=
  1 ≤ (defaultPageBox osMacosx pageParams).contentWidth ∧
    1 ≤ (defaultPageBox osMacosx pageParams).contentHeight

instance (pageParams : PrintMsgPrintParams) :
    Decidable (DefaultBoxHasContent osMacosx pageParams) :=
  inferInstanceAs (Decidable (1 ≤ _ ∧ 1 ≤ _))

variable {osMacosx}

theorem cssPageBox_of_overridesNothing {frame : Option CssFrame} {pageIndex : Int}
    {pageParams : PrintMsgPrintParams} (h : OverridesNothing osMacosx frame pageIndex pageParams) :
    cssPageBox osMacosx frame pageIndex pageParams = defaultPageBox osMacosx pageParams := by
  cases frame with
  | none => rfl
  | some f => exact h f rfl

/-- What the null-frame call computes: the `CHECK` abort when the pixel content is empty, and
otherwise the printer's page with its content and top and left margins sent through
pixels. -/
theorem getCssPrintParams_none_eq (pageIndex : Int) (pageParams : PrintMsgPrintParams) :
    getCssPrintParams osMacosx none pageIndex pageParams =
      if DefaultBoxHasContent osMacosx pageParams then
        let dpi := getDPI osMacosx pageParams
        let box := defaultPageBox osMacosx pageParams
        some { pageParams with
          contentSize := Size.make (convertUnit box.contentWidth kPixelsPerInch dpi)
            (convertUnit box.contentHeight kPixelsPerInch dpi)
          marginTop := convertUnit box.marginTop kPixelsPerInch dpi
          marginLeft := convertUnit box.marginLeft kPixelsPerInch dpi }
      else none := by
  simp only [getCssPrintParams, cssPrintParamsStep, cssPageBox, DefaultBoxHasContent,
    Option.isNone_none, if_true, ne_eq, not_true_eq_false, if_false]
  by_cases h : (defaultPageBox osMacosx pageParams).contentWidth < 1 ∨
      (defaultPageBox osMacosx pageParams).contentHeight < 1
  · rw [if_pos h, if_neg (by omega)]
  · rw [if_neg h, if_pos (by omega)]

/-- **The null-frame fallback can abort.**  A Letter page at 600 dpi whose printable
content is one device unit wide: the page converts to 816 pixels and the two margins to 400
and 416, leaving no pixel of content, so the null-frame call reaches its `CHECK`.  The
settings are valid and their derived right and bottom margins are non-negative. -/
theorem getCssPrintParams_none_aborts_at_600dpi :
    let pageParams : PrintMsgPrintParams :=
      { pageSize := Size.make 5100 6600, contentSize := Size.make 1 6000,
        printableArea := ⟨0, 0, Size.make 5100 6600⟩, marginTop := 300, marginLeft := 2500,
        dpi := 600, minShrink := 1, maxShrink := 2, desiredDpi := 72, documentCookie := 1,
        selectionOnly := false, printScalingOption := .sourceSize,
        shouldPrintBackgrounds := false }
    printMsgPrintParamsIsValid pageParams = true ∧
      0 ≤ pageParams.pageSize.width - pageParams.contentSize.width - pageParams.marginLeft ∧
      0 ≤ pageParams.pageSize.height - pageParams.contentSize.height - pageParams.marginTop ∧
      getCssPrintParams false none 0 pageParams = none := by
  decide

/-- A frame that overrides nothing gives what a null frame gives: either the first pass
succeeds exactly as the null frame's does, or it fails and falls back to the null frame. -/
theorem getCssPrintParams_of_noCss {frame : Option CssFrame} {pageIndex : Int}
    {pageParams : PrintMsgPrintParams} (h : OverridesNothing osMacosx frame pageIndex pageParams) :
    getCssPrintParams osMacosx frame pageIndex pageParams =
      getCssPrintParams osMacosx none pageIndex pageParams := by
  cases frame with
  | none => rfl
  | some f =>
    simp only [getCssPrintParams, cssPrintParamsStep, cssPageBox, h f rfl, Option.isNone_some,
      Option.isNone_none]
    split_ifs <;> rfl

/-- Not ignoring CSS margins and not fitting, the reconciliation is `GetCssPrintParams`. -/
theorem calculatePrintParamsForCss_false_false (frame : Option CssFrame) (pageIndex : Int)
    (pageParams : PrintMsgPrintParams) :
    calculatePrintParamsForCss osMacosx frame pageIndex pageParams false false =
      (getCssPrintParams osMacosx frame pageIndex pageParams).map (·, none) := by
  simp only [calculatePrintParamsForCss, Bool.and_self, Bool.false_eq_true, if_false]
  cases getCssPrintParams osMacosx frame pageIndex pageParams <;> rfl

/-- **Reconciliation with no CSS override**, at a resolution of at least one, for a frame that
overrides nothing: the call returns exactly when the printer's geometry keeps at least a pixel
of content each way; when it does, the page size is the printer's, no scale factor is set,
and at a resolution up to `kPixelsPerInch` the top and left margins come back unchanged.  The
content size is not promised: it goes through three separately rounded conversions. -/
theorem calculatePrintParamsForCss_of_overridesNothing {frame : Option CssFrame}
    {pageIndex : Int} {pageParams : PrintMsgPrintParams} (hdpi : 1 ≤ getDPI osMacosx pageParams)
    (hframe : OverridesNothing osMacosx frame pageIndex pageParams) :
    ((calculatePrintParamsForCss osMacosx frame pageIndex pageParams false false).isSome ↔
        DefaultBoxHasContent osMacosx pageParams) ∧
      ∀ params scaleFactor,
        calculatePrintParamsForCss osMacosx frame pageIndex pageParams false false =
          some (params, scaleFactor) →
        scaleFactor = none ∧ params.pageSize = pageParams.pageSize ∧
          (getDPI osMacosx pageParams ≤ kPixelsPerInch →
            params.marginTop = pageParams.marginTop ∧ params.marginLeft = pageParams.marginLeft) := by
  rw [calculatePrintParamsForCss_false_false, getCssPrintParams_of_noCss hframe,
    getCssPrintParams_none_eq]
  split
  · next hc =>
    refine ⟨by simpa using hc, ?_⟩
    rintro params scaleFactor ⟨⟩
    refine ⟨rfl, rfl, fun hle => ⟨?_, ?_⟩⟩ <;>
      exact convertUnit_convertUnit_of_le (by omega) hle
  · next hc => exact ⟨by simpa using hc, by simp⟩

end

/-- The spec's scenario: Letter in points at 72 dpi comes back unchanged. -/
example :
    (calculatePrintParamsForCss false none 0
      { pageSize := Size.make 612 792, contentSize := Size.make 576 756,
        printableArea := ⟨0, 0, Size.make 612 792⟩, marginTop := 18, marginLeft := 18,
        dpi := 72, minShrink := 1, maxShrink := 2, desiredDpi := 72, documentCookie := 1,
        selectionOnly := false, printScalingOption := .sourceSize,
        shouldPrintBackgrounds := false } false false).map
      (fun r => (r.1.contentSize, r.1.marginTop, r.1.marginLeft)) =
      some (Size.make 576 756, 18, 18) := by decide

end Printing
