import PrintWebViewHelper.SessionPageViews
import PrintWebViewHelper.SessionRaces
import PrintWebViewHelper.CssFallback

/-!
# A silent print, end to end

A silent `OnPrintPages` of a frame runs the whole of `Print` in one delivery: it asks the
browser for the default settings, counts the pages on a throw-away
`PrepareFrameAndViewForPrint`, records the background option in the settings, builds
`prep_frame_view_` from them, and — no selection being copied — prints at once: the count goes
to the browser, then the pages, and the object is destroyed.  Which pages are printed is
`PrintPagesNative`'s answer, and these sources have only the Mac's, so the end-to-end result
is stated for the Mac build.

The count the browser is told is not the one `CalculateNumberOfPages` returned: `PrintPages`
asks the second object's frame again, laid out from settings that differ in the background
option.  The two agree because nothing in the layout reads that option.

## Main results

* `create_shouldPrintBackgrounds` — the constructor computes the same layout whatever the
  background option.
* `calculateNumberOfPages_some` — what a counting `CalculateNumberOfPages` leaves.
* `onFramePreparedForPrintPages_prints` — what printing a held object sends.
* `onPrintPages_silent_prints` — **a silent print announces the count
  `CalculateNumberOfPages` found and prints every page, in order, in the same delivery**, in
  the Mac build.
-/

namespace Printing

open Helper PrepareFrameAndViewForPrint

/-! ### The background option rides through the layout -/

section Backgrounds

variable {osMacosx : Bool} (b : Bool)

theorem cssPrintParamsStep_shouldPrintBackgrounds (frame : Option CssFrame) (pageIndex : Int)
    (p : PrintMsgPrintParams) (fallback : Option PrintMsgPrintParams) :
    cssPrintParamsStep osMacosx frame pageIndex { p with shouldPrintBackgrounds := b }
        (fallback.map fun q => { q with shouldPrintBackgrounds := b }) =
      (cssPrintParamsStep osMacosx frame pageIndex p fallback).map
        fun q => { q with shouldPrintBackgrounds := b } := by
  have hdpi : getDPI osMacosx { p with shouldPrintBackgrounds := b } = getDPI osMacosx p := rfl
  have hbox : defaultPageBox osMacosx { p with shouldPrintBackgrounds := b } =
      defaultPageBox osMacosx p := rfl
  simp only [cssPrintParamsStep, cssPageBox, hdpi, hbox]
  split_ifs <;> rfl

theorem getCssPrintParams_shouldPrintBackgrounds (frame : Option CssFrame) (pageIndex : Int)
    (p : PrintMsgPrintParams) :
    getCssPrintParams osMacosx frame pageIndex { p with shouldPrintBackgrounds := b } =
      (getCssPrintParams osMacosx frame pageIndex p).map
        fun q => { q with shouldPrintBackgrounds := b } := by
  rw [getCssPrintParams, getCssPrintParams, ← cssPrintParamsStep_shouldPrintBackgrounds,
    ← cssPrintParamsStep_shouldPrintBackgrounds]
  rfl

/-- The constructor, not ignoring CSS margins, computes the same object from settings that
differ in the background option, but for the option it keeps. -/
theorem create_shouldPrintBackgrounds (p : PrintMsgPrintParams) (frame : ViewId)
    (nodeIsNull printingNodeOrPdfFrame : Bool) (css : CssFrame) (w : World) :
    create osMacosx { p with shouldPrintBackgrounds := b } frame nodeIsNull false
        printingNodeOrPdfFrame css w =
      (create osMacosx p frame nodeIsNull false printingNodeOrPdfFrame css w).map
        fun r => ({ r.1 with shouldPrintBackgrounds := b }, r.2) := by
  have hdpi : getDPI osMacosx { p with shouldPrintBackgrounds := b } = getDPI osMacosx p := rfl
  simp only [create, Bool.false_and, calculatePrintParamsForCss_false_false,
    getCssPrintParams_shouldPrintBackgrounds, hdpi]
  split
  · rfl
  · split
    · cases getCssPrintParams osMacosx (some css) 0 p <;> rfl
    · rfl

end Backgrounds

/-! ### The routines a silent print runs -/

section Routines

variable {osMacosx : Bool} {blink : Blink}

/-- What a `CalculateNumberOfPages` that counts leaves: the defaults were valid, stored with
the scaling option `InitPrintSettings` chose and no page list; the count is the one the frame
gives the throw-away object; and only the request and the object are logged. -/
theorem calculateNumberOfPages_some {frame : ViewId} {nodeIsNull : Bool}
    {defaults : PrintMsgPrintParams} {s t : Helper} {n : Int}
    (h : calculateNumberOfPages osMacosx blink frame nodeIsNull defaults s = .ok (some n, t)) :
    let nodeOrPdf := printingNodeOrPdfFrame blink frame nodeIsNull
    let params : PrintMsgPrintParams := {
      defaults with
      printScalingOption := if !nodeOrPdf then .fitToPrintableArea else .sourceSize }
    (∃ prep w, create osMacosx params frame nodeIsNull false nodeOrPdf (blink.css frame) s.world =
        .ok (prep, w) ∧ n = blink.pageCount frame prep.webPrintParams) ∧
      t.log = s.log ++ [.sent .getDefaultPrintSettings, .prepared .calculateNumberOfPages params] ∧
      t.printPagesParams = some ⟨params, []⟩ ∧ t.ignoreCssMargins = false ∧
      t.prepFrameView = s.prepFrameView ∧ t.nextPrep = s.nextPrep := by
  simp only [calculateNumberOfPages, initPrintSettings] at h
  split at h
  · cases h
  · simp only [derefPrintPagesParams_eq, send_printPagesParams, orFault_some, pure_bind] at h
    obtain ⟨⟨prep, w⟩, hc, h⟩ := except_bind_eq_ok.mp h
    obtain ⟨hf, -⟩ := create_spec hc
    simp only [startPrintingWith_of_frame hf, startPrinting_eq hf, orFault_some, pure_bind] at h
    cases h
    exact ⟨⟨prep, w, hc, rfl⟩, by simp [send], rfl, rfl, rfl, rfl⟩

/-- **Printing a held object** whose frame counts `n ≠ 0` pages: the count goes to the browser
under the settings' cookie, then the pages `PrintPagesNative` lists, and the object is
destroyed. -/
theorem onFramePreparedForPrintPages_prints {s : Helper} {id : Nat}
    {prep : PrepareFrameAndViewForPrint} {frame : ViewId} {pp : PrintMsgPrintPagesParams}
    (hp : s.prepFrameView = some (id, prep)) (hf : prep.frame = some frame)
    (hpp : s.printPagesParams = some pp) (hn : blink.pageCount frame prep.webPrintParams ≠ 0) :
    ∃ t, onFramePreparedForPrintPages blink s = .ok t ∧ t.prepFrameView = none ∧
      t.log = s.log ++ .sent (.didGetPrintedPagesCount pp.params.documentCookie
        (blink.pageCount frame prep.webPrintParams)) ::
        (printPagesNative pp (blink.pageCount frame prep.webPrintParams)).2.map
          fun page => .sent (.printPage page) := by
  simp only [onFramePreparedForPrintPages, printPages, hp, startPrintingWith_of_frame hf,
    startPrinting_eq hf, orFault_some, pure_bind, hn, if_false, derefPrintPagesParams_eq,
    send_printPagesParams, hpp]
  exact ⟨_, rfl, resetPrepFrameView_prepFrameView _, by simp [send]⟩

/-- The object the constructor builds for printing, from the settings with the background
option set, is the throw-away object with that option, whatever the surfaces. -/
theorem create_printing_object {p : PrintMsgPrintParams} {frame : ViewId}
    {nodeIsNull printingNodeOrPdfFrame : Bool} {css : CssFrame} {w w₁ : World}
    {prep : PrepareFrameAndViewForPrint}
    (h : create osMacosx p frame nodeIsNull false printingNodeOrPdfFrame css w = .ok (prep, w₁))
    (b : Bool) (w' : World) :
    ∃ w₂, create osMacosx { p with shouldPrintBackgrounds := b } frame nodeIsNull false
      printingNodeOrPdfFrame css w' = .ok ({ prep with shouldPrintBackgrounds := b }, w₂) := by
  have hmap := @create_map_fst osMacosx p frame nodeIsNull false printingNodeOrPdfFrame css w w'
  rw [h] at hmap
  rw [create_shouldPrintBackgrounds]
  cases h' : create osMacosx p frame nodeIsNull false printingNodeOrPdfFrame css w' with
  | error f => simp [h', Except.map] at hmap
  | ok r =>
    obtain ⟨prep', w₂⟩ := r
    obtain rfl : prep = prep' := by simpa [h', Except.map] using hmap
    exact ⟨w₂, rfl⟩

/-- A silent `OnPrintPages` with nothing held, whose count is not zero, goes on to
`RenderPagesForPrint`. -/
theorem step_onPrintPages_silent {s t : Helper} {frame : ViewId} {printBackground : Bool}
    {defaults : PrintMsgPrintParams} {n : Int} (hp : s.prepFrameView = none)
    (hcount : calculateNumberOfPages osMacosx blink frame true defaults s = .ok (some n, t))
    (hn : n ≠ 0) :
    step osMacosx blink s (.onPrintPages frame true printBackground defaults) =
      renderAfterSettings osMacosx blink frame true true printBackground t := by
  simp only [step, print, hp, Option.isSome_none, Bool.false_eq_true, ↓reduceIte, hcount,
    except_ok_bind, hn, Bool.not_true]
  cases renderAfterSettings osMacosx blink frame true true printBackground t <;> rfl

/-- `RenderAfterSettings` with nothing held, on settings that do not ask for the selection only:
it records the background option, builds the object from the settings, and prints it at
once. -/
theorem renderAfterSettings_ready {t : Helper} {frame : ViewId} {nodeIsNull : Bool}
    (silent : Bool) {printBackground : Bool} {pp : PrintMsgPrintPagesParams}
    {prep : PrepareFrameAndViewForPrint} {w : World} (hp : t.prepFrameView = none)
    (hpp : t.printPagesParams = some pp)
    (hc : create osMacosx { pp.params with shouldPrintBackgrounds := printBackground } frame
      nodeIsNull t.ignoreCssMargins (printingNodeOrPdfFrame blink frame nodeIsNull)
        (blink.css frame) t.world = .ok (prep, w))
    (hsel : pp.params.selectionOnly = false) :
    ∃ u, renderAfterSettings osMacosx blink frame nodeIsNull silent printBackground t =
        onFramePreparedForPrintPages blink u ∧
      u.prepFrameView = some (t.nextPrep, { prep with onReady := true }) ∧
      u.printPagesParams =
        some { pp with params := { pp.params with shouldPrintBackgrounds := printBackground } } ∧
      u.log = t.log ++ [.prepared (.renderPagesForPrint silent)
        { pp.params with shouldPrintBackgrounds := printBackground }] := by
  obtain ⟨-, -, -, hsel', -⟩ := create_spec hc
  refine ⟨{ t with
    log := t.log ++ [.prepared (.renderPagesForPrint silent)
      { pp.params with shouldPrintBackgrounds := printBackground }]
    printPagesParams :=
      some { pp with params := { pp.params with shouldPrintBackgrounds := printBackground } }
    prepFrameView := some (t.nextPrep, { prep with onReady := true })
    nextPrep := t.nextPrep + 1, world := w }, ?_, rfl, rfl, rfl⟩
  dsimp only at hc hsel'
  have hcopy : prep.copySelectionIfNeeded w = some ({ prep with onReady := true }, w, true) := by
    simp [copySelectionIfNeeded, hsel', hsel]
  simp only [renderAfterSettings, renderPagesForPrint, derefPrintPagesParams_eq, hpp, hp,
    orFault_some, pure_bind, Option.isSome_none, Bool.false_eq_true, ↓reduceIte, hc, hcopy,
    bind_assoc, bind_pure, except_ok_bind]

end Routines

/-! ### A silent print -/

section Silent

variable (blink : Blink)

/-- **A silent print of a frame prints every page it counted, in one delivery**, in the Mac
build, whose `PrintPagesNative` is the one these sources have.  From any state with no printing
object held, a silent `OnPrintPages` whose default settings do not ask
for the selection only, and whose `CalculateNumberOfPages` counts `n ≠ 0` pages, completes:
it asks for the default settings, counts on a throw-away object, builds `prep_frame_view_` from
the defaults with the scaling option `InitPrintSettings` chose and the background option asked
for, announces `n` under the defaults' cookie, hands pages `0, …, n - 1` to
`PrintPageInternal` in order, and destroys the object. -/
theorem onPrintPages_silent_prints {s : Helper} (hp : s.prepFrameView = none) (frame : ViewId)
    (printBackground : Bool) {defaults : PrintMsgPrintParams}
    (hsel : defaults.selectionOnly = false) {n : Int} {t : Helper}
    (hcount : calculateNumberOfPages true blink frame true defaults s = .ok (some n, t))
    (hn : n ≠ 0) :
    let params : PrintMsgPrintParams := {
      defaults with
      printScalingOption :=
        if blink.paginatedPlugin frame then .sourceSize else .fitToPrintableArea }
    let printed : PrintMsgPrintParams := { params with shouldPrintBackgrounds := printBackground }
    ∃ s', step true blink s (.onPrintPages frame true printBackground defaults) = .ok s' ∧
      s'.prepFrameView = none ∧
      s'.log = s.log ++ [.sent .getDefaultPrintSettings, .prepared .calculateNumberOfPages params,
        .prepared (.renderPagesForPrint true) printed,
        .sent (.didGetPrintedPagesCount defaults.documentCookie n)] ++
        (printAllPages n).map fun i => .sent (.printPage ⟨printed, i⟩) := by
  intro params printed
  obtain ⟨⟨prep, w, hc, rfl⟩, htl, htpp, hti, htp, -⟩ := calculateNumberOfPages_some hcount
  have hscaling : (if !printingNodeOrPdfFrame blink frame true then
      WebPrintScalingOption.fitToPrintableArea else .sourceSize) =
      if blink.paginatedPlugin frame then .sourceSize else .fitToPrintableArea := by
    unfold printingNodeOrPdfFrame
    cases blink.paginatedPlugin frame <;> rfl
  rw [hscaling] at hc htl htpp
  obtain ⟨hf, -⟩ := create_spec hc
  -- the printing object lays the frame out as the throw-away one did
  obtain ⟨w', hc'⟩ := create_printing_object hc printBackground t.world
  obtain ⟨u, hu, hup, hupp, hul⟩ :=
    renderAfterSettings_ready true (htp.trans hp) htpp (hti ▸ hc') hsel
  obtain ⟨v, hv, hvp, hvl⟩ := onFramePreparedForPrintPages_prints hup hf hupp hn
  refine ⟨v, by rw [step_onPrintPages_silent hp hcount hn, hu, hv], hvp, ?_⟩
  rw [hvl, hul, htl]
  simp [printPagesNative]

/-- A silent print of a three-page Letter document, backgrounds on, from a fresh controller. -/
theorem onPrintPages_silent_prints_letter :
    let blink : Blink := ⟨fun _ => false, fun _ => CssFrame.noCss, fun _ _ => 3⟩
    let w : World := ⟨fun _ => ViewState.fresh, 1, fun _ o => o, []⟩
    let letter : PrintMsgPrintParams :=
      { pageSize := Size.make 612 792, contentSize := Size.make 576 756,
        printableArea := ⟨0, 0, Size.make 612 792⟩, marginTop := 18, marginLeft := 18,
        dpi := 72, minShrink := 1, maxShrink := 2, desiredDpi := 72, documentCookie := 1,
        selectionOnly := false, printScalingOption := .sourceSize, shouldPrintBackgrounds := false }
    let printed : PrintMsgPrintParams :=
      { letter with printScalingOption := .fitToPrintableArea, shouldPrintBackgrounds := true }
    (Helper.init w).prepFrameView = none ∧ letter.selectionOnly = false ∧
      (∃ t, calculateNumberOfPages true blink 0 true letter (Helper.init w) = .ok (some 3, t)) ∧
      (3 : Int) ≠ 0 ∧
      ∃ s', step true blink (Helper.init w) (.onPrintPages 0 true true letter) = .ok s' ∧
        s'.prepFrameView = none ∧
        s'.log = [.sent .getDefaultPrintSettings,
          .prepared .calculateNumberOfPages { letter with printScalingOption := .fitToPrintableArea },
          .prepared (.renderPagesForPrint true) printed, .sent (.didGetPrintedPagesCount 1 3)] ++
          (printAllPages 3).map fun i => .sent (.printPage ⟨printed, i⟩) := by
  intro blink w letter printed
  obtain ⟨t, ht⟩ : ∃ t, calculateNumberOfPages true blink 0 true letter (Helper.init w) =
      .ok (some 3, t) := ⟨_, rfl⟩
  exact ⟨rfl, rfl, ⟨t, ht⟩, by decide,
    onPrintPages_silent_prints blink rfl 0 true rfl ht (by decide)⟩

end Silent

end Printing
