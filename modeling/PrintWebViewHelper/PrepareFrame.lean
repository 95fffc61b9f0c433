import PrintWebViewHelper.Geometry
import PrintWebViewHelper.Surface

/-!
# Preparing a frame and its view for printing

`PrepareFrameAndViewForPrint` borrows the frame being printed and its view, or, to print a
selection, copies the selection into a view of its own.  It resizes the view it prints for
the page, opens the frame's print mode, and on `FinishPrinting` closes the print mode,
restores a borrowed view and closes an owned one.

The frame reference (`FrameReference`) is a view id, reset to `none`.  A dereference of a
null frame is the `none` of `startPrinting` and `copySelection`.  The constructor can crash
(`Fault`): its `ComputeWebKitPrintParamsInDesiredDpi` divides by `GetDPI` in every conversion,
and its `CalculatePrintParamsForCss` can reach the `CHECK` of `GetCssPrintParams`.  The
snapshot of the view is kept in two `gfx::Size`s, so a negative scroll offset is stored as
zero and given back as zero.  `FinishPrinting`'s `DCHECK(!frame->isLoading())` before closing
an owned view is a debug-build assertion: the model goes on, as a release build does, and the
close event records whether the view was loading, so that a statement can say the assertion
held.

## Main definitions

* `Fault`, `orFault` — how the code crashes.
* `PrepareFrameAndViewForPrint` — the object's fields.
* `PrepareFrameAndViewForPrint.create`, `resizeForPrinting`, `restoreSize`, `startPrinting`,
  `copySelection`, `copySelectionIfNeeded`, `finishPrinting` — its operations.
* `Lifecycle`, `runLifecycle` — a use of one object in the order its callers follow.

## Main results

* `create_divideByZero` — a resolution of zero crashes the constructor.
* `finishPrinting_idem` — a second `FinishPrinting` changes nothing.
* `runLifecycle_leaves` — every completed lifecycle brackets the print mode, closes an owned
  view exactly once, and gives the borrowed view back its size.
* `runLifecycle_clamps_scroll_offset` — **the borrowed view's scroll offset comes back clamped
  at zero**: the backup of the offset loses a negative coordinate.
-/

namespace Printing

/-- How the code can crash. -/
inductive Fault
  /-- `*print_pages_params_` with `print_pages_params_` null. -/
  | nullPrintPagesParams
  /-- A call through a null `FrameReference`. -/
  | nullFrame
  /-- The `CHECK(frame)` of `GetCssPrintParams`. -/
  | cssCheck
  /-- An integer division by zero: `ConvertUnit` from a resolution of zero. -/
  | divideByZero
  deriving DecidableEq

/-- An optional result, or the crash its absence is. -/
def orFault {α : Type} (o : Option α) (f : Fault) : Except Fault α :=
  match o with
  | some a => .ok a
  | none => .error f

@[simp] theorem orFault_some {α : Type} (a : α) (f : Fault) : orFault (some a) f = pure a := rfl

@[simp] theorem orFault_none {α : Type} (f : Fault) : orFault (none : Option α) f = .error f := rfl

@[simp] theorem except_ok_bind {ε α β : Type} (a : α) (f : α → Except ε β) :
    (Except.ok a : Except ε α) >>= f = f a := rfl

@[simp] theorem except_map_ok {ε α β : Type} (a : α) (f : α → β) :
    f <$> (Except.ok a : Except ε α) = .ok (f a) := rfl

/-- The fields of a `PrepareFrameAndViewForPrint`; `frame` is its `FrameReference`, and of the
node to print only whether it is null is kept. -/
structure PrepareFrameAndViewForPrint where
  frame : Option ViewId
  nodeIsNull : Bool
  ownsWebView : Bool
  webPrintParams : WebPrintParams
  prevViewSize : Size
  prevScrollOffset : Size
  expectedPagesCount : Int
  onReady : Bool
  shouldPrintBackgrounds : Bool
  shouldPrintSelectionOnly : Bool
  isPrintingStarted : Bool

namespace PrepareFrameAndViewForPrint

/-- The constructor.  Unless a selection is printed from a node or a paginating plugin, it
opens the frame's print mode for a provisional pass that reconciles the parameters of page 0
with the frame's CSS, and closes it again.  `printingNodeOrPdfFrame` is Blink's answer to
`PrintingNodeOrPdfFrame`.  Both branches first run `ComputeWebKitPrintParamsInDesiredDpi` on
the settings, whose conversions divide by `GetDPI`. -/
def create (osMacosx : Bool) (params : PrintMsgPrintParams) (frame : ViewId) (nodeIsNull : Bool)
    (ignoreCssMargins printingNodeOrPdfFrame : Bool) (css : CssFrame) (w : World) :
    Except Fault (PrepareFrameAndViewForPrint × World) :=
  let prep : PrepareFrameAndViewForPrint :=
    { frame := some frame, nodeIsNull := nodeIsNull, ownsWebView := false,
      webPrintParams := WebPrintParams.default, prevViewSize := Size.make 0 0,
      prevScrollOffset := Size.make 0 0, expectedPagesCount := 0, onReady := false,
      shouldPrintBackgrounds := params.shouldPrintBackgrounds,
      shouldPrintSelectionOnly := params.selectionOnly, isPrintingStarted := false }
  if getDPI osMacosx params = 0 then .error .divideByZero
  else if !prep.shouldPrintSelectionOnly || !printingNodeOrPdfFrame then
    let fitToPage := ignoreCssMargins && params.printScalingOption == .fitToPrintableArea
    let webPrintParams := computeWebKitPrintParamsInDesiredDpi osMacosx params prep.webPrintParams
    match calculatePrintParamsForCss osMacosx (some css) 0 params ignoreCssMargins fitToPage with
    | none => .error .cssCheck
    | some (printParams, _) =>
      .ok ({ prep with
          webPrintParams := computeWebKitPrintParamsInDesiredDpi osMacosx printParams webPrintParams },
        (w.printBegin frame).printEnd frame)
  else
    .ok ({ prep with
      webPrintParams := computeWebKitPrintParamsInDesiredDpi osMacosx params prep.webPrintParams }, w)

/-- The size the view is laid out at: the content area, its height stretched by 1.25 so that
WebKit's shrinking leaves the page at its size.  `h * 1.25` is exact in a `double` for every
`int` `h`, so the truncating cast is `(5 h) / 4` in C (`printLayoutSize_eq`). -/
def printLayoutSize (prep : PrepareFrameAndViewForPrint) : Size :=
  let size := Size.make prep.webPrintParams.printContentArea.width
    prep.webPrintParams.printContentArea.height
  Size.make size.width ((size.height * 5).tdiv 4)

/-- The layout size is the source's `static_cast<int>(static_cast<double>(h) * 1.25)`, the
`double` taken exactly. -/
theorem printLayoutSize_eq (prep : PrepareFrameAndViewForPrint) :
    let size := Size.make prep.webPrintParams.printContentArea.width
      prep.webPrintParams.printContentArea.height
    prep.printLayoutSize = Size.make size.width (toIntTrunc ((size.height : ℚ) * 1.25)) := by
  intro size
  have h : (size.height : ℚ) * 1.25 = ((size.height * 5 : Int) : ℚ) / (4 : Nat) := by
    push_cast; norm_num; ring
  rw [h, toIntTrunc_intCast_div]
  rfl

/-- `ResizeForPrinting`: snapshot the view's size and main-frame scroll offset, and resize it
for the page. -/
def resizeForPrinting (prep : PrepareFrameAndViewForPrint) (w : World) :
    PrepareFrameAndViewForPrint × World :=
  match prep.frame with
  | none => (prep, w)
  | some v =>
    ({ prep with
        prevScrollOffset := Size.make (w.views v).scrollOffset.width (w.views v).scrollOffset.height
        prevViewSize := (w.views v).size },
      w.resize v prep.printLayoutSize)

/-- `RestoreSize`: put the snapshot back. -/
def restoreSize (prep : PrepareFrameAndViewForPrint) (w : World) : World :=
  match prep.frame with
  | none => w
  | some v =>
    (w.resize v prep.prevViewSize).setScrollOffset v
      ⟨prep.prevScrollOffset.width, prep.prevScrollOffset.height⟩

/-- `StartPrinting`: resize, apply the background setting and open the print mode, which
answers with `pageCount` pages. -/
def startPrinting (pageCount : Int) (prep : PrepareFrameAndViewForPrint) (w : World) :
    Option (PrepareFrameAndViewForPrint × World) :=
  let (prep, w) := prep.resizeForPrinting w
  match prep.frame with
  | none => none
  | some v =>
    some ({ prep with expectedPagesCount := pageCount, isPrintingStarted := true },
      (w.setShouldPrintBackgrounds v prep.shouldPrintBackgrounds).printBegin v)

/-- `CopySelection`: take the selection at the print size, restore the view, and load the
selection into a new view with scripts off, which this object owns and prints from. -/
def copySelection (prep : PrepareFrameAndViewForPrint) (w : World) :
    Option (PrepareFrameAndViewForPrint × World) :=
  let (prep, w) := prep.resizeForPrinting w
  match prep.frame with
  | none => none
  | some _ =>
    let (w, view) := (prep.restoreSize w).createView
    some ({ prep with ownsWebView := true, frame := some view, nodeIsNull := true },
      (w.applyJavascriptEnabled view false).loadRequest view)

/-- `CopySelectionIfNeeded`: the new state, and whether `on_ready` runs at once (it does when
no selection is copied; otherwise the end of the load posts it). -/
def copySelectionIfNeeded (prep : PrepareFrameAndViewForPrint) (w : World) :
    Option (PrepareFrameAndViewForPrint × World × Bool) :=
  let prep := { prep with onReady := true }
  if prep.shouldPrintSelectionOnly then
    (prep.copySelection w).map fun r => (r.1, r.2, false)
  else some (prep, w, true)

/-- `FinishPrinting`, which the destructor also runs: close the print mode if it was opened,
restoring a borrowed view, close an owned view, and drop the frame and the callback.  The
`DCHECK(!frame->isLoading())` before the close is the `whileLoading` flag of the close
event. -/
def finishPrinting (prep : PrepareFrameAndViewForPrint) (w : World) :
    PrepareFrameAndViewForPrint × World :=
  match prep.frame with
  | none => ({ prep with onReady := false }, w)
  | some v =>
    let w :=
      if prep.isPrintingStarted then
        if prep.ownsWebView then w.printEnd v
        else prep.restoreSize ((w.printEnd v).setShouldPrintBackgrounds v false)
      else w
    let w := if prep.ownsWebView then w.close v else w
    ({ prep with
        frame := none, onReady := false, isPrintingStarted := false, ownsWebView := false }, w)

end PrepareFrameAndViewForPrint

/-- A use of one `PrepareFrameAndViewForPrint` in the order its callers follow: optionally
`CopySelectionIfNeeded`, optionally `StartPrinting` (with the page count the frame answers),
then `FinishPrinting` some number of times before the destructor. -/
structure Lifecycle where
  copySelectionIfNeeded : Bool
  startPrinting : Option Int
  finishes : Nat

/-- The calls of a `Lifecycle` between the constructor and the first `FinishPrinting`. -/
def Lifecycle.prepare (life : Lifecycle) (prep : PrepareFrameAndViewForPrint) (w : World) :
    Option (PrepareFrameAndViewForPrint × World) := do
  let (prep, w) ←
    if life.copySelectionIfNeeded then (prep.copySelectionIfNeeded w).map fun r => (r.1, r.2.1)
    else some (prep, w)
  match life.startPrinting with
  | some pageCount => prep.startPrinting pageCount w
  | none => some (prep, w)

open PrepareFrameAndViewForPrint in
/-- Construct an object and run a `Lifecycle` on it, the destructor included. -/
def runLifecycle (osMacosx : Bool) (params : PrintMsgPrintParams) (frame : ViewId)
    (nodeIsNull ignoreCssMargins printingNodeOrPdfFrame : Bool) (css : CssFrame)
    (life : Lifecycle) (w : World) : Except Fault (PrepareFrameAndViewForPrint × World) := do
  let (prep, w) ← create osMacosx params frame nodeIsNull ignoreCssMargins printingNodeOrPdfFrame
    css w
  let s ← orFault (life.prepare prep w) .nullFrame
  return Function.uncurry finishPrinting ((Function.uncurry finishPrinting)^[life.finishes] s)

/-! ### What a lifecycle leaves behind -/

/-- A scroll offset kept in a `gfx::Size` and read back: each coordinate clamped at zero. -/
def WebSize.throughSize (o : WebSize) : WebSize :=
  let s := Size.make o.width o.height
  ⟨s.width, s.height⟩

namespace PrepareFrameAndViewForPrint

variable {osMacosx : Bool} {params : PrintMsgPrintParams} {frame : ViewId}
  {nodeIsNull ignoreCssMargins printingNodeOrPdfFrame : Bool} {css : CssFrame}
  {prep : PrepareFrameAndViewForPrint} {w w' : World}

/-- The constructor holds the frame, owns nothing, has not started printing, and logs at most
the provisional pass, which is bracketed and closes nothing. -/
theorem create_spec
    (h : create osMacosx params frame nodeIsNull ignoreCssMargins printingNodeOrPdfFrame css w =
      .ok (prep, w')) :
    prep.frame = some frame ∧ prep.ownsWebView = false ∧ prep.isPrintingStarted = false ∧
      prep.shouldPrintSelectionOnly = params.selectionOnly ∧
      ∃ events, Bracketed events ∧ closedViews events = [] ∧
        w' = { w with log := w.log ++ events } := by
  simp only [create] at h
  split at h
  · cases h
  · split at h
    · split at h
      · cases h
      · cases h
        exact ⟨rfl, rfl, rfl, rfl, _, bracketed_pair frame, rfl, by ext <;> simp⟩
    · cases h
      exact ⟨rfl, rfl, rfl, rfl, [], bracketed_nil, rfl, by simp⟩

/-- The constructor crashes only at the `CHECK` of `GetCssPrintParams` or dividing by a
resolution of zero. -/
theorem create_error {f : Fault}
    (h : create osMacosx params frame nodeIsNull ignoreCssMargins printingNodeOrPdfFrame css w =
      .error f) :
    f = .cssCheck ∨ f = .divideByZero := by
  simp only [create] at h
  split at h
  · cases h; exact .inr rfl
  · split at h
    · split at h
      · cases h; exact .inl rfl
      · cases h
    · cases h

/-- **A resolution of zero crashes the constructor**: the first conversion of
`ComputeWebKitPrintParamsInDesiredDpi` divides by it. -/
theorem create_divideByZero (h : getDPI osMacosx params = 0) :
    create osMacosx params frame nodeIsNull ignoreCssMargins printingNodeOrPdfFrame css w =
      .error .divideByZero := by
  simp only [create, h, if_true]

/-- `StartPrinting` on a held frame: the snapshot of its view, the page count, and the view
resized for the page with its print mode open. -/
theorem startPrinting_eq {v : ViewId} (h : prep.frame = some v) (n : Int) (w : World) :
    prep.startPrinting n w = some ({ prep with
        prevScrollOffset :=
          Size.make (w.views v).scrollOffset.width (w.views v).scrollOffset.height,
        prevViewSize := (w.views v).size, expectedPagesCount := n, isPrintingStarted := true },
      ((w.resize v prep.printLayoutSize).setShouldPrintBackgrounds v
        prep.shouldPrintBackgrounds).printBegin v) := by
  simp only [startPrinting, resizeForPrinting, h]

/-- `StartPrinting` on a held frame keeps the frame and the WebKit parameters, and records
the page count. -/
theorem startPrinting_of_frame {v : ViewId} (h : prep.frame = some v) (n : Int) (w : World) :
    ∃ prep' w', prep.startPrinting n w = some (prep', w') ∧ prep'.frame = some v ∧
      prep'.expectedPagesCount = n ∧ prep'.webPrintParams = prep.webPrintParams :=
  ⟨_, _, startPrinting_eq h n w, h, rfl, rfl⟩

/-- `CopySelectionIfNeeded` on a held frame returns, holding a frame. -/
theorem copySelectionIfNeeded_of_frame {v : ViewId} (h : prep.frame = some v) (w : World) :
    ∃ prep' w' ready, prep.copySelectionIfNeeded w = some (prep', w', ready) ∧
      prep'.frame.isSome := by
  cases hs : prep.shouldPrintSelectionOnly <;>
    simp [copySelectionIfNeeded, copySelection, resizeForPrinting, h, hs]

/-- `CopySelectionIfNeeded` of a selection on a held frame: the object owns a fresh view and
waits for its load; the held view gets its size back, and its scroll offset through the
snapshot; nothing is logged. -/
theorem copySelectionIfNeeded_selection {v : ViewId} (h : prep.frame = some v)
    (hsel : prep.shouldPrintSelectionOnly = true) (w : World) :
    ∃ prep' w', prep.copySelectionIfNeeded w = some (prep', w', false) ∧
      prep'.frame = some w.nextView ∧ prep'.ownsWebView = true ∧
      prep'.isPrintingStarted = prep.isPrintingStarted ∧ w'.log = w.log ∧
      (v ≠ w.nextView → (w'.views v).size = (w.views v).size ∧
        (w'.views v).scrollOffset = (w.views v).scrollOffset.throughSize) := by
  simp only [copySelectionIfNeeded, copySelection, resizeForPrinting, h, hsel, if_true,
    Option.map_some']
  refine ⟨_, _, rfl, rfl, rfl, rfl, by simp [restoreSize], fun hv => ?_⟩
  simp [restoreSize, hv, WebSize.throughSize]

/-- The object the constructor builds, and whether it crashes, does not depend on the
surfaces. -/
theorem create_map_fst (w₁ w₂ : World) :
    (create osMacosx params frame nodeIsNull ignoreCssMargins printingNodeOrPdfFrame css
        w₁).map Prod.fst =
      (create osMacosx params frame nodeIsNull ignoreCssMargins printingNodeOrPdfFrame css
        w₂).map Prod.fst := by
  simp only [create]
  split
  · rfl
  · split
    · split <;> rfl
    · rfl

/-- `CopySelectionIfNeeded` logs nothing on the surfaces and does not open the print mode. -/
theorem copySelectionIfNeeded_log {prep' : PrepareFrameAndViewForPrint} {w : World} {ready : Bool}
    (h : prep.copySelectionIfNeeded w = some (prep', w', ready)) :
    prep'.isPrintingStarted = prep.isPrintingStarted ∧ w'.log = w.log := by
  cases hsel : prep.shouldPrintSelectionOnly <;> cases hf : prep.frame <;>
    simp [copySelectionIfNeeded, copySelection, resizeForPrinting, restoreSize, hsel, hf] at h <;>
    obtain ⟨rfl, rfl, -⟩ := h <;> simp

/-- An object that is not ready at once copied a selection: it owns a fresh view, open and
loading. -/
theorem copySelectionIfNeeded_not_ready {prep' : PrepareFrameAndViewForPrint} {w : World}
    (h : prep.copySelectionIfNeeded w = some (prep', w', false)) :
    ∃ v, prep'.frame = some v ∧ prep'.ownsWebView = true ∧ (w'.views v).isLoading = true ∧
      (w'.views v).closed = false := by
  cases hsel : prep.shouldPrintSelectionOnly <;> cases hf : prep.frame <;>
    simp [copySelectionIfNeeded, copySelection, resizeForPrinting, restoreSize, hsel, hf] at h
  obtain ⟨rfl, rfl⟩ := h
  simp [ViewState.fresh]

/-- `FinishPrinting` closes the print mode it finds open, on the object's frame, and logs
nothing else that the print mode sees. -/
theorem finishPrinting_replay (prep : PrepareFrameAndViewForPrint) (w : World) :
    ∃ e, (prep.finishPrinting w).2.log = w.log ++ e ∧
      replayPrinting (if prep.isPrintingStarted then prep.frame.toList else []) e = some [] := by
  cases hf : prep.frame with
  | none => exact ⟨[], by simp [finishPrinting, hf], by split <;> rfl⟩
  | some v =>
    cases hs : prep.isPrintingStarted <;> cases ho : prep.ownsWebView <;>
      simp [finishPrinting, restoreSize, hf, hs, ho, replayPrinting]

/-- `StartPrinting` and then `FinishPrinting`, with no surface call between them that the print
mode sees: the print mode is opened and closed once on the object's frame. -/
theorem startPrinting_finishPrinting_bracketed {v : ViewId} {n : Int}
    {p : PrepareFrameAndViewForPrint} {w : World} (hf : prep.frame = some v)
    (h : prep.startPrinting n w = some (p, w')) :
    ∃ e, (p.finishPrinting w').2.log = w.log ++ e ∧ Bracketed e := by
  rw [startPrinting_eq hf, Option.some.injEq, Prod.mk.injEq] at h
  obtain ⟨rfl, rfl⟩ := h
  obtain ⟨e, hl, hr⟩ := finishPrinting_replay
    { prep with
      prevScrollOffset := Size.make (w.views v).scrollOffset.width (w.views v).scrollOffset.height,
      prevViewSize := (w.views v).size, expectedPagesCount := n, isPrintingStarted := true }
    (((w.resize v prep.printLayoutSize).setShouldPrintBackgrounds v
      prep.shouldPrintBackgrounds).printBegin v)
  refine ⟨.printBegin v :: e, by rw [hl]; simp, ?_⟩
  simpa [Bracketed, replayPrinting, hf] using hr

/-- A second `FinishPrinting` changes nothing. -/
theorem finishPrinting_idem (s : PrepareFrameAndViewForPrint × World) :
    Function.uncurry finishPrinting (Function.uncurry finishPrinting s) =
      Function.uncurry finishPrinting s := by
  obtain ⟨prep, w⟩ := s
  cases h : prep.frame <;> simp [finishPrinting, h]

/-- However many `FinishPrinting`s precede the destructor, the destructor leaves what the
first one left. -/
theorem finishPrinting_iterate (n : Nat) (s : PrepareFrameAndViewForPrint × World) :
    Function.uncurry finishPrinting ((Function.uncurry finishPrinting)^[n] s) =
      Function.uncurry finishPrinting s := by
  cases n with
  | zero => rfl
  | succ n =>
    rw [Function.iterate_succ_apply, Function.iterate_fixed (finishPrinting_idem s),
      finishPrinting_idem]

end PrepareFrameAndViewForPrint

open PrepareFrameAndViewForPrint

/-! ### A lifecycle, phase by phase -/

namespace Lifecycle

variable {prep : PrepareFrameAndViewForPrint} {v : ViewId}

/-- A lifecycle is its optional copy of the selection followed by a lifecycle that copies
nothing.  On a borrowed frame not printing yet, a copy leaves an owned view and the borrowed
one at its size, with its scroll offset through the snapshot; without a selection to copy,
the object keeps the borrowed frame and the surfaces are untouched. -/
theorem prepare_copy (hf : prep.frame = some v) (ho : prep.ownsWebView = false)
    (hs : prep.isPrintingStarted = false) (life : Lifecycle) (w : World) :
    ∃ p w', life.prepare prep w = (mk false life.startPrinting life.finishes).prepare p w' ∧
      p.isPrintingStarted = false ∧
      if life.copySelectionIfNeeded && prep.shouldPrintSelectionOnly then
        p.frame = some w.nextView ∧ p.ownsWebView = true ∧ w'.log = w.log ∧
          (v ≠ w.nextView → (w'.views v).size = (w.views v).size ∧
            (w'.views v).scrollOffset = (w.views v).scrollOffset.throughSize)
      else p.frame = some v ∧ p.ownsWebView = false ∧ w' = w := by
  obtain ⟨copy, start, n⟩ := life
  cases copy
  · exact ⟨prep, w, rfl, hs, by simp [hf, ho]⟩
  cases hsel : prep.shouldPrintSelectionOnly
  · exact ⟨{ prep with onReady := true }, w,
      by simp [prepare, PrepareFrameAndViewForPrint.copySelectionIfNeeded, hsel], hs,
      by simp [hf, ho]⟩
  · obtain ⟨p, w', hcs, hf', ho', hs', hp⟩ := copySelectionIfNeeded_selection hf hsel w
    exact ⟨p, w', by simp [prepare, hcs], hs'.trans hs, by simpa [hsel] using ⟨hf', ho', hp⟩⟩

/-- A copy-free lifecycle on a borrowed frame not printing yet: the print mode it opens is
closed, no view is closed, and the view gets its size back, and its scroll offset through
the snapshot if it was resized. -/
theorem prepare_borrowed (hf : prep.frame = some v) (ho : prep.ownsWebView = false)
    (hs : prep.isPrintingStarted = false) (start : Option Int) (n : Nat) (w : World) :
    ∃ p w', (mk false start n).prepare prep w = some (p, w') ∧
      (∃ events, (p.finishPrinting w').2.log = w.log ++ events ∧ Bracketed events ∧
        closedViews events = []) ∧
      ((p.finishPrinting w').2.views v).size = (w.views v).size ∧
      ((p.finishPrinting w').2.views v).scrollOffset =
        if start.isSome then (w.views v).scrollOffset.throughSize
        else (w.views v).scrollOffset := by
  cases start with
  | none => exact ⟨prep, w, rfl, ⟨[], by simp [finishPrinting, hf, ho, hs], bracketed_nil, rfl⟩,
      by simp [finishPrinting, hf, ho, hs], by simp [finishPrinting, hf, ho, hs]⟩
  | some k =>
    refine ⟨_, _, startPrinting_eq hf k w, ⟨_, ?_, bracketed_pair v, rfl⟩, ?_, ?_⟩ <;>
      simp [finishPrinting, restoreSize, hf, ho, WebSize.throughSize]

/-- A copy-free lifecycle on an owned view not printing yet: the print mode it opens is
closed, the view is closed, and no other view changes. -/
theorem prepare_owned (hf : prep.frame = some v) (ho : prep.ownsWebView = true)
    (hs : prep.isPrintingStarted = false) (start : Option Int) (n : Nat) (w : World) :
    ∃ p w', (mk false start n).prepare prep w = some (p, w') ∧
      (∃ events, (p.finishPrinting w').2.log = w.log ++ events ∧ Bracketed events ∧
        closedViews events = [v]) ∧
      ∀ u, u ≠ v → (p.finishPrinting w').2.views u = w.views u := by
  cases start with
  | none => exact ⟨prep, w, rfl, ⟨_, by simp [finishPrinting, hf, ho, hs],
      bracketed_close v (w.views v).isLoading, rfl⟩,
      fun u hu => by simp [finishPrinting, hf, ho, hs, hu]⟩
  | some k =>
    refine ⟨_, _, startPrinting_eq hf k w, ⟨_, by simp [finishPrinting, hf, ho],
      (bracketed_pair v).append (bracketed_close v (w.views v).isLoading), rfl⟩,
      fun u hu => by simp [finishPrinting, hf, ho, hu]⟩

end Lifecycle

section Lifecycle

variable (osMacosx : Bool) (params : PrintMsgPrintParams) (frame : ViewId)
  (nodeIsNull ignoreCssMargins printingNodeOrPdfFrame : Bool) (css : CssFrame) (life : Lifecycle)
  (w : World)

/-- What a completed lifecycle leaves: a bracketed log that closes the owned view, if a
selection was copied, and nothing else; the borrowed view at its size; and its scroll offset
through the `gfx::Size` snapshot if the view was resized. -/
theorem runLifecycle_leaves (hframe : frame < w.nextView) (prep : PrepareFrameAndViewForPrint)
    (w' : World)
    (h : runLifecycle osMacosx params frame nodeIsNull ignoreCssMargins printingNodeOrPdfFrame css
      life w = .ok (prep, w')) :
    let copied := life.copySelectionIfNeeded && params.selectionOnly
    (∃ events, w'.log = w.log ++ events ∧ Bracketed events ∧
        closedViews events = if copied then [w.nextView] else []) ∧
      (w'.views frame).size = (w.views frame).size ∧
      (w'.views frame).scrollOffset =
        if copied || life.startPrinting.isSome then (w.views frame).scrollOffset.throughSize
        else (w.views frame).scrollOffset := by
  simp only [runLifecycle, finishPrinting_iterate] at h
  rcases hc : create osMacosx params frame nodeIsNull ignoreCssMargins printingNodeOrPdfFrame css w
    with f | ⟨p0, w0⟩
  · rw [hc] at h; cases h
  obtain ⟨hf, ho, hs, hsel, A, hA, hAc, rfl⟩ := create_spec hc
  obtain ⟨p, w₁, hpre, hs₁, hp⟩ :=
    Lifecycle.prepare_copy hf ho hs life { w with log := w.log ++ A }
  simp only [hc, except_ok_bind, hpre] at h
  rw [hsel] at hp
  dsimp only
  cases hcp : life.copySelectionIfNeeded && params.selectionOnly <;>
    simp only [hcp, Bool.false_eq_true, ↓reduceIte, Bool.false_or, Bool.true_or] at hp ⊢
  · -- the borrowed frame is printed
    obtain ⟨hf₁, ho₁, rfl⟩ := hp
    obtain ⟨p', w₂, hr, ⟨e, he, heb, hec⟩, hsize, hscroll⟩ :=
      Lifecycle.prepare_borrowed hf₁ ho₁ hs₁ life.startPrinting life.finishes _
    rw [hr, orFault_some] at h
    obtain rfl : (p'.finishPrinting w₂).2 = w' := congrArg Prod.snd (Except.ok.inj h)
    exact ⟨⟨A ++ e, by simp [he], hA.append heb, by simp [hAc, hec]⟩, hsize,
      by simpa using hscroll⟩
  · -- a copy of the selection is printed
    obtain ⟨hf₁, ho₁, hlog, hv⟩ := hp
    obtain ⟨p', w₂, hr, ⟨e, he, heb, hec⟩, hviews⟩ :=
      Lifecycle.prepare_owned hf₁ ho₁ hs₁ life.startPrinting life.finishes _
    rw [hr, orFault_some] at h
    obtain rfl : (p'.finishPrinting w₂).2 = w' := congrArg Prod.snd (Except.ok.inj h)
    have hne : frame ≠ w.nextView := hframe.ne
    rw [hviews frame hne]
    exact ⟨⟨A ++ e, by simp [he, hlog], hA.append heb, by simp [hAc, hec]⟩, (hv hne).1,
      by simpa using (hv hne).2⟩

/-- **The borrowed view's scroll offset is not given back.**  `ResizeForPrinting` backs the
offset up ("Backup size and offset.") in `prev_scroll_offset_`, a `gfx::Size`, which stores a
negative coordinate as zero, and `RestoreSize` sets the offset from that backup.  So every
completed lifecycle that resizes the borrowed view, to print it or to copy a selection from
it, leaves that view's scroll offset clamped at zero. -/
theorem runLifecycle_clamps_scroll_offset (hframe : frame < w.nextView)
    (hresized : (life.copySelectionIfNeeded && params.selectionOnly ||
      life.startPrinting.isSome) = true) :
    ∀ prep w', runLifecycle osMacosx params frame nodeIsNull ignoreCssMargins
        printingNodeOrPdfFrame css life w = .ok (prep, w') →
      (w'.views frame).scrollOffset = (w.views frame).scrollOffset.throughSize := by
  intro prep w' h
  have := (runLifecycle_leaves osMacosx params frame nodeIsNull ignoreCssMargins
    printingNodeOrPdfFrame css life w hframe prep w' h).2.2
  rwa [if_pos hresized] at this

/-- The object `CalculateNumberOfPages` builds (constructor, `StartPrinting`, destructor) on a
view scrolled to (-5, 0): the lifecycle completes and leaves the view at (0, 0). -/
theorem runLifecycle_clamps_scroll_offset_calculateNumberOfPages :
    let params : PrintMsgPrintParams :=
      { pageSize := Size.make 612 792, contentSize := Size.make 576 756,
        printableArea := ⟨0, 0, Size.make 612 792⟩, marginTop := 18, marginLeft := 18,
        dpi := 72, minShrink := 1, maxShrink := 2, desiredDpi := 72, documentCookie := 1,
        selectionOnly := false, printScalingOption := .sourceSize, shouldPrintBackgrounds := false }
    let w : World :=
      ⟨fun _ => { ViewState.fresh with size := Size.make 800 600, scrollOffset := ⟨-5, 0⟩ }, 1,
        fun _ o => o, []⟩
    let life : Lifecycle := ⟨false, some 1, 0⟩
    0 < w.nextView ∧
      (life.copySelectionIfNeeded && params.selectionOnly || life.startPrinting.isSome) = true ∧
      (∀ prep w', runLifecycle false params 0 true false false CssFrame.noCss life w =
          .ok (prep, w') →
        (w'.views 0).scrollOffset = (w.views 0).scrollOffset.throughSize) ∧
      (runLifecycle false params 0 true false false CssFrame.noCss life w).toBool = true ∧
      (w.views 0).scrollOffset = ⟨-5, 0⟩ ∧ (w.views 0).scrollOffset.throughSize = ⟨0, 0⟩ :=
  ⟨by decide, rfl, runLifecycle_clamps_scroll_offset false _ 0 true false false CssFrame.noCss _ _
    (by decide) rfl, by decide, rfl, by decide⟩

end Lifecycle

end Printing
