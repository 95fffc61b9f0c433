import PrintWebViewHelper.Pages
import PrintWebViewHelper.PrepareFrame

/-!
# The print session controller

`PrintWebViewHelper` prints a render view's frames.  Its entry points are `PrintPage` (a
script's `window.print()`), `OnPrintPages` and `OnPrintingDone` (messages from the browser) and
`PrintNode` (the context menu).  A `Print` call passes the guard on `prep_frame_view_`, asks the
browser for the default settings, counts the pages on a throw-away
`PrepareFrameAndViewForPrint`, asks the user for the final settings unless it is silent, and
renders through a second object kept in `prep_frame_view_`.

Other code runs in the middle of a session in two places.  `GetPrintSettingsFromUser` sends
`PrintHostMsg_ScriptedPrint` with message pumping: until the reply comes, the thread delivers
entry points and runs posted tasks on top of the blocked call.  And a selection is printed from
a copy that loads asynchronously; when the load stops, the copy posts `CallOnReady` through a
weak pointer.

The model is a step function over `Helper`: the controller's fields, the surfaces, the posted
tasks, the stack of `Print` calls blocked in the pumped send (innermost first), and a log of
what the controller sent the browser and of every `PrepareFrameAndViewForPrint` it built.  An
`Event` is one delivery: an entry point, the reply to the innermost blocked send, the end of a
load, or the oldest posted task.  It runs to completion or until it blocks in the pump.  A
dereference of a null `print_pages_params_`, a call through a null frame, the `CHECK` of
`GetCssPrintParams` and a division by a resolution of zero are `Fault`s.

What Blink answers (`Blink`) and the settings the browser sends are inputs: the first is fixed
for a run, the second comes with each event.  `GetDPI` reads the build (`osMacosx`); `printPages`
is the Mac build's, the only `PrintPagesNative` these sources have.

## Main definitions

* `Helper`, `PendingPrint`, `HelperEvent` — the state, the blocked calls, the log.
* `didFinishPrinting`, `calculateNumberOfPages`, `getPrintSettingsFromUser`,
  `renderPagesForPrint`, `printPages`, `print`, `printNode`, … — the routines of the source.
* `Event`, `step`, `Reachable` — deliveries, and the states a run reaches.
* `run` — a list of deliveries, in order.
-/

namespace Printing

/-! ### State -/

/-- What Blink answers, fixed for a run. -/
structure Blink where
  /-- Whether the frame shows a plugin that paginates itself (`GetPlugin` and
  `supportsPaginatedPrint`). -/
  paginatedPlugin : ViewId → Bool
  /-- The frame's `@page` rules. -/
  css : ViewId → CssFrame
  /-- The page count `printBegin` answers for a frame laid out with these parameters. -/
  pageCount : ViewId → WebPrintParams → Int

/-- `PrintingNodeOrPdfFrame`: a node is printed as a plugin would be, and so is a frame whose
plugin paginates itself. -/
def printingNodeOrPdfFrame (blink : Blink) (frame : ViewId) (nodeIsNull : Bool) : Bool :=
  !nodeIsNull || blink.paginatedPlugin frame

/-- The messages the controller sends the browser. -/
inductive HostMsg
  /-- `PrintHostMsg_GetDefaultPrintSettings`, which the browser answers at once. -/
  | getDefaultPrintSettings
  /-- `PrintHostMsg_ShowInvalidPrinterSettingsError`. -/
  | showInvalidPrinterSettingsError
  /-- `PrintHostMsg_ScriptedPrint`, the settings dialog, sent with message pumping. -/
  | scriptedPrint (cookie expectedPagesCount : Int)
  /-- `PrintHostMsg_DidGetPrintedPagesCount`. -/
  | didGetPrintedPagesCount (cookie pageCount : Int)
  /-- `PrintHostMsg_PrintingFailed`. -/
  | printingFailed (cookie : Int)
  /-- A page handed to `PrintPageInternal`, which renders it for the browser. -/
  | printPage (params : PrintMsgPrintPageParams)
  deriving DecidableEq

/-- Where a `PrepareFrameAndViewForPrint` is built. -/
inductive PrepareSite
  /-- The throw-away object of `CalculateNumberOfPages`. -/
  | calculateNumberOfPages
  /-- `prep_frame_view_`, built by `RenderPagesForPrint` in a silent `Print` or after the
  settings dialog. -/
  | renderPagesForPrint (silent : Bool)
  deriving DecidableEq

/-- What the log records. -/
inductive HelperEvent
  /-- A message to the browser. -/
  | sent (msg : HostMsg)
  /-- A `PrepareFrameAndViewForPrint` built from these settings. -/
  | prepared (site : PrepareSite) (params : PrintMsgPrintParams)
  deriving DecidableEq

/-- Whether a log entry tells the browser how a session ended: a page handed to
`PrintPageInternal`, or `PrintHostMsg_PrintingFailed`. -/
def HelperEvent.reportsOutcome : HelperEvent → Bool
  | .sent (.printPage _) => true
  | .sent (.printingFailed _) => true
  | _ => false

/-- A `Print` call blocked in `GetPrintSettingsFromUser`'s pumped send, with the locals it
resumes with. -/
structure PendingPrint where
  frame : ViewId
  nodeIsNull : Bool
  printBackground : Bool
  /-- The scaling option saved across the dialog. -/
  scalingOption : WebPrintScalingOption
  /-- `PrintNode` called it, and clears `print_node_in_progress_` when it returns. -/
  fromPrintNode : Bool

/-- The fields of `PrintWebViewHelper` the sessions use, with the surfaces, the posted tasks,
the blocked `Print` calls and the log. -/
structure Helper where
  /-- `prep_frame_view_`, with the id its weak pointers name. -/
  prepFrameView : Option (Nat × PrepareFrameAndViewForPrint)
  printPagesParams : Option PrintMsgPrintPagesParams
  ignoreCssMargins : Bool
  notifyBrowserOfPrintFailure : Bool
  printNodeInProgress : Bool
  /-- The id of the next `PrepareFrameAndViewForPrint`. -/
  nextPrep : Nat
  world : World
  /-- Posted `CallOnReady` tasks, oldest first, by the object their weak pointer names. -/
  tasks : List Nat
  /-- `Print` calls blocked in the pumped send, innermost first. -/
  pumping : List PendingPrint
  log : List HelperEvent

/-- A freshly constructed `PrintWebViewHelper` over some surfaces. -/
def Helper.init (w : World) : Helper :=
  { prepFrameView := none, printPagesParams := none, ignoreCssMargins := false,
    notifyBrowserOfPrintFailure := true, printNodeInProgress := false, nextPrep := 0, world := w,
    tasks := [], pumping := [], log := [] }

/-- The outcome `DidFinishPrinting` is told. -/
inductive PrintingResult
  | ok
  | failPrintInit
  | failPrint
  deriving DecidableEq

namespace Helper

/-- `Send` of a message that expects no reply. -/
def send (s : Helper) (m : HostMsg) : Helper := { s with log := s.log ++ [.sent m] }

/-- `*print_pages_params_`. -/
def derefPrintPagesParams (s : Helper) : Except Fault PrintMsgPrintPagesParams :=
  orFault s.printPagesParams .nullPrintPagesParams

@[simp] theorem derefPrintPagesParams_eq (s : Helper) :
    s.derefPrintPagesParams = orFault s.printPagesParams .nullPrintPagesParams := rfl

@[simp] theorem send_prepFrameView (s : Helper) (m : HostMsg) :
    (s.send m).prepFrameView = s.prepFrameView := rfl

@[simp] theorem send_printPagesParams (s : Helper) (m : HostMsg) :
    (s.send m).printPagesParams = s.printPagesParams := rfl

@[simp] theorem send_world (s : Helper) (m : HostMsg) : (s.send m).world = s.world := rfl

@[simp] theorem send_pumping (s : Helper) (m : HostMsg) : (s.send m).pumping = s.pumping := rfl

@[simp] theorem send_log (s : Helper) (m : HostMsg) : (s.send m).log = s.log ++ [.sent m] := rfl

/-- `prep_frame_view_.reset()`: the object's destructor runs `FinishPrinting`. -/
def resetPrepFrameView (s : Helper) : Helper :=
  match s.prepFrameView with
  | none => s
  | some (_, prep) => { s with prepFrameView := none, world := (prep.finishPrinting s.world).2 }

end Helper

open Helper PrepareFrameAndViewForPrint

/-! ### The routines -/

section Routines

variable (osMacosx : Bool) (blink : Blink)

/-- `StartPrinting`, with Blink's page count for the frame. -/
def startPrintingWith (prep : PrepareFrameAndViewForPrint) (w : World) :
    Option (PrepareFrameAndViewForPrint × World) :=
  match prep.frame with
  | some v => prep.startPrinting (blink.pageCount v prep.webPrintParams) w
  | none => none

/-- `DidFinishPrinting`: tell the browser of a failure if it is to be told, then end the
session. -/
def didFinishPrinting (result : PrintingResult) (s : Helper) : Helper :=
  let s :=
    match result, s.printPagesParams with
    | .failPrint, some params =>
      if s.notifyBrowserOfPrintFailure then s.send (.printingFailed params.params.documentCookie)
      else s
    | _, _ => s
  { s.resetPrepFrameView with printPagesParams := none, notifyBrowserOfPrintFailure := true }

/-- `InitPrintSettings`: take the browser's default settings, whether they are valid, and store
them with no page list and the scaling option asked for. -/
def initPrintSettings (fitToPaperSize : Bool) (defaults : PrintMsgPrintParams) (s : Helper) :
    Bool × Helper :=
  let s := s.send .getDefaultPrintSettings
  let params := { defaults with
    printScalingOption := if fitToPaperSize then .fitToPrintableArea else .sourceSize }
  (printMsgPrintParamsIsValid defaults,
    { s with ignoreCssMargins := false, printPagesParams := some ⟨params, []⟩ })

/-- `CalculateNumberOfPages`: the page count (`none` for `false`), counted on a throw-away
`PrepareFrameAndViewForPrint` whose destructor ends its print mode. -/
def calculateNumberOfPages (frame : ViewId) (nodeIsNull : Bool) (defaults : PrintMsgPrintParams)
    (s : Helper) : Except Fault (Option Int × Helper) := do
  let nodeOrPdf := printingNodeOrPdfFrame blink frame nodeIsNull
  let (ok, s) := initPrintSettings (!nodeOrPdf) defaults s
  if !ok then
    return (none, { s with notifyBrowserOfPrintFailure := false }.send
      .showInvalidPrinterSettingsError)
  let params := (← s.derefPrintPagesParams).params
  let s := { s with log := s.log ++ [HelperEvent.prepared .calculateNumberOfPages params] }
  let (prepare, w) ← create osMacosx params frame nodeIsNull s.ignoreCssMargins nodeOrPdf
    (blink.css frame) s.world
  let (prepare, w) ← orFault (startPrintingWith blink prepare w) .nullFrame
  return (some prepare.expectedPagesCount, { s with world := (prepare.finishPrinting w).2 })

/-- `GetPrintSettingsFromUser` up to its pumped send: ask for the settings, save the scaling
option, drop `print_pages_params_`, and block. -/
def getPrintSettingsFromUser (frame : ViewId) (nodeIsNull : Bool) (expectedPagesCount : Int)
    (printBackground fromPrintNode : Bool) (s : Helper) : Except Fault Helper := do
  let params ← s.derefPrintPagesParams
  let s := s.send (.scriptedPrint params.params.documentCookie expectedPagesCount)
  return { s with
    printPagesParams := none
    pumping := ⟨frame, nodeIsNull, printBackground, params.params.printScalingOption,
      fromPrintNode⟩ :: s.pumping }

/-- `PrintPages` as the Mac build compiles it: start printing on `prep_frame_view_`, tell the
browser the page count, and hand the pages to `PrintPageInternal` through the Mac's
`PrintPagesNative`, which always succeeds.  The other builds' `PrintPagesNative` is not in
these sources, and the ChromeOS and Android builds skip the count; the results that read what
is printed are stated for the Mac build. -/
def printPages (s : Helper) : Except Fault Helper :=
  match s.prepFrameView with
  | none => .ok s
  | some (id, prep) => do
    let (prep, w) ← orFault (startPrintingWith blink prep s.world) .nullFrame
    let s := { s with prepFrameView := some (id, prep), world := w }
    let pageCount := prep.expectedPagesCount
    if pageCount = 0 then return didFinishPrinting .failPrint s
    let params ← s.derefPrintPagesParams
    let s := s.send (.didGetPrintedPagesCount params.params.documentCookie pageCount)
    let pages := (printPagesNative (← s.derefPrintPagesParams) pageCount).2
    return { s with log := s.log ++ pages.map fun page => HelperEvent.sent (.printPage page) }

/-- `OnFramePreparedForPrintPages`: `PrintPages`, then `FinishFramePrinting`. -/
def onFramePreparedForPrintPages (s : Helper) : Except Fault Helper :=
  (printPages blink s).map resetPrepFrameView

/-- `RenderPagesForPrint`: refuse if an object is already prepared; otherwise build
`prep_frame_view_` and copy the selection if needed, which prints at once unless it waits for
a load.  `silent` only names the site in the log. -/
def renderPagesForPrint (frame : ViewId) (nodeIsNull silent : Bool) (s : Helper) :
    Except Fault (Bool × Helper) := do
  if s.prepFrameView.isSome then return (false, s)
  let params := (← s.derefPrintPagesParams).params
  let s := { s with log := s.log ++ [HelperEvent.prepared (.renderPagesForPrint silent) params] }
  let (prep, w) ← create osMacosx params frame nodeIsNull s.ignoreCssMargins
    (printingNodeOrPdfFrame blink frame nodeIsNull) (blink.css frame) s.world
  let (prep, w, ready) ← orFault (prep.copySelectionIfNeeded w) .nullFrame
  let s := { s with
    prepFrameView := some (s.nextPrep, prep), nextPrep := s.nextPrep + 1, world := w }
  if ready then return (true, ← onFramePreparedForPrintPages blink s) else return (true, s)

/-- The end of `Print` once the settings are final: record the background setting and render,
ending the session on failure. -/
def renderAfterSettings (frame : ViewId) (nodeIsNull silent printBackground : Bool)
    (s : Helper) : Except Fault Helper := do
  let params ← s.derefPrintPagesParams
  let s := { s with printPagesParams := some { params with
    params := { params.params with shouldPrintBackgrounds := printBackground } } }
  let (ok, s) ← renderPagesForPrint osMacosx blink frame nodeIsNull silent s
  return if ok then s else didFinishPrinting .failPrint s

/-- `Print`: the state, and whether the call is blocked in the settings dialog's pump. -/
def print (frame : ViewId) (nodeIsNull silent printBackground fromPrintNode : Bool)
    (defaults : PrintMsgPrintParams) (s : Helper) : Except Fault (Helper × Bool) := do
  if s.prepFrameView.isSome then return (s, false)
  let (count, s) ← calculateNumberOfPages osMacosx blink frame nodeIsNull defaults s
  match count with
  | none => return (didFinishPrinting .failPrintInit s, false)
  | some count =>
    if count = 0 then return (didFinishPrinting .failPrint s, false)
    if !silent then
      return (← getPrintSettingsFromUser frame nodeIsNull count printBackground fromPrintNode s,
        true)
    return (← renderAfterSettings osMacosx blink frame nodeIsNull true printBackground s, false)

/-- The reply to the innermost blocked `PrintHostMsg_ScriptedPrint`: the blocked `Print`
resumes with the settings, its scaling option restored, and renders if they carry a resolution
and a document cookie; a `PrintNode` around it then clears its flag. -/
def resumePrint (settings : PrintMsgPrintPagesParams) (s : Helper) : Except Fault Helper :=
  match s.pumping with
  | [] => .ok s
  | pending :: rest => do
    let settings := { settings with
      params := { settings.params with printScalingOption := pending.scalingOption } }
    let s := { s with pumping := rest, printPagesParams := some settings }
    let s ←
      if settings.params.dpi ≠ 0 ∧ settings.params.documentCookie ≠ 0 then
        renderAfterSettings osMacosx blink pending.frame pending.nodeIsNull false
          pending.printBackground s
      else pure (didFinishPrinting .ok s)
    return if pending.fromPrintNode then { s with printNodeInProgress := false } else s

/-- `PrintNode`: ignore a null or detached node, and a call while another is in progress. -/
def printNode (frame : Option ViewId) (defaults : PrintMsgPrintParams) (s : Helper) :
    Except Fault Helper :=
  match frame with
  | none => .ok s
  | some frame =>
    if s.printNodeInProgress then .ok s
    else do
      let (s, blocked) ← print osMacosx blink frame false false false true defaults
        { s with printNodeInProgress := true }
      return if blocked then s else { s with printNodeInProgress := false }

/-- `OnPrintingDone`: end the session without telling the browser. -/
def onPrintingDone (success : Bool) (s : Helper) : Helper :=
  didFinishPrinting (if success then .ok else .failPrint)
    { s with notifyBrowserOfPrintFailure := false }

/-- `didStopLoading` of `prep_frame_view_`, when the view it owns stops loading: post
`CallOnReady` through a weak pointer. -/
def didStopLoading (v : ViewId) (s : Helper) : Helper :=
  match s.prepFrameView with
  | some (id, prep) =>
    if prep.frame = some v ∧ prep.ownsWebView ∧ (s.world.views v).isLoading ∧
        ¬(s.world.views v).closed then
      { s with world := s.world.stopLoading v, tasks := s.tasks ++ [id] }
    else s
  | none => s

/-- The oldest posted task: `CallOnReady` if the object its weak pointer names is alive. -/
def runTask (s : Helper) : Except Fault Helper :=
  match s.tasks with
  | [] => .ok s
  | id :: rest =>
    let s := { s with tasks := rest }
    match s.prepFrameView with
    | some (current, _) => if current = id then onFramePreparedForPrintPages blink s else .ok s
    | none => .ok s

end Routines

/-! ### Deliveries -/

/-- One delivery to the render thread, idle or pumping. -/
inductive Event
  /-- `PrintPage`: a script's `window.print()` in a frame. -/
  | printPage (frame : ViewId) (defaults : PrintMsgPrintParams)
  /-- `OnPrintPages`, on the frame `GetPrintFrame` picks. -/
  | onPrintPages (frame : ViewId) (silent printBackground : Bool) (defaults : PrintMsgPrintParams)
  /-- `PrintNode`, on a node in a frame, or on a null or detached node. -/
  | printNode (frame : Option ViewId) (defaults : PrintMsgPrintParams)
  /-- `OnPrintingDone`. -/
  | onPrintingDone (success : Bool)
  /-- The browser's reply to the innermost blocked `PrintHostMsg_ScriptedPrint`. -/
  | scriptedPrintReply (settings : PrintMsgPrintPagesParams)
  /-- A view stops loading. -/
  | didStopLoading (view : ViewId)
  /-- The oldest posted task runs. -/
  | runTask

section Step

variable (osMacosx : Bool) (blink : Blink)

/-- One delivery.  `defaults` is the browser's answer to `GetDefaultPrintSettings`; `Print`'s
`silent` and `print_background` default to `false`. -/
def step (s : Helper) : Event → Except Fault Helper
  | .printPage frame defaults =>
    (print osMacosx blink frame true false false false defaults s).map Prod.fst
  | .onPrintPages frame silent printBackground defaults =>
    (print osMacosx blink frame true silent printBackground false defaults s).map Prod.fst
  | .printNode frame defaults => printNode osMacosx blink frame defaults s
  | .onPrintingDone success => .ok (onPrintingDone success s)
  | .scriptedPrintReply settings => resumePrint osMacosx blink settings s
  | .didStopLoading v => .ok (didStopLoading v s)
  | .runTask => runTask blink s

/-- The states a run from a fresh controller over `w₀` reaches without crashing. -/
inductive Reachable (w₀ : World) : Helper → Prop
  | init : Reachable w₀ (Helper.init w₀)
  | step {s s' : Helper} (e : Event) :
      Reachable w₀ s → step osMacosx blink s e = .ok s' → Reachable w₀ s'

/-- Deliver a list of events in order. -/
def run (s : Helper) : List Event → Except Fault Helper
  | [] => .ok s
  | e :: es => (step osMacosx blink s e).bind fun s => run s es

theorem run_append (s : Helper) (es₁ es₂ : List Event) :
    run osMacosx blink s (es₁ ++ es₂) =
      (run osMacosx blink s es₁).bind fun t => run osMacosx blink t es₂ := by
  induction es₁ generalizing s with
  | nil => rfl
  | cons e es ih =>
    simp only [List.cons_append, run]
    cases step osMacosx blink s e with
    | error f => rfl
    | ok t => exact ih t

theorem reachable_of_run {w₀ : World} {s s' : Helper} {es : List Event}
    (hs : Reachable osMacosx blink w₀ s) (h : run osMacosx blink s es = .ok s') :
    Reachable osMacosx blink w₀ s' := by
  induction es generalizing s with
  | nil => cases h; exact hs
  | cons e es ih =>
    simp only [run] at h
    cases he : step osMacosx blink s e with
    | error f => simp [he, Except.bind] at h
    | ok s₁ =>
      simp only [he, Except.bind] at h
      exact ih (hs.step e he) h

/-- A run from a fresh controller that ends in a state where `p` holds. -/
theorem reach_of_run (w₀ : World) (es : List Event) {p : Helper → Prop} [DecidablePred p]
    (h : (run osMacosx blink (Helper.init w₀) es).toOption.any (fun s => decide (p s)) = true) :
    ∃ s, run osMacosx blink (Helper.init w₀) es = .ok s ∧ Reachable osMacosx blink w₀ s ∧ p s := by
  cases hr : run osMacosx blink (Helper.init w₀) es with
  | error f => simp [hr, Except.toOption] at h
  | ok s =>
    simp only [hr, Except.toOption, Option.any_some, decide_eq_true_eq] at h
    exact ⟨s, rfl, reachable_of_run osMacosx blink .init hr, h⟩

end Step

end Printing
