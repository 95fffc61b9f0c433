import PrintWebViewHelper.Params

/-!
# Rendering surfaces

The part of Blink a `PrepareFrameAndViewForPrint` acts on: web views, each with a size, a
main-frame scroll offset, a print-backgrounds setting, whether scripts run, whether it is
loading and whether it is closed, and a log of the calls that open and close the print mode of
a view's frame and that close a view.  A printed frame stands for its view: a view id names
both.

Blink decides where a scroll offset lands when a view is resized; `clampScroll` is that
decision, and the model never looks inside it.

## Main definitions

* `ViewState`, `World` — the views, and the log of `SurfaceEvent`s.
* `replayPrinting`, `Bracketed` — every `printBegin` is closed by exactly one later
  `printEnd` on its view, and no `printEnd` comes without an open `printBegin`.
* `closedViews` — the views a log closes, in order.

## Main results

* `replayPrinting_append` — replaying a log is replaying its two halves.
* `Bracketed.append`, `bracketed_pair`, `bracketed_close` — how bracketed logs are built.
-/

namespace Printing

/-- Views are numbered. -/
abbrev ViewId := Nat

/-- What the model keeps of a `blink::WebView` and its main frame. -/
structure ViewState where
  size : Size
  scrollOffset : WebSize
  shouldPrintBackgrounds : Bool
  javascriptEnabled : Bool
  isLoading : Bool
  closed : Bool

/-- A fresh `WebView::create`: empty, scripts on, not loading. -/
def ViewState.fresh : ViewState :=
  ⟨Size.make 0 0, ⟨0, 0⟩, false, true, false, false⟩

/-- The calls on a surface the print protocol is about. -/
inductive SurfaceEvent
  /-- `WebFrame::printBegin` on the view's frame. -/
  | printBegin (view : ViewId)
  /-- `WebFrame::printEnd` on the view's frame. -/
  | printEnd (view : ViewId)
  /-- `WebView::close`; whether the view was still loading when closed. -/
  | close (view : ViewId) (whileLoading : Bool)
  deriving DecidableEq, Repr

/-- The views, the next fresh view id, Blink's placement of a scroll offset after a resize,
and the log of surface calls, oldest first. -/
@[ext] structure World where
  views : ViewId → ViewState
  nextView : ViewId
  clampScroll : Size → WebSize → WebSize
  log : List SurfaceEvent

namespace World

/-- Change one view. -/
def modify (w : World) (v : ViewId) (f : ViewState → ViewState) : World :=
  { w with views := Function.update w.views v (f (w.views v)) }

/-- Record a surface call. -/
def emit (w : World) (e : SurfaceEvent) : World := { w with log := w.log ++ [e] }

/-- `WebFrame::printBegin`. -/
def printBegin (w : World) (v : ViewId) : World := w.emit (.printBegin v)

/-- `WebFrame::printEnd`. -/
def printEnd (w : World) (v : ViewId) : World := w.emit (.printEnd v)

/-- `WebView::resize`: Blink places the scroll offset in the new size. -/
def resize (w : World) (v : ViewId) (size : Size) : World :=
  w.modify v fun s => { s with size := size, scrollOffset := w.clampScroll size s.scrollOffset }

/-- `WebFrame::setScrollOffset` on the view's main frame. -/
def setScrollOffset (w : World) (v : ViewId) (offset : WebSize) : World :=
  w.modify v fun s => { s with scrollOffset := offset }

/-- `WebSettings::setShouldPrintBackgrounds`. -/
def setShouldPrintBackgrounds (w : World) (v : ViewId) (b : Bool) : World :=
  w.modify v fun s => { s with shouldPrintBackgrounds := b }

/-- `WebView::create` with the main frame set: a fresh view, and its id. -/
def createView (w : World) : World × ViewId :=
  ({ w with views := Function.update w.views w.nextView ViewState.fresh,
            nextView := w.nextView + 1 }, w.nextView)

/-- `RenderView::ApplyWebPreferences`, as far as scripting goes. -/
def applyJavascriptEnabled (w : World) (v : ViewId) (enabled : Bool) : World :=
  w.modify v fun s => { s with javascriptEnabled := enabled }

/-- `WebFrame::loadRequest`: the view starts loading. -/
def loadRequest (w : World) (v : ViewId) : World := w.modify v fun s => { s with isLoading := true }

/-- The load of a view completes. -/
def stopLoading (w : World) (v : ViewId) : World := w.modify v fun s => { s with isLoading := false }

/-- `WebView::close`. -/
def close (w : World) (v : ViewId) : World :=
  (w.modify v fun s => { s with closed := true }).emit (.close v (w.views v).isLoading)

/-! Every surface call is a `modify` of one view or an `emit`; these lemmas push a field
access through both, so that proofs never unfold a call. -/

attribute [simp] printBegin printEnd resize setScrollOffset setShouldPrintBackgrounds
  applyJavascriptEnabled loadRequest stopLoading close

@[simp] theorem modify_views (w : World) (v : ViewId) (f : ViewState → ViewState) (u : ViewId) :
    (w.modify v f).views u = if u = v then f (w.views v) else w.views u := by
  simp [modify, Function.update_apply]

@[simp] theorem modify_log (w : World) (v : ViewId) (f : ViewState → ViewState) :
    (w.modify v f).log = w.log := rfl

@[simp] theorem modify_nextView (w : World) (v : ViewId) (f : ViewState → ViewState) :
    (w.modify v f).nextView = w.nextView := rfl

@[simp] theorem modify_clampScroll (w : World) (v : ViewId) (f : ViewState → ViewState) :
    (w.modify v f).clampScroll = w.clampScroll := rfl

@[simp] theorem emit_views (w : World) (e : SurfaceEvent) : (w.emit e).views = w.views := rfl

@[simp] theorem emit_log (w : World) (e : SurfaceEvent) : (w.emit e).log = w.log ++ [e] := rfl

@[simp] theorem emit_nextView (w : World) (e : SurfaceEvent) :
    (w.emit e).nextView = w.nextView := rfl

@[simp] theorem emit_clampScroll (w : World) (e : SurfaceEvent) :
    (w.emit e).clampScroll = w.clampScroll := rfl

@[simp] theorem createView_views (w : World) (u : ViewId) :
    w.createView.1.views u = if u = w.nextView then ViewState.fresh else w.views u := by
  simp [createView, Function.update_apply]

@[simp] theorem createView_snd (w : World) : w.createView.2 = w.nextView := rfl

@[simp] theorem createView_log (w : World) : w.createView.1.log = w.log := rfl

@[simp] theorem createView_nextView (w : World) : w.createView.1.nextView = w.nextView + 1 := rfl

@[simp] theorem createView_clampScroll (w : World) :
    w.createView.1.clampScroll = w.clampScroll := rfl

end World

/-! ### Bracketed logs -/

/-- Replay a log against the views whose frames are in print mode: `none` as soon as a
`printBegin` finds its view already printing or a `printEnd` finds it not printing. -/
def replayPrinting : List ViewId → List SurfaceEvent → Option (List ViewId)
  | printing, [] => some printing
  | printing, .printBegin v :: l =>
    if v ∈ printing then none else replayPrinting (v :: printing) l
  | printing, .printEnd v :: l =>
    if v ∈ printing then replayPrinting (printing.erase v) l else none
  | printing, .close _ _ :: l => replayPrinting printing l

/-- Every `printBegin` in the log is closed by exactly one later `printEnd` on its view, and no
`printEnd` comes without an open `printBegin`. -/
def Bracketed (l : List SurfaceEvent) : Prop := replayPrinting [] l = some []

instance (l : List SurfaceEvent) : Decidable (Bracketed l) :=
  inferInstanceAs (Decidable (_ = _))

theorem replayPrinting_append (printing : List ViewId) (l₁ l₂ : List SurfaceEvent) :
    replayPrinting printing (l₁ ++ l₂) =
      (replayPrinting printing l₁).bind fun p => replayPrinting p l₂ := by
  induction l₁ generalizing printing with
  | nil => rfl
  | cons e l ih =>
    cases e with
    | printBegin v => simp only [List.cons_append, replayPrinting]; split <;> simp [ih]
    | printEnd v => simp only [List.cons_append, replayPrinting]; split <;> simp [ih]
    | close v b => exact ih printing

theorem Bracketed.append {l₁ l₂ : List SurfaceEvent} (h₁ : Bracketed l₁) (h₂ : Bracketed l₂) :
    Bracketed (l₁ ++ l₂) := by
  rw [Bracketed, replayPrinting_append, h₁, Option.some_bind, h₂]

theorem bracketed_nil : Bracketed [] := rfl

/-- Opening and closing one view's print mode. -/
theorem bracketed_pair (v : ViewId) : Bracketed [.printBegin v, .printEnd v] := by
  simp [Bracketed, replayPrinting]

theorem bracketed_close (v : ViewId) (b : Bool) : Bracketed [.close v b] := rfl

/-- The views a log closes, in order. -/
def closedViews : List SurfaceEvent → List ViewId
  | [] => []
  | .close v _ :: l => v :: closedViews l
  | _ :: l => closedViews l

@[simp] theorem closedViews_nil : closedViews [] = [] := rfl

@[simp] theorem closedViews_cons_printBegin (v : ViewId) (l : List SurfaceEvent) :
    closedViews (.printBegin v :: l) = closedViews l := rfl

@[simp] theorem closedViews_cons_printEnd (v : ViewId) (l : List SurfaceEvent) :
    closedViews (.printEnd v :: l) = closedViews l := rfl

@[simp] theorem closedViews_cons_close (v : ViewId) (b : Bool) (l : List SurfaceEvent) :
    closedViews (.close v b :: l) = v :: closedViews l := rfl

@[simp] theorem closedViews_append (l₁ l₂ : List SurfaceEvent) :
    closedViews (l₁ ++ l₂) = closedViews l₁ ++ closedViews l₂ := by
  induction l₁ with
  | nil => rfl
  | cons e l ih => cases e <;> simp [ih]

end Printing
