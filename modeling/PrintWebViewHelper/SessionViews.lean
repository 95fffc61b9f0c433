import PrintWebViewHelper.SessionSafety
import PrintWebViewHelper.SessionPrintMode

/-!
# No view is leaked

A `PrepareFrameAndViewForPrint` that copies a selection creates a view of its own, and its
`FinishPrinting` closes it; no other call creates or closes a view.  Every way a session ends
destroys the held object (`prep_frame_view_.reset()`), whose destructor runs `FinishPrinting`,
and the throw-away object of `CalculateNumberOfPages` never copies a selection.  So at every
point of every run, each view the controller has created is closed, but for the one the held
object owns.

## Main definitions

* `ClosedKept` — no view was created, and none closed.
* `Helper.heldOwns`, `Helper.NoLeak` — the held object owns a view; every view created since a
  point is closed or owned so.

## Main results

* `step_noLeak` — every delivery keeps `NoLeak`.
* `reachable_views_closed` — **every view the controller has created is closed, or owned by
  the held object.**
-/

namespace Printing

open Helper PrepareFrameAndViewForPrint

/-! ### Views created and closed -/

/-- From `w` to `w'` no view was created, and none was closed. -/
def ClosedKept (w w' : World) : Prop :=
  w'.nextView = w.nextView ∧ ∀ v, (w'.views v).closed = (w.views v).closed

namespace ClosedKept

variable {w w' w'' : World}

theorem refl (w : World) : ClosedKept w w := ⟨rfl, fun _ => rfl⟩

theorem trans (h₁ : ClosedKept w w') (h₂ : ClosedKept w' w'') : ClosedKept w w'' :=
  ⟨h₂.1.trans h₁.1, fun v => (h₂.2 v).trans (h₁.2 v)⟩

/-- A call on one view that leaves it open or closed as it was. -/
theorem modify {v : ViewId} {f : ViewState → ViewState}
    (hf : (f (w.views v)).closed = (w.views v).closed) : ClosedKept w (w.modify v f) :=
  ⟨rfl, fun u => by simp only [World.modify_views]; split <;> simp_all⟩

theorem emit (e : SurfaceEvent) : ClosedKept w (w.emit e) := ⟨rfl, fun _ => rfl⟩

end ClosedKept

theorem restoreSize_closedKept (prep : PrepareFrameAndViewForPrint) (w : World) :
    ClosedKept w (prep.restoreSize w) := by
  unfold restoreSize
  split
  · exact .refl w
  · exact (ClosedKept.modify rfl).trans (.modify rfl)

/-- `StartPrinting` creates and closes no view, and keeps the frame and what the object owns. -/
theorem startPrinting_closedKept {prep p : PrepareFrameAndViewForPrint} {n : Int} {w w' : World}
    (h : prep.startPrinting n w = some (p, w')) :
    ClosedKept w w' ∧ p.frame = prep.frame ∧ p.ownsWebView = prep.ownsWebView := by
  cases hf : prep.frame with
  | none => simp [startPrinting, resizeForPrinting, hf] at h
  | some v =>
    rw [startPrinting_eq hf, Option.some.injEq, Prod.mk.injEq] at h
    obtain ⟨rfl, rfl⟩ := h
    exact ⟨((ClosedKept.modify rfl).trans (.modify rfl)).trans (.emit _), hf, rfl⟩

/-- `FinishPrinting` of an object that owns no view creates and closes none. -/
theorem finishPrinting_closedKept {prep : PrepareFrameAndViewForPrint}
    (ho : prep.ownsWebView = false) (w : World) : ClosedKept w (prep.finishPrinting w).2 := by
  unfold finishPrinting
  split
  · exact .refl w
  · simp only [ho, Bool.false_eq_true, if_false]
    split
    · exact (ClosedKept.emit _).trans ((ClosedKept.modify rfl).trans (restoreSize_closedKept _ _))
    · exact .refl w

/-- `FinishPrinting` creates no view, keeps closed views closed, and closes the view the object
owns. -/
theorem finishPrinting_closes (prep : PrepareFrameAndViewForPrint) (w : World) :
    (prep.finishPrinting w).2.nextView = w.nextView ∧
      (∀ u, (w.views u).closed = true → ((prep.finishPrinting w).2.views u).closed = true) ∧
      ∀ v, prep.frame = some v → prep.ownsWebView = true →
        ((prep.finishPrinting w).2.views v).closed = true := by
  cases ho : prep.ownsWebView
  · have hk := finishPrinting_closedKept ho w
    exact ⟨hk.1, fun u hu => (hk.2 u).trans hu, fun _ _ h => absurd h (by simp)⟩
  · cases hf : prep.frame with
    | none => simp [finishPrinting, hf]
    | some v =>
      cases hs : prep.isPrintingStarted <;> simp [finishPrinting, hf, hs, ho, apply_ite] <;>
        exact fun _ h => .inr h

/-- `CopySelectionIfNeeded` is ready at once and creates no view, or copies the selection into a
new view, which the object owns and prints from. -/
theorem copySelectionIfNeeded_views {prep p : PrepareFrameAndViewForPrint} {w w' : World}
    {ready : Bool} (h : prep.copySelectionIfNeeded w = some (p, w', ready)) :
    (ready = true ∧ p.frame = prep.frame ∧ p.ownsWebView = prep.ownsWebView ∧ w' = w) ∨
      (ready = false ∧ p.frame = some w.nextView ∧ p.ownsWebView = true ∧
        w'.nextView = w.nextView + 1 ∧
        ∀ u, u ≠ w.nextView → (w'.views u).closed = (w.views u).closed) := by
  cases hsel : prep.shouldPrintSelectionOnly
  · simp only [copySelectionIfNeeded, hsel, Bool.false_eq_true, if_false, Option.some.injEq,
      Prod.mk.injEq] at h
    obtain ⟨rfl, rfl, rfl⟩ := h
    exact .inl ⟨rfl, rfl, rfl, rfl⟩
  · cases hf : prep.frame with
    | none => simp [copySelectionIfNeeded, copySelection, resizeForPrinting, hsel, hf] at h
    | some v =>
      simp only [copySelectionIfNeeded, copySelection, resizeForPrinting, hsel, hf, if_true,
        Option.map_some', Option.some.injEq, Prod.mk.injEq] at h
      obtain ⟨rfl, rfl, rfl⟩ := h
      refine .inr ⟨rfl, by simp [restoreSize, World.createView], rfl,
        by simp [restoreSize, World.createView], fun u hu => ?_⟩
      -- the copied view is resized and restored, and the new view is another
      simp only [restoreSize, World.createView, World.loadRequest, World.applyJavascriptEnabled,
        World.modify_views, World.resize, World.setScrollOffset]
      rcases eq_or_ne u v with rfl | huv
      · simp [Function.update_apply, hu]
      · simp [Function.update_apply, hu, huv]

/-! ### The views of the controller -/

/-- The held object owns the view `v` and prints from it. -/
def Helper.heldOwns (s : Helper) (v : ViewId) : Prop :=
  ∃ id prep, s.prepFrameView = some (id, prep) ∧ prep.frame = some v ∧ prep.ownsWebView = true

/-- Every view created from `base` on is closed, or owned by the held object. -/
def Helper.NoLeak (base : ViewId) (s : Helper) : Prop :=
  ∀ v, base ≤ v → v < s.world.nextView → (s.world.views v).closed = true ∨ s.heldOwns v

namespace Helper

variable {base : ViewId} {s t : Helper}

/-- `NoLeak` reads the views and what the held object owns. -/
theorem NoLeak.congr (hs : s.NoLeak base) (hw : ClosedKept s.world t.world)
    (hp : ∀ v, s.heldOwns v → t.heldOwns v) : t.NoLeak base := by
  intro v hlo hhi
  rw [hw.1] at hhi
  rw [hw.2 v]
  exact (hs v hlo hhi).imp id (hp v)

/-- With nothing held, every view created is closed. -/
theorem NoLeak.closed (hs : s.NoLeak base) (hp : s.prepFrameView = none) {v : ViewId}
    (hlo : base ≤ v) (hhi : v < s.world.nextView) : (s.world.views v).closed = true :=
  (hs v hlo hhi).resolve_right fun ⟨_, _, h, _⟩ => by rw [hp] at h; cases h

end Helper

/-! ### One lemma per routine -/

section Routines

variable {base : ViewId}

/-- `prep_frame_view_.reset()` closes the view the held object owns. -/
theorem resetPrepFrameView_noLeak {s : Helper} (hs : s.NoLeak base) :
    s.resetPrepFrameView.NoLeak base := by
  unfold resetPrepFrameView
  split
  · exact hs
  · next id prep hp =>
    obtain ⟨hn, hmono, hown⟩ := finishPrinting_closes prep s.world
    intro v hlo hhi
    rw [hn] at hhi
    rcases hs v hlo hhi with hc | ⟨id', prep', hp', hf, ho⟩
    · exact .inl (hmono v hc)
    · obtain ⟨-, rfl⟩ := Prod.mk.inj (Option.some.inj (hp.symm.trans hp'))
      exact .inl (hown v hf ho)

theorem didFinishPrinting_noLeak (result : PrintingResult) {s : Helper} (hs : s.NoLeak base) :
    (didFinishPrinting result s).NoLeak base := by
  unfold didFinishPrinting
  split
  · split
    · exact resetPrepFrameView_noLeak (s := s.send _) hs
    · exact resetPrepFrameView_noLeak hs
  · exact resetPrepFrameView_noLeak hs

variable {osMacosx : Bool} {blink : Blink}

/-- The throw-away object of `CalculateNumberOfPages` borrows the frame: it creates and closes
no view. -/
theorem calculateNumberOfPages_noLeak (frame : ViewId) (nodeIsNull : Bool)
    (defaults : PrintMsgPrintParams) {s : Helper} (hs : s.NoLeak base) :
    Returns (fun r : Option Int × Helper => r.2.NoLeak base)
      (calculateNumberOfPages osMacosx blink frame nodeIsNull defaults s) := by
  simp only [calculateNumberOfPages, initPrintSettings]
  split
  · exact Returns.ok hs
  · simp only [derefPrintPagesParams_eq, send_printPagesParams, orFault_some, pure_bind]
    refine Returns.bind (fun _ => create_spec) ?_
    rintro ⟨prep, w⟩ ⟨hf, ho, -, -, events, -, -, rfl⟩
    dsimp only at hf ho
    rw [startPrintingWith_of_frame hf]
    refine Returns.bind (returns_orFault (P := fun r : PrepareFrameAndViewForPrint × World =>
      ClosedKept s.world r.2 ∧ r.1.ownsWebView = false) fun r hr => ?_) ?_
    · obtain ⟨hk, -, ho'⟩ := startPrinting_closedKept hr
      exact ⟨ClosedKept.trans ⟨rfl, fun _ => rfl⟩ hk, ho'.trans ho⟩
    · rintro ⟨p, w'⟩ ⟨hk, ho'⟩
      exact Returns.ok (hs.congr (hk.trans (finishPrinting_closedKept ho' _)) fun _ h => h)

theorem getPrintSettingsFromUser_noLeak (frame : ViewId) (nodeIsNull : Bool)
    (expectedPagesCount : Int) (printBackground fromPrintNode : Bool) {s : Helper}
    (hs : s.NoLeak base) :
    Returns (NoLeak base) (getPrintSettingsFromUser frame nodeIsNull expectedPagesCount
      printBackground fromPrintNode s) := by
  unfold getPrintSettingsFromUser
  exact Returns.bind (returns_true _) fun _ _ => Returns.ok hs

/-- `PrintPages` starts printing on the held object: it keeps the frame and what it owns. -/
theorem printPages_noLeak {s : Helper} (hs : s.NoLeak base) :
    Returns (NoLeak base) (printPages blink s) := by
  unfold printPages
  split
  · exact Returns.ok hs
  · next id prep hp =>
    -- the held object, printing, keeps its frame and what it owns
    have hstart (r : PrepareFrameAndViewForPrint × World)
        (hr : startPrintingWith blink prep s.world = some r) :
        NoLeak base { s with prepFrameView := some (id, r.1), world := r.2 } := by
      unfold startPrintingWith at hr
      split at hr
      · obtain ⟨hkept, hf, ho⟩ := startPrinting_closedKept hr
        refine hs.congr hkept ?_
        rintro v ⟨id', prep', hp', hv, hov⟩
        obtain ⟨rfl, rfl⟩ := Prod.mk.inj (Option.some.inj (hp.symm.trans hp'))
        exact ⟨id, r.1, rfl, hf.trans hv, ho.trans hov⟩
      · cases hr
    refine Returns.bind (returns_orFault hstart) ?_
    rintro ⟨p, w⟩ hr
    dsimp only at hr ⊢
    split
    · exact Returns.ok (didFinishPrinting_noLeak _ hr)
    · simp only [derefPrintPagesParams_eq, send_printPagesParams, pure_bind]
      exact Returns.bind (returns_true _) fun _ _ => Returns.bind (returns_true _) fun _ _ =>
        Returns.ok hr

theorem onFramePreparedForPrintPages_noLeak {s : Helper} (hs : s.NoLeak base) :
    Returns (NoLeak base) (onFramePreparedForPrintPages blink s) :=
  (printPages_noLeak hs).map fun _ h => resetPrepFrameView_noLeak h

/-- `RenderPagesForPrint` holds a new object; a view it creates is the object's own. -/
theorem renderPagesForPrint_noLeak (frame : ViewId) (nodeIsNull silent : Bool) {s : Helper}
    (hs : s.NoLeak base) :
    Returns (fun r : Bool × Helper => r.2.NoLeak base)
      (renderPagesForPrint osMacosx blink frame nodeIsNull silent s) := by
  unfold renderPagesForPrint
  split
  · exact Returns.ok hs
  · next hnone =>
    have hp : s.prepFrameView = none := by simpa using hnone
    simp only [derefPrintPagesParams_eq, pure_bind]
    refine Returns.bind (returns_true _) fun _ _ => ?_
    refine Returns.bind (fun _ => create_spec) ?_
    rintro ⟨prep, w⟩ ⟨-, ho, -, -, events, -, -, rfl⟩
    refine Returns.bind (returns_orFault fun r hr => copySelectionIfNeeded_views hr) ?_
    rintro ⟨p, w', ready⟩ hcopy
    dsimp only at hcopy ⊢
    -- the new object is held; every other view created is closed
    have hheld (t : Helper) (htp : t.prepFrameView = some (s.nextPrep, p)) (htw : t.world = w') :
        t.NoLeak base := by
      intro v hlo hhi
      rw [htw] at hhi ⊢
      rcases hcopy with ⟨-, -, -, rfl⟩ | ⟨-, hf, ho', hn, hc⟩
      · exact .inl (hs.closed hp hlo hhi)
      · rw [hn] at hhi
        by_cases hv : v = s.world.nextView
        · exact .inr ⟨s.nextPrep, p, htp, hv ▸ hf, ho'⟩
        · exact .inl ((hc v hv).trans
            (hs.closed hp hlo (Nat.lt_of_le_of_ne (Nat.lt_succ_iff.mp hhi) hv)))
    split
    · exact Returns.bind (onFramePreparedForPrintPages_noLeak (hheld _ rfl rfl)) fun t ht =>
        Returns.ok ht
    · exact Returns.ok (hheld _ rfl rfl)

theorem renderAfterSettings_noLeak (frame : ViewId) (nodeIsNull silent printBackground : Bool)
    {s : Helper} (hs : s.NoLeak base) :
    Returns (NoLeak base)
      (renderAfterSettings osMacosx blink frame nodeIsNull silent printBackground s) := by
  unfold renderAfterSettings
  refine Returns.bind (returns_true _) fun _ _ => ?_
  refine Returns.bind (renderPagesForPrint_noLeak frame nodeIsNull silent hs) ?_
  rintro ⟨ok, t⟩ ht
  cases ok
  · exact Returns.ok (didFinishPrinting_noLeak _ ht)
  · exact Returns.ok ht

theorem print_noLeak (frame : ViewId) (nodeIsNull silent printBackground fromPrintNode : Bool)
    (defaults : PrintMsgPrintParams) {s : Helper} (hs : s.NoLeak base) :
    Returns (fun r : Helper × Bool => r.1.NoLeak base)
      (print osMacosx blink frame nodeIsNull silent printBackground fromPrintNode defaults s) := by
  simp only [print, pure_bind]
  split
  · exact Returns.ok hs
  · refine Returns.bind (calculateNumberOfPages_noLeak frame nodeIsNull defaults hs) ?_
    rintro ⟨count, t⟩ ht
    rcases count with _ | c <;> dsimp only
    · exact Returns.ok (didFinishPrinting_noLeak _ ht)
    · split
      · exact Returns.ok (didFinishPrinting_noLeak _ ht)
      · split
        · exact Returns.bind (getPrintSettingsFromUser_noLeak frame nodeIsNull c printBackground
            fromPrintNode ht) fun u hu => Returns.ok hu
        · exact Returns.bind (renderAfterSettings_noLeak frame nodeIsNull true printBackground ht)
            fun u hu => Returns.ok hu

theorem resumePrint_noLeak (settings : PrintMsgPrintPagesParams) {s : Helper}
    (hs : s.NoLeak base) : Returns (NoLeak base) (resumePrint osMacosx blink settings s) := by
  simp only [resumePrint]
  split
  · exact Returns.ok hs
  · -- clearing the flag of `PrintNode` leaves the views
    have hflag (t : Helper) (ht : t.NoLeak base) (b : Bool) :
        (if b then { t with printNodeInProgress := false } else t).NoLeak base := by
      cases b <;> exact ht
    split
    · exact Returns.bind (renderAfterSettings_noLeak _ _ false _ hs) fun t ht =>
        Returns.ok (hflag t ht _)
    · exact Returns.bind (Returns.ok (P := NoLeak base) (didFinishPrinting_noLeak _ hs))
        fun t ht => Returns.ok (hflag t ht _)

theorem printNode_noLeak (frame : Option ViewId) (defaults : PrintMsgPrintParams) {s : Helper}
    (hs : s.NoLeak base) : Returns (NoLeak base) (printNode osMacosx blink frame defaults s) := by
  unfold printNode
  split
  · exact Returns.ok hs
  · split
    · exact Returns.ok hs
    · refine Returns.bind (print_noLeak _ false false false true defaults hs) ?_
      rintro ⟨t, blocked⟩ ht
      cases blocked
      · exact Returns.ok ht
      · exact Returns.ok ht

/-- The end of a load closes no view. -/
theorem didStopLoading_noLeak (v : ViewId) {s : Helper} (hs : s.NoLeak base) :
    (didStopLoading v s).NoLeak base := by
  unfold didStopLoading
  split
  · split
    · exact hs.congr (.modify rfl) fun _ h => h
    · exact hs
  · exact hs

theorem runTask_noLeak {s : Helper} (hs : s.NoLeak base) :
    Returns (NoLeak base) (runTask blink s) := by
  unfold runTask
  split
  · exact Returns.ok hs
  · next _ _ rest _ =>
    dsimp only
    split
    · split
      · exact onFramePreparedForPrintPages_noLeak (s := { s with tasks := rest }) hs
      · exact Returns.ok hs
    · exact Returns.ok hs

end Routines

/-! ### Every run -/

section Runs

variable (osMacosx : Bool) (blink : Blink)

/-- **Every delivery keeps every view the controller created closed, or the held object's.** -/
theorem step_noLeak {base : ViewId} {s : Helper} (hs : s.NoLeak base) (e : Event) :
    Returns (NoLeak base) (step osMacosx blink s e) := by
  cases e with
  | printPage frame defaults =>
    exact (print_noLeak frame true false false false defaults hs).map fun _ h => h
  | onPrintPages frame silent printBackground defaults =>
    exact (print_noLeak frame true silent printBackground false defaults hs).map fun _ h => h
  | printNode frame defaults => exact printNode_noLeak frame defaults hs
  | onPrintingDone success => exact Returns.ok (didFinishPrinting_noLeak _ hs)
  | scriptedPrintReply settings => exact resumePrint_noLeak settings hs
  | didStopLoading v => exact Returns.ok (didStopLoading_noLeak v hs)
  | runTask => exact runTask_noLeak hs

theorem reachable_noLeak {w₀ : World} {s : Helper} (h : Reachable osMacosx blink w₀ s) :
    s.NoLeak w₀.nextView := by
  induction h with
  | init => exact fun v hlo hhi => absurd hhi (by simpa [Helper.init] using hlo)
  | step e _ hstep ih => exact step_noLeak osMacosx blink ih e _ hstep

/-- **No view is leaked.**  In every reachable state, every view the controller has created is
closed, or it is the view the held `prep_frame_view_` owns and prints from. -/
theorem reachable_views_closed {w₀ : World} {s : Helper} (h : Reachable osMacosx blink w₀ s)
    (v : ViewId) (hlo : w₀.nextView ≤ v) (hhi : v < s.world.nextView) :
    (s.world.views v).closed = true ∨
      ∃ id prep, s.prepFrameView = some (id, prep) ∧ prep.frame = some v ∧
        prep.ownsWebView = true :=
  reachable_noLeak osMacosx blink h v hlo hhi

/-- A selection is copied into view 1, which loads; the posted task prints it and destroys the
object, and nothing is held: the copy is closed. -/
theorem reachable_views_closed_selection :
    let blink : Blink := ⟨fun _ => false, fun _ => CssFrame.noCss, fun _ _ => 3⟩
    let w : World := ⟨fun _ => ViewState.fresh, 1, fun _ o => o, []⟩
    let selection : PrintMsgPrintParams :=
      { pageSize := Size.make 612 792, contentSize := Size.make 576 756,
        printableArea := ⟨0, 0, Size.make 612 792⟩, marginTop := 18, marginLeft := 18,
        dpi := 72, minShrink := 1, maxShrink := 2, desiredDpi := 72, documentCookie := 1,
        selectionOnly := true, printScalingOption := .sourceSize, shouldPrintBackgrounds := false }
    ∃ s, run false blink (Helper.init w)
        [.onPrintPages 0 true false selection, .didStopLoading 1, .runTask] = .ok s ∧
      Reachable false blink w s ∧ s.world.nextView = 2 ∧ s.prepFrameView.isNone ∧
      ((s.world.views 1).closed = true ∨ ∃ id prep, s.prepFrameView = some (id, prep) ∧
        prep.frame = some 1 ∧ prep.ownsWebView = true) := by
  intro blink w selection
  obtain ⟨s, hrun, hs, hnext, hnone⟩ := reach_of_run false blink w
    [.onPrintPages 0 true false selection, .didStopLoading 1, .runTask]
    (p := fun s => s.world.nextView = 2 ∧ s.prepFrameView.isNone = true) (by decide)
  exact ⟨s, hrun, hs, hnext, hnone,
    reachable_views_closed false blink hs 1 (by decide) (by rw [hnext]; decide)⟩

end Runs

end Printing
