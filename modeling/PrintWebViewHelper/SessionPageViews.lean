import PrintWebViewHelper.SessionViews

/-!
# The page's views are given back

To count and to print a frame, a `PrepareFrameAndViewForPrint` borrows the page's view: it
snapshots the view's size and scroll offset, resizes it for the page and sets its
print-backgrounds setting; `FinishPrinting` closes the print mode, clears the setting and puts
the snapshot back.  A selection is printed from a copy the object creates and owns, after the
borrowed view has been resized and restored in the same way, and every later call lands on the
copy.

So between deliveries, whatever was delivered and in whatever order, each view the page had
when the controller was built is as it was, up to the two marks the restoration leaves: the
scroll offset comes back through the `gfx::Size` snapshot, clamped at zero, and the
print-backgrounds setting is left cleared.  And every view the controller created has scripts
off: `CopySelection` turns them off as it creates the copy, and nothing turns them on.

## Main definitions

* `ViewState.Kept` — what a view of the page may have changed.
* `World.PageKept`, `Helper.PageKept` — the page's views are kept, the controller's views run
  no script, and the held object prints from a view the controller created.

## Main results

* `startPrinting_finishPrinting_views` — a borrowed view printed and given back.
* `step_pageKept` — every delivery keeps `PageKept`.
* `reachable_page_views_kept` — **every view of the page keeps its size, its load, its
  scripting and whether it is closed; its scroll offset is at most clamped at zero, and its
  print-backgrounds setting at most cleared.**
* `reachable_copies_scriptless` — **every view the controller created has scripts off.**
-/

namespace Printing

open Helper PrepareFrameAndViewForPrint

/-! ### A view kept -/

@[simp] theorem WebSize.throughSize_throughSize (o : WebSize) :
    o.throughSize.throughSize = o.throughSize := by
  simp [WebSize.throughSize, Size.make]

/-- A view of the page, `s`, against what it was, `o`: the same size, load, scripting and open
or closed state; the scroll offset as it was or through a `gfx::Size`; the print-backgrounds
setting as it was or cleared. -/
structure ViewState.Kept (s o : ViewState) : Prop where
  size : s.size = o.size
  scrollOffset : s.scrollOffset = o.scrollOffset ∨ s.scrollOffset = o.scrollOffset.throughSize
  shouldPrintBackgrounds :
    s.shouldPrintBackgrounds = o.shouldPrintBackgrounds ∨ s.shouldPrintBackgrounds = false
  javascriptEnabled : s.javascriptEnabled = o.javascriptEnabled
  isLoading : s.isLoading = o.isLoading
  closed : s.closed = o.closed

theorem ViewState.Kept.refl (o : ViewState) : o.Kept o := ⟨rfl, .inl rfl, .inl rfl, rfl, rfl, rfl⟩

/-- A kept view given back through the snapshot, its print-backgrounds setting kept or
cleared. -/
theorem ViewState.Kept.restored {s o : ViewState} (h : s.Kept o) {b : Bool}
    (hb : b = s.shouldPrintBackgrounds ∨ b = false) :
    { s with scrollOffset := s.scrollOffset.throughSize, shouldPrintBackgrounds := b }.Kept o := by
  refine ⟨h.size, .inr ?_, ?_, h.javascriptEnabled, h.isLoading, h.closed⟩
  · rcases h.scrollOffset with e | e <;> simp [e]
  · rcases hb with rfl | rfl
    exacts [h.shouldPrintBackgrounds, .inr rfl]

/-- The views below `base`, the page's, are kept from `orig`; the views from `base` on, the
controller's, run no script. -/
structure World.PageKept (orig : ViewId → ViewState) (base : ViewId) (w : World) : Prop where
  nextView : base ≤ w.nextView
  views : ∀ v, v < base → (w.views v).Kept (orig v)
  scriptless : ∀ v, base ≤ v → v < w.nextView → (w.views v).javascriptEnabled = false

/-- Calls that create no view, leave the page's views alone and turn no script on. -/
theorem World.PageKept.congr {orig : ViewId → ViewState} {base : ViewId} {w w' : World}
    (h : w.PageKept orig base) (hn : w'.nextView = w.nextView)
    (hv : ∀ u, u < base → w'.views u = w.views u)
    (hjs : ∀ u, (w'.views u).javascriptEnabled = (w.views u).javascriptEnabled) :
    w'.PageKept orig base :=
  ⟨hn ▸ h.nextView, fun u hu => hv u hu ▸ h.views u hu,
    fun u hlo hhi => (hjs u).trans (h.scriptless u hlo (hn ▸ hhi))⟩

/-! ### What one object does to the views -/

namespace PrepareFrameAndViewForPrint

variable {prep p : PrepareFrameAndViewForPrint} {w w' : World}

/-- `StartPrinting` acts on the object's frame only. -/
theorem startPrinting_views {n : Int} (h : prep.startPrinting n w = some (p, w')) :
    p.frame = prep.frame ∧ w'.nextView = w.nextView ∧
      ∀ u, prep.frame ≠ some u → w'.views u = w.views u := by
  cases hf : prep.frame with
  | none => simp [startPrinting, resizeForPrinting, hf] at h
  | some v =>
    rw [startPrinting_eq hf, Option.some.injEq, Prod.mk.injEq] at h
    obtain ⟨rfl, rfl⟩ := h
    refine ⟨hf, rfl, fun u hu => ?_⟩
    have huv : u ≠ v := fun e => hu (e ▸ rfl)
    simp [huv]

/-- `StartPrinting` turns no script on or off. -/
theorem startPrinting_javascriptEnabled {n : Int} (h : prep.startPrinting n w = some (p, w'))
    (u : ViewId) : (w'.views u).javascriptEnabled = (w.views u).javascriptEnabled := by
  cases hf : prep.frame with
  | none => simp [startPrinting, resizeForPrinting, hf] at h
  | some v =>
    rw [startPrinting_eq hf, Option.some.injEq, Prod.mk.injEq] at h
    obtain ⟨rfl, rfl⟩ := h
    rcases eq_or_ne u v with rfl | huv <;> simp [*]

/-- `FinishPrinting` turns no script on or off. -/
theorem finishPrinting_javascriptEnabled (prep : PrepareFrameAndViewForPrint) (w : World)
    (u : ViewId) :
    ((prep.finishPrinting w).2.views u).javascriptEnabled = (w.views u).javascriptEnabled := by
  cases hf : prep.frame with
  | none => simp [finishPrinting, hf]
  | some v =>
    rcases eq_or_ne u v with rfl | huv <;> cases hs : prep.isPrintingStarted <;>
      cases ho : prep.ownsWebView <;> simp [finishPrinting, restoreSize, *]

/-- `FinishPrinting` acts on the object's frame only. -/
theorem finishPrinting_views_of_ne (prep : PrepareFrameAndViewForPrint) (w : World) {u : ViewId}
    (hu : prep.frame ≠ some u) : (prep.finishPrinting w).2.views u = w.views u := by
  cases hf : prep.frame with
  | none => simp [finishPrinting, hf]
  | some v =>
    have huv : u ≠ v := fun e => hu (e ▸ hf)
    cases hs : prep.isPrintingStarted <;> cases ho : prep.ownsWebView <;>
      simp [finishPrinting, restoreSize, hf, hs, ho, huv]

/-- **A borrowed view printed and given back**: after `StartPrinting` and `FinishPrinting`, the
view has its size back, its scroll offset through the snapshot and the print-backgrounds
setting cleared; no other view changes. -/
theorem startPrinting_finishPrinting_views {v : ViewId} {n : Int} (hf : prep.frame = some v)
    (ho : prep.ownsWebView = false) (h : prep.startPrinting n w = some (p, w')) (u : ViewId) :
    (p.finishPrinting w').2.views u =
      if u = v then {
          w.views v with
          scrollOffset := (w.views v).scrollOffset.throughSize, shouldPrintBackgrounds := false }
      else w.views u := by
  rw [startPrinting_eq hf, Option.some.injEq, Prod.mk.injEq] at h
  obtain ⟨rfl, rfl⟩ := h
  by_cases hu : u = v
  · subst hu
    simp [finishPrinting, restoreSize, hf, ho, WebSize.throughSize]
  · simp [finishPrinting, restoreSize, hf, ho, hu]

/-- `CopySelectionIfNeeded` is ready at once and changes nothing, or copies the selection: the
borrowed view is resized and given back through the snapshot, and the object prints from a new
view. -/
theorem copySelectionIfNeeded_page {ready : Bool}
    (h : prep.copySelectionIfNeeded w = some (p, w', ready)) :
    (ready = true ∧ p.frame = prep.frame ∧ p.ownsWebView = prep.ownsWebView ∧ w' = w) ∨
      (ready = false ∧ p.frame = some w.nextView ∧ w'.nextView = w.nextView + 1 ∧
        (w'.views w.nextView).javascriptEnabled = false ∧
        ∀ u, u < w.nextView → w'.views u =
          if prep.frame = some u then
            { w.views u with scrollOffset := (w.views u).scrollOffset.throughSize }
          else w.views u) := by
  cases hsel : prep.shouldPrintSelectionOnly
  · simp only [copySelectionIfNeeded, hsel, Bool.false_eq_true, if_false, Option.some.injEq,
      Prod.mk.injEq] at h
    obtain ⟨rfl, rfl, rfl⟩ := h
    exact .inl ⟨rfl, rfl, rfl, rfl⟩
  · cases hf : prep.frame with
    | none => simp [copySelectionIfNeeded, copySelection, resizeForPrinting, hsel, hf] at h
    | some v =>
      simp only [copySelectionIfNeeded, copySelection, resizeForPrinting, hsel, hf, if_true,
        Option.map_some', Option.some.injEq, Prod.mk.injEq] at h
      obtain ⟨rfl, rfl, rfl⟩ := h
      refine .inr ⟨rfl, by simp [restoreSize, World.createView],
        by simp [restoreSize, World.createView], by simp [restoreSize, World.createView],
        fun u hu => ?_⟩
      rcases eq_or_ne u v with rfl | huv
      · simp [restoreSize, World.createView, Function.update_apply, hu.ne, WebSize.throughSize]
      · simp [restoreSize, World.createView, Function.update_apply, hu.ne, huv, huv.symm]

end PrepareFrameAndViewForPrint

namespace World.PageKept

variable {orig : ViewId → ViewState} {base : ViewId} {w w' : World}
  {prep p : PrepareFrameAndViewForPrint}

/-- `FinishPrinting` of an object that prints from a view the controller created. -/
theorem finishPrinting (h : w.PageKept orig base) (hf : ∀ v, prep.frame = some v → base ≤ v) :
    (prep.finishPrinting w).2.PageKept orig base :=
  h.congr (finishPrinting_closes prep w).1
    (fun u hu => finishPrinting_views_of_ne prep w fun e => absurd (hf u e) (Nat.not_le.mpr hu))
    (finishPrinting_javascriptEnabled prep w)

/-- A session on one object, `StartPrinting` then `FinishPrinting`, keeps the page's views: a
borrowed view is given back, and an owned view is not the page's. -/
theorem session {v : ViewId} {n : Int} (h : w.PageKept orig base) (hf : prep.frame = some v)
    (hv : base ≤ v ∨ prep.ownsWebView = false) (hs : prep.startPrinting n w = some (p, w')) :
    (p.finishPrinting w').2.PageKept orig base := by
  obtain ⟨hpf, hn, hviews⟩ := startPrinting_views hs
  have hn' := (finishPrinting_closes p w').1.trans hn
  refine ⟨hn' ▸ h.nextView, fun u hu => ?_, fun u hlo hhi => ?_⟩
  · cases ho : prep.ownsWebView
    · -- the borrowed view is given back
      rw [startPrinting_finishPrinting_views hf ho hs u]
      split
      · next huv => subst huv; exact (h.views u hu).restored (.inr rfl)
      · exact h.views u hu
    · -- the owned view is the controller's, not the page's
      have hne : v ≠ u := fun e => absurd (e ▸ hv.resolve_right (by simp [ho])) (Nat.not_le.mpr hu)
      rw [finishPrinting_views_of_ne p w' (by rw [hpf, hf]; simpa using hne),
        hviews u (by simpa [hf] using hne)]
      exact h.views u hu
  · rw [finishPrinting_javascriptEnabled, startPrinting_javascriptEnabled hs]
    exact h.scriptless u hlo (hn' ▸ hhi)

end World.PageKept

/-! ### The page's views in a state -/

/-- The page's views are kept, and the held object prints from a view the controller
created. -/
structure Helper.PageKept (orig : ViewId → ViewState) (base : ViewId) (s : Helper) : Prop where
  world : s.world.PageKept orig base
  held : ∀ id prep v, s.prepFrameView = some (id, prep) → prep.frame = some v → base ≤ v

namespace Helper

variable {orig : ViewId → ViewState} {base : ViewId} {s : Helper}

theorem PageKept.of_prep_none (hw : s.world.PageKept orig base) (hp : s.prepFrameView = none) :
    s.PageKept orig base :=
  ⟨hw, fun _ _ _ h _ => Option.noConfusion (hp ▸ h)⟩

theorem resetPrepFrameView_of_none (hp : s.prepFrameView = none) : s.resetPrepFrameView = s := by
  simp [resetPrepFrameView, hp]

theorem resetPrepFrameView_world_of_held {id : Nat} {prep : PrepareFrameAndViewForPrint}
    (hp : s.prepFrameView = some (id, prep)) :
    s.resetPrepFrameView.world = (prep.finishPrinting s.world).2 := by
  simp [resetPrepFrameView, hp]

/-- `DidFinishPrinting` does to the views what destroying the held object does. -/
theorem didFinishPrinting_world (result : PrintingResult) (s : Helper) :
    (didFinishPrinting result s).world = s.resetPrepFrameView.world := by
  unfold didFinishPrinting resetPrepFrameView
  split
  · split <;> split <;> simp_all [send]
  · split <;> simp_all

/-- Destroying the held object keeps the page's views when its `FinishPrinting` does. -/
theorem resetPrepFrameView_pageKept
    (hw : ∀ id prep, s.prepFrameView = some (id, prep) →
      (prep.finishPrinting s.world).2.PageKept orig base)
    (hnone : s.prepFrameView = none → s.world.PageKept orig base) :
    s.resetPrepFrameView.PageKept orig base := by
  cases hp : s.prepFrameView with
  | none => rw [resetPrepFrameView_of_none hp]; exact .of_prep_none (hnone hp) hp
  | some held =>
    obtain ⟨id, prep⟩ := held
    exact .of_prep_none (by rw [resetPrepFrameView_world_of_held hp]; exact hw id prep hp)
      (resetPrepFrameView_prepFrameView s)

/-- Destroying the held object keeps `PageKept`. -/
theorem PageKept.reset (hs : s.PageKept orig base) : s.resetPrepFrameView.PageKept orig base :=
  resetPrepFrameView_pageKept (fun id prep hp => hs.world.finishPrinting (hs.held id prep · hp))
    fun _ => hs.world

theorem didFinishPrinting_pageKept (result : PrintingResult) (hs : s.PageKept orig base) :
    (didFinishPrinting result s).PageKept orig base :=
  .of_prep_none (by rw [didFinishPrinting_world]; exact hs.reset.world)
    (didFinishPrinting_spec result s).1

end Helper

/-! ### One lemma per routine -/

section Routines

variable {osMacosx : Bool} {blink : Blink} {orig : ViewId → ViewState} {base : ViewId}

theorem startPrintingWith_some {prep : PrepareFrameAndViewForPrint} {w : World}
    {r : PrepareFrameAndViewForPrint × World} (h : startPrintingWith blink prep w = some r) :
    ∃ v, prep.frame = some v ∧ prep.startPrinting (blink.pageCount v prep.webPrintParams) w = some r := by
  unfold startPrintingWith at h
  split at h
  · next v hf => exact ⟨v, hf, h⟩
  · cases h

/-- The throw-away object of `CalculateNumberOfPages` borrows the frame and gives it back. -/
theorem calculateNumberOfPages_pageKept (frame : ViewId) (nodeIsNull : Bool)
    (defaults : PrintMsgPrintParams) {s : Helper} (hs : s.PageKept orig base) :
    Returns (fun r : Option Int × Helper => r.2.PageKept orig base)
      (calculateNumberOfPages osMacosx blink frame nodeIsNull defaults s) := by
  simp only [calculateNumberOfPages, initPrintSettings]
  split
  · exact Returns.ok ⟨hs.world, hs.held⟩
  · simp only [derefPrintPagesParams_eq, send_printPagesParams, orFault_some, pure_bind]
    refine Returns.bind (fun _ => create_spec) ?_
    rintro ⟨prep, w⟩ ⟨hf, ho, -, -, events, -, -, rfl⟩
    dsimp only at hf ho
    rw [startPrintingWith_of_frame hf]
    have hw : World.PageKept orig base { s.world with log := s.world.log ++ events } :=
      hs.world.congr rfl (fun _ _ => rfl) fun _ => rfl
    refine Returns.bind (returns_orFault (P := fun r : PrepareFrameAndViewForPrint × World =>
      (r.1.finishPrinting r.2).2.PageKept orig base) fun ⟨p, w'⟩ hr => hw.session hf (.inr ho) hr)
      fun r hr => Returns.ok ⟨hr, hs.held⟩

theorem getPrintSettingsFromUser_pageKept (frame : ViewId) (nodeIsNull : Bool)
    (expectedPagesCount : Int) (printBackground fromPrintNode : Bool) {s : Helper}
    (hs : s.PageKept orig base) :
    Returns (PageKept orig base) (getPrintSettingsFromUser frame nodeIsNull expectedPagesCount
      printBackground fromPrintNode s) := by
  unfold getPrintSettingsFromUser
  exact Returns.bind (returns_true _) fun _ _ => Returns.ok ⟨hs.world, hs.held⟩

/-- `PrintPages` on a held object that borrows its frame or prints from a view the controller
created: destroying the object afterwards keeps the page's views. -/
theorem printPages_pageKept {s : Helper} (hw : s.world.PageKept orig base)
    (hheld : ∀ id prep v, s.prepFrameView = some (id, prep) → prep.frame = some v →
      base ≤ v ∨ prep.ownsWebView = false) :
    Returns (fun t => t.resetPrepFrameView.PageKept orig base) (printPages blink s) := by
  unfold printPages
  split
  · next hp => exact Returns.ok (resetPrepFrameView_pageKept (fun _ _ h => by simp_all) fun _ => hw)
  · next id prep hp =>
    refine Returns.bind (returns_orFault (P := fun r : PrepareFrameAndViewForPrint × World =>
      (r.1.finishPrinting r.2).2.PageKept orig base) fun ⟨p, w'⟩ hr => ?_) ?_
    · obtain ⟨v, hf, hst⟩ := startPrintingWith_some hr
      exact hw.session hf (hheld id prep v hp hf) hst
    rintro ⟨p, w'⟩ hr
    -- the held object, printing, is what destroying it gives back
    have hkept (t : Helper) (htp : t.prepFrameView = some (id, p)) (htw : t.world = w') :
        t.resetPrepFrameView.PageKept orig base :=
      resetPrepFrameView_pageKept (fun _ _ h => by
        obtain ⟨-, rfl⟩ := Prod.mk.inj (Option.some.inj (htp.symm.trans h)); rw [htw]; exact hr)
        fun h => by simp [htp] at h
    dsimp only
    split
    · refine Returns.ok ?_
      rw [resetPrepFrameView_of_none (didFinishPrinting_spec _ _).1]
      exact .of_prep_none (by rw [didFinishPrinting_world]; exact (hkept _ rfl rfl).world)
        (didFinishPrinting_spec _ _).1
    · simp only [derefPrintPagesParams_eq, send_printPagesParams, pure_bind]
      exact Returns.bind (returns_true _) fun _ _ => Returns.bind (returns_true _) fun _ _ =>
        Returns.ok (hkept _ rfl rfl)

theorem onFramePreparedForPrintPages_pageKept {s : Helper} (hw : s.world.PageKept orig base)
    (hheld : ∀ id prep v, s.prepFrameView = some (id, prep) → prep.frame = some v →
      base ≤ v ∨ prep.ownsWebView = false) :
    Returns (PageKept orig base) (onFramePreparedForPrintPages blink s) :=
  (printPages_pageKept hw hheld).map fun _ h => h

/-- `RenderPagesForPrint` holds a new object: one that borrows the frame prints and is
destroyed at once, and one that copies a selection gives the frame back and holds the copy. -/
theorem renderPagesForPrint_pageKept (frame : ViewId) (nodeIsNull silent : Bool) {s : Helper}
    (hs : s.PageKept orig base) :
    Returns (fun r : Bool × Helper => r.2.PageKept orig base)
      (renderPagesForPrint osMacosx blink frame nodeIsNull silent s) := by
  unfold renderPagesForPrint
  split
  · exact Returns.ok hs
  · simp only [derefPrintPagesParams_eq, pure_bind]
    refine Returns.bind (returns_true _) fun _ _ => ?_
    refine Returns.bind (fun _ => create_spec) ?_
    rintro ⟨prep, w⟩ ⟨-, ho, -, -, events, -, -, rfl⟩
    have hw : World.PageKept orig base { s.world with log := s.world.log ++ events } :=
      hs.world.congr rfl (fun _ _ => rfl) fun _ => rfl
    refine Returns.bind (returns_orFault fun r hr => copySelectionIfNeeded_page hr) ?_
    rintro ⟨p, w', ready⟩ hcopy
    dsimp only at hcopy ho ⊢
    rcases hcopy with ⟨rfl, -, ho', rfl⟩ | ⟨rfl, hf', hn, hjs, hv⟩
    · -- the frame is borrowed: the object prints and is destroyed
      exact Returns.bind (onFramePreparedForPrintPages_pageKept hw fun _ _ _ h _ => by
        obtain ⟨-, rfl⟩ := Prod.mk.inj (Option.some.inj h); exact .inr (ho'.trans ho))
        fun t ht => Returns.ok ht
    · -- the object holds the copy, a view it created
      refine Returns.ok ⟨⟨by rw [hn]; exact Nat.le_succ_of_le hw.nextView, fun u hu => ?_,
        fun u hlo hhi => ?_⟩, fun _ _ v h hv' => ?_⟩
      · rw [hv u (Nat.lt_of_lt_of_le hu hw.nextView)]
        split
        · exact (hw.views u hu).restored (.inl rfl)
        · exact hw.views u hu
      · rw [hn] at hhi
        rcases Nat.lt_succ_iff_lt_or_eq.mp hhi with hlt | rfl
        · rw [hv u hlt]
          split <;> exact hw.scriptless u hlo hlt
        · exact hjs
      · obtain ⟨-, rfl⟩ := Prod.mk.inj (Option.some.inj h)
        exact (Option.some.inj (hf'.symm.trans hv')) ▸ hw.nextView

theorem renderAfterSettings_pageKept (frame : ViewId) (nodeIsNull silent printBackground : Bool)
    {s : Helper} (hs : s.PageKept orig base) :
    Returns (PageKept orig base)
      (renderAfterSettings osMacosx blink frame nodeIsNull silent printBackground s) := by
  unfold renderAfterSettings
  refine Returns.bind (returns_true _) fun _ _ => ?_
  refine Returns.bind (renderPagesForPrint_pageKept frame nodeIsNull silent ⟨hs.world, hs.held⟩) ?_
  rintro ⟨ok, t⟩ ht
  cases ok
  · exact Returns.ok (didFinishPrinting_pageKept _ ht)
  · exact Returns.ok ht

theorem print_pageKept (frame : ViewId) (nodeIsNull silent printBackground fromPrintNode : Bool)
    (defaults : PrintMsgPrintParams) {s : Helper} (hs : s.PageKept orig base) :
    Returns (fun r : Helper × Bool => r.1.PageKept orig base)
      (print osMacosx blink frame nodeIsNull silent printBackground fromPrintNode defaults s) := by
  simp only [print, pure_bind]
  split
  · exact Returns.ok hs
  · refine Returns.bind (calculateNumberOfPages_pageKept frame nodeIsNull defaults hs) ?_
    rintro ⟨count, t⟩ ht
    rcases count with _ | c <;> dsimp only
    · exact Returns.ok (didFinishPrinting_pageKept .failPrintInit ht)
    · split
      · exact Returns.ok (didFinishPrinting_pageKept .failPrint ht)
      · split
        · exact Returns.bind (getPrintSettingsFromUser_pageKept frame nodeIsNull c printBackground
            fromPrintNode ht) fun u hu => Returns.ok hu
        · exact Returns.bind (renderAfterSettings_pageKept frame nodeIsNull true printBackground ht)
            fun u hu => Returns.ok hu

theorem resumePrint_pageKept (settings : PrintMsgPrintPagesParams) {s : Helper}
    (hs : s.PageKept orig base) : Returns (PageKept orig base) (resumePrint osMacosx blink settings s) := by
  simp only [resumePrint]
  split
  · exact Returns.ok hs
  · -- clearing the flag of `PrintNode` leaves the views
    have hflag (t : Helper) (ht : t.PageKept orig base) (b : Bool) :
        (if b then { t with printNodeInProgress := false } else t).PageKept orig base := by
      cases b
      exacts [ht, ⟨ht.world, ht.held⟩]
    split
    · exact Returns.bind (renderAfterSettings_pageKept _ _ false _ ⟨hs.world, hs.held⟩) fun t ht =>
        Returns.ok (hflag t ht _)
    · exact Returns.bind (Returns.ok (P := PageKept orig base)
        (didFinishPrinting_pageKept .ok ⟨hs.world, hs.held⟩)) fun t ht => Returns.ok (hflag t ht _)

theorem printNode_pageKept (frame : Option ViewId) (defaults : PrintMsgPrintParams) {s : Helper}
    (hs : s.PageKept orig base) :
    Returns (PageKept orig base) (printNode osMacosx blink frame defaults s) := by
  unfold printNode
  split
  · exact Returns.ok hs
  · split
    · exact Returns.ok hs
    · refine Returns.bind (print_pageKept _ false false false true defaults ⟨hs.world, hs.held⟩) ?_
      rintro ⟨t, blocked⟩ ht
      cases blocked <;> exact Returns.ok ⟨ht.world, ht.held⟩

/-- The end of a load is on the held copy, not on a view of the page. -/
theorem didStopLoading_pageKept (v : ViewId) {s : Helper} (hs : s.PageKept orig base) :
    (didStopLoading v s).PageKept orig base := by
  unfold didStopLoading
  split
  · next id prep hp =>
    split
    · next hc =>
      refine ⟨hs.world.congr rfl (fun u hu => ?_) fun u => ?_, hs.held⟩
      · have huv : u ≠ v := (Nat.lt_of_lt_of_le hu (hs.held id prep v hp hc.1)).ne
        simp [huv]
      · simp only [World.stopLoading, World.modify_views]
        split <;> simp_all
    · exact hs
  · exact hs

theorem runTask_pageKept {s : Helper} (hs : s.PageKept orig base) :
    Returns (PageKept orig base) (runTask blink s) := by
  unfold runTask
  split
  · exact Returns.ok hs
  · next _ _ rest _ =>
    dsimp only
    split
    · split
      · exact onFramePreparedForPrintPages_pageKept (s := { s with tasks := rest }) hs.world
          fun id prep v hp hf => .inl (hs.held id prep v hp hf)
      · exact Returns.ok ⟨hs.world, hs.held⟩
    · exact Returns.ok ⟨hs.world, hs.held⟩

end Routines

/-! ### Every run -/

section Runs

variable (osMacosx : Bool) (blink : Blink)

/-- Every delivery keeps the page's views. -/
theorem step_pageKept {orig : ViewId → ViewState} {base : ViewId} {s : Helper}
    (hs : s.PageKept orig base) (e : Event) :
    Returns (PageKept orig base) (step osMacosx blink s e) := by
  cases e with
  | printPage frame defaults =>
    exact (print_pageKept frame true false false false defaults hs).map fun _ h => h
  | onPrintPages frame silent printBackground defaults =>
    exact (print_pageKept frame true silent printBackground false defaults hs).map fun _ h => h
  | printNode frame defaults => exact printNode_pageKept frame defaults hs
  | onPrintingDone success => exact Returns.ok (didFinishPrinting_pageKept _ ⟨hs.world, hs.held⟩)
  | scriptedPrintReply settings => exact resumePrint_pageKept settings hs
  | didStopLoading v => exact Returns.ok (didStopLoading_pageKept v hs)
  | runTask => exact runTask_pageKept hs

theorem reachable_pageKept {w₀ : World} {s : Helper} (h : Reachable osMacosx blink w₀ s) :
    s.PageKept w₀.views w₀.nextView := by
  induction h with
  | init =>
    exact .of_prep_none ⟨le_rfl, fun v _ => .refl _, fun v hlo hhi => absurd hhi (Nat.not_lt.mpr hlo)⟩
      rfl
  | step e _ hstep ih => exact step_pageKept osMacosx blink ih e _ hstep

/-- **Printing gives the page its views back.**  In every reachable state, under every
interleaving of entry points, host replies, re-entrant deliveries, loads and posted tasks, each
view the page had when the controller was built has its size, its load, its scripting and its
open or closed state as then; its scroll offset is as then or clamped at zero through the
`gfx::Size` snapshot, and its print-backgrounds setting is as then or cleared. -/
theorem reachable_page_views_kept {w₀ : World} {s : Helper} (h : Reachable osMacosx blink w₀ s)
    (v : ViewId) (hv : v < w₀.nextView) : (s.world.views v).Kept (w₀.views v) :=
  (reachable_pageKept osMacosx blink h).world.views v hv

/-- A silent print of view 0, scrolled to (-5, 0) and printing backgrounds, leaves it kept, with
both marks: its scroll offset clamped to (0, 0) and the setting cleared. -/
theorem reachable_page_views_kept_scrolled :
    let blink : Blink := ⟨fun _ => false, fun _ => CssFrame.noCss, fun _ _ => 3⟩
    let w : World :=
      ⟨fun _ => {
          ViewState.fresh with
          size := Size.make 800 600, scrollOffset := ⟨-5, 0⟩, shouldPrintBackgrounds := true },
        1, fun _ o => o, []⟩
    let letter : PrintMsgPrintParams :=
      { pageSize := Size.make 612 792, contentSize := Size.make 576 756,
        printableArea := ⟨0, 0, Size.make 612 792⟩, marginTop := 18, marginLeft := 18,
        dpi := 72, minShrink := 1, maxShrink := 2, desiredDpi := 72, documentCookie := 1,
        selectionOnly := false, printScalingOption := .sourceSize, shouldPrintBackgrounds := false }
    ∃ s, run false blink (Helper.init w) [.onPrintPages 0 true true letter] = .ok s ∧
      Reachable false blink w s ∧ (s.world.views 0).scrollOffset = ⟨0, 0⟩ ∧
      (s.world.views 0).shouldPrintBackgrounds = false ∧ (s.world.views 0).Kept (w.views 0) := by
  intro blink w letter
  obtain ⟨s, hrun, hs, hscroll, hbg⟩ := reach_of_run false blink w [.onPrintPages 0 true true letter]
    (p := fun s => (s.world.views 0).scrollOffset = ⟨0, 0⟩ ∧
      (s.world.views 0).shouldPrintBackgrounds = false) (by decide)
  exact ⟨s, hrun, hs, hscroll, hbg, reachable_page_views_kept false blink hs 0 (by decide)⟩

/-- **No script runs in a view the controller created.**  In every reachable state, under
every interleaving of entry points, host replies, re-entrant deliveries, loads and posted tasks,
every view the controller has created — the copies `CopySelection` loads a selection into — has
JavaScript disabled. -/
theorem reachable_copies_scriptless {w₀ : World} {s : Helper} (h : Reachable osMacosx blink w₀ s)
    (v : ViewId) (hlo : w₀.nextView ≤ v) (hhi : v < s.world.nextView) :
    (s.world.views v).javascriptEnabled = false :=
  (reachable_pageKept osMacosx blink h).world.scriptless v hlo hhi

/-- A selection printed silently is copied into view 1, which runs no script. -/
theorem reachable_copies_scriptless_selection :
    let blink : Blink := ⟨fun _ => false, fun _ => CssFrame.noCss, fun _ _ => 3⟩
    let w : World := ⟨fun _ => ViewState.fresh, 1, fun _ o => o, []⟩
    let selection : PrintMsgPrintParams :=
      { pageSize := Size.make 612 792, contentSize := Size.make 576 756,
        printableArea := ⟨0, 0, Size.make 612 792⟩, marginTop := 18, marginLeft := 18,
        dpi := 72, minShrink := 1, maxShrink := 2, desiredDpi := 72, documentCookie := 1,
        selectionOnly := true, printScalingOption := .sourceSize, shouldPrintBackgrounds := false }
    ∃ s, run false blink (Helper.init w) [.onPrintPages 0 true false selection] = .ok s ∧
      Reachable false blink w s ∧ s.world.nextView = 2 ∧
      (s.world.views 1).javascriptEnabled = false := by
  intro blink w selection
  obtain ⟨s, hrun, hs, hnext⟩ := reach_of_run false blink w [.onPrintPages 0 true false selection]
    (p := fun s => s.world.nextView = 2) (by decide)
  exact ⟨s, hrun, hs, hnext,
    reachable_copies_scriptless false blink hs 1 (by decide) (by rw [hnext]; decide)⟩

end Runs

end Printing
