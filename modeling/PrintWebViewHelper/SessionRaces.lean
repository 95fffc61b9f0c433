import PrintWebViewHelper.SessionSafety

/-!
# Sessions that overlap

The guard at the top of `Print` tests `prep_frame_view_` only, and `prep_frame_view_` is null
from `CalculateNumberOfPages` until `RenderPagesForPrint`.  A `Print` blocked in the settings
dialog's pumped send therefore lets every other `Print` through: the second runs a session of
its own on top of the first, or blocks in a dialog of its own.  And `OnPrintingDone`, which
carries no cookie, ends whatever session holds `prep_frame_view_`: a selection still loading
into its copy is dropped, its copy closed while loading, with no page printed and no
`PrintHostMsg_PrintingFailed` sent.

Runs on fixed inputs are replayed by `run` and checked by `decide` (`reach_of_run`).

## Main results

* `print_reenters_during_dialog` — **a `Print` blocked in the dialog lets the same `Print`
  through the guard, which blocks on top of it.**
* `onPrintingDone_ends_session` — `OnPrintingDone` ends whatever session is held, tells the
  browser nothing, and closes an owned copy whether or not it still loads.
* `onPrintingDone_drops_loading_selection` — a stale `OnPrintingDone` loses a selection
  session and closes its copy while it loads.
-/

namespace Printing

open Helper PrepareFrameAndViewForPrint

/-! ### A second `Print` during the dialog -/

theorem except_bind_eq_ok {ε α β : Type} {x : Except ε α} {f : α → Except ε β} {b : β} :
    x >>= f = .ok b ↔ ∃ a, x = .ok a ∧ f a = .ok b := by
  cases x <;> simp [bind, Except.bind]

section Reentry

variable {osMacosx : Bool} {blink : Blink}

/-- How many pages a throw-away object counts, and whether it crashes, does not depend on the
surfaces. -/
theorem throwAway_count_map_fst (params : PrintMsgPrintParams) (frame : ViewId)
    (nodeIsNull nodeOrPdf : Bool) (css : CssFrame) (w₁ w₂ : World)
    (S₁ S₂ : PrepareFrameAndViewForPrint × World → Helper) :
    Except.map Prod.fst
        (create osMacosx params frame nodeIsNull false nodeOrPdf css w₁ >>=
          fun d => orFault (startPrintingWith blink d.1 d.2) .nullFrame >>=
            fun d => pure (some d.1.expectedPagesCount, S₁ d)) =
      Except.map Prod.fst
        (create osMacosx params frame nodeIsNull false nodeOrPdf css w₂ >>=
          fun d => orFault (startPrintingWith blink d.1 d.2) .nullFrame >>=
            fun d => pure (some d.1.expectedPagesCount, S₂ d)) := by
  have hc := @create_map_fst osMacosx params frame nodeIsNull false nodeOrPdf css w₁ w₂
  cases h₁ : create osMacosx params frame nodeIsNull false nodeOrPdf css w₁ with
  | error f₁ =>
    cases h₂ : create osMacosx params frame nodeIsNull false nodeOrPdf css w₂ with
    | error f₂ =>
      obtain rfl : f₁ = f₂ := by simpa [h₁, h₂, Except.map] using hc
      rfl
    | ok r => simp [h₁, h₂, Except.map] at hc
  | ok r₁ =>
    cases h₂ : create osMacosx params frame nodeIsNull false nodeOrPdf css w₂ with
    | error f => simp [h₁, h₂, Except.map] at hc
    | ok r₂ =>
      obtain ⟨q, v₁⟩ := r₁
      obtain ⟨q₂, v₂⟩ := r₂
      simp only [h₁, h₂, Except.map, Except.ok.injEq] at hc
      subst hc
      obtain ⟨hf, -⟩ := create_spec h₁
      obtain ⟨p₁, v₁', hs₁, -, hn₁, -⟩ :=
        startPrinting_of_frame hf (blink.pageCount frame q.webPrintParams) v₁
      obtain ⟨p₂, v₂', hs₂, -, hn₂, -⟩ :=
        startPrinting_of_frame hf (blink.pageCount frame q.webPrintParams) v₂
      simp only [except_ok_bind, orFault_some, pure_bind, startPrintingWith, hf, hs₁, hs₂, hn₁,
        hn₂]
      rfl

/-- The page count `CalculateNumberOfPages` finds, and whether it crashes, does not depend on
the state it runs in. -/
theorem calculateNumberOfPages_map_fst (frame : ViewId) (nodeIsNull : Bool)
    (defaults : PrintMsgPrintParams) (s t : Helper) :
    (calculateNumberOfPages osMacosx blink frame nodeIsNull defaults s).map Prod.fst =
      (calculateNumberOfPages osMacosx blink frame nodeIsNull defaults t).map Prod.fst := by
  simp only [calculateNumberOfPages, initPrintSettings]
  split
  · rfl
  · simp only [derefPrintPagesParams_eq, send_printPagesParams, orFault_some, pure_bind,
      send_world]
    exact throwAway_count_map_fst _ _ _ _ _ _ _ _ _

/-- A `Print` that blocks in the dialog passed the guard, counted `count` pages and holds
nothing: it pushed its call on the blocked ones. -/
theorem print_blocked {frame : ViewId} {nodeIsNull printBackground fromPrintNode : Bool}
    {defaults : PrintMsgPrintParams} {s s₁ : Helper}
    (h : print osMacosx blink frame nodeIsNull false printBackground fromPrintNode defaults s =
      .ok (s₁, true)) :
    s.prepFrameView = none ∧ ∃ count t, count ≠ 0 ∧
      calculateNumberOfPages osMacosx blink frame nodeIsNull defaults s = .ok (some count, t) ∧
      getPrintSettingsFromUser frame nodeIsNull count printBackground fromPrintNode t = .ok s₁ := by
  simp only [print, pure_bind] at h
  split at h
  · cases h
  · next hguard =>
    obtain ⟨⟨count, t⟩, hc, h⟩ := except_bind_eq_ok.mp h
    rcases count with _ | c
    · cases h
    · dsimp only at h
      split at h
      · cases h
      · next hc0 =>
        obtain ⟨s', hg, h⟩ := except_bind_eq_ok.mp (by simpa using h)
        cases h
        exact ⟨by simpa using hguard, c, t, hc0, hc, hg⟩

/-- `GetPrintSettingsFromUser` blocks keeping what is held, with one more blocked call. -/
theorem getPrintSettingsFromUser_spec {frame : ViewId} {nodeIsNull : Bool} {count : Int}
    {printBackground fromPrintNode : Bool} {t s₁ : Helper}
    (h : getPrintSettingsFromUser frame nodeIsNull count printBackground fromPrintNode t =
      .ok s₁) :
    s₁.prepFrameView = t.prepFrameView ∧ s₁.pumping.length = t.pumping.length + 1 := by
  cases hp : t.printPagesParams with
  | none => simp [getPrintSettingsFromUser, hp] at h
  | some pp =>
    simp only [getPrintSettingsFromUser, derefPrintPagesParams_eq, hp, orFault_some,
      pure_bind] at h
    cases h
    simp

/-- `GetPrintSettingsFromUser` blocks whenever the settings are there. -/
theorem getPrintSettingsFromUser_ok (frame : ViewId) (nodeIsNull : Bool) (count : Int)
    (printBackground fromPrintNode : Bool) {t : Helper} {pp : PrintMsgPrintPagesParams}
    (hp : t.printPagesParams = some pp) :
    ∃ s₁, getPrintSettingsFromUser frame nodeIsNull count printBackground fromPrintNode t =
      .ok s₁ :=
  ⟨_, by simp only [getPrintSettingsFromUser, derefPrintPagesParams_eq, hp, orFault_some,
    pure_bind]; rfl⟩

/-- **A `Print` blocked in the settings dialog lets a second `Print` through the guard.**  Take
any state and any non-silent `Print` that blocks in `GetPrintSettingsFromUser`'s pumped send.
While it waits `prep_frame_view_` is null, so the same `Print`, delivered by the pump, passes
the guard, counts its pages and blocks in a dialog of its own on top of the first: two
sessions are in flight. -/
theorem print_reenters_during_dialog (frame : ViewId)
    (nodeIsNull printBackground fromPrintNode : Bool) (defaults : PrintMsgPrintParams)
    (s s₁ : Helper)
    (h : print osMacosx blink frame nodeIsNull false printBackground fromPrintNode defaults s =
      .ok (s₁, true)) :
    s₁.prepFrameView = none ∧ s₁.pumping.length = s.pumping.length + 1 ∧
      ∃ s₂, print osMacosx blink frame nodeIsNull false printBackground fromPrintNode defaults
          s₁ = .ok (s₂, true) ∧ s₂.pumping.length = s.pumping.length + 2 := by
  obtain ⟨hguard, c, t, hc0, hc, hg⟩ := print_blocked h
  obtain ⟨-, htp, htpump, -⟩ := (calculateNumberOfPages_sound frame nodeIsNull defaults s).of_ok hc
  obtain ⟨hp₁, hpump₁⟩ := getPrintSettingsFromUser_spec hg
  rw [htp, hguard] at hp₁
  rw [htpump] at hpump₁
  -- the second call counts the same pages, wherever it runs
  obtain ⟨t', hc'⟩ : ∃ t', calculateNumberOfPages osMacosx blink frame nodeIsNull defaults s₁ =
      .ok (some c, t') := by
    have := @calculateNumberOfPages_map_fst osMacosx blink frame nodeIsNull defaults s₁ s
    rw [hc] at this
    cases hr : calculateNumberOfPages osMacosx blink frame nodeIsNull defaults s₁ with
    | error f => simp [hr, Except.map] at this
    | ok r => simp [hr, Except.map] at this; exact ⟨r.2, by rw [← this]⟩
  obtain ⟨-, -, htpump', hparams'⟩ :=
    (calculateNumberOfPages_sound frame nodeIsNull defaults s₁).of_ok hc'
  obtain ⟨pp, hpp, -⟩ := hparams' c rfl
  obtain ⟨s₂, hg₂⟩ := getPrintSettingsFromUser_ok frame nodeIsNull c printBackground
    fromPrintNode hpp
  refine ⟨hp₁, hpump₁, s₂, ?_, by rw [(getPrintSettingsFromUser_spec hg₂).2, htpump', hpump₁]⟩
  simp only [print, pure_bind, hp₁, Option.isSome_none, hc']
  simp [hc0, hg₂]

end Reentry

/-- A non-silent `OnPrintPages` on a Letter page blocks in the dialog of a fresh controller,
and blocks again when delivered during the pump. -/
theorem print_reenters_during_dialog_letter :
    let blink : Blink := ⟨fun _ => false, fun _ => CssFrame.noCss, fun _ _ => 3⟩
    let w : World := ⟨fun _ => ViewState.fresh, 1, fun _ o => o, []⟩
    let letter : PrintMsgPrintParams :=
      { pageSize := Size.make 612 792, contentSize := Size.make 576 756,
        printableArea := ⟨0, 0, Size.make 612 792⟩, marginTop := 18, marginLeft := 18,
        dpi := 72, minShrink := 1, maxShrink := 2, desiredDpi := 72, documentCookie := 1,
        selectionOnly := false, printScalingOption := .sourceSize, shouldPrintBackgrounds := false }
    ∃ s₁, print false blink 0 true false false false letter (Helper.init w) = .ok (s₁, true) ∧
      s₁.prepFrameView = none ∧ s₁.pumping.length = (Helper.init w).pumping.length + 1 ∧
      ∃ s₂, print false blink 0 true false false false letter s₁ = .ok (s₂, true) ∧
        s₂.pumping.length = (Helper.init w).pumping.length + 2 := by
  intro blink w letter
  have hb : (print false blink 0 true false false false letter (Helper.init w)).toOption.map
      Prod.snd = some true := by decide
  cases hp : print false blink 0 true false false false letter (Helper.init w) with
  | error f => simp [hp, Except.toOption] at hb
  | ok r =>
    obtain ⟨s₁, b⟩ := r
    simp only [hp, Except.toOption, Option.map_some', Option.some.injEq] at hb
    subst hb
    exact ⟨s₁, rfl, print_reenters_during_dialog 0 true false false letter _ s₁ hp⟩

/-! ### A stale `OnPrintingDone` -/

/-- `OnPrintingDone` ends whatever session holds `prep_frame_view_` and tells the browser
nothing: an owned copy is closed, whether or not it is still loading. -/
theorem onPrintingDone_ends_session (success : Bool) (s : Helper) {id : Nat}
    {prep : PrepareFrameAndViewForPrint} {v : ViewId} (hprep : s.prepFrameView = some (id, prep))
    (hv : prep.frame = some v) (hown : prep.ownsWebView = true) :
    let s' := onPrintingDone success s
    s'.prepFrameView = none ∧ s'.log = s.log ∧
      s'.world.log = s.world.log ++ (if prep.isPrintingStarted then [.printEnd v] else []) ++
        [.close v (s.world.views v).isLoading] := by
  have hdone : onPrintingDone success s =
      { { s with notifyBrowserOfPrintFailure := false }.resetPrepFrameView with
        printPagesParams := none, notifyBrowserOfPrintFailure := true } := by
    unfold onPrintingDone didFinishPrinting
    split <;> simp_all
  simp only [hdone, resetPrepFrameView, hprep, true_and]
  cases hs : prep.isPrintingStarted <;> simp [finishPrinting, hv, hown, hs]

/-- **A stale `OnPrintingDone` loses a selection session.**  A silent `OnPrintPages` of a
selection builds `prep_frame_view_` and starts loading the copy; an `OnPrintingDone` (for an
earlier job: the message carries no cookie) then ends the session.  The copy is closed while
it loads, its load never posts `CallOnReady`, and the browser gets neither a page nor a
`PrintHostMsg_PrintingFailed`. -/
theorem onPrintingDone_drops_loading_selection :
    let blink : Blink := ⟨fun _ => false, fun _ => CssFrame.noCss, fun _ _ => 3⟩
    let w : World := ⟨fun _ => ViewState.fresh, 1, fun _ o => o, []⟩
    let selection : PrintMsgPrintParams :=
      { pageSize := Size.make 612 792, contentSize := Size.make 576 756,
        printableArea := ⟨0, 0, Size.make 612 792⟩, marginTop := 18, marginLeft := 18,
        dpi := 72, minShrink := 1, maxShrink := 2, desiredDpi := 72, documentCookie := 1,
        selectionOnly := true, printScalingOption := .sourceSize, shouldPrintBackgrounds := false }
    ∃ s, run false blink (Helper.init w)
        [.onPrintPages 0 true false selection, .onPrintingDone true, .didStopLoading 1, .runTask] =
          .ok s ∧
      Reachable false blink w s ∧ s.prepFrameView.isNone ∧
      SurfaceEvent.close 1 true ∈ s.world.log ∧ ∀ e ∈ s.log, e.reportsOutcome = false := by
  intro blink w selection
  exact reach_of_run false blink w _ (by decide)

end Printing
