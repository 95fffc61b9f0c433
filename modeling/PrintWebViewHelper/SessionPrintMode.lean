import PrintWebViewHelper.Session

/-!
# The print mode across every run

Blink expects `WebFrame::printBegin` and `WebFrame::printEnd` in pairs on one frame.  The
controller opens the print mode in three places: the provisional pass of the constructor,
the throw-away object of `CalculateNumberOfPages`, and `PrintPages` on `prep_frame_view_`.  The
first two close it before they return; the third leaves it open until `FinishFramePrinting`
destroys the object, or `DidFinishPrinting` does.

`printingViews` is the frame in print mode in a state: the held object's frame, while it
prints.  `PrintModeStep s t` says that the surfaces' log grew, from `s` to `t`, by calls that
replay from the print mode of `s` to that of `t`.  Each routine gets one lemma, over every
state it returns (`Returns`); between deliveries nothing is held in print mode (`Idle`).

## Main definitions

* `Returns` — every state a run of controller code returns satisfies a predicate.
* `Helper.printingViews`, `Helper.Idle` — the frame in print mode; nothing held in print mode.
* `PrintModeStep`, `Settled` — the log grew by calls that replay from one print mode to the
  other; and the result is idle.

## Main results

* `step_settled` — every delivery from an idle state ends idle, with its calls replaying.
* `reachable_print_mode_bracketed` — **in every reachable state, the calls the controller made
  on the surfaces open and close the print mode in pairs, and nothing held is in print mode.**
-/

namespace Printing

open Helper PrepareFrameAndViewForPrint

/-! ### Runs that return -/

/-- Every value a run of controller code returns satisfies `P`; crashes are not looked at. -/
def Returns {α : Type} (P : α → Prop) (x : Except Fault α) : Prop := ∀ a, x = .ok a → P a

section Returns

variable {α β : Type} {P : α → Prop} {Q : β → Prop}

theorem Returns.ok {a : α} (h : P a) : Returns P (.ok a) := fun _ h' => by cases h'; exact h

theorem Returns.bind {x : Except Fault α} {f : α → Except Fault β} (hx : Returns P x)
    (hf : ∀ a, P a → Returns Q (f a)) : Returns Q (x >>= f) := by
  cases x with
  | error e => exact fun _ h => by cases h
  | ok a => exact hf a (hx a rfl)

theorem Returns.map {x : Except Fault α} {f : α → β} (hx : Returns P x)
    (hf : ∀ a, P a → Q (f a)) : Returns Q (f <$> x) := by
  cases x with
  | error e => exact fun _ h => by cases h
  | ok a => exact Returns.ok (hf a (hx a rfl))

theorem Returns.imp {x : Except Fault α} {P' : α → Prop} (hx : Returns P x)
    (h : ∀ a, P a → P' a) : Returns P' x := fun a ha => h a (hx a ha)

theorem returns_true (x : Except Fault α) : Returns (fun _ => True) x := fun _ _ => trivial

theorem returns_orFault {o : Option α} {f : Fault} (h : ∀ a, o = some a → P a) :
    Returns P (orFault o f) := by
  cases o with
  | none => exact fun _ h' => by cases h'
  | some a => exact Returns.ok (h a rfl)

end Returns

/-! ### The print mode of a state -/

/-- The frame in print mode: the held object's frame, while it prints. -/
def Helper.printingViews (s : Helper) : List ViewId :=
  match s.prepFrameView with
  | some (_, prep) => if prep.isPrintingStarted then prep.frame.toList else []
  | none => []

/-- No held object is in print mode. -/
def Helper.Idle (s : Helper) : Prop :=
  ∀ id prep, s.prepFrameView = some (id, prep) → prep.isPrintingStarted = false

theorem Helper.printingViews_of_idle {s : Helper} (h : s.Idle) : s.printingViews = [] := by
  unfold printingViews
  split
  · next id prep hp => simp [h id prep hp]
  · rfl

theorem Helper.idle_of_prep_none {s : Helper} (h : s.prepFrameView = none) : s.Idle := by
  simp [Idle, h]

/-- From `s` to `t` the surfaces' log grew by calls that replay from the print mode of `s` to
that of `t`. -/
def PrintModeStep (s t : Helper) : Prop :=
  ∃ e, t.world.log = s.world.log ++ e ∧ replayPrinting s.printingViews e = some t.printingViews

/-- A `PrintModeStep` that ends idle. -/
def Settled (s t : Helper) : Prop := t.Idle ∧ PrintModeStep s t

section Steps

variable {s t u : Helper}

theorem PrintModeStep.refl (s : Helper) : PrintModeStep s s := ⟨[], by simp, rfl⟩

theorem PrintModeStep.trans (h₁ : PrintModeStep s t) (h₂ : PrintModeStep t u) :
    PrintModeStep s u := by
  obtain ⟨e₁, hl₁, hr₁⟩ := h₁
  obtain ⟨e₂, hl₂, hr₂⟩ := h₂
  exact ⟨e₁ ++ e₂, by rw [hl₂, hl₁, List.append_assoc],
    by rw [replayPrinting_append, hr₁, Option.some_bind, hr₂]⟩

/-- Code that leaves the log and what is held alone. -/
theorem PrintModeStep.of_eq (hl : t.world.log = s.world.log)
    (hp : t.prepFrameView = s.prepFrameView) : PrintModeStep s t :=
  ⟨[], by simp [hl], by simp [replayPrinting, printingViews, hp]⟩

/-- Between idle states, bracketed calls. -/
theorem PrintModeStep.of_bracketed (hs : s.Idle) (ht : t.Idle) {e : List SurfaceEvent}
    (hl : t.world.log = s.world.log ++ e) (he : Bracketed e) : PrintModeStep s t :=
  ⟨e, hl, by rw [printingViews_of_idle hs, printingViews_of_idle ht]; exact he⟩

theorem Settled.refl (h : s.Idle) : Settled s s := ⟨h, .refl s⟩

theorem Settled.trans (h₁ : Settled s t) (h₂ : Settled t u) : Settled s u :=
  ⟨h₂.1, h₁.2.trans h₂.2⟩

theorem Settled.of_eq (h : s.Idle) (hl : t.world.log = s.world.log)
    (hp : t.prepFrameView = s.prepFrameView) : Settled s t :=
  ⟨fun id prep ht => h id prep (hp ▸ ht), .of_eq hl hp⟩

theorem Settled.trans_step (h₁ : PrintModeStep s t) (h₂ : Settled t u) : Settled s u :=
  ⟨h₂.1, h₁.trans h₂.2⟩

/-- What a `Settled` reads of the result: its log and what it holds. -/
theorem Settled.congr (h : Settled s t) (hl : u.world.log = t.world.log)
    (hp : u.prepFrameView = t.prepFrameView) : Settled s u :=
  h.trans (.of_eq h.1 hl hp)

end Steps

/-! ### One lemma per routine -/

/-- `prep_frame_view_.reset()` closes the print mode the held object has open. -/
theorem resetPrepFrameView_settled (s : Helper) : Settled s s.resetPrepFrameView := by
  unfold resetPrepFrameView
  split
  · next hp => exact .of_eq (idle_of_prep_none hp) rfl rfl
  · next id prep hp =>
    obtain ⟨e, hl, hr⟩ := finishPrinting_replay prep s.world
    exact ⟨idle_of_prep_none rfl, e, hl, by simpa [printingViews, hp] using hr⟩

theorem didFinishPrinting_settled (result : PrintingResult) (s : Helper) :
    Settled s (didFinishPrinting result s) := by
  unfold didFinishPrinting
  split
  · split
    · exact Settled.trans_step (.of_eq rfl rfl)
        ((resetPrepFrameView_settled (s.send _)).congr rfl rfl)
    · exact (resetPrepFrameView_settled s).congr rfl rfl
  · exact (resetPrepFrameView_settled s).congr rfl rfl

section Routines

variable {osMacosx : Bool} {blink : Blink}

theorem startPrintingWith_of_frame {prep : PrepareFrameAndViewForPrint} {v : ViewId}
    (h : prep.frame = some v) (w : World) :
    startPrintingWith blink prep w =
      prep.startPrinting (blink.pageCount v prep.webPrintParams) w := by
  simp [startPrintingWith, h]

/-- `CalculateNumberOfPages` opens the print mode only on its throw-away object, which closes
it. -/
theorem calculateNumberOfPages_settled (frame : ViewId) (nodeIsNull : Bool)
    (defaults : PrintMsgPrintParams) {s : Helper} (hs : s.Idle) :
    Returns (fun r : Option Int × Helper => Settled s r.2)
      (calculateNumberOfPages osMacosx blink frame nodeIsNull defaults s) := by
  simp only [calculateNumberOfPages, initPrintSettings]
  split
  · exact Returns.ok (.of_eq hs rfl rfl)
  · simp only [derefPrintPagesParams_eq, send_printPagesParams, orFault_some, pure_bind]
    refine Returns.bind (fun _ => create_spec) ?_
    rintro ⟨prep, w⟩ ⟨hf, -, -, -, events, hb, -, rfl⟩
    rw [startPrintingWith_of_frame hf]
    refine Returns.bind (returns_orFault fun r hr => startPrinting_finishPrinting_bracketed hf hr)
      fun r ⟨e, hl, he⟩ => Returns.ok ⟨hs, .of_bracketed hs hs ?_ (hb.append he)⟩
    simp [hl]

theorem getPrintSettingsFromUser_settled (frame : ViewId) (nodeIsNull : Bool)
    (expectedPagesCount : Int) (printBackground fromPrintNode : Bool) {s : Helper}
    (hs : s.Idle) :
    Returns (Settled s) (getPrintSettingsFromUser frame nodeIsNull expectedPagesCount
      printBackground fromPrintNode s) := by
  unfold getPrintSettingsFromUser
  exact Returns.bind (returns_true _) fun _ _ => Returns.ok (.of_eq hs rfl rfl)

/-- `PrintPages` opens the print mode on the held object's frame and leaves it open. -/
theorem printPages_step {s : Helper} (hs : s.Idle) :
    Returns (PrintModeStep s) (printPages blink s) := by
  unfold printPages
  split
  · exact Returns.ok (.refl s)
  · next id prep hp =>
    have hstart : ∀ r, startPrintingWith blink prep s.world = some r →
        ∃ v, r.1.frame = some v ∧ r.1.isPrintingStarted = true ∧
          r.2.log = s.world.log ++ [.printBegin v] := by
      intro r hr
      unfold startPrintingWith at hr
      split at hr
      · next v hf =>
        rw [startPrinting_eq hf, Option.some.injEq] at hr
        subst hr
        exact ⟨v, hf, rfl, by simp⟩
      · cases hr
    refine Returns.bind (returns_orFault hstart) ?_
    rintro ⟨p, w⟩ ⟨v, hf, hst, hl⟩
    dsimp only at hf hst hl
    -- the held object is printing: its frame is in print mode
    have hopen : PrintModeStep s { s with prepFrameView := some (id, p), world := w } :=
      ⟨[.printBegin v], hl, by simp [printingViews, hp, hs id prep hp, hst, hf, replayPrinting]⟩
    dsimp only
    split
    · exact Returns.ok (hopen.trans (didFinishPrinting_settled _ _).2)
    · simp only [derefPrintPagesParams_eq, send_printPagesParams, pure_bind]
      exact Returns.bind (returns_true _) fun _ _ => Returns.bind (returns_true _) fun _ _ =>
        Returns.ok (hopen.trans (.of_eq rfl rfl))

/-- `OnFramePreparedForPrintPages`: `PrintPages`, and `FinishFramePrinting` closes the print
mode it opened. -/
theorem onFramePreparedForPrintPages_settled {s : Helper} (hs : s.Idle) :
    Returns (Settled s) (onFramePreparedForPrintPages blink s) :=
  (printPages_step hs).map fun t ht => Settled.trans_step ht (resetPrepFrameView_settled t)

/-- `RenderPagesForPrint` holds a new object, not printing, after the constructor's provisional
pass; if the object is ready at once, it prints and is destroyed. -/
theorem renderPagesForPrint_settled (frame : ViewId) (nodeIsNull silent : Bool) {s : Helper}
    (hs : s.Idle) :
    Returns (fun r : Bool × Helper => Settled s r.2)
      (renderPagesForPrint osMacosx blink frame nodeIsNull silent s) := by
  unfold renderPagesForPrint
  split
  · exact Returns.ok (.refl hs)
  · simp only [derefPrintPagesParams_eq, pure_bind]
    refine Returns.bind (returns_true _) fun _ _ => ?_
    refine Returns.bind (fun _ => create_spec) ?_
    rintro ⟨prep, w⟩ ⟨-, -, hst, -, events, hb, -, rfl⟩
    refine Returns.bind (returns_orFault fun r hr => copySelectionIfNeeded_log hr) ?_
    rintro ⟨p, w', ready⟩ ⟨hst', hl'⟩
    dsimp only at hst hst' hl' ⊢
    -- the object is held, not printing, and the provisional pass is bracketed
    have hheld (t : Helper) (hp : t.prepFrameView = some (s.nextPrep, p))
        (hl : t.world.log = s.world.log ++ events) : Settled s t :=
      have hidle : t.Idle := fun _ _ h => by
        obtain ⟨-, rfl⟩ := Prod.mk.inj (Option.some.inj (hp.symm.trans h))
        rw [hst', hst]
      ⟨hidle, .of_bracketed hs hidle hl hb⟩
    split
    · exact Returns.bind (onFramePreparedForPrintPages_settled (hheld _ rfl (by simp [hl'])).1)
        fun t ht => Returns.ok ((hheld _ rfl (by simp [hl'])).trans ht)
    · exact Returns.ok (hheld _ rfl (by simp [hl']))

theorem renderAfterSettings_settled (frame : ViewId) (nodeIsNull silent printBackground : Bool)
    {s : Helper} (hs : s.Idle) :
    Returns (Settled s)
      (renderAfterSettings osMacosx blink frame nodeIsNull silent printBackground s) := by
  unfold renderAfterSettings
  refine Returns.bind (returns_true _) fun _ _ => ?_
  refine Returns.bind (renderPagesForPrint_settled frame nodeIsNull silent hs) ?_
  rintro ⟨ok, t⟩ ht
  replace ht : Settled s t := Settled.trans_step (.of_eq rfl rfl) ht
  dsimp only
  split
  · exact Returns.ok ht
  · exact Returns.ok (ht.trans (didFinishPrinting_settled _ _))

theorem print_settled (frame : ViewId) (nodeIsNull silent printBackground fromPrintNode : Bool)
    (defaults : PrintMsgPrintParams) {s : Helper} (hs : s.Idle) :
    Returns (fun r : Helper × Bool => Settled s r.1)
      (print osMacosx blink frame nodeIsNull silent printBackground fromPrintNode defaults s) := by
  simp only [print, pure_bind]
  split
  · exact Returns.ok (.refl hs)
  · refine Returns.bind (calculateNumberOfPages_settled frame nodeIsNull defaults hs) ?_
    rintro ⟨count, t⟩ ht
    rcases count with _ | c <;> dsimp only
    · exact Returns.ok (ht.trans (didFinishPrinting_settled _ _))
    · split
      · exact Returns.ok (ht.trans (didFinishPrinting_settled _ _))
      · split
        · exact Returns.bind (getPrintSettingsFromUser_settled frame nodeIsNull c printBackground
            fromPrintNode ht.1) fun u hu => Returns.ok (ht.trans hu)
        · exact Returns.bind (renderAfterSettings_settled frame nodeIsNull true printBackground
            ht.1) fun u hu => Returns.ok (ht.trans hu)

/-- The reply to the dialog renders, or ends the session. -/
theorem resumePrint_settled (settings : PrintMsgPrintPagesParams) {s : Helper} (hs : s.Idle) :
    Returns (Settled s) (resumePrint osMacosx blink settings s) := by
  simp only [resumePrint]
  split
  · exact Returns.ok (.refl hs)
  · have hflag (t : Helper) (ht : Settled s t) (b : Bool) :
        Settled s (if b then { t with printNodeInProgress := false } else t) := by
      cases b
      · exact ht
      · exact ht.congr rfl rfl
    split
    · exact Returns.bind (renderAfterSettings_settled _ _ false _ hs) fun t ht =>
        Returns.ok (hflag t (Settled.trans_step (.of_eq rfl rfl) ht) _)
    · exact Returns.bind (Returns.ok (P := Settled s) (Settled.trans_step (.of_eq rfl rfl)
        (didFinishPrinting_settled _ _))) fun t ht => Returns.ok (hflag t ht _)

theorem printNode_settled (frame : Option ViewId) (defaults : PrintMsgPrintParams) {s : Helper}
    (hs : s.Idle) : Returns (Settled s) (printNode osMacosx blink frame defaults s) := by
  unfold printNode
  split
  · exact Returns.ok (.refl hs)
  · split
    · exact Returns.ok (.refl hs)
    · refine Returns.bind (print_settled _ false false false true defaults hs) ?_
      rintro ⟨t, blocked⟩ ht
      replace ht : Settled s t := Settled.trans_step (.of_eq rfl rfl) ht
      cases blocked
      · exact Returns.ok (ht.congr rfl rfl)
      · exact Returns.ok ht

/-- The end of a load changes neither what is held nor the log. -/
theorem didStopLoading_settled (v : ViewId) {s : Helper} (hs : s.Idle) :
    Settled s (didStopLoading v s) := by
  unfold didStopLoading
  split
  · split
    · exact .of_eq hs rfl rfl
    · exact .refl hs
  · exact .refl hs

theorem runTask_settled {s : Helper} (hs : s.Idle) : Returns (Settled s) (runTask blink s) := by
  unfold runTask
  split
  · exact Returns.ok (.refl hs)
  · next _ _ rest _ =>
    dsimp only
    split
    · split
      · exact (onFramePreparedForPrintPages_settled (s := { s with tasks := rest }) hs).imp
          fun t ht => Settled.trans_step (.of_eq rfl rfl) ht
      · exact Returns.ok (.of_eq hs rfl rfl)
    · exact Returns.ok (.of_eq hs rfl rfl)

end Routines

/-! ### Every run -/

section Runs

variable (osMacosx : Bool) (blink : Blink)

/-- **Every delivery from an idle state ends idle**, its surface calls replaying from nothing
in print mode to nothing in print mode. -/
theorem step_settled {s : Helper} (hs : s.Idle) (e : Event) :
    Returns (Settled s) (step osMacosx blink s e) := by
  cases e with
  | printPage frame defaults =>
    exact (print_settled frame true false false false defaults hs).map fun _ h => h
  | onPrintPages frame silent printBackground defaults =>
    exact (print_settled frame true silent printBackground false defaults hs).map fun _ h => h
  | printNode frame defaults => exact printNode_settled frame defaults hs
  | onPrintingDone success =>
    exact Returns.ok (Settled.trans_step (.of_eq rfl rfl) (didFinishPrinting_settled _ _))
  | scriptedPrintReply settings => exact resumePrint_settled settings hs
  | didStopLoading v => exact Returns.ok (didStopLoading_settled v hs)
  | runTask => exact runTask_settled hs

theorem reachable_settled {w₀ : World} {s : Helper} (h : Reachable osMacosx blink w₀ s) :
    Settled (Helper.init w₀) s := by
  induction h with
  | init => exact .refl (idle_of_prep_none rfl)
  | step e _ hstep ih => exact ih.trans (step_settled osMacosx blink ih.1 e _ hstep)

/-- **The print mode is opened and closed in pairs.**  In every reachable state, the calls the
controller made on the surfaces since it was built open and close the print mode in pairs:
each `printBegin` is closed by exactly one later `printEnd` on the same frame, and no
`printEnd` comes without an open `printBegin`; and no held object is in print mode. -/
theorem reachable_print_mode_bracketed {w₀ : World} {s : Helper}
    (h : Reachable osMacosx blink w₀ s) :
    s.Idle ∧ ∃ e, s.world.log = w₀.log ++ e ∧ Bracketed e := by
  obtain ⟨hidle, e, hl, hr⟩ := reachable_settled osMacosx blink h
  exact ⟨hidle, e, hl, by rwa [printingViews_of_idle hidle] at hr⟩

/-- A silent `OnPrintPages` of a Letter page: the provisional passes, the page count and the
printing itself each open and close the print mode. -/
theorem reachable_print_mode_bracketed_letter :
    let blink : Blink := ⟨fun _ => false, fun _ => CssFrame.noCss, fun _ _ => 3⟩
    let w : World := ⟨fun _ => ViewState.fresh, 1, fun _ o => o, []⟩
    let letter : PrintMsgPrintParams :=
      { pageSize := Size.make 612 792, contentSize := Size.make 576 756,
        printableArea := ⟨0, 0, Size.make 612 792⟩, marginTop := 18, marginLeft := 18,
        dpi := 72, minShrink := 1, maxShrink := 2, desiredDpi := 72, documentCookie := 1,
        selectionOnly := false, printScalingOption := .sourceSize, shouldPrintBackgrounds := false }
    ∃ s, run false blink (Helper.init w) [.onPrintPages 0 true false letter] = .ok s ∧
      Reachable false blink w s ∧ s.Idle ∧ ∃ e, s.world.log = w.log ++ e ∧ Bracketed e := by
  intro blink w letter
  obtain ⟨s, hrun, hs, -⟩ := reach_of_run false blink w [.onPrintPages 0 true false letter]
    (p := fun _ => True) (by decide)
  exact ⟨s, hrun, hs, reachable_print_mode_bracketed false blink hs⟩

end Runs

end Printing
