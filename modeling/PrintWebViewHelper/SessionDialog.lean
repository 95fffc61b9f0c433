import PrintWebViewHelper.SilentPrint
import PrintWebViewHelper.SessionNodeGuard
import PrintWebViewHelper.SessionProgress

/-!
# The reply to the settings dialog

A `Print` that is not silent blocks in `GetPrintSettingsFromUser`, in the pumped send of
`PrintHostMsg_ScriptedPrint`.  The browser's reply resets the scaling option, so the call saves
the option `InitPrintSettings` chose before it sends, and puts it back when the reply arrives;
then, if the user's settings carry a resolution and a document cookie, it goes on to
`RenderPagesForPrint` with them.

The model keeps what a blocked call saved in its `PendingPrint` record.  While the dialog is up
anything may be delivered — other prints, dialogs opened inside this one and their replies,
loads, posted tasks — but only a blocked `Print` pushes a record, and it pushes the option its
own `InitPrintSettings` chose for its frame and node; every other routine leaves the records
alone (`PumpKept`), and a reply pops the innermost one.  So whatever ran in between, the reply
prints with the scaling option chosen before the dialog.

A reply whose settings lack a resolution or a cookie cancels: `DidFinishPrinting(OK)` ends
whatever session is held and tells the browser nothing.  So the browser can always bring the
controller back to rest: let a held copy finish loading, cancel every blocked dialog, send
`PrintMsg_PrintingDone`, and let the posted tasks run, which find nothing held.  Destroying the
copy only once it has loaded keeps `FinishPrinting`'s `DCHECK(!frame->isLoading())`
(`Helper.Calm`).

The reply prints with `PrintPagesNative`, which these sources have only for the Mac: the
result about what it prints is stated for the Mac build.

## Main definitions

* `Helper.ScalingSaved` — every blocked call holds the option chosen for its frame and node.
* `Helper.Calm`, `ClosesLoaded` — no view is, or has been, closed while it loads.
* `Helper.pendingLoadEnd` — the end of the held copy's load, if it still loads.

## Main results

* `resumePrint_prints` — what the reply does when nothing is held and the settings pass.
* `reachable_scalingSaved` — every reachable state has `ScalingSaved`.
* `reachable_reply_prints` — **a reply whose settings pass the check prints the pages the user
  asked for, under the user's cookie, with the scaling option chosen before the dialog and the
  caller's background option, in the same delivery**, in the Mac build.
* `resumePrint_cancel` — a cancelling reply ends the session and sends nothing.
* `reachable_can_rest` — **from every reachable state, the end of the held copy's load,
  cancelling every dialog, `PrintMsg_PrintingDone` and the posted tasks bring the controller to
  rest, with nothing crashing, nothing sent and no view closed while it loads.**
-/

namespace Printing

open Helper PrepareFrameAndViewForPrint

deriving instance DecidableEq for PendingPrint

/-! ### What a blocked call saved -/

/-- Each blocked `Print` call holds the scaling option its `InitPrintSettings` chose: the
source size for a node or a plugin that paginates itself, and otherwise fitting the printable
area. -/
def Helper.ScalingSaved (blink : Blink) (s : Helper) : Prop :=
  ∀ p ∈ s.pumping, p.scalingOption =
    if printingNodeOrPdfFrame blink p.frame p.nodeIsNull then .sourceSize else .fitToPrintableArea

theorem PumpKept.scalingSaved {blink : Blink} {s t : Helper} (h : PumpKept s t)
    (hs : s.ScalingSaved blink) : t.ScalingSaved blink :=
  fun p hp => hs p (h.1 ▸ hp)

/-! ### One lemma per routine -/

section Routines

variable {osMacosx : Bool} {blink : Blink}

/-- A `Print` that blocks pushes one call, holding the scaling option its `InitPrintSettings`
chose; a `Print` that does not block leaves the blocked calls alone. -/
theorem print_scalingSaved (frame : ViewId) (nodeIsNull silent printBackground fromPrintNode : Bool)
    (defaults : PrintMsgPrintParams) {s : Helper} (hs : s.ScalingSaved blink) :
    Returns (fun r : Helper × Bool => r.1.ScalingSaved blink)
      (print osMacosx blink frame nodeIsNull silent printBackground fromPrintNode defaults s) := by
  simp only [print, pure_bind]
  split
  · exact Returns.ok hs
  · intro r hr
    obtain ⟨⟨count, t⟩, hc, hr⟩ := except_bind_eq_ok.mp hr
    have ht : PumpKept s t := calculateNumberOfPages_kept frame nodeIsNull defaults s _ hc
    rcases count with _ | c
    · cases hr
      exact (ht.trans (didFinishPrinting_kept _ _)).scalingSaved hs
    · dsimp only at hr
      split at hr
      · cases hr
        exact (ht.trans (didFinishPrinting_kept _ _)).scalingSaved hs
      split at hr
      · -- the call blocks, saving the option `InitPrintSettings` stored
        obtain ⟨u, hu, hr⟩ := except_bind_eq_ok.mp hr
        cases hr
        obtain ⟨-, -, hpp, -⟩ := calculateNumberOfPages_some hc
        simp only [getPrintSettingsFromUser, derefPrintPagesParams_eq, hpp, orFault_some,
          pure_bind] at hu
        cases hu
        intro p hp
        rcases List.mem_cons.mp hp with rfl | hp
        · cases printingNodeOrPdfFrame blink frame nodeIsNull <;> rfl
        · exact ht.scalingSaved hs p hp
      · obtain ⟨u, hu, hr⟩ := except_bind_eq_ok.mp hr
        cases hr
        exact (ht.trans (renderAfterSettings_kept frame nodeIsNull true printBackground t u
          hu)).scalingSaved hs

/-- The reply pops the innermost blocked call; what the resumed call runs keeps the rest. -/
theorem resumePrint_scalingSaved (settings : PrintMsgPrintPagesParams) {s : Helper}
    (hs : s.ScalingSaved blink) : Returns (ScalingSaved blink) (resumePrint osMacosx blink settings s) := by
  simp only [resumePrint]
  split
  · exact Returns.ok hs
  · next pending rest hp =>
    have hrest (t : Helper) (ht : t.pumping = rest) : t.ScalingSaved blink :=
      fun p h => hs p (by rw [hp, ← ht]; exact List.mem_cons_of_mem _ h)
    -- clearing the `PrintNode` flag afterwards keeps them too
    have hflag (t : Helper) (ht : t.ScalingSaved blink) : Returns (ScalingSaved blink)
        (pure (if pending.fromPrintNode then { t with printNodeInProgress := false } else t)) :=
      Returns.ok (by split <;> exact ht)
    split
    · exact Returns.bind ((renderAfterSettings_kept _ _ false _ _).imp fun u hu =>
        hu.scalingSaved (hrest _ rfl)) hflag
    · exact Returns.bind (Returns.ok (P := ScalingSaved blink)
        ((didFinishPrinting_kept _ _).scalingSaved (hrest _ rfl))) hflag

theorem printNode_scalingSaved (frame : Option ViewId) (defaults : PrintMsgPrintParams)
    {s : Helper} (hs : s.ScalingSaved blink) :
    Returns (ScalingSaved blink) (printNode osMacosx blink frame defaults s) := by
  unfold printNode
  split
  · exact Returns.ok hs
  · split
    · exact Returns.ok hs
    · exact Returns.bind (print_scalingSaved _ false false false true defaults hs) fun _ hr =>
        Returns.ok (by split <;> exact hr)

end Routines

/-! ### Every run -/

section Runs

variable (osMacosx : Bool) (blink : Blink)

theorem step_scalingSaved {s : Helper} (hs : s.ScalingSaved blink) (e : Event) :
    Returns (ScalingSaved blink) (step osMacosx blink s e) := by
  cases e with
  | printPage frame defaults =>
    exact (print_scalingSaved frame true false false false defaults hs).map fun _ h => h
  | onPrintPages frame silent printBackground defaults =>
    exact (print_scalingSaved frame true silent printBackground false defaults hs).map fun _ h => h
  | printNode frame defaults => exact printNode_scalingSaved frame defaults hs
  | onPrintingDone success =>
    exact Returns.ok ((didFinishPrinting_kept (s := { s with notifyBrowserOfPrintFailure := false })
      _).scalingSaved hs)
  | scriptedPrintReply settings => exact resumePrint_scalingSaved settings hs
  | didStopLoading v => exact Returns.ok ((didStopLoading_kept v s).scalingSaved hs)
  | runTask => exact (runTask_kept s).imp fun _ ht => ht.scalingSaved hs

theorem reachable_scalingSaved {w₀ : World} {s : Helper} (h : Reachable osMacosx blink w₀ s) :
    s.ScalingSaved blink := by
  induction h with
  | init => exact fun _ => nofun
  | step e _ hstep ih => exact step_scalingSaved osMacosx blink ih e _ hstep

end Runs

/-! ### The reply prints -/

section Reply

variable {osMacosx : Bool} {blink : Blink}

/-- **The reply resumes the innermost blocked call, and it prints.**  With no object held, and
settings that carry a resolution and a cookie and do not ask for the selection, the resumed
`Print` records the saved scaling option and the caller's background option in the user's
settings, builds `prep_frame_view_` from them and prints it at once: the count its frame gives,
under the user's cookie, then the pages `PrintPagesNative` takes from the user's page list. -/
theorem resumePrint_prints {s : Helper} {pending : PendingPrint} {rest : List PendingPrint}
    (hpump : s.pumping = pending :: rest) (hp : s.prepFrameView = none)
    {settings : PrintMsgPrintPagesParams} (hdpi : settings.params.dpi ≠ 0)
    (hcookie : settings.params.documentCookie ≠ 0) (hsel : settings.params.selectionOnly = false)
    {prep : PrepareFrameAndViewForPrint} {w : World}
    (hc : create osMacosx { settings.params with
        printScalingOption := pending.scalingOption,
        shouldPrintBackgrounds := pending.printBackground } pending.frame pending.nodeIsNull
      s.ignoreCssMargins (printingNodeOrPdfFrame blink pending.frame pending.nodeIsNull)
      (blink.css pending.frame) s.world = .ok (prep, w))
    (hn : blink.pageCount pending.frame prep.webPrintParams ≠ 0) :
    let printed : PrintMsgPrintParams := { settings.params with
      printScalingOption := pending.scalingOption,
      shouldPrintBackgrounds := pending.printBackground }
    let n := blink.pageCount pending.frame prep.webPrintParams
    ∃ s', resumePrint osMacosx blink settings s = .ok s' ∧ s'.prepFrameView = none ∧
      s'.pumping = rest ∧
      s'.log = s.log ++ .prepared (.renderPagesForPrint false) printed ::
        .sent (.didGetPrintedPagesCount settings.params.documentCookie n) ::
        (printPagesNative ⟨printed, settings.pages⟩ n).2.map fun page => .sent (.printPage page) := by
  intro printed n
  let resumed : PrintMsgPrintPagesParams :=
    { settings with params := { settings.params with printScalingOption := pending.scalingOption } }
  let t : Helper := { s with pumping := rest, printPagesParams := some resumed }
  obtain ⟨hf, -⟩ := create_spec hc
  obtain ⟨u, hu, hup, hupp, hul⟩ :=
    renderAfterSettings_ready false (t := t) hp rfl hc (by exact hsel)
  obtain ⟨v, hv, hvp, hvl⟩ := onFramePreparedForPrintPages_prints hup hf hupp hn
  have hr : renderAfterSettings osMacosx blink pending.frame pending.nodeIsNull false
      pending.printBackground t = .ok v := hu.trans hv
  refine ⟨if pending.fromPrintNode then { v with printNodeInProgress := false } else v, ?_,
    by split <;> exact hvp, by split <;> exact (renderAfterSettings_kept _ _ _ _ t v hr).1, ?_⟩
  · simp only [resumePrint, hpump]
    rw [if_pos ⟨hdpi, hcookie⟩, hr]
    rfl
  · have hlog : v.log = s.log ++ .prepared (.renderPagesForPrint false) printed ::
        .sent (.didGetPrintedPagesCount settings.params.documentCookie n) ::
        (printPagesNative ⟨printed, settings.pages⟩ n).2.map
          fun page => .sent (.printPage page) := by
      rw [hvl, hul]
      simp
    split <;> exact hlog

end Reply

section Runs

variable (blink : Blink)

/-- **The reply to the dialog prints what the user chose, with the scaling option chosen
before it**, in the Mac build, whose `PrintPagesNative` is the one these sources have.  In every
reachable state, whatever was delivered while the dialog was up, take
the innermost blocked `Print` call and a reply whose settings carry a resolution and a document
cookie and do not ask for the selection.  If no object is held, the reply builds
`prep_frame_view_` from the user's settings with the scaling option `InitPrintSettings` chose
for the call's frame and node (the source size for a node or a paginating plugin, otherwise
fitting the printable area) and the background option the caller asked for; it tells the
browser the count the frame gives under the user's cookie, hands `PrintPageInternal` the pages
`0, …, n - 1` when the user asked for none and otherwise the user's pages up to the first one
past the count, destroys the object, and unblocks the call. -/
theorem reachable_reply_prints {w₀ : World} {s : Helper} (h : Reachable true blink w₀ s)
    {pending : PendingPrint} {rest : List PendingPrint} (hpump : s.pumping = pending :: rest)
    (hp : s.prepFrameView = none) {settings : PrintMsgPrintPagesParams}
    (hdpi : settings.params.dpi ≠ 0) (hcookie : settings.params.documentCookie ≠ 0)
    (hsel : settings.params.selectionOnly = false) :
    let printed : PrintMsgPrintParams := {
      settings.params with
      printScalingOption :=
        if printingNodeOrPdfFrame blink pending.frame pending.nodeIsNull then .sourceSize
        else .fitToPrintableArea
      shouldPrintBackgrounds := pending.printBackground }
    ∀ {prep : PrepareFrameAndViewForPrint} {w : World},
      create true printed pending.frame pending.nodeIsNull s.ignoreCssMargins
          (printingNodeOrPdfFrame blink pending.frame pending.nodeIsNull) (blink.css pending.frame)
          s.world = .ok (prep, w) →
      let n := blink.pageCount pending.frame prep.webPrintParams
      n ≠ 0 →
      ∃ s', step true blink s (.scriptedPrintReply settings) = .ok s' ∧
        s'.prepFrameView = none ∧ s'.pumping = rest ∧
        s'.log = s.log ++ .prepared (.renderPagesForPrint false) printed ::
          .sent (.didGetPrintedPagesCount settings.params.documentCookie n) ::
          (if settings.pages.isEmpty then printAllPages n else printRequestedPages n settings.pages).map
            fun i => .sent (.printPage ⟨printed, i⟩) := by
  intro printed prep w hc n hn
  have hsaved : pending.scalingOption =
      if printingNodeOrPdfFrame blink pending.frame pending.nodeIsNull then .sourceSize
      else .fitToPrintableArea :=
    reachable_scalingSaved true blink h pending (by rw [hpump]; exact List.mem_cons_self _ _)
  obtain ⟨s', hs', hsp, hspump, hslog⟩ :=
    resumePrint_prints hpump hp hdpi hcookie hsel (by rw [hsaved]; exact hc) hn
  refine ⟨s', hs', hsp, hspump, ?_⟩
  rw [hslog, hsaved]
  simp [printPagesNative]

/-- A dialog print of a three-page Letter document with backgrounds on: the user asks for pages
1, 5 and 0 under cookie 7, and page 1 alone is printed, the loop stopping at page 5; the
scaling option the dialog reset comes back as fitting the printable area. -/
theorem reachable_reply_prints_pages :
    let blink : Blink := ⟨fun _ => false, fun _ => CssFrame.noCss, fun _ _ => 3⟩
    let w : World := ⟨fun _ => ViewState.fresh, 1, fun _ o => o, []⟩
    let letter : PrintMsgPrintParams :=
      { pageSize := Size.make 612 792, contentSize := Size.make 576 756,
        printableArea := ⟨0, 0, Size.make 612 792⟩, marginTop := 18, marginLeft := 18,
        dpi := 72, minShrink := 1, maxShrink := 2, desiredDpi := 72, documentCookie := 1,
        selectionOnly := false, printScalingOption := .sourceSize, shouldPrintBackgrounds := false }
    let user : PrintMsgPrintPagesParams := ⟨{ letter with documentCookie := 7 }, [1, 5, 0]⟩
    let printed : PrintMsgPrintParams :=
      { user.params with printScalingOption := .fitToPrintableArea, shouldPrintBackgrounds := true }
    ∃ s, run true blink (Helper.init w) [.onPrintPages 0 false true letter] = .ok s ∧
      Reachable true blink w s ∧
      ∃ s', step true blink s (.scriptedPrintReply user) = .ok s' ∧ s'.prepFrameView = none ∧
        s'.pumping = [] ∧
        s'.log = s.log ++ [.prepared (.renderPagesForPrint false) printed,
          .sent (.didGetPrintedPagesCount 7 3), .sent (.printPage ⟨printed, 1⟩)] := by
  intro blink w letter user printed
  obtain ⟨s, hrun, hs, hp, hcss, hpump⟩ := reach_of_run true blink w
    [.onPrintPages 0 false true letter]
    (p := fun s => s.prepFrameView.isNone ∧ s.ignoreCssMargins = false ∧
      s.pumping = [⟨0, true, true, .fitToPrintableArea, false⟩]) (by decide)
  obtain ⟨s', hstep, hsp, hspump, hslog⟩ := reachable_reply_prints blink hs hpump
    (Option.isNone_iff_eq_none.mp hp) (show user.params.dpi ≠ 0 by decide)
    (show user.params.documentCookie ≠ 0 by decide) rfl (by rw [hcss]; rfl) (by decide)
  exact ⟨s, hrun, hs, s', hstep, hsp, hspump, hslog⟩

end Runs

/-! ### Cancelled dialogs, and rest -/

/-- The held object's own view, if it owns one, is not loading: destroying the object now does
not close a view while it loads, where `FinishPrinting`'s `DCHECK(!frame->isLoading())`
fails. -/
def Helper.Calm (s : Helper) : Prop :=
  ∀ id prep v, s.prepFrameView = some (id, prep) → prep.frame = some v →
    prep.ownsWebView = true → (s.world.views v).isLoading = false

/-- Surface calls that close no view while it loads. -/
def ClosesLoaded (events : List SurfaceEvent) : Prop :=
  ∀ v, SurfaceEvent.close v true ∉ events

/-- The end of the held copy's load, when it is still loading: what the browser waits for
before it may destroy the copy. -/
def Helper.pendingLoadEnd (s : Helper) : List Event :=
  match s.prepFrameView with
  | some (_, prep) =>
    match prep.frame with
    | some v => if (s.world.views v).isLoading then [.didStopLoading v] else []
    | none => []
  | none => []

theorem Helper.calm_of_prep_none {s : Helper} (hp : s.prepFrameView = none) : s.Calm :=
  fun _ _ _ h => Option.noConfusion (hp ▸ h)

theorem ClosesLoaded.nil : ClosesLoaded [] := fun _ h => nomatch h

theorem ClosesLoaded.append {e₁ e₂ : List SurfaceEvent} (h₁ : ClosesLoaded e₁)
    (h₂ : ClosesLoaded e₂) : ClosesLoaded (e₁ ++ e₂) :=
  fun v hv => (List.mem_append.mp hv).elim (h₁ v) (h₂ v)

/-- `FinishPrinting` closes only the view it owns, so it closes no view while it loads when
that view has loaded. -/
theorem finishPrinting_closesLoaded (prep : PrepareFrameAndViewForPrint) (w : World)
    (h : ∀ v, prep.frame = some v → prep.ownsWebView = true → (w.views v).isLoading = false) :
    ∃ e, (prep.finishPrinting w).2.log = w.log ++ e ∧ ClosesLoaded e := by
  cases hf : prep.frame with
  | none => exact ⟨[], by simp [finishPrinting, hf], .nil⟩
  | some v =>
    cases ho : prep.ownsWebView
    · cases hs : prep.isPrintingStarted <;>
        simp [finishPrinting, restoreSize, hf, hs, ho, ClosesLoaded]
    · have hl := h v hf ho
      cases hs : prep.isPrintingStarted <;>
        simp [finishPrinting, hf, hs, ho, hl, ClosesLoaded]

/-- Destroying a calm held object closes no view while it loads. -/
theorem resetPrepFrameView_closesLoaded {s : Helper} (h : s.Calm) :
    ∃ e, s.resetPrepFrameView.world.log = s.world.log ++ e ∧ ClosesLoaded e := by
  cases hp : s.prepFrameView with
  | none => exact ⟨[], by rw [resetPrepFrameView_of_none hp, List.append_nil], .nil⟩
  | some held =>
    obtain ⟨id, prep⟩ := held
    rw [resetPrepFrameView_world_of_held hp]
    exact finishPrinting_closesLoaded prep s.world fun v hf ho => h id prep v hp hf ho

section Cancel

variable (osMacosx : Bool) (blink : Blink)

/-- `DidFinishPrinting(OK)` ends the session and sends nothing. -/
theorem didFinishPrinting_ok (s : Helper) :
    (didFinishPrinting .ok s).prepFrameView = none ∧ (didFinishPrinting .ok s).pumping = s.pumping ∧
      (didFinishPrinting .ok s).tasks = s.tasks ∧ (didFinishPrinting .ok s).log = s.log := by
  refine ⟨(didFinishPrinting_spec _ s).1, (didFinishPrinting_spec _ s).2.2.1, ?_,
    resetPrepFrameView_log s⟩
  show s.resetPrepFrameView.tasks = s.tasks
  unfold resetPrepFrameView
  split <;> rfl

/-- A reply without a resolution or a cookie cancels the innermost blocked call:
`DidFinishPrinting(OK)` ends whatever session is held, and the browser is told nothing. -/
theorem resumePrint_cancel {cancel : PrintMsgPrintPagesParams}
    (hcancel : cancel.params.dpi = 0 ∨ cancel.params.documentCookie = 0) {s : Helper}
    {pending : PendingPrint} {rest : List PendingPrint} (hpump : s.pumping = pending :: rest) :
    ∃ t, resumePrint osMacosx blink cancel s = .ok t ∧ t.pumping = rest ∧ t.tasks = s.tasks ∧
      t.log = s.log ∧ t.prepFrameView = none ∧ t.world = s.resetPrepFrameView.world := by
  have hnot : ¬(cancel.params.dpi ≠ 0 ∧ cancel.params.documentCookie ≠ 0) := fun ⟨hd, hc⟩ =>
    hcancel.elim hd hc
  simp only [resumePrint, hpump]
  rw [if_neg hnot]
  let s₁ : Helper := { s with
    pumping := rest,
    printPagesParams := some { cancel with
      params := { cancel.params with printScalingOption := pending.scalingOption } } }
  obtain ⟨hp, hq, ht, hl⟩ := didFinishPrinting_ok s₁
  have hw : (didFinishPrinting .ok s₁).world = s.resetPrepFrameView.world := by
    rw [didFinishPrinting_world]
    cases hp : s.prepFrameView <;> simp [s₁, resetPrepFrameView, hp]
  refine ⟨_, rfl, ?_⟩
  split <;> exact ⟨hq, ht, hl, hp, hw⟩

/-- Cancelling every blocked call, innermost first, sends nothing, and from a calm state
closes no view while it loads. -/
theorem run_cancels {cancel : PrintMsgPrintPagesParams}
    (hcancel : cancel.params.dpi = 0 ∨ cancel.params.documentCookie = 0) :
    ∀ (pending : List PendingPrint) (s : Helper), s.pumping = pending → s.Calm →
      ∃ t, run osMacosx blink s (List.replicate pending.length (.scriptedPrintReply cancel)) =
        .ok t ∧ t.pumping = [] ∧ t.tasks = s.tasks ∧ t.log = s.log ∧ t.Calm ∧
        ∃ e, t.world.log = s.world.log ++ e ∧ ClosesLoaded e
  | [], s, hpump, hcalm => ⟨s, rfl, hpump, rfl, rfl, hcalm, [], by simp, .nil⟩
  | _ :: pending, s, hpump, hcalm => by
    obtain ⟨s₁, hs₁, hq₁, ht₁, hl₁, hp₁, hw₁⟩ := resumePrint_cancel osMacosx blink hcancel hpump
    obtain ⟨e₁, he₁, hc₁⟩ := resetPrepFrameView_closesLoaded hcalm
    obtain ⟨t, ht, hq, htt, hl, hcalm', e₂, he₂, hc₂⟩ :=
      run_cancels hcancel pending s₁ hq₁ (calm_of_prep_none hp₁)
    exact ⟨t, by simp [List.replicate_succ, run, step, hs₁, ht, Except.bind], hq, htt.trans ht₁,
      hl.trans hl₁, hcalm', e₁ ++ e₂, by rw [he₂, hw₁, he₁, List.append_assoc], hc₁.append hc₂⟩

/-- With nothing held, each posted task finds its object gone and does nothing. -/
theorem run_runTasks_of_prep_none :
    ∀ (n : Nat) (s : Helper), s.prepFrameView = none → s.tasks.length = n →
      run osMacosx blink s (List.replicate n .runTask) = .ok { s with tasks := [] }
  | 0, s, _, hn => by
    cases s
    cases List.length_eq_zero.mp hn
    rfl
  | n + 1, s, hp, hn => by
    obtain ⟨id, rest, htasks⟩ : ∃ id rest, s.tasks = id :: rest := by
      cases h : s.tasks with
      | nil => simp [h] at hn
      | cons id rest => exact ⟨id, rest, rfl⟩
    have hstep : step osMacosx blink s .runTask = .ok { s with tasks := rest } := by
      simp [step, runTask, htasks, hp]
    rw [List.replicate_succ, run, hstep]
    exact run_runTasks_of_prep_none n { s with tasks := rest } hp (by simpa [htasks] using hn)

/-- Ending the held copy's load, if it still loads, posts its task and leaves the object
calm, and touches nothing else the browser or the surfaces see. -/
theorem run_pendingLoadEnd {s : Helper} (hs : s.Waiting) :
    ∃ s₀, run osMacosx blink s s.pendingLoadEnd = .ok s₀ ∧ s₀.prepFrameView = s.prepFrameView ∧
      s₀.pumping = s.pumping ∧ s₀.log = s.log ∧
      s₀.tasks.length = s.tasks.length + s.pendingLoadEnd.length ∧
      s₀.world.log = s.world.log ∧ s₀.Calm := by
  cases hp : s.prepFrameView with
  | none =>
    exact ⟨s, by simp [pendingLoadEnd, hp, run], hp, rfl, rfl, by simp [pendingLoadEnd, hp], rfl,
      calm_of_prep_none hp⟩
  | some held =>
    obtain ⟨id, prep⟩ := held
    obtain ⟨ho, v, hf, hcl, -⟩ := hs id prep hp
    have hheld (id' prep' v') (hp' : s.prepFrameView = some (id', prep'))
        (hf' : prep'.frame = some v') : prep' = prep ∧ v' = v := by
      obtain ⟨-, rfl⟩ := Prod.mk.inj (Option.some.inj (hp.symm.trans hp'))
      exact ⟨rfl, Option.some.inj (hf'.symm.trans hf)⟩
    cases hload : (s.world.views v).isLoading
    · refine ⟨s, by simp [pendingLoadEnd, hp, hf, hload, run], hp, rfl, rfl,
        by simp [pendingLoadEnd, hp, hf, hload], rfl, fun id' prep' v' hp' hf' _ => ?_⟩
      obtain ⟨rfl, rfl⟩ := hheld id' prep' v' hp' hf'
      exact hload
    · refine ⟨{ s with world := s.world.stopLoading v, tasks := s.tasks ++ [id] },
        by simp [pendingLoadEnd, hp, hf, hload, run, step, didStopLoading, ho, hcl, Except.bind],
        hp, rfl, rfl,
        by simp [pendingLoadEnd, hp, hf, hload], by simp, fun id' prep' v' hp' hf' _ => ?_⟩
      obtain ⟨rfl, rfl⟩ := hheld id' prep' v' hp' hf'
      simp

end Cancel

section Rest

variable (osMacosx : Bool) (blink : Blink)

/-- The `PrintNode` flag is in step with the blocked calls in every reachable state. -/
theorem reachable_nodeGuarded {w₀ : World} {s : Helper} (h : Reachable osMacosx blink w₀ s) :
    s.NodeGuarded := by
  induction h with
  | init => rfl
  | step e _ hstep ih => exact step_nodeGuarded osMacosx blink ih e _ hstep

/-- **The browser can always bring the controller to rest, and hear nothing.**  From every
reachable state, whatever is held, blocked or posted: let the held copy finish loading if it
still loads, reply to each blocked `PrintHostMsg_ScriptedPrint`, innermost first, with settings
that lack a resolution or a cookie, send `PrintMsg_PrintingDone`, and let the posted tasks run.
Nothing crashes on the way, the controller sends nothing, no view is closed while it loads
(so no `DCHECK(!frame->isLoading())` fails), and the controller ends with no object held, no
`Print` call blocked, no task posted and no `PrintNode` in progress, every view it created
closed. -/
theorem reachable_can_rest {w₀ : World} {s : Helper} (h : Reachable osMacosx blink w₀ s)
    (cancel : PrintMsgPrintPagesParams)
    (hcancel : cancel.params.dpi = 0 ∨ cancel.params.documentCookie = 0) :
    ∃ t, run osMacosx blink s (s.pendingLoadEnd ++
        List.replicate s.pumping.length (.scriptedPrintReply cancel) ++
        .onPrintingDone true :: List.replicate (s.tasks.length + s.pendingLoadEnd.length) .runTask) =
          .ok t ∧
      t.prepFrameView = none ∧ t.pumping = [] ∧ t.tasks = [] ∧ t.printNodeInProgress = false ∧
      t.log = s.log ∧
      (∃ events, t.world.log = s.world.log ++ events ∧ ∀ v, SurfaceEvent.close v true ∉ events) ∧
      ∀ v, w₀.nextView ≤ v → v < t.world.nextView → (t.world.views v).closed = true := by
  obtain ⟨s₀, hrun₀, -, hq₀, hl₀, ht₀, hw₀, hcalm₀⟩ :=
    run_pendingLoadEnd osMacosx blink (waiting_of_reachable osMacosx blink h)
  obtain ⟨t₁, hrun₁, hq₁, ht₁, hl₁, hcalm₁, e₁, he₁, hc₁⟩ :=
    run_cancels osMacosx blink hcancel s₀.pumping s₀ rfl hcalm₀
  -- `OnPrintingDone` destroys what is still held, now calm
  let u : Helper := { t₁ with notifyBrowserOfPrintFailure := false }
  obtain ⟨hp₂, hq₂, ht₂, hl₂⟩ := didFinishPrinting_ok u
  obtain ⟨e₂, he₂, hc₂⟩ := resetPrepFrameView_closesLoaded (s := u) hcalm₁
  have hrun : run osMacosx blink s (s.pendingLoadEnd ++
      List.replicate s.pumping.length (.scriptedPrintReply cancel) ++
      .onPrintingDone true :: List.replicate (s.tasks.length + s.pendingLoadEnd.length) .runTask) =
        .ok { onPrintingDone true t₁ with tasks := [] } := by
    rw [run_append, run_append, hrun₀]
    simp only [Except.bind, ← hq₀, hrun₁]
    exact run_runTasks_of_prep_none osMacosx blink _ (onPrintingDone true t₁) hp₂
      (by
        show (didFinishPrinting .ok u).tasks.length = _
        rw [ht₂, show u.tasks = t₁.tasks from rfl, ht₁, ht₀])
  have hreach := reachable_of_run osMacosx blink h hrun
  refine ⟨_, hrun, hp₂, hq₂.trans hq₁, rfl, ?_, hl₂.trans (hl₁.trans hl₀),
    ⟨e₁ ++ e₂, ?_, (hc₁.append hc₂ :)⟩, fun v hlo hhi => ?_⟩
  · -- no call `PrintNode` made is blocked, so its flag is clear
    have hguard := reachable_nodeGuarded osMacosx blink hreach
    simp only [NodeGuarded, nodePrints] at hguard
    rw [show (onPrintingDone true t₁).pumping = [] from hq₂.trans hq₁] at hguard
    simpa using hguard.symm
  · show (didFinishPrinting .ok u).world.log = _
    rw [didFinishPrinting_world, he₂, show u.world = t₁.world from rfl, he₁, hw₀,
      List.append_assoc]
  · rcases reachable_noLeak osMacosx blink hreach v hlo hhi with hc | ⟨_, _, hp, -⟩
    · exact hc
    · exact Option.noConfusion (hp.symm.trans hp₂)

/-- A dialog for the page, a `PrintNode` dialog opened inside it, and a silent selection print
held inside both with its copy still loading: the end of the load, two cancellations,
`PrintMsg_PrintingDone` and the task bring the controller to rest, the copy closed once it has
loaded. -/
theorem reachable_can_rest_nested :
    let blink : Blink := ⟨fun _ => false, fun _ => CssFrame.noCss, fun _ _ => 3⟩
    let w : World := ⟨fun _ => ViewState.fresh, 1, fun _ o => o, []⟩
    let letter : PrintMsgPrintParams :=
      { pageSize := Size.make 612 792, contentSize := Size.make 576 756,
        printableArea := ⟨0, 0, Size.make 612 792⟩, marginTop := 18, marginLeft := 18,
        dpi := 72, minShrink := 1, maxShrink := 2, desiredDpi := 72, documentCookie := 1,
        selectionOnly := false, printScalingOption := .sourceSize, shouldPrintBackgrounds := false }
    let cancel : PrintMsgPrintPagesParams := ⟨{ letter with dpi := 0 }, []⟩
    ∃ s, run false blink (Helper.init w) [.onPrintPages 0 false false letter,
        .printNode (some 0) letter,
        .onPrintPages 0 true false { letter with selectionOnly := true }] = .ok s ∧
      Reachable false blink w s ∧ s.pumping.length = 2 ∧ s.prepFrameView.isSome ∧
      s.pendingLoadEnd.length = 1 ∧ s.printNodeInProgress = true ∧
      ∃ t, run false blink s (s.pendingLoadEnd ++
          List.replicate s.pumping.length (.scriptedPrintReply cancel) ++
          .onPrintingDone true :: List.replicate (s.tasks.length + s.pendingLoadEnd.length)
            .runTask) = .ok t ∧
        t.prepFrameView = none ∧ t.pumping = [] ∧ t.tasks = [] ∧ t.printNodeInProgress = false ∧
        t.log = s.log ∧
        (∃ events, t.world.log = s.world.log ++ events ∧
          ∀ v, SurfaceEvent.close v true ∉ events) ∧
        ∀ v, w.nextView ≤ v → v < t.world.nextView → (t.world.views v).closed = true := by
  intro blink w letter cancel
  obtain ⟨s, hrun, hs, hpump, hheld, hload, hflag⟩ := reach_of_run false blink w
    [.onPrintPages 0 false false letter, .printNode (some 0) letter,
      .onPrintPages 0 true false { letter with selectionOnly := true }]
    (p := fun s => s.pumping.length = 2 ∧ s.prepFrameView.isSome ∧
      s.pendingLoadEnd.length = 1 ∧ s.printNodeInProgress = true) (by decide)
  exact ⟨s, hrun, hs, hpump, hheld, hload, hflag,
    reachable_can_rest false blink hs cancel (.inl rfl)⟩

end Rest

end Printing
