import PrintWebViewHelper.Session

/-!
# What every run of the controller keeps

Between deliveries the controller keeps three facts (`Helper.Inv`): a held
`prep_frame_view_` comes with non-null `print_pages_params_`, it holds a frame, and every
`PrepareFrameAndViewForPrint` ever built got settings through one of the two admission checks:
`PrintMsg_Print_Params_IsValid` for the default settings, and the `dpi && document_cookie`
test for the dialog's.  Every routine keeps them, even in the middle of a pumped send, and
so no run dereferences a null `print_pages_params_` or calls through a null frame: the crashes
left are the constructor's, the `CHECK` of `GetCssPrintParams` and a division by a resolution
of zero.

Each routine gets one lemma saying that, from a state with the invariant, it ends in a state
with the invariant or crashes only where the constructor can (`Sound`); `step_sound` puts
them together and `reachable_inv` runs the induction.

The dialog's test is weaker than `PrintMsg_Print_Params_IsValid`: it lacks `dpi > kMinDpi`, so
a reply with a resolution between -1 and 1 reaches the constructor with a `GetDPI` of zero.

## Main definitions

* `Sound` — a run of controller code ends well or at one of the constructor's crashes.
* `Admitted` — the admission check a site's settings passed.
* `Helper.Inv` — the invariant.

## Main results

* `step_sound` — every delivery keeps the invariant.
* `reachable_inv` — every reachable state has it.
* `reachable_printPagesParams` — **a held `prep_frame_view_` implies non-null
  `print_pages_params_`, and no delivery dereferences it while null.**
* `reachable_prepared_admitted` — what each construction site's settings are known to satisfy.
* `scriptedPrintReply_divides_by_zero` — **a dialog reply with a resolution below one crashes
  the renderer** off the Mac.
-/

namespace Printing

open Helper PrepareFrameAndViewForPrint

/-! ### Runs that end well -/

/-- A run of controller code ends in a state satisfying `P`, or crashes only where the
constructor of `PrepareFrameAndViewForPrint` can: at the `CHECK` of `GetCssPrintParams`, or
dividing by a resolution of zero. -/
def Sound {α : Type} (P : α → Prop) : Except Fault α → Prop
  | .ok a => P a
  | .error f => f = .cssCheck ∨ f = .divideByZero

section Sound

variable {α β : Type} {P : α → Prop} {Q : β → Prop}

theorem Sound.ok {a : α} (h : P a) : Sound P (.ok a) := h

theorem Sound.bind {x : Except Fault α} {f : α → Except Fault β} (hx : Sound P x)
    (hf : ∀ a, P a → Sound Q (f a)) : Sound Q (x >>= f) := by
  cases x with
  | error e => exact hx
  | ok a => exact hf a hx

theorem Sound.map {x : Except Fault α} {f : α → β} (hx : Sound P x) (hf : ∀ a, P a → Q (f a)) :
    Sound Q (f <$> x) := by
  cases x with
  | error e => exact hx
  | ok a => exact hf a hx

theorem Sound.imp {x : Except Fault α} {P' : α → Prop} (hx : Sound P x) (h : ∀ a, P a → P' a) :
    Sound P' x := by
  cases x with
  | error e => exact hx
  | ok a => exact h a hx

/-- What a sound run that returns ends in. -/
theorem Sound.of_ok {x : Except Fault α} (hx : Sound P x) {a : α} (h : x = .ok a) : P a := by
  subst h; exact hx

/-- A crash of a sound run is one of the constructor's. -/
theorem Sound.error_eq {x : Except Fault α} (hx : Sound P x) {f : Fault} (h : x = .error f) :
    f = .cssCheck ∨ f = .divideByZero := by
  subst h; exact hx

/-- A run that crashes only where the constructor can, and otherwise satisfies `P`. -/
theorem Sound.of_returns {x : Except Fault α} (hok : ∀ a, x = .ok a → P a)
    (herr : ∀ f, x = .error f → f = .cssCheck ∨ f = .divideByZero) : Sound P x := by
  cases x with
  | error f => exact herr f rfl
  | ok a => exact hok a rfl

end Sound

/-! ### The invariant -/

/-- The admission check the settings of a construction site passed:
`PrintMsg_Print_Params_IsValid` for the default settings, which a silent `Print` renders with,
and the `dpi && document_cookie` test for the settings the dialog returned. -/
def Admitted : PrepareSite → PrintMsgPrintParams → Prop
  | .calculateNumberOfPages, params => printMsgPrintParamsIsValid params = true
  | .renderPagesForPrint true, params => printMsgPrintParamsIsValid params = true
  | .renderPagesForPrint false, params => params.dpi ≠ 0 ∧ params.documentCookie ≠ 0

/-- Every construction in a log passed its admission check. -/
def LogAdmitted (log : List HelperEvent) : Prop :=
  ∀ site params, .prepared site params ∈ log → Admitted site params

/-- What holds between deliveries. -/
structure Helper.Inv (s : Helper) : Prop where
  params_of_prep : s.prepFrameView.isSome → s.printPagesParams.isSome
  frame_of_prep : ∀ id prep, s.prepFrameView = some (id, prep) → prep.frame.isSome
  admitted : LogAdmitted s.log

theorem LogAdmitted.append {l₁ l₂ : List HelperEvent} (h₁ : LogAdmitted l₁)
    (h₂ : LogAdmitted l₂) : LogAdmitted (l₁ ++ l₂) := by
  intro site params h
  rcases List.mem_append.mp h with h | h
  · exact h₁ site params h
  · exact h₂ site params h

theorem logAdmitted_sent (msgs : List HostMsg) : LogAdmitted (msgs.map .sent) := by
  intro site params h
  simp at h

theorem logAdmitted_prepared {site : PrepareSite} {params : PrintMsgPrintParams}
    (h : Admitted site params) : LogAdmitted [.prepared site params] := by
  intro site' params' h'
  simp only [List.mem_singleton, HelperEvent.prepared.injEq] at h'
  obtain ⟨rfl, rfl⟩ := h'
  exact h

/-- No admission check reads the background and scaling settings. -/
theorem admitted_with_options (site : PrepareSite) (params : PrintMsgPrintParams)
    (background : Bool) (scaling : WebPrintScalingOption) :
    Admitted site
        { params with shouldPrintBackgrounds := background, printScalingOption := scaling } ↔
      Admitted site params := by
  cases site with
  | calculateNumberOfPages => rfl
  | renderPagesForPrint silent => cases silent <;> rfl

/-- Sending a message keeps the invariant. -/
theorem Helper.Inv.send {s : Helper} (h : s.Inv) (m : HostMsg) : (s.send m).Inv :=
  ⟨h.params_of_prep, h.frame_of_prep, h.admitted.append (logAdmitted_sent [m])⟩

/-- With nothing held, only the log matters. -/
theorem Helper.inv_of_prep_none {s : Helper} (hp : s.prepFrameView = none)
    (hl : LogAdmitted s.log) : s.Inv :=
  ⟨by simp [hp], by simp [hp], hl⟩

theorem Helper.init_inv (w : World) : (Helper.init w).Inv :=
  inv_of_prep_none rfl (by simp [LogAdmitted, Helper.init])

/-! ### One lemma per routine -/

@[simp] theorem resetPrepFrameView_prepFrameView (s : Helper) :
    s.resetPrepFrameView.prepFrameView = none := by
  unfold resetPrepFrameView; split <;> simp_all

@[simp] theorem resetPrepFrameView_log (s : Helper) : s.resetPrepFrameView.log = s.log := by
  unfold resetPrepFrameView; split <;> rfl

@[simp] theorem resetPrepFrameView_printPagesParams (s : Helper) :
    s.resetPrepFrameView.printPagesParams = s.printPagesParams := by
  unfold resetPrepFrameView; split <;> rfl

@[simp] theorem resetPrepFrameView_pumping (s : Helper) :
    s.resetPrepFrameView.pumping = s.pumping := by
  unfold resetPrepFrameView; split <;> rfl

/-- `DidFinishPrinting` drops the session and only sends messages. -/
theorem didFinishPrinting_spec (result : PrintingResult) (s : Helper) :
    let s' := didFinishPrinting result s
    s'.prepFrameView = none ∧ s'.printPagesParams = none ∧ s'.pumping = s.pumping ∧
      ∃ msgs : List HostMsg, s'.log = s.log ++ msgs.map .sent := by
  unfold didFinishPrinting
  split
  · next params _ =>
    split
    · exact ⟨by simp, rfl, by simp [send], [.printingFailed params.params.documentCookie],
        by simp [send]⟩
    · exact ⟨by simp, rfl, by simp, [], by simp⟩
  · exact ⟨by simp, rfl, by simp, [], by simp⟩

theorem didFinishPrinting_inv (result : PrintingResult) {s : Helper} (h : LogAdmitted s.log) :
    (didFinishPrinting result s).Inv := by
  obtain ⟨hp, -, -, msgs, hlog⟩ := didFinishPrinting_spec result s
  exact inv_of_prep_none hp (by rw [hlog]; exact h.append (logAdmitted_sent msgs))

section Routines

variable {osMacosx : Bool} {blink : Blink}

/-- `CalculateNumberOfPages` keeps what is held and the blocked calls, builds only from valid
settings, and leaves valid settings behind when it returns a count. -/
theorem calculateNumberOfPages_sound (frame : ViewId) (nodeIsNull : Bool)
    (defaults : PrintMsgPrintParams) (s : Helper) :
    Sound (fun r : Option Int × Helper => (LogAdmitted s.log → LogAdmitted r.2.log) ∧
      r.2.prepFrameView = s.prepFrameView ∧ r.2.pumping = s.pumping ∧ ∀ count, r.1 = some count →
        ∃ pp, r.2.printPagesParams = some pp ∧ printMsgPrintParamsIsValid pp.params = true)
      (calculateNumberOfPages osMacosx blink frame nodeIsNull defaults s) := by
  simp only [calculateNumberOfPages, initPrintSettings]
  split
  · exact ⟨fun hl => (hl.append (logAdmitted_sent [_])).append (logAdmitted_sent [_]), rfl, rfl,
      nofun⟩
  · next hvalid =>
    have hvalid (scaling : WebPrintScalingOption) :
        Admitted .calculateNumberOfPages { defaults with printScalingOption := scaling } :=
      (admitted_with_options .calculateNumberOfPages defaults _ scaling).mpr (by simpa using hvalid)
    simp only [derefPrintPagesParams_eq, send_printPagesParams, orFault_some, pure_bind]
    refine Sound.bind (Sound.of_returns (fun _ => create_spec) fun _ => create_error) ?_
    rintro ⟨prep, w⟩ ⟨hf, -⟩
    dsimp only at hf
    obtain ⟨prep', w', hst, -⟩ :=
      startPrinting_of_frame hf (blink.pageCount frame prep.webPrintParams) w
    rw [show startPrintingWith blink prep w = some (prep', w') by simp [startPrintingWith, hf, hst]]
    exact ⟨fun hl => (hl.append (logAdmitted_sent [_])).append (logAdmitted_prepared (hvalid _)),
      rfl, rfl, fun _ _ => ⟨_, rfl, hvalid _⟩⟩

/-- The invariant reads only what is held, the settings and the log. -/
theorem Helper.Inv.congr {s s' : Helper} (h : s.Inv) (hp : s'.prepFrameView = s.prepFrameView)
    (hq : s'.printPagesParams = s.printPagesParams) (hl : s'.log = s.log) : s'.Inv :=
  ⟨by rw [hp, hq]; exact h.params_of_prep, by rw [hp]; exact h.frame_of_prep,
    by rw [hl]; exact h.admitted⟩

theorem logAdmitted_printPages (pages : List PrintMsgPrintPageParams) :
    LogAdmitted (pages.map fun page => HelperEvent.sent (.printPage page)) := by
  simp [LogAdmitted]

/-- `PrintPages` keeps the invariant: the frame it starts printing on is held, and the
settings it reads are there because an object is held. -/
theorem printPages_sound {s : Helper} (h : s.Inv) : Sound Helper.Inv (printPages blink s) := by
  unfold printPages
  split
  · exact h
  · next id prep hp =>
    obtain ⟨v, hv⟩ := Option.isSome_iff_exists.mp (h.frame_of_prep id prep hp)
    obtain ⟨pp, hpp⟩ := Option.isSome_iff_exists.mp (h.params_of_prep (by simp [hp]))
    obtain ⟨prep', w', hst, hf', -⟩ :=
      startPrinting_of_frame hv (blink.pageCount v prep.webPrintParams) s.world
    rw [show startPrintingWith blink prep s.world = some (prep', w') by
      simp [startPrintingWith, hv, hst]]
    simp only [orFault_some, pure_bind]
    split
    · exact didFinishPrinting_inv _ h.admitted
    · simp only [derefPrintPagesParams_eq, send_printPagesParams, hpp, orFault_some, pure_bind]
      exact ⟨by simp [hpp], by simp [hf'], (h.admitted.append (logAdmitted_sent [_])).append
        (logAdmitted_printPages _)⟩

theorem onFramePreparedForPrintPages_sound {s : Helper} (h : s.Inv) :
    Sound Helper.Inv (onFramePreparedForPrintPages blink s) :=
  (printPages_sound h).map fun _ h' => inv_of_prep_none (by simp) (by simpa using h'.admitted)

/-- `RenderPagesForPrint` keeps the invariant, given settings that passed the site's check. -/
theorem renderPagesForPrint_sound (frame : ViewId) (nodeIsNull silent : Bool) {s : Helper}
    {pp : PrintMsgPrintPagesParams} (h : s.Inv) (hpp : s.printPagesParams = some pp)
    (hadm : Admitted (.renderPagesForPrint silent) pp.params) :
    Sound (fun r : Bool × Helper => r.2.Inv)
      (renderPagesForPrint osMacosx blink frame nodeIsNull silent s) := by
  unfold renderPagesForPrint
  split
  · exact h
  · simp only [derefPrintPagesParams_eq, hpp, orFault_some, pure_bind]
    refine Sound.bind (Sound.of_returns (fun _ => create_spec) fun _ => create_error) ?_
    rintro ⟨prep, w⟩ ⟨hf, -⟩
    dsimp only at hf
    obtain ⟨prep', w', ready, hc, hf'⟩ := copySelectionIfNeeded_of_frame hf w
    rw [hc]
    simp only [orFault_some, pure_bind]
    have hinv : Helper.Inv { s with
        log := s.log ++ [.prepared (.renderPagesForPrint silent) pp.params],
        prepFrameView := some (s.nextPrep, prep'), printPagesParams := some pp,
        nextPrep := s.nextPrep + 1, world := w' } :=
      ⟨by simp, by simpa using hf', h.admitted.append (logAdmitted_prepared hadm)⟩
    split
    · exact Sound.bind (onFramePreparedForPrintPages_sound hinv) fun _ h' => h'
    · exact hinv

/-- The settings can change while the held object and the log stay. -/
theorem Helper.Inv.setPrintPagesParams {s : Helper} (h : s.Inv) (pp : PrintMsgPrintPagesParams) :
    Helper.Inv { s with printPagesParams := some pp } :=
  ⟨by simp, h.frame_of_prep, h.admitted⟩

theorem renderAfterSettings_sound (frame : ViewId) (nodeIsNull silent printBackground : Bool)
    {s : Helper} {pp : PrintMsgPrintPagesParams} (h : s.Inv)
    (hpp : s.printPagesParams = some pp) (hadm : Admitted (.renderPagesForPrint silent) pp.params) :
    Sound Helper.Inv
      (renderAfterSettings osMacosx blink frame nodeIsNull silent printBackground s) := by
  unfold renderAfterSettings
  simp only [derefPrintPagesParams_eq, hpp, orFault_some, pure_bind]
  refine Sound.bind (renderPagesForPrint_sound frame nodeIsNull silent
    (h.setPrintPagesParams _) rfl
    ((admitted_with_options _ pp.params printBackground pp.params.printScalingOption).mpr hadm)) ?_
  rintro ⟨ok, s'⟩ h'
  split
  · exact h'
  · exact didFinishPrinting_inv _ h'.admitted

theorem getPrintSettingsFromUser_sound (frame : ViewId) (nodeIsNull : Bool)
    (expectedPagesCount : Int) (printBackground fromPrintNode : Bool) {s : Helper}
    {pp : PrintMsgPrintPagesParams} (hl : LogAdmitted s.log) (hp : s.prepFrameView = none)
    (hpp : s.printPagesParams = some pp) :
    Sound Helper.Inv (getPrintSettingsFromUser frame nodeIsNull expectedPagesCount
      printBackground fromPrintNode s) := by
  unfold getPrintSettingsFromUser
  simp only [derefPrintPagesParams_eq, hpp, orFault_some, pure_bind]
  exact inv_of_prep_none hp (hl.append (logAdmitted_sent [_]))

/-- `Print` keeps the invariant: past its guard nothing is held, so the dialog may drop the
settings, and a silent call renders with the valid default settings. -/
theorem print_sound (frame : ViewId) (nodeIsNull silent printBackground fromPrintNode : Bool)
    (defaults : PrintMsgPrintParams) {s : Helper} (h : s.Inv) :
    Sound (fun r : Helper × Bool => r.1.Inv)
      (print osMacosx blink frame nodeIsNull silent printBackground fromPrintNode defaults s) := by
  simp only [print, pure_bind]
  split
  · exact h
  · next hguard =>
    refine Sound.bind (calculateNumberOfPages_sound frame nodeIsNull defaults s) ?_
    rintro ⟨count, s'⟩ ⟨hl, hp, -, hcount⟩
    dsimp only at hl hp hcount ⊢
    replace hl := hl h.admitted
    have hp : s'.prepFrameView = none := by simpa [hp] using hguard
    rcases count with _ | c <;> dsimp only
    · exact didFinishPrinting_inv .failPrintInit hl
    · obtain ⟨pp, hpp, hvalid⟩ := hcount c rfl
      split
      · exact didFinishPrinting_inv _ hl
      · split
        · exact Sound.bind (getPrintSettingsFromUser_sound frame nodeIsNull c printBackground
            fromPrintNode hl hp hpp) fun _ h' => h'
        · exact Sound.bind (renderAfterSettings_sound frame nodeIsNull true printBackground
            (inv_of_prep_none hp hl) hpp hvalid) fun _ h' => h'

/-- The reply to the dialog keeps the invariant: the blocked call stores the settings before
it reads them, and renders only with settings that pass its test. -/
theorem resumePrint_sound (settings : PrintMsgPrintPagesParams) {s : Helper} (h : s.Inv) :
    Sound Helper.Inv (resumePrint osMacosx blink settings s) := by
  simp only [resumePrint]
  split
  · exact h
  · next pending rest _ =>
    have h' := h.setPrintPagesParams { settings with
      params := { settings.params with printScalingOption := pending.scalingOption } }
    have hflag (s' : Helper) (hs' : s'.Inv) : Helper.Inv
        (if pending.fromPrintNode then { s' with printNodeInProgress := false } else s') := by
      split
      · exact hs'.congr rfl rfl rfl
      · exact hs'
    split
    · next hcheck =>
      exact Sound.bind (renderAfterSettings_sound _ _ false _ (h'.congr rfl rfl rfl) rfl hcheck)
        fun s' hs' => hflag s' hs'
    · exact Sound.bind (Sound.ok (didFinishPrinting_inv _ h.admitted)) fun s' hs' => hflag s' hs'

theorem printNode_sound (frame : Option ViewId) (defaults : PrintMsgPrintParams) {s : Helper}
    (h : s.Inv) : Sound Helper.Inv (printNode osMacosx blink frame defaults s) := by
  unfold printNode
  split
  · exact h
  · split
    · exact h
    · refine Sound.bind (print_sound _ false false false true defaults (h.congr rfl rfl rfl)) ?_
      rintro ⟨s', blocked⟩ hs'
      cases blocked
      · exact hs'.congr rfl rfl rfl
      · exact hs'

theorem runTask_sound {s : Helper} (h : s.Inv) : Sound Helper.Inv (runTask blink s) := by
  simp only [runTask]
  split
  · exact h
  · split
    · split
      · exact onFramePreparedForPrintPages_sound (h.congr rfl rfl rfl)
      · exact h.congr rfl rfl rfl
    · exact h.congr rfl rfl rfl

theorem didStopLoading_inv (v : ViewId) {s : Helper} (h : s.Inv) : (didStopLoading v s).Inv := by
  unfold didStopLoading
  split
  · split
    · exact h.congr rfl rfl rfl
    · exact h
  · exact h

end Routines

/-! ### Every run -/

section Runs

variable (osMacosx : Bool) (blink : Blink)

/-- **Every delivery keeps the invariant**, and crashes only at the `CHECK` of
`GetCssPrintParams`. -/
theorem step_sound {s : Helper} (h : s.Inv) (e : Event) :
    Sound Helper.Inv (step osMacosx blink s e) := by
  cases e with
  | printPage frame defaults =>
    exact (print_sound frame true false false false defaults h).map fun _ h' => h'
  | onPrintPages frame silent printBackground defaults =>
    exact (print_sound frame true silent printBackground false defaults h).map fun _ h' => h'
  | printNode frame defaults => exact printNode_sound frame defaults h
  | onPrintingDone success => exact didFinishPrinting_inv _ h.admitted
  | scriptedPrintReply settings => exact resumePrint_sound settings h
  | didStopLoading v => exact didStopLoading_inv v h
  | runTask => exact runTask_sound h

theorem reachable_inv {w₀ : World} {s : Helper} (h : Reachable osMacosx blink w₀ s) : s.Inv := by
  induction h with
  | init => exact Helper.init_inv w₀
  | step e _ hstep ih => simpa [hstep] using step_sound osMacosx blink ih e

/-- **`print_pages_params_` is never dereferenced while null.**  In every reachable state a
held `prep_frame_view_` comes with non-null `print_pages_params_`, and no delivery from a
reachable state, re-entrant or not, dereferences it while null (nor calls through a null
frame). -/
theorem reachable_printPagesParams {w₀ : World} {s : Helper}
    (h : Reachable osMacosx blink w₀ s) :
    (s.prepFrameView.isSome → s.printPagesParams.isSome) ∧
      ∀ e, step osMacosx blink s e ≠ .error .nullPrintPagesParams ∧
        step osMacosx blink s e ≠ .error .nullFrame := by
  have hinv := reachable_inv osMacosx blink h
  refine ⟨hinv.params_of_prep, fun e => ⟨fun he => ?_, fun he => ?_⟩⟩ <;>
    rcases (step_sound osMacosx blink hinv e).error_eq he with h | h <;> cases h

/-- A dialog for the page, and inside it a silent selection print whose copy holds
`prep_frame_view_`: a blocked call and a held object. -/
theorem reachable_printPagesParams_nested :
    let blink : Blink := ⟨fun _ => false, fun _ => CssFrame.noCss, fun _ _ => 3⟩
    let w : World := ⟨fun _ => ViewState.fresh, 1, fun _ o => o, []⟩
    let letter : PrintMsgPrintParams :=
      { pageSize := Size.make 612 792, contentSize := Size.make 576 756,
        printableArea := ⟨0, 0, Size.make 612 792⟩, marginTop := 18, marginLeft := 18,
        dpi := 72, minShrink := 1, maxShrink := 2, desiredDpi := 72, documentCookie := 1,
        selectionOnly := false, printScalingOption := .sourceSize, shouldPrintBackgrounds := false }
    ∃ s, run false blink (Helper.init w) [.onPrintPages 0 false false letter,
        .onPrintPages 0 true false { letter with selectionOnly := true }] = .ok s ∧
      Reachable false blink w s ∧ s.pumping.length = 1 ∧ s.prepFrameView.isSome ∧
      (s.prepFrameView.isSome → s.printPagesParams.isSome) ∧
      ∀ e, step false blink s e ≠ .error .nullPrintPagesParams ∧
        step false blink s e ≠ .error .nullFrame := by
  intro blink w letter
  obtain ⟨s, hrun, hs, hpump, hheld⟩ := reach_of_run false blink w
    [.onPrintPages 0 false false letter, .onPrintPages 0 true false { letter with selectionOnly := true }]
    (p := fun s => s.pumping.length = 1 ∧ s.prepFrameView.isSome) (by decide)
  exact ⟨s, hrun, hs, hpump, hheld, reachable_printPagesParams false blink hs⟩

/-- **What the settings of every `PrepareFrameAndViewForPrint` are known to satisfy.**  Those
of `CalculateNumberOfPages`, and of `RenderPagesForPrint` in a silent `Print`, passed
`PrintMsg_Print_Params_IsValid`: `desired_dpi` is not zero, and `GetDPI` is at least one as long
as the resolution is below `2^31`.  Those of `RenderPagesForPrint` after the dialog passed only
its `dpi && document_cookie` test; on the Mac `GetDPI` is `kPointsPerInch` regardless. -/
theorem reachable_prepared_admitted {w₀ : World} {s : Helper}
    (h : Reachable osMacosx blink w₀ s) (site : PrepareSite) (params : PrintMsgPrintParams)
    (hmem : .prepared site params ∈ s.log) :
    (site ≠ .renderPagesForPrint false →
      printMsgPrintParamsIsValid params = true ∧ (params.dpi < 2 ^ 31 → 1 ≤ getDPI osMacosx params) ∧
        params.desiredDpi ≠ 0) ∧
    (site = .renderPagesForPrint false →
      params.dpi ≠ 0 ∧ params.documentCookie ≠ 0 ∧
        (osMacosx = true → getDPI osMacosx params = kPointsPerInch)) := by
  have hadm := (reachable_inv osMacosx blink h).admitted site params hmem
  have valid (hv : printMsgPrintParamsIsValid params = true) :
      printMsgPrintParamsIsValid params = true ∧ (params.dpi < 2 ^ 31 → 1 ≤ getDPI osMacosx params) ∧
        params.desiredDpi ≠ 0 :=
    ⟨hv, getDPI_pos_of_isValid osMacosx hv,
      ((printMsgPrintParamsIsValid_iff params).mp hv).2.2.2.2.1⟩
  cases site with
  | calculateNumberOfPages => exact ⟨fun _ => valid hadm, nofun⟩
  | renderPagesForPrint silent =>
    cases silent
    · -- the settings the dialog returned
      exact ⟨nofun, fun _ => ⟨hadm.1, hadm.2, fun hmac => by simp [getDPI, hmac]⟩⟩
    · exact ⟨fun _ => valid hadm, nofun⟩

/-- Default settings asking for a `desired_dpi` of -72 pass `PrintMsg_Print_Params_IsValid`,
and a silent `OnPrintPages` builds its throw-away object from them, fitted to the paper. -/
theorem reachable_prepared_admitted_negative :
    let blink : Blink := ⟨fun _ => false, fun _ => CssFrame.noCss, fun _ _ => 3⟩
    let w : World := ⟨fun _ => ViewState.fresh, 1, fun _ o => o, []⟩
    let negative : PrintMsgPrintParams :=
      { pageSize := Size.make 612 792, contentSize := Size.make 576 756,
        printableArea := ⟨0, 0, Size.make 612 792⟩, marginTop := 18, marginLeft := 18,
        dpi := 72, minShrink := 1, maxShrink := 2, desiredDpi := -72, documentCookie := 1,
        selectionOnly := false, printScalingOption := .fitToPrintableArea,
        shouldPrintBackgrounds := false }
    ∃ s, Reachable false blink w s ∧ .prepared .calculateNumberOfPages negative ∈ s.log ∧
      negative.desiredDpi < 0 ∧
      (PrepareSite.calculateNumberOfPages ≠ .renderPagesForPrint false →
        printMsgPrintParamsIsValid negative = true ∧
          (negative.dpi < 2 ^ 31 → 1 ≤ getDPI false negative) ∧ negative.desiredDpi ≠ 0) ∧
      (PrepareSite.calculateNumberOfPages = .renderPagesForPrint false →
        negative.dpi ≠ 0 ∧ negative.documentCookie ≠ 0 ∧
          (false = true → getDPI false negative = kPointsPerInch)) := by
  intro blink w negative
  obtain ⟨s, -, hs, hmem⟩ := reach_of_run false blink w [.onPrintPages 0 true false negative]
    (p := fun s => .prepared .calculateNumberOfPages negative ∈ s.log) (by decide)
  exact ⟨s, hs, hmem, by decide, reachable_prepared_admitted false blink hs _ _ hmem⟩

/-- **The dialog's test lets a resolution of zero through.**  Off the Mac, whenever a `Print`
is blocked in the dialog and nothing is held, a reply whose `dpi` is not zero but strictly
between -1 and 1, with a document cookie, passes the `dpi && document_cookie` test, which has
no counterpart of `PrintMsg_Print_Params_IsValid`'s `dpi > kMinDpi`.  `GetDPI` truncates it to
zero, and the constructor `RenderPagesForPrint` then runs divides by it. -/
theorem scriptedPrintReply_divides_by_zero {s : Helper} {pending : PendingPrint}
    {rest : List PendingPrint} (hpump : s.pumping = pending :: rest)
    (hprep : s.prepFrameView = none) (settings : PrintMsgPrintPagesParams)
    (hdpi : settings.params.dpi ≠ 0) (hlo : -1 < settings.params.dpi)
    (hhi : settings.params.dpi < 1) (hcookie : settings.params.documentCookie ≠ 0) :
    printMsgPrintParamsIsValid settings.params = false ∧ getDPI false settings.params = 0 ∧
      step false blink s (.scriptedPrintReply settings) = .error .divideByZero := by
  have hzero : getDPI false settings.params = 0 := getDPI_eq_zero hlo hhi
  refine ⟨Bool.eq_false_iff.mpr fun hv =>
    lt_asymm hhi ((printMsgPrintParamsIsValid_iff _).mp hv).2.2.2.2.2.2.2.2.2, hzero, ?_⟩
  simp only [step, resumePrint, hpump, ne_eq, hdpi, not_false_eq_true, hcookie, and_self,
    if_true, renderAfterSettings, renderPagesForPrint, derefPrintPagesParams_eq, orFault_some,
    pure_bind, hprep, Option.isSome_none, Bool.false_eq_true, if_false]
  have hcast : staticCastInt settings.params.dpi = 0 := hzero
  simp only [create, getDPI, Bool.false_eq_true, if_false, hcast, if_true]
  rfl

/-- A non-silent `OnPrintPages` on a Letter page blocks in the dialog of a fresh controller;
the browser answers with a resolution of one half. -/
theorem scriptedPrintReply_divides_by_zero_letter :
    let blink : Blink := ⟨fun _ => false, fun _ => CssFrame.noCss, fun _ _ => 3⟩
    let w : World := ⟨fun _ => ViewState.fresh, 1, fun _ o => o, []⟩
    let letter : PrintMsgPrintParams :=
      { pageSize := Size.make 612 792, contentSize := Size.make 576 756,
        printableArea := ⟨0, 0, Size.make 612 792⟩, marginTop := 18, marginLeft := 18,
        dpi := 72, minShrink := 1, maxShrink := 2, desiredDpi := 72, documentCookie := 1,
        selectionOnly := false, printScalingOption := .sourceSize, shouldPrintBackgrounds := false }
    let half : PrintMsgPrintPagesParams := ⟨{ letter with dpi := mkRat 1 2 }, []⟩
    ∃ s, run false blink (Helper.init w) [.onPrintPages 0 false false letter] = .ok s ∧
      Reachable false blink w s ∧ s.pumping.length = 1 ∧
      printMsgPrintParamsIsValid half.params = false ∧ getDPI false half.params = 0 ∧
      step false blink s (.scriptedPrintReply half) = .error .divideByZero := by
  intro blink w letter half
  obtain ⟨s, hrun, hs, hpump, hprep⟩ := reach_of_run false blink w
    [.onPrintPages 0 false false letter]
    (p := fun s => s.pumping.length = 1 ∧ s.prepFrameView.isNone) (by decide)
  obtain ⟨pending, hpend⟩ : ∃ pending, s.pumping = [pending] := List.length_eq_one.mp hpump
  exact ⟨s, hrun, hs, hpump, scriptedPrintReply_divides_by_zero blink hpend
    (Option.isNone_iff_eq_none.mp hprep) half (by decide) (by decide) (by decide) (by decide)⟩

end Runs

end Printing
