import PrintWebViewHelper.SessionPrintMode

/-!
# The `PrintNode` guard

`PrintNode` sets `print_node_in_progress_` around its `Print` call, and ignores a call while
the flag is set.  That `Print` can block in the settings dialog's pumped send, where a second
`PrintNode` may be delivered; the flag is cleared when the `Print` call returns, which for a
blocked call is when the reply to its dialog resumes it.

`nodePrints` counts the blocked `Print` calls that `PrintNode` made.  Only three routines touch
the blocked calls or the flag: `GetPrintSettingsFromUser` blocks a call, the reply resumes
one, and `PrintNode` sets and clears the flag.  Every other routine keeps both (`PumpKept`).

## Main definitions

* `Helper.nodePrints` — the blocked `Print` calls that `PrintNode` made.
* `Helper.NodeGuarded` — the flag is set exactly when one of them is blocked.
* `PumpKept` — the blocked calls and the flag are untouched.

## Main results

* `step_nodeGuarded` — every delivery keeps `NodeGuarded`.
* `reachable_node_guard_exact` — **in every reachable state, `print_node_in_progress_` is
  set exactly while a `Print` that `PrintNode` called is blocked in the dialog, and at most
  one such call is blocked.**
-/

namespace Printing

open Helper PrepareFrameAndViewForPrint

/-! ### The flag and the blocked calls -/

/-- The blocked `Print` calls that `PrintNode` made. -/
def Helper.nodePrints (s : Helper) : Nat := s.pumping.countP PendingPrint.fromPrintNode

/-- `print_node_in_progress_` is set exactly when one blocked `Print` call came from
`PrintNode`, and otherwise none did. -/
def Helper.NodeGuarded (s : Helper) : Prop := s.nodePrints = s.printNodeInProgress.toNat

/-- From `s` to `t` the blocked calls and `print_node_in_progress_` are untouched. -/
def PumpKept (s t : Helper) : Prop :=
  t.pumping = s.pumping ∧ t.printNodeInProgress = s.printNodeInProgress

section Kept

variable {s t u : Helper}

theorem PumpKept.refl (s : Helper) : PumpKept s s := ⟨rfl, rfl⟩

theorem PumpKept.trans (h₁ : PumpKept s t) (h₂ : PumpKept t u) : PumpKept s u :=
  ⟨h₂.1.trans h₁.1, h₂.2.trans h₁.2⟩

theorem PumpKept.nodePrints_eq (h : PumpKept s t) : t.nodePrints = s.nodePrints :=
  congrArg (List.countP _) h.1

theorem PumpKept.nodeGuarded (h : PumpKept s t) (hs : s.NodeGuarded) : t.NodeGuarded := by
  rw [NodeGuarded, h.nodePrints_eq, h.2]
  exact hs

end Kept

/-! ### One lemma per routine -/

theorem resetPrepFrameView_kept (s : Helper) : PumpKept s s.resetPrepFrameView := by
  unfold resetPrepFrameView
  split <;> exact ⟨rfl, rfl⟩

theorem didFinishPrinting_kept (result : PrintingResult) (s : Helper) :
    PumpKept s (didFinishPrinting result s) := by
  unfold didFinishPrinting
  split
  · split
    · exact resetPrepFrameView_kept (s.send _)
    · exact resetPrepFrameView_kept s
  · exact resetPrepFrameView_kept s

section Routines

variable {osMacosx : Bool} {blink : Blink}

theorem calculateNumberOfPages_kept (frame : ViewId) (nodeIsNull : Bool)
    (defaults : PrintMsgPrintParams) (s : Helper) :
    Returns (fun r : Option Int × Helper => PumpKept s r.2)
      (calculateNumberOfPages osMacosx blink frame nodeIsNull defaults s) := by
  simp only [calculateNumberOfPages, initPrintSettings]
  split
  · exact Returns.ok ⟨rfl, rfl⟩
  · simp only [derefPrintPagesParams_eq, send_printPagesParams, orFault_some, pure_bind]
    exact Returns.bind (returns_true _) fun _ _ => Returns.bind (returns_true _) fun _ _ =>
      Returns.ok ⟨rfl, rfl⟩

/-- `GetPrintSettingsFromUser` blocks one call, which came from `PrintNode` if its caller
says so. -/
theorem getPrintSettingsFromUser_nodePrints (frame : ViewId) (nodeIsNull : Bool)
    (expectedPagesCount : Int) (printBackground fromPrintNode : Bool) (s : Helper) :
    Returns (fun t => t.printNodeInProgress = s.printNodeInProgress ∧
        t.nodePrints = s.nodePrints + fromPrintNode.toNat)
      (getPrintSettingsFromUser frame nodeIsNull expectedPagesCount printBackground
        fromPrintNode s) := by
  unfold getPrintSettingsFromUser
  refine Returns.bind (returns_true _) fun _ _ => Returns.ok ⟨rfl, ?_⟩
  cases fromPrintNode <;> simp [nodePrints, send]

theorem printPages_kept (s : Helper) : Returns (PumpKept s) (printPages blink s) := by
  unfold printPages
  split
  · exact Returns.ok (.refl s)
  · refine Returns.bind (returns_true _) fun _ _ => ?_
    dsimp only
    split
    · exact Returns.ok (didFinishPrinting_kept _ _)
    · simp only [derefPrintPagesParams_eq, send_printPagesParams, pure_bind]
      exact Returns.bind (returns_true _) fun _ _ => Returns.bind (returns_true _) fun _ _ =>
        Returns.ok ⟨rfl, rfl⟩

theorem onFramePreparedForPrintPages_kept (s : Helper) :
    Returns (PumpKept s) (onFramePreparedForPrintPages blink s) :=
  (printPages_kept s).map fun _ ht => ht.trans (resetPrepFrameView_kept _)

theorem renderPagesForPrint_kept (frame : ViewId) (nodeIsNull silent : Bool) (s : Helper) :
    Returns (fun r : Bool × Helper => PumpKept s r.2)
      (renderPagesForPrint osMacosx blink frame nodeIsNull silent s) := by
  unfold renderPagesForPrint
  split
  · exact Returns.ok (.refl s)
  · simp only [derefPrintPagesParams_eq, pure_bind]
    refine Returns.bind (returns_true _) fun _ _ => Returns.bind (returns_true _) fun _ _ =>
      Returns.bind (returns_true _) fun _ _ => ?_
    split
    · exact Returns.bind (onFramePreparedForPrintPages_kept _) fun _ ht => Returns.ok ht
    · exact Returns.ok ⟨rfl, rfl⟩

theorem renderAfterSettings_kept (frame : ViewId) (nodeIsNull silent printBackground : Bool)
    (s : Helper) :
    Returns (PumpKept s)
      (renderAfterSettings osMacosx blink frame nodeIsNull silent printBackground s) := by
  unfold renderAfterSettings
  refine Returns.bind (returns_true _) fun _ _ => ?_
  refine Returns.bind (renderPagesForPrint_kept frame nodeIsNull silent _) ?_
  rintro ⟨ok, t⟩ ht
  cases ok
  · exact Returns.ok (ht.trans (didFinishPrinting_kept _ _))
  · exact Returns.ok ht

/-- `Print` blocks at most one call, and it came from `PrintNode` if its caller says so. -/
theorem print_nodePrints (frame : ViewId) (nodeIsNull silent printBackground fromPrintNode : Bool)
    (defaults : PrintMsgPrintParams) (s : Helper) :
    Returns (fun r : Helper × Bool => r.1.printNodeInProgress = s.printNodeInProgress ∧
        r.1.nodePrints = s.nodePrints + (r.2 && fromPrintNode).toNat)
      (print osMacosx blink frame nodeIsNull silent printBackground fromPrintNode defaults s) := by
  -- every way that does not block keeps the blocked calls and the flag
  have kept (r : Helper × Bool) (hr : r.2 = false) (h : PumpKept s r.1) :
      r.1.printNodeInProgress = s.printNodeInProgress ∧
        r.1.nodePrints = s.nodePrints + (r.2 && fromPrintNode).toNat := by
    simp [hr, h.2, h.nodePrints_eq]
  simp only [print, pure_bind]
  split
  · exact Returns.ok (kept _ rfl (.refl s))
  · refine Returns.bind (calculateNumberOfPages_kept frame nodeIsNull defaults s) ?_
    rintro ⟨count, t⟩ ht
    replace ht : PumpKept s t := ht
    rcases count with _ | c <;> dsimp only
    · exact Returns.ok (kept _ rfl (ht.trans (didFinishPrinting_kept _ _)))
    · split
      · exact Returns.ok (kept _ rfl (ht.trans (didFinishPrinting_kept _ _)))
      · split
        · exact Returns.bind (getPrintSettingsFromUser_nodePrints frame nodeIsNull c
            printBackground fromPrintNode t) fun u ⟨hf, hn⟩ =>
              Returns.ok ⟨hf.trans ht.2, by simp only [hn, ht.nodePrints_eq, Bool.true_and]⟩
        · exact Returns.bind (renderAfterSettings_kept frame nodeIsNull true printBackground t)
            fun u hu => Returns.ok (kept _ rfl (ht.trans hu))

/-- The reply resumes the innermost blocked call; if `PrintNode` made it, the flag is
cleared. -/
theorem resumePrint_nodeGuarded (settings : PrintMsgPrintPagesParams) {s : Helper}
    (hs : s.NodeGuarded) : Returns NodeGuarded (resumePrint osMacosx blink settings s) := by
  simp only [resumePrint]
  split
  · exact Returns.ok hs
  · next pending rest hp =>
    -- what the resumed call runs keeps the rest of the blocked calls
    have hrest : ∀ t : Helper, t.pumping = rest → t.printNodeInProgress = s.printNodeInProgress →
        (if pending.fromPrintNode then { t with printNodeInProgress := false } else t).NodeGuarded :=
      by
      intro t hpump hflag
      simp only [NodeGuarded, nodePrints, hp, List.countP_cons] at hs
      cases hpf : pending.fromPrintNode <;> cases hfl : s.printNodeInProgress <;>
        simp_all [NodeGuarded, nodePrints]
    split
    · exact Returns.bind (renderAfterSettings_kept _ _ false _ _) fun t ht =>
        Returns.ok (hrest t ht.1 ht.2)
    · exact Returns.bind (Returns.ok (P := PumpKept { s with pumping := rest })
        (didFinishPrinting_kept _ _)) fun t ht => Returns.ok (hrest t ht.1 ht.2)

/-- `PrintNode` is ignored while the flag is set; otherwise it sets the flag, and keeps it set
only if its `Print` call blocked. -/
theorem printNode_nodeGuarded (frame : Option ViewId) (defaults : PrintMsgPrintParams)
    {s : Helper} (hs : s.NodeGuarded) :
    Returns NodeGuarded (printNode osMacosx blink frame defaults s) := by
  unfold printNode
  split
  · exact Returns.ok hs
  · split
    · exact Returns.ok hs
    · next hflag =>
      refine Returns.bind (print_nodePrints _ false false false true defaults _) ?_
      rintro ⟨t, blocked⟩ ⟨hf, hn⟩
      refine Returns.ok ?_
      simp only [NodeGuarded, Bool.not_eq_true] at hs hflag
      cases blocked <;> simp_all [NodeGuarded, nodePrints]

theorem didStopLoading_kept (v : ViewId) (s : Helper) : PumpKept s (didStopLoading v s) := by
  unfold didStopLoading
  split
  · split
    · exact ⟨rfl, rfl⟩
    · exact .refl s
  · exact .refl s

theorem runTask_kept (s : Helper) : Returns (PumpKept s) (runTask blink s) := by
  unfold runTask
  split
  · exact Returns.ok (.refl s)
  · next _ _ rest _ =>
    dsimp only
    split
    · split
      · exact (onFramePreparedForPrintPages_kept { s with tasks := rest }).imp fun _ ht => ht
      · exact Returns.ok ⟨rfl, rfl⟩
    · exact Returns.ok ⟨rfl, rfl⟩

end Routines

/-! ### Every run -/

section Runs

variable (osMacosx : Bool) (blink : Blink)

/-- **Every delivery keeps the flag in step with the blocked `PrintNode` calls.** -/
theorem step_nodeGuarded {s : Helper} (hs : s.NodeGuarded) (e : Event) :
    Returns NodeGuarded (step osMacosx blink s e) := by
  -- a `Print` that `PrintNode` did not call keeps the count and the flag
  have hprint (frame : ViewId) (silent printBackground : Bool) (defaults : PrintMsgPrintParams) :
      Returns NodeGuarded
        ((print osMacosx blink frame true silent printBackground false defaults s).map Prod.fst) :=
    (print_nodePrints frame true silent printBackground false defaults s).map
      fun _ ⟨hf, hn⟩ => by rw [NodeGuarded, hn, hf]; simpa using hs
  cases e with
  | printPage frame defaults => exact hprint frame false false defaults
  | onPrintPages frame silent printBackground defaults =>
    exact hprint frame silent printBackground defaults
  | printNode frame defaults => exact printNode_nodeGuarded frame defaults hs
  | onPrintingDone success =>
    exact Returns.ok ((didFinishPrinting_kept (s := { s with notifyBrowserOfPrintFailure := false })
      _).nodeGuarded hs)
  | scriptedPrintReply settings => exact resumePrint_nodeGuarded settings hs
  | didStopLoading v => exact Returns.ok ((didStopLoading_kept v s).nodeGuarded hs)
  | runTask => exact (runTask_kept s).imp fun _ ht => ht.nodeGuarded hs

/-- **The `PrintNode` guard is exact.**  In every reachable state, `print_node_in_progress_`
is set exactly while one `Print` call that `PrintNode` made is blocked in the settings
dialog's pump, and no two such calls are ever blocked: the number of blocked calls that
`PrintNode` made is one when the flag is set and zero when it is clear. -/
theorem reachable_node_guard_exact {w₀ : World} {s : Helper}
    (h : Reachable osMacosx blink w₀ s) : s.nodePrints = s.printNodeInProgress.toNat := by
  induction h with
  | init => rfl
  | step e _ hstep ih => exact step_nodeGuarded osMacosx blink ih e _ hstep

/-- A `PrintNode` blocks in the dialog, and a second one delivered during the pump is ignored:
one call is blocked, and it is the one the flag stands for. -/
theorem reachable_node_guard_exact_nested :
    let blink : Blink := ⟨fun _ => false, fun _ => CssFrame.noCss, fun _ _ => 3⟩
    let w : World := ⟨fun _ => ViewState.fresh, 1, fun _ o => o, []⟩
    let letter : PrintMsgPrintParams :=
      { pageSize := Size.make 612 792, contentSize := Size.make 576 756,
        printableArea := ⟨0, 0, Size.make 612 792⟩, marginTop := 18, marginLeft := 18,
        dpi := 72, minShrink := 1, maxShrink := 2, desiredDpi := 72, documentCookie := 1,
        selectionOnly := false, printScalingOption := .sourceSize, shouldPrintBackgrounds := false }
    ∃ s, run false blink (Helper.init w) [.printNode (some 0) letter, .printNode (some 0) letter] =
        .ok s ∧ Reachable false blink w s ∧ s.printNodeInProgress = true ∧ s.pumping.length = 1 ∧
      s.nodePrints = s.printNodeInProgress.toNat := by
  intro blink w letter
  obtain ⟨s, hrun, hs, hflag, hlen⟩ := reach_of_run false blink w
    [.printNode (some 0) letter, .printNode (some 0) letter]
    (p := fun s => s.printNodeInProgress = true ∧ s.pumping.length = 1) (by decide)
  exact ⟨s, hrun, hs, hflag, hlen, reachable_node_guard_exact false blink hs⟩

end Runs

end Printing
