import PrintWebViewHelper.SessionRaces
import PrintWebViewHelper.SessionPrintMode

/-!
# What a held session waits for, and that it completes

A `Print` that renders either prints at once, and destroys `prep_frame_view_` before it
returns, or copies a selection, and then keeps `prep_frame_view_` until the copy has loaded
and the `CallOnReady` task the load posts has run.  So between deliveries a held object is a
copy waiting for its load (`Helper.Waiting`): it owns its view, the view is open, and the view
is still loading or the task that prints it is posted.

From that, a held session completes with no reply from the browser: the end of the copy's
load and the posted tasks print it and destroy `prep_frame_view_`.  What the browser is sent on
the way (`printPagesMessages`) is `PrintPages`'s count and the pages of `PrintPagesNative`,
which these sources have only for the Mac, so that result is stated for the Mac build.

## Main definitions

* `Helper.Waiting` — a held object is a copy waiting for its load.
* `printPagesMessages` — what `PrintPages` sends the browser for a page count.

## Main results

* `step_waiting`, `reachable_waiting` — every delivery keeps it.
* `reachable_session_completes` — **from every reachable state, the end of the held copy's load
  and the posted tasks complete the session, sending the count and the pages**.
-/

namespace Printing

open Helper PrepareFrameAndViewForPrint

/-- A run that is sound returns only what the predicate allows. -/
theorem Sound.returns {α : Type} {P : α → Prop} {x : Except Fault α} (hx : Sound P x) :
    Returns P x :=
  fun _ h => hx.of_ok h

/-! ### The held object waits for its load -/

/-- A held object owns its view, which is open and still loading, or whose `CallOnReady` task
is posted. -/
def Helper.Waiting (s : Helper) : Prop :=
  ∀ id prep, s.prepFrameView = some (id, prep) →
    prep.ownsWebView = true ∧ ∃ v, prep.frame = some v ∧ (s.world.views v).closed = false ∧
      ((s.world.views v).isLoading = true ∨ id ∈ s.tasks)

namespace Helper

variable {s t : Helper}

theorem waiting_of_prep_none (h : s.prepFrameView = none) : s.Waiting := by
  simp [Waiting, h]

/-- `Waiting` reads what is held, the views and the posted tasks. -/
theorem Waiting.congr (h : s.Waiting) (hp : t.prepFrameView = s.prepFrameView)
    (hv : t.world.views = s.world.views) (ht : t.tasks = s.tasks) : t.Waiting := by
  intro id prep hprep
  rw [hv, ht]
  exact h id prep (hp ▸ hprep)

end Helper

section Routines

variable {osMacosx : Bool} {blink : Blink}

theorem didFinishPrinting_waiting (result : PrintingResult) (s : Helper) :
    (didFinishPrinting result s).Waiting :=
  waiting_of_prep_none (didFinishPrinting_spec result s).1

/-- `FinishFramePrinting` destroys the object. -/
theorem onFramePreparedForPrintPages_waiting (s : Helper) :
    Returns Helper.Waiting (onFramePreparedForPrintPages blink s) :=
  (returns_true _).map fun _ _ => waiting_of_prep_none (by simp)

/-- `RenderPagesForPrint` prints at once, or holds a copy that is loading. -/
theorem renderPagesForPrint_waiting (frame : ViewId) (nodeIsNull silent : Bool) {s : Helper}
    (hs : s.Waiting) :
    Returns (fun r : Bool × Helper => r.2.Waiting)
      (renderPagesForPrint osMacosx blink frame nodeIsNull silent s) := by
  unfold renderPagesForPrint
  split
  · exact Returns.ok hs
  · simp only [derefPrintPagesParams_eq, pure_bind]
    refine Returns.bind (returns_true _) fun _ _ => Returns.bind (returns_true _) ?_
    rintro ⟨prep, w⟩ -
    refine Returns.bind (returns_orFault fun r hr => hr) ?_
    rintro ⟨p, w', ready⟩ hc
    dsimp only at hc ⊢
    split
    · exact Returns.bind (onFramePreparedForPrintPages_waiting _) fun t ht => Returns.ok ht
    · next hready =>
      -- a copy of the selection, still loading
      rw [Bool.not_eq_true] at hready
      subst hready
      obtain ⟨v, hf, ho, hl, hcl⟩ := copySelectionIfNeeded_not_ready hc
      refine Returns.ok fun id p' hp => ?_
      cases hp
      exact ⟨ho, v, hf, hcl, .inl hl⟩

theorem renderAfterSettings_waiting (frame : ViewId) (nodeIsNull silent printBackground : Bool)
    {s : Helper} (hs : s.Waiting) :
    Returns Helper.Waiting
      (renderAfterSettings osMacosx blink frame nodeIsNull silent printBackground s) := by
  unfold renderAfterSettings
  refine Returns.bind (returns_true _) fun _ _ => ?_
  refine Returns.bind (renderPagesForPrint_waiting frame nodeIsNull silent
    (hs.congr rfl rfl rfl)) ?_
  rintro ⟨ok, t⟩ ht
  dsimp only
  split
  · exact Returns.ok ht
  · exact Returns.ok (didFinishPrinting_waiting _ _)

/-- Past its guard `Print` holds nothing until it renders. -/
theorem print_waiting (frame : ViewId) (nodeIsNull silent printBackground fromPrintNode : Bool)
    (defaults : PrintMsgPrintParams) {s : Helper} (hs : s.Waiting) :
    Returns (fun r : Helper × Bool => r.1.Waiting)
      (print osMacosx blink frame nodeIsNull silent printBackground fromPrintNode defaults s) := by
  simp only [print, pure_bind]
  split
  · exact Returns.ok hs
  · next hguard =>
    refine Returns.bind ((calculateNumberOfPages_sound frame nodeIsNull defaults s).returns.imp
      fun _ h => h.2.1) ?_
    rintro ⟨count, t⟩ hp
    have ht : t.prepFrameView = none := by
      rw [show t.prepFrameView = s.prepFrameView from hp]; simpa using hguard
    rcases count with _ | c <;> dsimp only
    · exact Returns.ok (didFinishPrinting_waiting _ _)
    · split
      · exact Returns.ok (didFinishPrinting_waiting _ _)
      · split
        · exact Returns.bind (fun u hu => (getPrintSettingsFromUser_spec hu).1)
            fun u hu => Returns.ok (waiting_of_prep_none (hu.trans ht))
        · exact Returns.bind (renderAfterSettings_waiting frame nodeIsNull true printBackground
            (waiting_of_prep_none ht)) fun u hu => Returns.ok hu

theorem resumePrint_waiting (settings : PrintMsgPrintPagesParams) {s : Helper}
    (hs : s.Waiting) : Returns Helper.Waiting (resumePrint osMacosx blink settings s) := by
  simp only [resumePrint]
  split
  · exact Returns.ok hs
  · have hflag (t : Helper) (ht : t.Waiting) (b : Bool) :
        Helper.Waiting (if b then { t with printNodeInProgress := false } else t) := by
      cases b
      · exact ht
      · exact ht.congr rfl rfl rfl
    split
    · exact Returns.bind (renderAfterSettings_waiting _ _ false _ (hs.congr rfl rfl rfl))
        fun t ht => Returns.ok (hflag t ht _)
    · exact Returns.bind (Returns.ok (P := Helper.Waiting) (didFinishPrinting_waiting _ _))
        fun t ht => Returns.ok (hflag t ht _)

theorem printNode_waiting (frame : Option ViewId) (defaults : PrintMsgPrintParams) {s : Helper}
    (hs : s.Waiting) : Returns Helper.Waiting (printNode osMacosx blink frame defaults s) := by
  unfold printNode
  split
  · exact Returns.ok hs
  · split
    · exact Returns.ok hs
    · refine Returns.bind (print_waiting _ false false false true defaults
        (hs.congr rfl rfl rfl)) ?_
      rintro ⟨t, blocked⟩ ht
      cases blocked
      · exact Returns.ok (ht.congr rfl rfl rfl)
      · exact Returns.ok ht

/-- The end of the copy's load posts the task that prints it. -/
theorem didStopLoading_waiting (v : ViewId) {s : Helper} (hs : s.Waiting) :
    (didStopLoading v s).Waiting := by
  unfold didStopLoading
  split
  · next id prep hp =>
    split
    · next hcond =>
      obtain ⟨hf, -, -, -⟩ := hcond
      intro id' prep' hp'
      cases hp.symm.trans hp'
      obtain ⟨ho, u, hu, hcl, -⟩ := hs id prep hp
      obtain rfl : u = v := Option.some.inj (hu.symm.trans hf)
      exact ⟨ho, u, hu, by simpa using hcl, .inr (by simp)⟩
    · exact hs
  · exact hs

/-- A posted task prints its object if it is the held one; a stale task does nothing. -/
theorem runTask_waiting {s : Helper} (hs : s.Waiting) :
    Returns Helper.Waiting (runTask blink s) := by
  unfold runTask
  split
  · exact Returns.ok hs
  · next _ task rest htasks =>
    dsimp only
    split
    · next current prep hp =>
      split
      · exact onFramePreparedForPrintPages_waiting _
      · next hne =>
        refine Returns.ok fun id' prep' hp' => ?_
        obtain ⟨ho, v, hf, hcl, hwait⟩ := hs id' prep' hp'
        refine ⟨ho, v, hf, hcl, hwait.imp_right fun hmem => ?_⟩
        -- the task run was another object's
        cases hp.symm.trans hp'
        rw [htasks] at hmem
        exact (List.mem_cons.mp hmem).resolve_left hne
    · next hp => exact Returns.ok (waiting_of_prep_none hp)

end Routines

/-! ### Every run -/

section Runs

variable (osMacosx : Bool) (blink : Blink)

theorem step_waiting {s : Helper} (hs : s.Waiting) (e : Event) :
    Returns Helper.Waiting (step osMacosx blink s e) := by
  cases e with
  | printPage frame defaults =>
    exact (print_waiting frame true false false false defaults hs).map fun _ h => h
  | onPrintPages frame silent printBackground defaults =>
    exact (print_waiting frame true silent printBackground false defaults hs).map fun _ h => h
  | printNode frame defaults => exact printNode_waiting frame defaults hs
  | onPrintingDone success => exact Returns.ok (didFinishPrinting_waiting _ _)
  | scriptedPrintReply settings => exact resumePrint_waiting settings hs
  | didStopLoading v => exact Returns.ok (didStopLoading_waiting v hs)
  | runTask => exact runTask_waiting hs

/-- Every reachable state has `Waiting`: the induction over the run. -/
theorem waiting_of_reachable {w₀ : World} {s : Helper} (h : Reachable osMacosx blink w₀ s) :
    s.Waiting := by
  induction h with
  | init => exact waiting_of_prep_none rfl
  | step e _ hstep ih => exact step_waiting osMacosx blink ih e _ hstep

/-- **Between deliveries a held `prep_frame_view_` is a copy waiting for its load.** -/
theorem reachable_waiting {w₀ : World} {s : Helper} (h : Reachable osMacosx blink w₀ s) :
    s.Waiting :=
  waiting_of_reachable osMacosx blink h

/-- A silent `OnPrintPages` of a selection holds the copy, loading. -/
theorem reachable_waiting_selection :
    let blink : Blink := ⟨fun _ => false, fun _ => CssFrame.noCss, fun _ _ => 3⟩
    let w : World := ⟨fun _ => ViewState.fresh, 1, fun _ o => o, []⟩
    let selection : PrintMsgPrintParams :=
      { pageSize := Size.make 612 792, contentSize := Size.make 576 756,
        printableArea := ⟨0, 0, Size.make 612 792⟩, marginTop := 18, marginLeft := 18,
        dpi := 72, minShrink := 1, maxShrink := 2, desiredDpi := 72, documentCookie := 1,
        selectionOnly := true, printScalingOption := .sourceSize, shouldPrintBackgrounds := false }
    ∃ s, run false blink (Helper.init w) [.onPrintPages 0 true false selection] = .ok s ∧
      Reachable false blink w s ∧ s.prepFrameView.isSome ∧ s.Waiting := by
  intro blink w selection
  obtain ⟨s, hrun, hs, hheld⟩ := reach_of_run false blink w [.onPrintPages 0 true false selection]
    (p := fun s => s.prepFrameView.isSome) (by decide)
  exact ⟨s, hrun, hs, hheld, reachable_waiting false blink hs⟩

/-! ### Held sessions complete -/

/-- What `PrintPages` sends the browser for a frame that counts `n` pages under the settings
`pp`: the count under the settings' cookie and the pages `PrintPagesNative` lists, or, for no
page at all, `PrintHostMsg_PrintingFailed` when the browser is to be told of a failure. -/
def printPagesMessages (notify : Bool) (pp : PrintMsgPrintPagesParams) (n : Int) :
    List HelperEvent :=
  if n = 0 then if notify then [.sent (.printingFailed pp.params.documentCookie)] else []
  else .sent (.didGetPrintedPagesCount pp.params.documentCookie n) ::
    (printPagesNative pp n).2.map fun page => .sent (.printPage page)

/-- Printing the held object sends `printPagesMessages` for the count its frame gives, and
`FinishFramePrinting` destroys it. -/
theorem onFramePreparedForPrintPages_log {s : Helper} {id : Nat}
    {prep : PrepareFrameAndViewForPrint} {v : ViewId} {pp : PrintMsgPrintPagesParams}
    (hp : s.prepFrameView = some (id, prep)) (hf : prep.frame = some v)
    (hpp : s.printPagesParams = some pp) :
    ∃ t, onFramePreparedForPrintPages blink s = .ok t ∧ t.prepFrameView = none ∧
      t.log = s.log ++ printPagesMessages s.notifyBrowserOfPrintFailure pp
        (blink.pageCount v prep.webPrintParams) := by
  simp only [onFramePreparedForPrintPages, printPages, hp, startPrintingWith_of_frame hf,
    startPrinting_eq hf, orFault_some, pure_bind, printPagesMessages]
  split
  · -- no page: the failure, if the browser is to be told
    refine ⟨_, rfl, resetPrepFrameView_prepFrameView _, ?_⟩
    cases hn : s.notifyBrowserOfPrintFailure <;> simp [didFinishPrinting, hpp, hn, send]
  · simp only [derefPrintPagesParams_eq, send_printPagesParams, hpp, orFault_some, pure_bind]
    exact ⟨_, rfl, resetPrepFrameView_prepFrameView _, by simp [send]⟩

/-- The held object's own task prints it, and `FinishFramePrinting` destroys it. -/
theorem runTask_held {s : Helper} {id : Nat} {prep : PrepareFrameAndViewForPrint} {v : ViewId}
    {pp : PrintMsgPrintPagesParams} {rest : List Nat} (hp : s.prepFrameView = some (id, prep))
    (hf : prep.frame = some v) (hpp : s.printPagesParams = some pp)
    (htasks : s.tasks = id :: rest) :
    ∃ t, step osMacosx blink s .runTask = .ok t ∧ t.prepFrameView = none ∧
      t.log = s.log ++ printPagesMessages s.notifyBrowserOfPrintFailure pp
        (blink.pageCount v prep.webPrintParams) := by
  obtain ⟨t, ht, htp, htl⟩ :=
    onFramePreparedForPrintPages_log blink (s := { s with tasks := rest }) hp hf hpp
  simp only [hp] at ht
  exact ⟨t, by simp [step, runTask, htasks, hp, ht], htp, htl⟩

/-- Another object's task does nothing but leave the queue. -/
theorem runTask_stale {s : Helper} {id task : Nat} {prep : PrepareFrameAndViewForPrint}
    {rest : List Nat} (hp : s.prepFrameView = some (id, prep)) (htasks : s.tasks = task :: rest)
    (hne : task ≠ id) :
    step osMacosx blink s .runTask = .ok { s with tasks := rest } := by
  simp [step, runTask, htasks, hp, Ne.symm hne]

/-- Running the posted tasks in order reaches the held object's task, which prints it. -/
theorem run_runTasks_completes {id : Nat} {prep : PrepareFrameAndViewForPrint} {v : ViewId}
    {pp : PrintMsgPrintPagesParams} (hf : prep.frame = some v) (tasks : List Nat)
    (hmem : id ∈ tasks) (s : Helper) (hp : s.prepFrameView = some (id, prep))
    (hpp : s.printPagesParams = some pp) (htasks : s.tasks = tasks) :
    ∃ n t, run osMacosx blink s (List.replicate n .runTask) = .ok t ∧ t.prepFrameView = none ∧
      t.log = s.log ++ printPagesMessages s.notifyBrowserOfPrintFailure pp
        (blink.pageCount v prep.webPrintParams) := by
  induction tasks generalizing s with
  | nil => cases hmem
  | cons task rest ih =>
    by_cases hne : task = id
    · subst hne
      obtain ⟨t, ht, htp, htl⟩ := runTask_held osMacosx blink hp hf hpp htasks
      exact ⟨1, t, by simp [run, ht, Except.bind], htp, htl⟩
    · obtain ⟨n, t, ht, htp, htl⟩ := ih ((List.mem_cons.mp hmem).resolve_left (Ne.symm hne))
        { s with tasks := rest } hp hpp rfl
      exact ⟨n + 1, t, by
        simp [List.replicate_succ, run, runTask_stale osMacosx blink hp htasks hne, ht, Except.bind],
        htp, htl⟩

/-- **A held session completes with no reply from the browser, and prints**, in the Mac build,
whose `PrintPagesNative` is the one these sources have.  From every reachable state holding an
object, the end of the held copy's load, if it is still loading, and the posted tasks, run in
order, print the held object and destroy `prep_frame_view_`: the browser is told the count the
object's frame gives, under the settings' cookie, and gets the pages `PrintPagesNative` lists
(`PrintHostMsg_PrintingFailed` instead, for a count of zero), and nothing else. -/
theorem reachable_session_completes {w₀ : World} {s : Helper} (h : Reachable true blink w₀ s)
    {id : Nat} {prep : PrepareFrameAndViewForPrint} (hp : s.prepFrameView = some (id, prep)) :
    ∃ v pp, prep.frame = some v ∧ s.printPagesParams = some pp ∧
      ∃ es : List Event, (∀ e ∈ es, e = .runTask ∨ ∃ v, e = .didStopLoading v) ∧
        ∃ t, run true blink s es = .ok t ∧ t.prepFrameView = none ∧
          t.log = s.log ++ printPagesMessages s.notifyBrowserOfPrintFailure pp
            (blink.pageCount v prep.webPrintParams) := by
  obtain ⟨ho, v, hf, hcl, hwait⟩ := waiting_of_reachable true blink h id prep hp
  obtain ⟨pp, hpp⟩ := Option.isSome_iff_exists.mp
    ((reachable_inv true blink h).params_of_prep (by simp [hp]))
  refine ⟨v, pp, hf, hpp, ?_⟩
  -- the task that prints the held object is posted, now or already
  obtain ⟨s₁, es₁, hes₁, hrun₁, hp₁, hpp₁, hmem, hl₁, hn₁⟩ : ∃ s₁ es₁,
      (∀ e ∈ es₁, e = .runTask ∨ ∃ v, e = .didStopLoading v) ∧
      run true blink s es₁ = .ok s₁ ∧ s₁.prepFrameView = some (id, prep) ∧
      s₁.printPagesParams = some pp ∧ id ∈ s₁.tasks ∧ s₁.log = s.log ∧
      s₁.notifyBrowserOfPrintFailure = s.notifyBrowserOfPrintFailure := by
    rcases hwait with hload | hmem
    · refine ⟨didStopLoading v s, [.didStopLoading v], by simp, rfl, ?_⟩
      simp [didStopLoading, hp, hf, ho, hload, hcl, hpp]
    · exact ⟨s, [], by simp, rfl, hp, hpp, hmem, rfl, rfl⟩
  obtain ⟨n, t, hrun, htp, htl⟩ := run_runTasks_completes true blink hf _ hmem s₁ hp₁ hpp₁ rfl
  refine ⟨es₁ ++ List.replicate n .runTask, ?_, t, ?_, htp, by rw [htl, hl₁, hn₁]⟩
  · intro e he
    rcases List.mem_append.mp he with he | he
    · exact hes₁ e he
    · exact .inl (List.eq_of_mem_replicate he)
  · rw [run_append, hrun₁]
    exact hrun

/-- The selection held after a silent `OnPrintPages` is printed once its copy has loaded: the
count of three pages, then pages 0, 1 and 2. -/
theorem reachable_session_completes_selection :
    let blink : Blink := ⟨fun _ => false, fun _ => CssFrame.noCss, fun _ _ => 3⟩
    let w : World := ⟨fun _ => ViewState.fresh, 1, fun _ o => o, []⟩
    let selection : PrintMsgPrintParams :=
      { pageSize := Size.make 612 792, contentSize := Size.make 576 756,
        printableArea := ⟨0, 0, Size.make 612 792⟩, marginTop := 18, marginLeft := 18,
        dpi := 72, minShrink := 1, maxShrink := 2, desiredDpi := 72, documentCookie := 1,
        selectionOnly := true, printScalingOption := .sourceSize, shouldPrintBackgrounds := false }
    ∃ s, run true blink (Helper.init w) [.onPrintPages 0 true false selection] = .ok s ∧
      Reachable true blink w s ∧ ∃ id prep, s.prepFrameView = some (id, prep) ∧
      ∃ v pp, prep.frame = some v ∧ s.printPagesParams = some pp ∧
        ∃ es : List Event, (∀ e ∈ es, e = .runTask ∨ ∃ v, e = .didStopLoading v) ∧
          ∃ t, run true blink s es = .ok t ∧ t.prepFrameView = none ∧
            t.log = s.log ++ printPagesMessages s.notifyBrowserOfPrintFailure pp
              (blink.pageCount v prep.webPrintParams) := by
  intro blink w selection
  obtain ⟨s, hrun, hs, hheld⟩ := reach_of_run true blink w [.onPrintPages 0 true false selection]
    (p := fun s => s.prepFrameView.isSome) (by decide)
  obtain ⟨⟨id, prep⟩, hp⟩ := Option.isSome_iff_exists.mp hheld
  exact ⟨s, hrun, hs, id, prep, hp, reachable_session_completes blink hs hp⟩

end Runs

end Printing
