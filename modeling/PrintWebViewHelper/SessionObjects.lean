import PrintWebViewHelper.SessionPageViews
import PrintWebViewHelper.SessionPages

/-!
# Each printing object: its count and its pages

`RenderPagesForPrint` builds `prep_frame_view_` from the current settings,
`print_pages_params_`.  `PrintPages` starts printing on it, sends
`PrintHostMsg_DidGetPrintedPagesCount` under the settings' cookie and hands `PrintPageInternal`
each page with the settings as they are then, and `FinishFramePrinting` destroys the object
right after.  An object waiting for its copy's load is printed only by its own posted
`CallOnReady`, through a weak pointer that dies with it.  While an object is held nothing
changes the settings it was built from without destroying it: `Print` is refused, and the one
routine that writes them while an object may be held, the reply to a dialog, finds the object
there, fails, and `DidFinishPrinting` destroys it.

So, over every run, each announcement of a page count has a printing object of its own, built
after the previous announcement from settings with the announcement's cookie; and each page is
printed with exactly the settings the last printing object was built from.

`readLog` reads the log for this.  It keeps the settings of the last printing object built and
whether that object has yet to announce its count: an announcement needs such an object, built
with its cookie; a page needs the object's settings.

## Main definitions

* `HelperEvent.builds`, `HelperEvent.isAnnouncement`, `LogReading`, `HelperEvent.read`,
  `readLog` — the reading.
* `Helper.LogRead`, `Helper.Armed` — the log is read through; and, besides, a held object is the
  last one built, from the current settings, and has yet to announce.

## Main results

* `step_armed` — every delivery keeps `Armed`.
* `reachable_count_has_own_object` — **every `PrintHostMsg_DidGetPrintedPagesCount` follows
  the construction of a printing object from settings with its cookie, with no other
  announcement in between.**
* `reachable_page_has_object_settings` — **every page handed to `PrintPageInternal` carries the
  settings the last printing object before it was built from.**
-/

namespace Printing

open Helper

/-! ### Reading the log for objects, counts and pages -/

/-- A printing object built by `RenderPagesForPrint`. -/
def HelperEvent.builds : HelperEvent → Bool
  | .prepared (.renderPagesForPrint _) _ => true
  | _ => false

/-- A `PrintHostMsg_DidGetPrintedPagesCount`. -/
def HelperEvent.isAnnouncement : HelperEvent → Bool
  | .sent (.didGetPrintedPagesCount _ _) => true
  | _ => false

/-- What the reading keeps: the settings of the last printing object built, and whether that
object has yet to announce its count. -/
structure LogReading where
  laidOut : Option PrintMsgPrintParams
  armed : Bool

/-- The reading of an empty log. -/
def LogReading.init : LogReading := ⟨none, false⟩

/-- How an entry moves the reading: building a printing object records its settings and arms
the reading; an announcement needs it armed by an object built with the announcement's cookie,
and disarms it; a page needs the object's settings. -/
def HelperEvent.read (e : HelperEvent) (r : LogReading) : Option LogReading :=
  match e with
  | .prepared (.renderPagesForPrint _) params => some ⟨some params, true⟩
  | .sent (.didGetPrintedPagesCount cookie _) =>
    if r.armed ∧ r.laidOut.map (·.documentCookie) = some cookie then some { r with armed := false }
    else none
  | .sent (.printPage page) => if r.laidOut = some page.params then some r else none
  | _ => some r

/-- Read a log from `r`: where the reading ends, or `none` at an entry it cannot place. -/
def readLog (r : LogReading) : List HelperEvent → Option LogReading
  | [] => some r
  | e :: log => (e.read r).bind fun b => readLog b log

@[simp] theorem readLog_nil (r : LogReading) : readLog r [] = some r := rfl

@[simp] theorem readLog_cons (r : LogReading) (e : HelperEvent) (log : List HelperEvent) :
    readLog r (e :: log) = (e.read r).bind fun b => readLog b log := rfl

@[simp] theorem readLog_append (r : LogReading) (l₁ l₂ : List HelperEvent) :
    readLog r (l₁ ++ l₂) = (readLog r l₁).bind fun b => readLog b l₂ := by
  induction l₁ generalizing r with
  | nil => rfl
  | cons e l ih => simp [ih, Option.bind_assoc]

section Entries

variable {e : HelperEvent}

/-- What an entry the reading passes does to it: it builds an object, or it keeps the settings
and leaves the reading armed only if it was armed and the entry is no announcement. -/
theorem read_eq_some {r b : LogReading} (h : e.read r = some b) :
    (∃ silent params, e = .prepared (.renderPagesForPrint silent) params ∧
      b = ⟨some params, true⟩) ∨
    (e.builds = false ∧ b.laidOut = r.laidOut ∧
      (b.armed = true → r.armed = true ∧ e.isAnnouncement = false)) := by
  rcases e with (_ | _ | _ | _ | _ | _) | (_ | _) <;>
    first
    | exact .inl ⟨_, _, rfl, (Option.some.inj h).symm⟩
    | (simp only [HelperEvent.read] at h
       first
       | (split at h <;> cases h <;> simp [HelperEvent.builds, HelperEvent.isAnnouncement])
       | (cases h; simp [HelperEvent.builds, HelperEvent.isAnnouncement]))

end Entries

/-- A reading that goes through an entry passes it. -/
theorem exists_read_of_readLog_ne_none {r : LogReading} {e : HelperEvent}
    {log : List HelperEvent} (h : readLog r (e :: log) ≠ none) :
    ∃ b, e.read r = some b ∧ readLog b log ≠ none := by
  cases he : e.read r with
  | none => simp [he] at h
  | some b => exact ⟨b, rfl, by simpa [he] using h⟩

/-- Pages with the settings of the last object leave the reading as it is. -/
theorem readLog_pages {r : LogReading} {pages : List PrintMsgPrintPageParams}
    (h : ∀ page ∈ pages, r.laidOut = some page.params) :
    readLog r (pages.map fun page => .sent (.printPage page)) = some r := by
  induction pages with
  | nil => rfl
  | cons page pages ih =>
    simp [HelperEvent.read, h page (List.mem_cons_self _ _),
      ih fun q hq => h q (List.mem_cons_of_mem _ hq)]

/-- Where a reading that goes through puts an announcement: after a printing object built from
settings with its cookie, with no announcement in between; or, with no object built before it,
in the reading it started from. -/
theorem readLog_announcement {r : LogReading} {pre post : List HelperEvent} {cookie pageCount : Int}
    (h : readLog r (pre ++ .sent (.didGetPrintedPagesCount cookie pageCount) :: post) ≠ none) :
    (∃ before between silent params,
      pre = before ++ .prepared (.renderPagesForPrint silent) params :: between ∧
        params.documentCookie = cookie ∧ ∀ e ∈ between, e.isAnnouncement = false) ∨
    (r.armed = true ∧ r.laidOut.map (·.documentCookie) = some cookie ∧
      ∀ e ∈ pre, e.isAnnouncement = false) := by
  induction pre generalizing r with
  | nil =>
    obtain ⟨b, hb, -⟩ := exists_read_of_readLog_ne_none h
    simp only [HelperEvent.read] at hb
    split at hb
    · next hc => exact .inr ⟨hc.1, hc.2, by simp⟩
    · cases hb
  | cons e pre ih =>
    obtain ⟨b, hb, hread⟩ := exists_read_of_readLog_ne_none h
    rcases ih hread with ⟨before, between, silent, params, rfl, hc, hq⟩ | ⟨ha, hc, hpre⟩
    · -- the object is further on
      exact .inl ⟨e :: before, between, silent, params, rfl, hc, hq⟩
    · rcases read_eq_some hb with ⟨silent, params, rfl, rfl⟩ | ⟨-, hl, harm⟩
      · -- this entry built the object
        exact .inl ⟨[], pre, silent, params, rfl, Option.some.inj hc, hpre⟩
      · obtain ⟨ha', he⟩ := harm ha
        refine .inr ⟨ha', hl ▸ hc, fun e' he' => ?_⟩
        rcases List.mem_cons.mp he' with rfl | he'
        exacts [he, hpre e' he']

/-- Where a reading that goes through puts a page: after a printing object built from the
page's settings, with no other object built in between; or, with no object built before it, in
the reading it started from. -/
theorem readLog_page {r : LogReading} {pre post : List HelperEvent}
    {page : PrintMsgPrintPageParams} (h : readLog r (pre ++ .sent (.printPage page) :: post) ≠ none) :
    (∃ before between silent,
      pre = before ++ .prepared (.renderPagesForPrint silent) page.params :: between ∧
        ∀ e ∈ between, e.builds = false) ∨
    (r.laidOut = some page.params ∧ ∀ e ∈ pre, e.builds = false) := by
  induction pre generalizing r with
  | nil =>
    obtain ⟨b, hb, -⟩ := exists_read_of_readLog_ne_none h
    simp only [HelperEvent.read] at hb
    split at hb
    · next hl => exact .inr ⟨hl, by simp⟩
    · cases hb
  | cons e pre ih =>
    obtain ⟨b, hb, hread⟩ := exists_read_of_readLog_ne_none h
    rcases ih hread with ⟨before, between, silent, rfl, hq⟩ | ⟨hl, hpre⟩
    · exact .inl ⟨e :: before, between, silent, rfl, hq⟩
    · rcases read_eq_some hb with ⟨silent, params, rfl, rfl⟩ | ⟨he, hl', -⟩
      · obtain rfl : params = page.params := Option.some.inj hl
        exact .inl ⟨[], pre, silent, rfl, hpre⟩
      · refine .inr ⟨hl' ▸ hl, fun e' he' => ?_⟩
        rcases List.mem_cons.mp he' with rfl | he'
        exacts [he, hpre e' he']

/-! ### The invariant -/

/-- The log is read through. -/
def Helper.LogRead (s : Helper) : Prop := ∃ r, readLog .init s.log = some r

/-- The log is read through, and a held object is the last one built, from the current
settings, and has yet to announce its count. -/
def Helper.Armed (s : Helper) : Prop :=
  ∃ r, readLog .init s.log = some r ∧
    ∀ id prep, s.prepFrameView = some (id, prep) →
      ∃ pp, s.printPagesParams = some pp ∧ r = ⟨some pp.params, true⟩

namespace Helper

variable {s : Helper}

theorem Armed.logRead (h : s.Armed) : s.LogRead := let ⟨r, hr, _⟩ := h; ⟨r, hr⟩

theorem armed_of_prep_none (h : s.LogRead) (hp : s.prepFrameView = none) : s.Armed :=
  let ⟨r, hr⟩ := h; ⟨r, hr, fun _ _ h' => Option.noConfusion (hp ▸ h')⟩

end Helper

/-! ### One lemma per routine -/

section Routines

variable {osMacosx : Bool} {blink : Blink}

theorem didFinishPrinting_armed (result : PrintingResult) {s : Helper} (h : s.LogRead) :
    (didFinishPrinting result s).Armed := by
  refine armed_of_prep_none ?_ (didFinishPrinting_spec result s).1
  obtain ⟨r, hr⟩ := h
  refine ⟨r, ?_⟩
  unfold didFinishPrinting
  split
  · split <;> simp [hr, send, HelperEvent.read]
  · simpa using hr

/-- `CalculateNumberOfPages` sends messages and builds its throw-away object: the reading does
not look at them. -/
theorem calculateNumberOfPages_armed (frame : ViewId) (nodeIsNull : Bool)
    (defaults : PrintMsgPrintParams) {s : Helper} {r : LogReading}
    (h : readLog .init s.log = some r) :
    Returns (fun q : Option Int × Helper =>
        readLog .init q.2.log = some r ∧ q.2.prepFrameView = s.prepFrameView)
      (calculateNumberOfPages osMacosx blink frame nodeIsNull defaults s) := by
  simp only [calculateNumberOfPages, initPrintSettings]
  split
  · exact Returns.ok ⟨by simp [h, send, HelperEvent.read], rfl⟩
  · simp only [derefPrintPagesParams_eq, send_printPagesParams, orFault_some, pure_bind]
    exact Returns.bind (returns_true _) fun _ _ => Returns.bind (returns_true _) fun _ _ =>
      Returns.ok ⟨by simp [h, send, HelperEvent.read], rfl⟩

theorem getPrintSettingsFromUser_armed (frame : ViewId) (nodeIsNull : Bool)
    (expectedPagesCount : Int) (printBackground fromPrintNode : Bool) {s : Helper}
    {r : LogReading} (h : readLog .init s.log = some r) :
    Returns (fun t => readLog .init t.log = some r ∧ t.prepFrameView = s.prepFrameView)
      (getPrintSettingsFromUser frame nodeIsNull expectedPagesCount printBackground fromPrintNode
        s) := by
  unfold getPrintSettingsFromUser
  exact Returns.bind (returns_true _) fun _ _ =>
    Returns.ok ⟨by simp [h, send, HelperEvent.read], rfl⟩

/-- `PrintPages` announces the held object's count under the cookie of the settings it was built
from, and prints every page with them; destroying the object afterwards leaves the reading
disarmed and nothing held. -/
theorem printPages_armed {s : Helper} (h : s.Armed) :
    Returns (fun t => t.resetPrepFrameView.Armed) (printPages blink s) := by
  obtain ⟨r, hr, hheld⟩ := h
  unfold printPages
  split
  · next hp =>
    refine Returns.ok ?_
    rw [resetPrepFrameView_of_none hp]
    exact armed_of_prep_none ⟨r, hr⟩ hp
  · next id prep hp =>
    obtain ⟨pp, hpp, rfl⟩ := hheld id prep hp
    refine Returns.bind (returns_true _) fun q _ => ?_
    dsimp only
    split
    · refine Returns.ok ?_
      rw [resetPrepFrameView_of_none (didFinishPrinting_spec _ _).1]
      exact didFinishPrinting_armed _ ⟨_, hr⟩
    · simp only [derefPrintPagesParams_eq, send_printPagesParams, hpp, orFault_some, pure_bind]
      refine Returns.ok (armed_of_prep_none ⟨⟨some pp.params, false⟩, ?_⟩
        (resetPrepFrameView_prepFrameView _))
      have hpages : readLog ⟨some pp.params, false⟩
          ((printPagesNative pp q.1.expectedPagesCount).2.map fun page => .sent (.printPage page)) =
            some ⟨some pp.params, false⟩ :=
        readLog_pages fun page hpage => by rw [(printPagesNative_params _ _).2 page hpage]
      simp [hr, send, HelperEvent.read, hpages]

theorem onFramePreparedForPrintPages_armed {s : Helper} (h : s.Armed) :
    Returns Armed (onFramePreparedForPrintPages blink s) :=
  (printPages_armed h).map fun _ h => h

/-- `RenderPagesForPrint` builds a printing object from the current settings, which the reading
records, and holds it or prints it; or it refuses and changes nothing. -/
theorem renderPagesForPrint_armed (frame : ViewId) (nodeIsNull silent : Bool) {s : Helper}
    (h : s.LogRead) :
    Returns (fun q : Bool × Helper => q.2.Armed ∨ (q.1 = false ∧ q.2.log = s.log))
      (renderPagesForPrint osMacosx blink frame nodeIsNull silent s) := by
  obtain ⟨r, hr⟩ := h
  unfold renderPagesForPrint
  split
  · exact Returns.ok (.inr ⟨rfl, rfl⟩)
  · simp only [derefPrintPagesParams_eq]
    cases hpp : s.printPagesParams with
    | none => exact fun _ h => by cases h
    | some pp =>
      simp only [orFault_some, pure_bind]
      refine Returns.bind (returns_true _) fun _ _ => Returns.bind (returns_true _) fun _ _ => ?_
      -- the object is held, the last one built, from the current settings
      have harmed (t : Helper) (htq : t.printPagesParams = some pp)
          (htl : t.log = s.log ++ [.prepared (.renderPagesForPrint silent) pp.params]) : t.Armed :=
        ⟨⟨some pp.params, true⟩, by simp [htl, hr, HelperEvent.read],
          fun _ _ _ => ⟨pp, htq, rfl⟩⟩
      split
      · exact Returns.bind (onFramePreparedForPrintPages_armed (harmed _ rfl rfl))
          fun t ht => Returns.ok (.inl ht)
      · exact Returns.ok (.inl (harmed _ rfl rfl))

theorem renderAfterSettings_armed (frame : ViewId) (nodeIsNull silent printBackground : Bool)
    {s : Helper} (h : s.LogRead) :
    Returns Armed (renderAfterSettings osMacosx blink frame nodeIsNull silent printBackground s) := by
  unfold renderAfterSettings
  refine Returns.bind (returns_true _) fun _ _ => ?_
  refine Returns.bind (renderPagesForPrint_armed frame nodeIsNull silent h) ?_
  rintro ⟨ok, t⟩ (ht | ⟨hok, hl⟩)
  · cases ok
    · exact Returns.ok (didFinishPrinting_armed _ ht.logRead)
    · exact Returns.ok ht
  · cases hok
    obtain ⟨r, hr⟩ := h
    exact Returns.ok (didFinishPrinting_armed _ ⟨r, by rw [hl]; exact hr⟩)

theorem print_armed (frame : ViewId) (nodeIsNull silent printBackground fromPrintNode : Bool)
    (defaults : PrintMsgPrintParams) {s : Helper} (h : s.Armed) :
    Returns (fun q : Helper × Bool => q.1.Armed)
      (print osMacosx blink frame nodeIsNull silent printBackground fromPrintNode defaults s) := by
  simp only [print, pure_bind]
  split
  · exact Returns.ok h
  · next hnone =>
    have hp : s.prepFrameView = none := by simpa using hnone
    obtain ⟨r, hr, -⟩ := h
    refine Returns.bind (calculateNumberOfPages_armed frame nodeIsNull defaults hr) ?_
    rintro ⟨count, t⟩ ⟨ht, htp⟩
    rcases count with _ | c <;> dsimp only
    · exact Returns.ok (didFinishPrinting_armed _ ⟨r, ht⟩)
    · split
      · exact Returns.ok (didFinishPrinting_armed _ ⟨r, ht⟩)
      · split
        · exact Returns.bind (getPrintSettingsFromUser_armed frame nodeIsNull c printBackground
            fromPrintNode ht) fun u ⟨hu, hup⟩ =>
            Returns.ok (armed_of_prep_none ⟨r, hu⟩ (hup.trans (htp.trans hp)))
        · exact Returns.bind (renderAfterSettings_armed frame nodeIsNull true printBackground
            ⟨r, ht⟩) fun u hu => Returns.ok hu

theorem resumePrint_armed (settings : PrintMsgPrintPagesParams) {s : Helper} (h : s.Armed) :
    Returns Armed (resumePrint osMacosx blink settings s) := by
  simp only [resumePrint]
  split
  · exact Returns.ok h
  · -- clearing the flag of `PrintNode` leaves the log, what is held and the settings
    have hflag (t : Helper) (ht : t.Armed) (b : Bool) :
        (if b then { t with printNodeInProgress := false } else t).Armed := by
      cases b <;> exact ht
    split
    · exact Returns.bind (renderAfterSettings_armed _ _ false _ h.logRead) fun t ht =>
        Returns.ok (hflag t ht _)
    · exact Returns.bind (Returns.ok (P := Armed) (didFinishPrinting_armed _ h.logRead))
        fun t ht => Returns.ok (hflag t ht _)

theorem printNode_armed (frame : Option ViewId) (defaults : PrintMsgPrintParams) {s : Helper}
    (h : s.Armed) : Returns Armed (printNode osMacosx blink frame defaults s) := by
  unfold printNode
  split
  · exact Returns.ok h
  · split
    · exact Returns.ok h
    · refine Returns.bind (print_armed _ false false false true defaults h) ?_
      rintro ⟨t, blocked⟩ ht
      cases blocked <;> exact Returns.ok ht

theorem didStopLoading_armed (v : ViewId) {s : Helper} (h : s.Armed) : (didStopLoading v s).Armed := by
  unfold didStopLoading
  split
  · split <;> exact h
  · exact h

theorem runTask_armed {s : Helper} (h : s.Armed) : Returns Armed (runTask blink s) := by
  unfold runTask
  split
  · exact Returns.ok h
  · next _ _ rest _ =>
    dsimp only
    split
    · split
      · exact onFramePreparedForPrintPages_armed (s := { s with tasks := rest }) h
      · exact Returns.ok h
    · exact Returns.ok h

end Routines

/-! ### Every run -/

section Runs

variable (osMacosx : Bool) (blink : Blink)

/-- Every delivery keeps the log read through, with a held object the last one built, from the
current settings. -/
theorem step_armed {s : Helper} (h : s.Armed) (e : Event) : Returns Armed (step osMacosx blink s e) := by
  cases e with
  | printPage frame defaults =>
    exact (print_armed frame true false false false defaults h).map fun _ h => h
  | onPrintPages frame silent printBackground defaults =>
    exact (print_armed frame true silent printBackground false defaults h).map fun _ h => h
  | printNode frame defaults => exact printNode_armed frame defaults h
  | onPrintingDone success => exact Returns.ok (didFinishPrinting_armed _ h.logRead)
  | scriptedPrintReply settings => exact resumePrint_armed settings h
  | didStopLoading v => exact Returns.ok (didStopLoading_armed v h)
  | runTask => exact runTask_armed h

theorem reachable_armed {w₀ : World} {s : Helper} (h : Reachable osMacosx blink w₀ s) : s.Armed := by
  induction h with
  | init => exact armed_of_prep_none ⟨.init, rfl⟩ rfl
  | step e _ hstep ih => exact step_armed osMacosx blink ih e _ hstep

/-- In every reachable state the whole log is read through. -/
theorem reachable_readLog_ne_none {w₀ : World} {s : Helper} (h : Reachable osMacosx blink w₀ s) :
    readLog .init s.log ≠ none := by
  obtain ⟨r, hr, -⟩ := reachable_armed osMacosx blink h
  rw [hr]
  exact Option.some_ne_none r

/-- **Every page count has a printing object of its own.**  In every reachable state, under
every interleaving of entry points, host replies, re-entrant deliveries, loads and posted tasks,
each `PrintHostMsg_DidGetPrintedPagesCount` the controller has sent comes after the construction
of a printing object (`prep_frame_view_`) from settings with the announcement's document cookie,
with no other announcement in between: no object announces its pages twice. -/
theorem reachable_count_has_own_object {w₀ : World} {s : Helper}
    (h : Reachable osMacosx blink w₀ s) {pre post : List HelperEvent} {cookie pageCount : Int}
    (hlog : s.log = pre ++ .sent (.didGetPrintedPagesCount cookie pageCount) :: post) :
    ∃ before between silent params,
      pre = before ++ .prepared (.renderPagesForPrint silent) params :: between ∧
        params.documentCookie = cookie ∧ ∀ e ∈ between, e.isAnnouncement = false := by
  have hread := reachable_readLog_ne_none osMacosx blink h
  rw [hlog] at hread
  rcases readLog_announcement hread with hobj | ⟨ha, -⟩
  · exact hobj
  · cases ha

/-- A silent `OnPrintPages` of a three-page Letter document announces its count, after its
printing object. -/
theorem reachable_count_has_own_object_letter :
    let blink : Blink := ⟨fun _ => false, fun _ => CssFrame.noCss, fun _ _ => 3⟩
    let w : World := ⟨fun _ => ViewState.fresh, 1, fun _ o => o, []⟩
    let letter : PrintMsgPrintParams :=
      { pageSize := Size.make 612 792, contentSize := Size.make 576 756,
        printableArea := ⟨0, 0, Size.make 612 792⟩, marginTop := 18, marginLeft := 18,
        dpi := 72, minShrink := 1, maxShrink := 2, desiredDpi := 72, documentCookie := 1,
        selectionOnly := false, printScalingOption := .sourceSize, shouldPrintBackgrounds := false }
    ∃ s, run false blink (Helper.init w) [.onPrintPages 0 true false letter] = .ok s ∧
      Reachable false blink w s ∧ ∃ pre cookie pageCount post,
        s.log = pre ++ .sent (.didGetPrintedPagesCount cookie pageCount) :: post ∧
        ∃ before between silent params,
          pre = before ++ .prepared (.renderPagesForPrint silent) params :: between ∧
            params.documentCookie = cookie ∧ ∀ e ∈ between, e.isAnnouncement = false := by
  intro blink w letter
  obtain ⟨s, hrun, hs, hany⟩ := reach_of_run false blink w [.onPrintPages 0 true false letter]
    (p := fun s => s.log.any HelperEvent.isAnnouncement = true) (by decide)
  obtain ⟨e, he, hann⟩ := List.any_eq_true.mp hany
  obtain ⟨cookie, pageCount, rfl⟩ : ∃ cookie pageCount,
      e = .sent (.didGetPrintedPagesCount cookie pageCount) := by
    rcases e with (_ | _ | _ | ⟨cookie, pageCount⟩ | _ | _) | _ <;>
      first | exact ⟨cookie, pageCount, rfl⟩ | cases hann
  obtain ⟨pre, post, hlog⟩ := List.append_of_mem he
  exact ⟨s, hrun, hs, pre, cookie, pageCount, post, hlog,
    reachable_count_has_own_object false blink hs hlog⟩

/-- **Every page is printed with the settings its object was built from.**  In every reachable
state, under every interleaving of entry points, host replies, re-entrant deliveries, loads and
posted tasks, each page the controller has handed to `PrintPageInternal` comes after the
construction of a printing object from exactly the settings the page carries, with no other
printing object built in between. -/
theorem reachable_page_has_object_settings {w₀ : World} {s : Helper}
    (h : Reachable osMacosx blink w₀ s) {pre post : List HelperEvent}
    {page : PrintMsgPrintPageParams} (hlog : s.log = pre ++ .sent (.printPage page) :: post) :
    ∃ before between silent,
      pre = before ++ .prepared (.renderPagesForPrint silent) page.params :: between ∧
        ∀ e ∈ between, e.builds = false := by
  have hread := reachable_readLog_ne_none osMacosx blink h
  rw [hlog] at hread
  rcases readLog_page hread with hobj | ⟨hl, -⟩
  · exact hobj
  · cases hl

/-- In a silent `OnPrintPages` of a three-page Letter document, every page follows the printing
object built from its settings. -/
theorem reachable_page_has_object_settings_letter :
    let blink : Blink := ⟨fun _ => false, fun _ => CssFrame.noCss, fun _ _ => 3⟩
    let w : World := ⟨fun _ => ViewState.fresh, 1, fun _ o => o, []⟩
    let letter : PrintMsgPrintParams :=
      { pageSize := Size.make 612 792, contentSize := Size.make 576 756,
        printableArea := ⟨0, 0, Size.make 612 792⟩, marginTop := 18, marginLeft := 18,
        dpi := 72, minShrink := 1, maxShrink := 2, desiredDpi := 72, documentCookie := 1,
        selectionOnly := false, printScalingOption := .sourceSize, shouldPrintBackgrounds := false }
    ∃ s, run false blink (Helper.init w) [.onPrintPages 0 true true letter] = .ok s ∧
      Reachable false blink w s ∧ ∃ pre page post,
        s.log = pre ++ .sent (.printPage page) :: post ∧
        ∃ before between silent,
          pre = before ++ .prepared (.renderPagesForPrint silent) page.params :: between ∧
            ∀ e ∈ between, e.builds = false := by
  intro blink w letter
  obtain ⟨s, hrun, hs, hany⟩ := reach_of_run false blink w [.onPrintPages 0 true true letter]
    (p := fun s => s.log.any HelperEvent.isPage = true) (by decide)
  obtain ⟨e, he, hpage⟩ := List.any_eq_true.mp hany
  obtain ⟨page, rfl⟩ : ∃ page, e = .sent (.printPage page) := by
    rcases e with (_ | _ | _ | _ | _ | page) | (_ | _) <;>
      first | exact ⟨page, rfl⟩ | cases hpage
  obtain ⟨pre, post, hlog⟩ := List.append_of_mem he
  exact ⟨s, hrun, hs, pre, page, post, hlog,
    reachable_page_has_object_settings false blink hs hlog⟩

end Runs

end Printing
